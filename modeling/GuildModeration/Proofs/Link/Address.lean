import GuildModeration.Proofs.Link.Hosts
import GuildModeration.Proofs.Link.Typed

/-!
# Bare hosts and their suffixes

A site that is entered as nothing but a host has that host for its bare host, in lower case and
without a `www.` in front, since none of its characters is cut off. A host is known by its suffixes
at a label boundary, which are what follows one of its dots (`mem_afterDots_iff`). Taking `www.` off
the host takes away no more than a first label, so of the suffixes below the whole none is lost
(`mem_afterDots_withoutWww`).
-/

namespace GuildModeration.Link

open GuildModeration.Text

/-! ## Characters of hosts -/

theorem isBlank_of_isHostChar {c : Char} (h : isHostChar c = true) : isBlank c = false := by
  have hharmless := isHarmful_of_isHostChar h
  rw [isHarmful, Bool.or_eq_false_iff] at hharmless
  exact hharmless.1

theorem endsHost_of_isHostChar {c : Char} (h : isHostChar c = true) : endsHost c = false := by
  have hall : hostEnds.any isHostChar = false := by decide
  rw [Bool.eq_false_iff]
  exact fun hends ↦ List.any_eq_false.mp hall c (endsHost_iff.mp hends) h

theorem isSchemeChar_of_isHostChar {c : Char} (h : isHostChar c = true) :
    isSchemeChar c = true := by
  rw [isHostChar, isLabelChar, Bool.or_eq_true, Bool.or_eq_true] at h
  rw [isSchemeChar, Bool.or_eq_true, Bool.or_eq_true, Bool.or_eq_true]
  rcases h with (h | h) | h
  · exact Or.inl (Or.inl (Or.inl h))
  · exact Or.inr h
  · exact Or.inl (Or.inr h)

/-! ## Bare hosts -/

theorem isTypedChar_of_isHostChar {c : Char} (h : isHostChar c = true) : isTypedChar c = true := by
  refine isTypedChar_iff.mpr ⟨isBlank_of_isHostChar h, endsHost_of_isHostChar h, ?_⟩
  rintro rfl
  revert h
  decide

/-- Of a text of host characters nothing is cut off but a `www.` in front. -/
theorem bareHostChars_of_isHostChar {cs : List Char} (h : ∀ c ∈ cs, isHostChar c = true) :
    bareHostChars cs = withoutWww (lowerChars cs) :=
  bareHostChars_of_isTypedChar fun c hc ↦ isTypedChar_of_isHostChar (h c hc)

/-! ## Suffixes -/

theorem mem_afterDots_iff {cs part : List Char} :
    part ∈ afterDots cs ↔ ∃ before, cs = before ++ '.' :: part := by
  induction cs with
  | nil => simp [afterDots]
  | cons c cs ih =>
    by_cases hc : c = '.'
    · subst hc
      rw [afterDots, List.mem_cons, ih]
      constructor
      · rintro (rfl | ⟨before, rfl⟩)
        · exact ⟨[], rfl⟩
        · exact ⟨'.' :: before, rfl⟩
      · rintro ⟨before, heq⟩
        cases before with
        | nil => exact Or.inl (List.cons.inj heq).2.symm
        | cons d before => exact Or.inr ⟨before, (List.cons.inj heq).2⟩
    · rw [afterDots.eq_3 c cs fun heq ↦ hc heq, ih]
      constructor
      · rintro ⟨before, rfl⟩
        exact ⟨c :: before, rfl⟩
      · rintro ⟨before, heq⟩
        cases before with
        | nil => exact absurd (List.cons.inj heq).1 hc
        | cons d before => exact ⟨before, (List.cons.inj heq).2⟩

/-- What follows a dot of a host is a suffix of the host without `www.` as well. -/
theorem mem_afterDots_withoutWww {cs part : List Char} (h : part ∈ afterDots cs) :
    part = withoutWww cs ∨ part ∈ afterDots (withoutWww cs) := by
  rcases withoutWww_cases cs with ⟨rest, rfl, hrest⟩ | hsame
  · rw [hrest]
    simpa [afterDots] using h
  · rw [hsame]
    exact Or.inr h

/-- A host without `www.` is a suffix of everything below the host, without `www.` or with it. -/
theorem withoutWww_mem_of_below {before host : List Char}
    (h : before = [] ∨ ∃ front, before = front ++ ['.']) :
    withoutWww host = withoutWww (before ++ host) ∨
      withoutWww host ∈ afterDots (withoutWww (before ++ host)) := by
  rcases h with rfl | ⟨front, rfl⟩
  · exact Or.inl rfl
  · apply mem_afterDots_withoutWww
    rw [mem_afterDots_iff]
    rcases withoutWww_cases host with ⟨rest, rfl, hrest⟩ | hsame
    · exact ⟨front ++ ['.', 'w', 'w', 'w'], by simp [hrest]⟩
    · exact ⟨front, by simp [hsame]⟩

theorem mem_hostSuffixes {part host : List Char} (h : part = host ∨ part ∈ afterDots host) :
    String.ofList part ∈ hostSuffixes (String.ofList host) := by
  rw [hostSuffixes, String.toList_ofList]
  rcases h with rfl | h
  · exact List.mem_cons_self
  · exact List.mem_cons_of_mem _ (List.mem_map_of_mem h)

/-! ## Hosts below a host -/

theorem keepsHosts_isAlpha : KeepsHosts Char.isAlpha isLatin id where
  letter_of _ h := isLatin_iff.mpr (Or.inl h)
  digit _ _ := rfl
  hyphen := rfl
  dot := rfl
  not_letter := by decide

/-- The host with further labels in front. -/
def Hostname.below {letter : Char → Bool} (h : Hostname letter) (labels : List (List Char))
    (hlabels : ∀ label ∈ labels, IsLabel letter label) : Hostname letter where
  labels := labels ++ h.labels
  top := h.top
  labels_ne_nil := List.append_ne_nil_of_right_ne_nil _ h.labels_ne_nil
  isLabel := List.forall_mem_append.mpr ⟨hlabels, h.isLabel⟩
  isTopLevel := h.isTopLevel

theorem Hostname.chars_below {letter : Char → Bool} (h : Hostname letter)
    (labels : List (List Char)) (hlabels : ∀ label ∈ labels, IsLabel letter label) :
    (h.below labels hlabels).chars = dotted labels ++ h.chars := by
  rw [chars, chars, ← List.append_assoc, ← dotted_append]
  rfl

theorem dotted_cases (labels : List (List Char)) :
    dotted labels = [] ∨ ∃ front, dotted labels = front ++ ['.'] := by
  rcases List.eq_nil_or_concat labels with rfl | ⟨labels, label, rfl⟩
  · exact Or.inl rfl
  · refine Or.inr ⟨dotted labels ++ label, ?_⟩
    rw [List.concat_eq_append, dotted_append, dotted_cons, dotted_nil, List.append_assoc]

theorem isHostChar_of_mem_chars (host : Hostname Char.isAlpha) :
    ∀ c ∈ host.chars, isHostChar c = true := by
  have h := (keepsHosts_isAlpha.map host).isHostChar
  rwa [keepsHosts_isAlpha.chars_map, List.map_id] at h

/-- Something is left of a host when `www.` is taken off it, as no host ends with a dot. -/
theorem Hostname.withoutWww_ne_nil {letter : Char → Bool} (h : Hostname letter)
    (hdot : letter '.' = false) : withoutWww h.chars ≠ [] := by
  rcases withoutWww_cases h.chars with ⟨rest, hchars, hrest⟩ | hsame
  · rw [hrest]
    rintro rfl
    have hlast : h.top.getLast? = some '.' := by
      have hend : h.chars.getLast? = some '.' := congrArg List.getLast? hchars
      rw [Hostname.chars, List.getLast?_append, Option.or_eq_some_iff] at hend
      rcases hend with hend | ⟨hnone, -⟩
      · exact hend
      · exact absurd (List.getLast?_eq_none_iff.mp hnone) h.isTopLevel.ne_nil
    have hletter := h.isTopLevel.letters '.' (List.mem_of_getLast? hlast)
    rw [hdot] at hletter
    cases hletter
  · rw [hsame]
    exact h.chars_ne_nil

/-! ## Addresses in a text -/

/-- What can stand before an address: nothing, or a text that ends with a blank. -/
def OpensAddress (before : List Char) : Prop :=
  ∀ c ∈ before.getLast?, isBlank c = true

/-- What can follow the host of an address: the end of the text, a blank, or the begin of a path, a
query or a fragment. -/
def ClosesAddress (rest : List Char) : Prop :=
  ∀ c ∈ rest.head?, isBlank c = true ∨ c = '/' ∨ c = '?' ∨ c = '#'

instance (before : List Char) : Decidable (OpensAddress before) :=
  Option.decidableForallMem before.getLast?

instance (rest : List Char) : Decidable (ClosesAddress rest) :=
  Option.decidableForallMem rest.head?

theorem ClosesAddress.spec {rest : List Char} (h : ClosesAddress rest) :
    ∀ c ∈ rest.head?, isWordChar c = false ∧ isSchemeChar c = false ∧ c ≠ ':' := by
  intro c hc
  rcases h c hc with hblank | rfl | rfl | rfl
  · exact ⟨isWordChar_of_isBlank hblank, isSchemeChar_of_isBlank hblank,
      ne_of_isBlank hblank (by decide)⟩
  · decide +kernel
  · decide +kernel
  · decide +kernel

theorem ClosesAddress.closesHost {rest : List Char} (h : ClosesAddress rest) :
    ClosesHost rest := by
  intro c hc
  obtain ⟨hword, hscheme, -⟩ := h.spec c hc
  refine ⟨hword, ?_, ?_⟩
  · rintro rfl
    revert hscheme
    decide
  · rintro rfl
    revert hscheme
    decide

theorem ClosesAddress.not_schemeMark {rest : List Char} (h : ClosesAddress rest) :
    ¬ schemeMark <+: rest := by
  rintro ⟨after, rfl⟩
  exact (h.spec ':' rfl).2.2 rfl

/-- A host is not taken for a scheme, unless the mark of one stands behind it. -/
theorem afterScheme?_host (host : Hostname isLatin) {rest : List Char}
    (hrest : ∀ c ∈ rest.head?, isSchemeChar c = false) (hmark : ¬ schemeMark <+: rest) :
    afterScheme? (host.chars ++ rest) = none := by
  have hchars : ∀ c ∈ host.chars, isSchemeChar c = true :=
    fun c hc ↦ isSchemeChar_of_isHostChar (host.isHostChar c hc)
  obtain ⟨c, cs, hhost⟩ := List.exists_cons_of_ne_nil host.chars_ne_nil
  rw [hhost] at hchars
  have hstop := (span_append (List.forall_mem_cons.mp hchars).2 hrest).2
  have hnone : dropCaseless? schemeMark rest = none := by
    rw [Option.eq_none_iff_forall_ne_some]
    intro after hafter
    exact hmark ⟨after, (dropCaseless?_schemeMark_eq_some_iff.mp hafter).symm⟩
  rw [hhost, List.cons_append, afterScheme?_cons, hstop]
  exact ite_eq_right_iff.mpr fun _ ↦ hnone

/-- The schemes of web addresses, and none. -/
def webSchemes : List (List Char) :=
  [[], "http://".toList, "https://".toList]

theorem afterScheme?_webScheme {scheme : List Char} (hscheme : scheme ∈ webSchemes)
    (hne : scheme ≠ []) (cs : List Char) : afterScheme? (scheme ++ cs) = some cs := by
  simp only [webSchemes, List.mem_cons, List.not_mem_nil, or_false] at hscheme
  rcases hscheme with rfl | rfl | rfl
  · exact absurd rfl hne
  · rfl
  · rfl

/-- With a web scheme or without one, a host is read whole. -/
theorem address?_append {scheme : List Char} (hscheme : scheme ∈ webSchemes)
    (host : Hostname isLatin) {rest : List Char} (hrest : ClosesAddress rest) :
    address? (scheme ++ (host.chars ++ rest)) = some (host.chars, rest) := by
  have hread := host?_append host hrest.closesHost
  have hnoscheme := afterScheme?_host host (fun c hc ↦ (hrest.spec c hc).2.1) hrest.not_schemeMark
  by_cases hne : scheme = []
  · rw [hne, List.nil_append, address?, hnoscheme, hread]
    rfl
  · rw [address?, afterScheme?_webScheme hscheme hne, Option.bind_some, hread, Option.some_or]

/-- In a text that is nothing but a host, that host is found. -/
theorem hosts_chars (host : Hostname isLatin) :
    hosts (String.ofList host.chars) = [String.ofList (lowerChars host.chars)] := by
  have hscheme : [] ∈ webSchemes := List.mem_cons_self
  have hend : ClosesAddress [] := by decide
  have hread : address? host.chars = some (host.chars, []) := by
    simpa using address?_append hscheme host hend
  obtain ⟨c, cs, hchars⟩ := List.exists_cons_of_ne_nil host.chars_ne_nil
  have hraw : rawHosts host.chars = [host.chars] := by
    rw [hchars] at hread ⊢
    rw [rawHosts_of_some hread, rawHosts]
  rw [hosts, String.toList_ofList, hraw, List.map_singleton]

/-- Nothing that stands before a blank, and no blank, changes what is found behind it. -/
theorem rawHosts_append_of_opensAddress {before : List Char} (h : OpensAddress before)
    (cs : List Char) : rawHosts (before ++ cs) = rawHosts before ++ rawHosts cs := by
  rcases List.eq_nil_or_concat before with rfl | ⟨front, s, rfl⟩
  · simp [rawHosts]
  · rw [List.concat_eq_append] at h ⊢
    have hs : isBlank s = true := h s (by simp)
    rw [List.append_assoc, List.singleton_append, rawHosts_append_cons hs, rawHosts_append_cons hs]
    simp [rawHosts]

theorem mem_rawHosts_of_address? {cs found rest : List Char}
    (h : address? cs = some (found, rest)) : found ∈ rawHosts cs := by
  cases cs with
  | nil => cases h
  | cons c cs =>
    rw [rawHosts_of_some h]
    exact List.mem_cons_self

/-- A host of an address is found in every text with the address at its front or behind a blank. -/
theorem mem_rawHosts_append {before cs found rest : List Char}
    (hbefore : OpensAddress before) (h : address? cs = some (found, rest)) :
    found ∈ rawHosts (before ++ cs) := by
  rw [rawHosts_append_of_opensAddress hbefore]
  exact List.mem_append_right _ (mem_rawHosts_of_address? h)

end GuildModeration.Link
