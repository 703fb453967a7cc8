import GuildModeration.Proofs.Link.Separation
import Mathlib.Data.List.TakeWhile

/-!
# Hostnames

What a host looks like is said here without reading one: labels, each closed by a dot, and a
top-level part of letters. Which characters are letters is left open: in a text two characters above
ASCII stand for one, in a list of banned sites and in lower case there are fewer.

Each reader reads its part exactly if the part stands in front of the text and is closed there
(`label?_eq_some_iff`, `topLevel?_eq_some_iff`). So what is read as a host is a hostname
(`exists_of_host?`), and a hostname is read whole if nothing behind it continues it
(`host?_append`). The second asks for more: a host can also end before a hyphen or a dot, but only
where no longer one is to be had.
-/

namespace GuildModeration.Link

open GuildModeration.Text

/-! ## Letters -/

theorem isLower_toLower (c : Char) : c.toLower.isLower = c.isAlpha := by
  have halpha : c.isAlpha = (c.isUpper || c.isLower) := rfl
  rw [halpha]
  cases hc : c.isUpper with
  | true =>
    have hall : capitals.all (fun c ↦ c.toLower.isLower) = true := by decide
    rw [List.all_eq_true.mp hall c (mem_capitals hc), Bool.true_or]
  | false => rw [toLower_of_not_isUpper hc, Bool.false_or]

theorem isLatin_iff {c : Char} :
    isLatin c = true ↔ c.isAlpha = true ∨ c = 'ſ' ∨ c = '\u212A' := by
  rw [isLatin, foldCase]
  split
  · next h => simp [eq_of_beq h]
  · next hs =>
    split
    · next h => simp [eq_of_beq h]
    · next hk =>
      rw [beq_iff_eq] at hs hk
      rw [isLower_toLower, or_iff_left (not_or.mpr ⟨hs, hk⟩)]

theorem isWordChar_of_isLatin {c : Char} (h : isLatin c = true) : isWordChar c = true := by
  rcases isLatin_iff.mp h with halpha | rfl | rfl
  · rw [isWordChar, isAlphabetic_of_isAlpha halpha]
    rfl
  · decide +kernel
  · decide +kernel

theorem isWordChar_of_isDigit {c : Char} (h : c.isDigit = true) : isWordChar c = true := by
  rw [isWordChar, isDecimal, if_pos (toNat_lt_of_isDigit h), h, Bool.or_true, Bool.true_or]

/-! ## The shape of a host -/

/-- The characters form a label in some letters: letters, digits and hyphens, at least one of them,
and no hyphen at either end. -/
structure IsLabel (letter : Char → Bool) (cs : List Char) : Prop where
  ne_nil : cs ≠ []
  chars : ∀ c ∈ cs, letter c = true ∨ c.isDigit = true ∨ c = '-'
  head : cs.head? ≠ some '-'
  last : cs.getLast? ≠ some '-'

/-- The characters form a top-level part in some letters: 2 to 63 of them. -/
structure IsTopLevel (letter : Char → Bool) (cs : List Char) : Prop where
  two_le : 2 ≤ cs.length
  length_le : cs.length ≤ 63
  letters : ∀ c ∈ cs, letter c = true

-- The instances for what holds of all characters of a text are named: characters are finitely many,
-- and another instance goes through all of them.
instance (letter : Char → Bool) (cs : List Char) : Decidable (IsLabel letter cs) :=
  have : Decidable (∀ c ∈ cs, letter c = true ∨ c.isDigit = true ∨ c = '-') :=
    List.decidableBAll _ cs
  decidable_of_iff
    (cs ≠ [] ∧ (∀ c ∈ cs, letter c = true ∨ c.isDigit = true ∨ c = '-') ∧
      cs.head? ≠ some '-' ∧ cs.getLast? ≠ some '-')
    ⟨fun h ↦ ⟨h.1, h.2.1, h.2.2.1, h.2.2.2⟩, fun h ↦ ⟨h.ne_nil, h.chars, h.head, h.last⟩⟩

instance (letter : Char → Bool) (cs : List Char) : Decidable (IsTopLevel letter cs) :=
  have : Decidable (∀ c ∈ cs, letter c = true) := List.decidableBAll _ cs
  decidable_of_iff (2 ≤ cs.length ∧ cs.length ≤ 63 ∧ ∀ c ∈ cs, letter c = true)
    ⟨fun h ↦ ⟨h.1, h.2.1, h.2.2⟩, fun h ↦ ⟨h.two_le, h.length_le, h.letters⟩⟩

/-- The labels, each closed by a dot. -/
def dotted (labels : List (List Char)) : List Char :=
  labels.flatMap (· ++ ['.'])

/-- A host in some letters: its labels from left to right, and its top-level part. -/
structure Hostname (letter : Char → Bool) where
  labels : List (List Char)
  top : List Char
  labels_ne_nil : labels ≠ []
  isLabel : ∀ label ∈ labels, IsLabel letter label
  isTopLevel : IsTopLevel letter top

/-- The characters of a host. -/
def Hostname.chars {letter : Char → Bool} (h : Hostname letter) : List Char :=
  dotted h.labels ++ h.top

@[simp] theorem dotted_nil : dotted [] = [] := rfl

theorem dotted_cons (label : List Char) (labels : List (List Char)) :
    dotted (label :: labels) = label ++ '.' :: dotted labels := by
  rw [dotted, List.flatMap_cons, List.append_assoc]
  rfl

theorem dotted_append (labels more : List (List Char)) :
    dotted (labels ++ more) = dotted labels ++ dotted more :=
  List.flatMap_append

variable {letter letter' : Char → Bool}

theorem Hostname.of_mem_chars {h : Hostname letter} {c : Char} (hc : c ∈ h.chars) :
    letter c = true ∨ c.isDigit = true ∨ c = '-' ∨ c = '.' := by
  rcases List.mem_append.mp hc with hc | hc
  · obtain ⟨label, hlabel, hc⟩ := List.mem_flatMap.mp hc
    rcases List.mem_append.mp hc with hc | hc
    · exact ((h.isLabel label hlabel).chars c hc).imp_right fun hrest ↦ hrest.imp_right Or.inl
    · exact Or.inr (Or.inr (Or.inr (List.mem_singleton.mp hc)))
  · exact Or.inl (h.isTopLevel.letters c hc)

theorem IsTopLevel.ne_nil {cs : List Char} (h : IsTopLevel letter cs) : cs ≠ [] := by
  rw [← List.length_pos_iff]
  exact Nat.lt_of_lt_of_le Nat.zero_lt_two h.two_le

theorem Hostname.chars_ne_nil (h : Hostname letter) : h.chars ≠ [] :=
  List.append_ne_nil_of_right_ne_nil _ h.isTopLevel.ne_nil

/-! ## Other letters -/

/-- The function takes letters to letters, and leaves digits, hyphens and dots alone. -/
structure KeepsHosts (letter letter' : Char → Bool) (f : Char → Char) : Prop where
  letter_of : ∀ c, letter c = true → letter' (f c) = true
  digit : ∀ c, c.isDigit = true → f c = c
  hyphen : f '-' = '-'
  dot : f '.' = '.'
  not_letter : letter' '-' = false

namespace KeepsHosts

variable {f : Char → Char} (hf : KeepsHosts letter letter' f)

include hf

theorem isLabel {cs : List Char} (h : IsLabel letter cs) : IsLabel letter' (cs.map f) := by
  have hyphen_of : ∀ c ∈ cs, f c = '-' → c = '-' := by
    intro c hc hfc
    rcases h.chars c hc with hletter | hdigit | rfl
    · have hletter' := hf.letter_of c hletter
      rw [hfc, hf.not_letter] at hletter'
      cases hletter'
    · rw [hf.digit c hdigit] at hfc
      exact hfc
    · rfl
  refine ⟨by simpa using h.ne_nil, ?_, ?_, ?_⟩
  · intro d hd
    obtain ⟨c, hc, rfl⟩ := List.mem_map.mp hd
    rcases h.chars c hc with hletter | hdigit | rfl
    · exact Or.inl (hf.letter_of c hletter)
    · rw [hf.digit c hdigit]
      exact Or.inr (Or.inl hdigit)
    · exact Or.inr (Or.inr hf.hyphen)
  · rw [List.head?_map, Ne, Option.map_eq_some_iff]
    rintro ⟨c, hc, hfc⟩
    obtain rfl := hyphen_of c (List.mem_of_head? hc) hfc
    exact h.head hc
  · rw [List.getLast?_map, Ne, Option.map_eq_some_iff]
    rintro ⟨c, hc, hfc⟩
    obtain rfl := hyphen_of c (List.mem_of_getLast? hc) hfc
    exact h.last hc

theorem map_dotted (labels : List (List Char)) :
    (dotted labels).map f = dotted (labels.map (List.map f)) := by
  induction labels with
  | nil => rfl
  | cons label labels ih =>
    rw [dotted_cons, List.map_append, List.map_cons, hf.dot, ih, List.map_cons, dotted_cons]

/-- The host with its characters replaced. -/
def map (h : Hostname letter) : Hostname letter' where
  labels := h.labels.map (List.map f)
  top := h.top.map f
  labels_ne_nil := by simpa using h.labels_ne_nil
  isLabel label hlabel := by
    obtain ⟨label, hmem, rfl⟩ := List.mem_map.mp hlabel
    exact hf.isLabel (h.isLabel label hmem)
  isTopLevel := by
    refine ⟨?_, ?_, ?_⟩
    · rw [List.length_map]
      exact h.isTopLevel.two_le
    · rw [List.length_map]
      exact h.isTopLevel.length_le
    · intro d hd
      obtain ⟨c, hc, rfl⟩ := List.mem_map.mp hd
      exact hf.letter_of c (h.isTopLevel.letters c hc)

theorem chars_map (h : Hostname letter) : (hf.map h).chars = h.chars.map f := by
  rw [Hostname.chars, Hostname.chars, List.map_append, hf.map_dotted]
  rfl

end KeepsHosts

/-! ## Labels -/

/-- Characters that can stand in a label form one if they have no hyphen at either end. -/
theorem isLabel_iff {cs : List Char} (h : ∀ c ∈ cs, isLabelChar c = true) :
    isLabel cs = true ↔ IsLabel isLatin cs := by
  have hchars : ∀ c ∈ cs, isLatin c = true ∨ c.isDigit = true ∨ c = '-' := by
    intro c hc
    have hlabel := h c hc
    rw [isLabelChar, isLatinOrDigit, Bool.or_eq_true, Bool.or_eq_true, beq_iff_eq] at hlabel
    exact or_assoc.mp hlabel
  have hend : ∀ c ∈ cs, isLatinOrDigit c = true ↔ c ≠ '-' := by
    intro c hc
    constructor
    · rintro hlatin rfl
      revert hlatin
      decide
    · intro hne
      have hlabel := h c hc
      rwa [isLabelChar, beq_false_of_ne hne, Bool.or_false] at hlabel
  rw [isLabel, Bool.and_eq_true]
  cases hhead : cs.head? with
  | none =>
    rw [List.head?_eq_none_iff.mp hhead]
    exact ⟨fun hfalse ↦ Bool.noConfusion hfalse.1, fun hlabel ↦ absurd rfl hlabel.ne_nil⟩
  | some first =>
    have hfirst := hend first (List.mem_of_head? hhead)
    have hne : cs ≠ [] := by
      rintro rfl
      cases hhead
    have hlast := hend (cs.getLast hne) (List.getLast_mem hne)
    have hgetLast := List.getLast?_eq_some_getLast hne
    rw [hgetLast, Option.map_some, Option.map_some, Option.getD_some, Option.getD_some, hfirst,
      hlast]
    constructor
    · rintro ⟨hfirst, hlast⟩
      refine ⟨hne, hchars, ?_, ?_⟩
      · rw [hhead]
        simpa using hfirst
      · rw [hgetLast]
        simpa using hlast
    · intro hlabel
      refine ⟨?_, ?_⟩
      · rintro rfl
        exact hlabel.head hhead
      · intro heq
        rw [heq] at hgetLast
        exact hlabel.last hgetLast

theorem IsLabel.isLabelChar {cs : List Char} (h : IsLabel isLatin cs) :
    ∀ c ∈ cs, isLabelChar c = true := by
  intro c hc
  rw [Link.isLabelChar, isLatinOrDigit, Bool.or_eq_true, Bool.or_eq_true, beq_iff_eq]
  exact or_assoc.mpr (h.chars c hc)

/-- A label is read exactly if it stands in front of the text with a dot behind it. -/
theorem label?_eq_some_iff {cs found rest : List Char} :
    label? cs = some (found, rest) ↔
      ∃ label, IsLabel isLatin label ∧ found = label ++ ['.'] ∧ cs = label ++ '.' :: rest := by
  constructor
  · intro h
    by_cases hdot : (cs.dropWhile isLabelChar).head? = some '.'
    · obtain ⟨rest', hrest'⟩ := List.head?_eq_some_iff.mp hdot
      have hchars : ∀ c ∈ cs.takeWhile isLabelChar, isLabelChar c = true :=
        fun c hc ↦ List.mem_takeWhile_imp hc
      rw [label?_of_dot hrest'] at h
      split at h
      · next hlabel =>
        simp only [Option.some.injEq, Prod.mk.injEq] at h
        obtain ⟨rfl, rfl⟩ := h
        refine ⟨_, (isLabel_iff hchars).mp hlabel, rfl, ?_⟩
        rw [← hrest', List.takeWhile_append_dropWhile]
      · cases h
    · rw [label?_of_not_dot hdot] at h
      cases h
  · rintro ⟨label, hlabel, rfl, rfl⟩
    have hchars := hlabel.isLabelChar
    have hdot : ∀ c ∈ ('.' :: rest).head?, isLabelChar c = false := by
      rintro c ⟨rfl⟩
      decide
    obtain ⟨htake, hdrop⟩ := span_append hchars hdot
    rw [label?_of_dot hdrop, htake, if_pos ((isLabel_iff hchars).mpr hlabel)]

/-! ## Top-level parts -/

/-- A top-level part is read exactly if it stands in front of the text and ends a word there. -/
theorem topLevel?_eq_some_iff {cs top rest : List Char} :
    topLevel? cs = some (top, rest) ↔
      IsTopLevel isLatin top ∧ startsWord rest = false ∧ cs = top ++ rest := by
  constructor
  · intro h
    rw [topLevel?] at h
    split at h
    · next hlength =>
      simp only [Option.some.injEq, Prod.mk.injEq] at h
      obtain ⟨rfl, rfl⟩ := h
      refine ⟨⟨hlength.1, hlength.2.1, fun c hc ↦ List.mem_takeWhile_imp hc⟩, hlength.2.2, ?_⟩
      rw [List.takeWhile_append_dropWhile]
    · cases h
  · rintro ⟨htop, hrest, rfl⟩
    have hstop : ∀ c ∈ rest.head?, isLatin c = false := by
      intro c hc
      obtain ⟨rest', rfl⟩ := List.head?_eq_some_iff.mp hc
      rw [Bool.eq_false_iff]
      intro hlatin
      rw [startsWord, isWordChar_of_isLatin hlatin] at hrest
      cases hrest
    obtain ⟨htake, hdrop⟩ := span_append htop.letters hstop
    rw [topLevel?, htake, hdrop]
    exact if_pos ⟨htop.two_le, htop.length_le, hrest⟩

/-! ## What is read is a host -/

/-- What can follow the first label of a host: any further labels, and a top-level part. -/
def IsHostTail (letter : Char → Bool) (cs : List Char) : Prop :=
  ∃ labels top, (∀ label ∈ labels, IsLabel letter label) ∧ IsTopLevel letter top ∧
    cs = dotted labels ++ top

theorem IsTopLevel.isHostTail {cs : List Char} (h : IsTopLevel letter cs) : IsHostTail letter cs :=
  ⟨[], cs, fun _ hmem ↦ absurd hmem List.not_mem_nil, h, rfl⟩

theorem IsHostTail.cons {label cs : List Char} (h : IsHostTail letter cs)
    (hlabel : IsLabel letter label) : IsHostTail letter (label ++ '.' :: cs) := by
  obtain ⟨labels, top, hlabels, htop, rfl⟩ := h
  refine ⟨label :: labels, top, List.forall_mem_cons.mpr ⟨hlabel, hlabels⟩, htop, ?_⟩
  rw [dotted_cons, List.append_assoc, List.cons_append]

/-- A label and what can follow it make a host. -/
theorem IsHostTail.exists_hostname {label cs : List Char} (h : IsHostTail letter cs)
    (hlabel : IsLabel letter label) :
    ∃ host : Hostname letter, host.chars = label ++ '.' :: cs := by
  obtain ⟨labels, top, hlabels, htop, rfl⟩ := h
  refine ⟨⟨label :: labels, top, List.cons_ne_nil _ _,
    List.forall_mem_cons.mpr ⟨hlabel, hlabels⟩, htop⟩, ?_⟩
  rw [Hostname.chars, dotted_cons, List.append_assoc, List.cons_append]

theorem isHostTail_of_hostTail? {cs tail rest : List Char} (h : hostTail? cs = some (tail, rest)) :
    IsHostTail isLatin tail ∧ startsWord rest = false ∧ cs = tail ++ rest := by
  fun_induction hostTail? cs generalizing tail rest with
  | case1 cs hl => exact (topLevel?_eq_some_iff.mp h).imp_left IsTopLevel.isHostTail
  | case2 cs found after hl _ tail' rest' htail ih =>
    simp only [Option.some.injEq, Prod.mk.injEq] at h
    obtain ⟨rfl, rfl⟩ := h
    obtain ⟨label, hlabel, rfl, rfl⟩ := label?_eq_some_iff.mp hl
    obtain ⟨hpart, hrest, rfl⟩ := ih htail
    rw [List.append_assoc, List.singleton_append]
    exact ⟨hpart.cons hlabel, hrest, by rw [List.append_assoc, List.cons_append]⟩
  | case3 cs found after hl _ htail ih =>
    exact (topLevel?_eq_some_iff.mp h).imp_left IsTopLevel.isHostTail

/-- What is read as a host is one, stands in front of the text and ends a word there. -/
theorem exists_of_host? {cs found rest : List Char} (h : host? cs = some (found, rest)) :
    ∃ host : Hostname isLatin, found = host.chars ∧ startsWord rest = false ∧
      cs = found ++ rest := by
  simp only [host?, Option.bind_eq_some_iff, Option.map_eq_some_iff] at h
  obtain ⟨⟨first, after⟩, hfirst, ⟨tail, rest'⟩, htail, heq⟩ := h
  simp only [Prod.mk.injEq] at heq
  obtain ⟨rfl, rfl⟩ := heq
  obtain ⟨label, hlabel, rfl, rfl⟩ := label?_eq_some_iff.mp hfirst
  obtain ⟨hpart, hrest, rfl⟩ := isHostTail_of_hostTail? htail
  obtain ⟨host, hhost⟩ := hpart.exists_hostname hlabel
  refine ⟨host, ?_, hrest, ?_⟩
  · rw [hhost, List.append_assoc, List.singleton_append]
  · rw [List.append_assoc, List.append_assoc, List.singleton_append]

/-- What is read as a scheme stands in front of its mark. -/
theorem exists_of_afterScheme? {cs rest : List Char} (h : afterScheme? cs = some rest) :
    ∃ scheme, cs = scheme ++ schemeMark ++ rest ∧ ∀ c ∈ scheme, isSchemeChar c = true := by
  cases cs with
  | nil => cases h
  | cons c cs =>
    rw [afterScheme?_cons] at h
    split at h
    · next hc =>
      have hmark := dropCaseless?_schemeMark_eq_some_iff.mp h
      refine ⟨c :: cs.takeWhile isSchemeChar, ?_, List.forall_mem_cons.mpr ⟨?_, ?_⟩⟩
      · rw [List.append_assoc, ← hmark, List.cons_append, List.takeWhile_append_dropWhile]
      · rw [isSchemeChar, isLatinOrDigit, hc]
        rfl
      · exact fun d hd ↦ List.mem_takeWhile_imp hd
    · cases h

/-- The host of an address is one, and stands in the text with or without a scheme before it. -/
theorem exists_of_address? {cs found rest : List Char} (h : address? cs = some (found, rest)) :
    ∃ before, ∃ host : Hostname isLatin, found = host.chars ∧ startsWord rest = false ∧
      cs = before ++ found ++ rest := by
  rw [address?, Option.or_eq_some_iff] at h
  rcases h with h | ⟨-, h⟩
  · obtain ⟨after, hscheme, hhost⟩ := Option.bind_eq_some_iff.mp h
    obtain ⟨scheme, rfl, -⟩ := exists_of_afterScheme? hscheme
    obtain ⟨host, hfound, hrest, rfl⟩ := exists_of_host? hhost
    exact ⟨scheme ++ schemeMark, host, hfound, hrest, (List.append_assoc _ _ _).symm⟩
  · obtain ⟨host, hfound, hrest, rfl⟩ := exists_of_host? h
    exact ⟨[], host, hfound, hrest, rfl⟩

theorem hostname_of_mem_rawHosts {cs found : List Char} (h : found ∈ rawHosts cs) :
    ∃ host : Hostname isLatin, found = host.chars := by
  fun_induction rawHosts cs with
  | case1 => cases h
  | case2 c cs first after hfound _ ih =>
    rcases List.mem_cons.mp h with rfl | h
    · obtain ⟨-, host, hchars, -, -⟩ := exists_of_address? hfound
      exact ⟨host, hchars⟩
    · exact ih h
  | case3 c cs hnone ih => exact ih h

/-! ## A host is read whole -/

/-- Nothing in front of the text continues a host before it. -/
def ClosesHost (rest : List Char) : Prop :=
  ∀ c ∈ rest.head?, isWordChar c = false ∧ c ≠ '.' ∧ c ≠ '-'

theorem ClosesHost.startsWord {rest : List Char} (h : ClosesHost rest) :
    startsWord rest = false := by
  cases rest with
  | nil => rfl
  | cons c rest => exact (h c rfl).1

theorem ClosesHost.isLabelChar {rest : List Char} (h : ClosesHost rest) :
    ∀ c ∈ rest.head?, isLabelChar c = false := by
  intro c hc
  obtain ⟨hword, -, hhyphen⟩ := h c hc
  have hlatin : isLatinOrDigit c ≠ true := by
    intro htrue
    rw [isLatinOrDigit, Bool.or_eq_true] at htrue
    have hword' : isWordChar c = true := htrue.elim isWordChar_of_isLatin isWordChar_of_isDigit
    rw [hword] at hword'
    cases hword'
  rw [Link.isLabelChar, Bool.eq_false_iff.mpr hlatin, beq_false_of_ne hhyphen]
  rfl

/-- No label is read where the top-level part of a host ends the host. -/
theorem label?_topLevel {top rest : List Char} (htop : IsTopLevel isLatin top)
    (hrest : ClosesHost rest) : label? (top ++ rest) = none := by
  have hchars : ∀ c ∈ top, isLabelChar c = true := by
    intro c hc
    rw [isLabelChar, isLatinOrDigit, htop.letters c hc]
    rfl
  apply label?_of_not_dot
  rw [(span_append hchars hrest.isLabelChar).2]
  exact fun hdot ↦ (hrest '.' hdot).2.1 rfl

theorem hostTail?_append {labels : List (List Char)} {top rest : List Char}
    (hlabels : ∀ label ∈ labels, IsLabel isLatin label) (htop : IsTopLevel isLatin top)
    (hrest : ClosesHost rest) :
    hostTail? (dotted labels ++ top ++ rest) = some (dotted labels ++ top, rest) := by
  induction labels with
  | nil =>
    rw [dotted_nil, List.nil_append, hostTail?_of_none (label?_topLevel htop hrest)]
    exact topLevel?_eq_some_iff.mpr ⟨htop, hrest.startsWord, rfl⟩
  | cons label labels ih =>
    obtain ⟨hlabel, hlabels⟩ := List.forall_mem_cons.mp hlabels
    have hread : label? (dotted (label :: labels) ++ top ++ rest) =
        some (label ++ ['.'], dotted labels ++ top ++ rest) :=
      label?_eq_some_iff.mpr ⟨label, hlabel, rfl, by simp [dotted_cons]⟩
    rw [hostTail?_of_some hread, ih hlabels, Option.map_some, Option.some_or, dotted_cons]
    simp

/-- A host is read whole where nothing follows that continues it. -/
theorem host?_append (host : Hostname isLatin) {rest : List Char} (hrest : ClosesHost rest) :
    host? (host.chars ++ rest) = some (host.chars, rest) := by
  obtain ⟨labels, top, hne, hlabels, htop⟩ := host
  obtain ⟨label, labels, rfl⟩ := List.exists_cons_of_ne_nil hne
  obtain ⟨hlabel, hlabels⟩ := List.forall_mem_cons.mp hlabels
  have hread : label? (dotted (label :: labels) ++ top ++ rest) =
      some (label ++ ['.'], dotted labels ++ top ++ rest) :=
    label?_eq_some_iff.mpr ⟨label, hlabel, rfl, by simp [dotted_cons]⟩
  rw [host?, Hostname.chars, hread, Option.bind_some]
  dsimp only
  rw [hostTail?_append hlabels htop hrest, Option.map_some, dotted_cons]
  simp

end GuildModeration.Link
