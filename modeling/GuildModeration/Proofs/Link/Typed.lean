import GuildModeration.Proofs.Link.Scheme
import GuildModeration.Proofs.Link.Separation
import GuildModeration.Proofs.Text.Trim
import Mathlib.Data.List.Infix

/-!
# Typed addresses

An address as somebody types it: blanks, a scheme, `www.`, a host, a port, a tail that begins like a
path, a query or a fragment, and blanks again, where all but the host may be missing. Its bare host
is the host in lower case, but for one slip: with no scheme in front, a `://` anywhere in the tail
is taken for the end of one, and what comes of the address is what the tail comes to on its own
(`TypedAddress.bareHostChars_text`).
-/

namespace GuildModeration.Link

open GuildModeration.Text

/-! ## The end of the host -/

/-- The characters that end the host in an address. -/
def hostEnds : List Char := ['/', '?', '#', ':']

theorem endsHost_iff {c : Char} : endsHost c = true ↔ c ∈ hostEnds := by
  simp [endsHost, hostEnds, or_assoc]

theorem lowerChar_of_endsHost {c : Char} (h : endsHost c = true) : lowerChar c = [c] := by
  have hall : hostEnds.all (fun c ↦ lowerChar c = [c]) = true := by decide
  exact of_decide_eq_true (List.all_eq_true.mp hall c (endsHost_iff.mp h))

theorem isOwnLower_of_endsHost {c : Char} (h : endsHost c = true) : isOwnLower c = true := by
  have hall : hostEnds.all isOwnLower = true := by decide +kernel
  exact List.all_eq_true.mp hall c (endsHost_iff.mp h)

/-- The character can stand in a typed host: it is no blank and does not end the host. The capital
sigma is left out, since its lower case depends on what stands around it. -/
def isTypedChar (c : Char) : Bool :=
  !isBlank c && !endsHost c && c != 'Σ'

theorem isTypedChar_iff {c : Char} :
    isTypedChar c = true ↔ isBlank c = false ∧ endsHost c = false ∧ c ≠ 'Σ' := by
  simp [isTypedChar, and_assoc]

theorem caseBlind_isTypedChar : CaseBlind isTypedChar :=
  caseBlind_of_capitals (by decide)

section Host

variable {host rest : List Char} (hhost : ∀ c ∈ host, isTypedChar c = true)

include hhost

theorem sigma_not_mem : 'Σ' ∉ host :=
  fun hmem ↦ (isTypedChar_iff.mp (hhost 'Σ' hmem)).2.2 rfl

theorem colon_not_mem : ':' ∉ host := by
  intro hmem
  have hcolon := (isTypedChar_iff.mp (hhost ':' hmem)).2.1
  revert hcolon
  decide

/-- The host is read to its end and no further. -/
theorem takeWhile_lowerChars (hrest : ∀ c ∈ rest.head?, endsHost c = true) :
    (lowerChars (host ++ rest)).takeWhile (!endsHost ·) = lowerChars host := by
  have hsigma := sigma_not_mem hhost
  rw [lowerChars_append hsigma, lowerChars_of_not_mem hsigma]
  refine (span_append ?_ ?_).1
  · intro d hd
    obtain ⟨c, hc, hd⟩ := List.mem_flatMap.mp hd
    have hc := (isTypedChar_iff.mp (hhost c hc)).2.1
    rw [Bool.not_eq_true', Bool.eq_false_iff]
    intro hends
    rw [eq_of_mem_lowerChar (isOwnLower_of_endsHost hends) hd, hends] at hc
    cases hc
  · intro d hd
    cases rest with
    | nil => cases hd
    | cons c rest =>
      have hc := hrest c rfl
      rw [lowerAfter_cons_self (lowerChar_of_endsHost hc)] at hd
      obtain rfl := Option.some.inj hd
      rw [hc]
      rfl

end Host

/-! ## A `www.` in front -/

/-- There is a `www.` in front, or nothing is taken off. -/
theorem withoutWww_cases (cs : List Char) :
    (∃ rest, cs = 'w' :: 'w' :: 'w' :: '.' :: rest ∧ withoutWww cs = rest) ∨
      withoutWww cs = cs := by
  rw [withoutWww.eq_def]
  split
  · next rest => exact Or.inl ⟨rest, rfl, rfl⟩
  · exact Or.inr rfl

theorem withoutWww_of_not_prefix {cs : List Char} (h : ¬ "www.".toList <+: cs) :
    withoutWww cs = cs := by
  rcases withoutWww_cases cs with ⟨rest, rfl, -⟩ | hsame
  · exact absurd ⟨rest, rfl⟩ h
  · exact hsame

/-! ## Bare hosts -/

/-- The scheme may be taken off before the address is put into lower case. -/
theorem bareHostChars_eq (cs : List Char) : bareHostChars cs =
    withoutWww ((lowerChars (withoutScheme (trimChars cs))).takeWhile (!endsHost ·)) := by
  rw [bareHostChars, withoutScheme_lowerChars]

/-- Of a text of host characters nothing is cut off but a `www.` in front. -/
theorem bareHostChars_of_isTypedChar {cs : List Char} (h : ∀ c ∈ cs, isTypedChar c = true) :
    bareHostChars cs = withoutWww (lowerChars cs) := by
  have hscheme : afterMark? cs = none := by
    rw [← List.append_nil cs, afterMark?_append (colon_not_mem h)]
    rfl
  have hwhole : (lowerChars (cs ++ [])).takeWhile (!endsHost ·) = lowerChars cs :=
    takeWhile_lowerChars h (by simp)
  rw [List.append_nil] at hwhole
  rw [bareHostChars_eq, trimChars_of_forall fun c hc ↦ (isTypedChar_iff.mp (h c hc)).1,
    withoutScheme_eq, hscheme, Option.getD_none, hwhole]

/-! ## Typed addresses -/

theorem isBlank_of_isSchemeChar {c : Char} (h : isSchemeChar c = true) : isBlank c = false := by
  rw [Bool.eq_false_iff]
  intro hblank
  rw [isSchemeChar_of_isBlank hblank] at h
  cases h

theorem isSchemeChar_of_isDigit {c : Char} (h : c.isDigit = true) : isSchemeChar c = true := by
  rw [isSchemeChar, isLatinOrDigit, h, Bool.or_true]
  rfl

/-- The parts of a typed address. A missing part is empty. -/
structure TypedAddress where
  before : List Char
  /-- The scheme without the mark behind it, if there is one. -/
  scheme : Option (List Char)
  www : List Char
  host : List Char
  /-- The port with the colon in front of it. -/
  port : List Char
  tail : List Char
  after : List Char
  isBlank_before : ∀ c ∈ before, isBlank c = true
  isSchemeChar_scheme : ∀ chars ∈ scheme, ∀ c ∈ chars, isSchemeChar c = true
  www_eq : www = [] ∨ www.map Char.toLower = "www.".toList
  isTypedChar_host : ∀ c ∈ host, isTypedChar c = true
  host_not_www : ¬ "www.".toList <+: lowerChars host
  port_eq : port = [] ∨
    ∃ digits, port = ':' :: digits ∧ digits ≠ [] ∧ ∀ c ∈ digits, c.isDigit = true
  tail_opens : ∀ c ∈ tail.head?, c = '/' ∨ c = '?' ∨ c = '#'
  isBlank_after : ∀ c ∈ after, isBlank c = true

namespace TypedAddress

variable (a : TypedAddress)

/-- The scheme with the mark behind it. -/
def opening : List Char :=
  (a.scheme.map (· ++ schemeMark)).getD []

/-- The whole text. -/
def text : String :=
  String.ofList (a.before ++
    (a.opening ++ (a.www ++ a.host) ++ a.port ++ (a.tail ++ a.after)))

theorem isTypedChar_of_mem : ∀ c ∈ a.www ++ a.host, isTypedChar c = true := by
  intro c hc
  rcases List.mem_append.mp hc with hc | hc
  · rcases a.www_eq with hwww | hwww
    · rw [hwww] at hc
      cases hc
    · have hall : "www.".toList.all isTypedChar = true := by decide
      rw [← caseBlind_isTypedChar c]
      apply List.all_eq_true.mp hall
      rw [← hwww]
      exact List.mem_map_of_mem hc
  · exact a.isTypedChar_host c hc

theorem isBlank_tail : ∀ c ∈ a.tail.head?, isBlank c = false := by
  intro c hc
  rcases a.tail_opens c hc with rfl | rfl | rfl
  · decide
  · decide
  · decide

theorem isBlank_opening : ∀ c ∈ a.opening, isBlank c = false := by
  intro c hc
  obtain ⟨chars, hchars, hc⟩ : ∃ chars ∈ a.scheme, c ∈ chars ++ schemeMark := by
    rw [opening] at hc
    cases hscheme : a.scheme with
    | none =>
      rw [hscheme] at hc
      cases hc
    | some chars =>
      rw [hscheme] at hc
      exact ⟨chars, rfl, hc⟩
  rcases List.mem_append.mp hc with hc | hc
  · exact isBlank_of_isSchemeChar (a.isSchemeChar_scheme chars hchars c hc)
  · have hany : schemeMark.any isBlank = false := by decide
    exact Bool.eq_false_iff.mpr (List.any_eq_false.mp hany c hc)

theorem isBlank_port : ∀ c ∈ a.port, isBlank c = false := by
  intro c hc
  rcases a.port_eq with hport | ⟨digits, hport, -, hdigits⟩
  · rw [hport] at hc
    cases hc
  · rw [hport] at hc
    rcases List.mem_cons.mp hc with rfl | hc
    · decide
    · exact isBlank_of_isSchemeChar (isSchemeChar_of_isDigit (hdigits c hc))

theorem trimChars_text : trimChars a.text.toList =
    a.opening ++ (a.www ++ a.host) ++ a.port ++ trimChars a.tail := by
  rw [text, String.toList_ofList]
  refine trimChars_append a.isBlank_before ?_ a.isBlank_tail a.isBlank_after
  intro c hc
  rcases List.mem_append.mp hc with hc | hc
  · rcases List.mem_append.mp hc with hc | hc
    · exact a.isBlank_opening c hc
    · exact (isTypedChar_iff.mp (a.isTypedChar_of_mem c hc)).1
  · exact a.isBlank_port c hc

/-- The mark of the tail, if it has one, is not cut off with the blanks behind it. -/
theorem afterMark?_trimChars_tail :
    afterMark? (trimChars a.tail) = none ↔ ¬ schemeMark <:+: a.tail := by
  have hsplit : trimChars a.tail ++ a.tail.rtakeWhile isBlank = a.tail := by
    rw [trimChars_of_head a.isBlank_tail]
    exact List.rdropWhile_append_rtakeWhile
  have hblanks : ∀ c ∈ a.tail.rtakeWhile isBlank, c ≠ ':' ∧ c ≠ '/' := by
    intro c hc
    have hblank := List.mem_rtakeWhile_imp hc
    exact ⟨ne_of_isBlank hblank (by decide), ne_of_isBlank hblank (by decide)⟩
  rw [← afterMark?_eq_none_iff, ← hsplit, afterMark?_append_right hblanks, hsplit]
  simp

/-- Without a scheme the first mark of the address is that of the tail. -/
theorem afterMark?_rest (rest : List Char) :
    afterMark? (a.www ++ a.host ++ (a.port ++ rest)) = afterMark? rest := by
  rw [afterMark?_append (colon_not_mem a.isTypedChar_of_mem)]
  rcases a.port_eq with hport | ⟨digits, hport, hne, hdigits⟩
  · rw [hport, List.nil_append]
  · have hcolon : ':' ∉ digits := by
      intro hmem
      have hdigit := hdigits ':' hmem
      revert hdigit
      decide
    obtain ⟨digit, digits, rfl⟩ := List.exists_cons_of_ne_nil hne
    -- a digit stands behind the colon of the port
    rw [hport, List.cons_append, List.cons_append, afterMark?.eq_3 ':', ← List.cons_append,
      afterMark?_append hcolon]
    rintro more - hmore
    have hdigit := hdigits digit List.mem_cons_self
    rw [(List.cons.inj hmore).1] at hdigit
    revert hdigit
    decide

/-- What is cut off in front is the scheme, if there is one, or else all up to a mark in the
tail. -/
theorem withoutScheme_text : withoutScheme (trimChars a.text.toList) =
    if a.scheme = none ∧ schemeMark <:+: a.tail then withoutScheme (trimChars a.tail)
    else a.www ++ a.host ++ (a.port ++ trimChars a.tail) := by
  rw [trimChars_text, withoutScheme_eq, withoutScheme_eq, opening]
  cases hscheme : a.scheme with
  | some chars =>
    have hcolon : ':' ∉ chars := by
      intro hmem
      have hchar := a.isSchemeChar_scheme chars hscheme ':' hmem
      revert hchar
      decide
    rw [if_neg (fun h ↦ Option.some_ne_none _ h.1)]
    simp only [Option.map_some, Option.getD_some, List.append_assoc]
    rw [← List.append_assoc chars, afterMark?_mark hcolon, Option.getD_some]
  | none =>
    rw [Option.map_none, Option.getD_none, List.nil_append, List.append_assoc, afterMark?_rest]
    cases hmark : afterMark? (trimChars a.tail) with
    | none =>
      rw [if_neg (fun h ↦ a.afterMark?_trimChars_tail.mp hmark h.2), Option.getD_none]
    | some rest =>
      have hinfix : schemeMark <:+: a.tail := by
        by_contra hnot
        rw [a.afterMark?_trimChars_tail.mpr hnot] at hmark
        cases hmark
      rw [if_pos ⟨rfl, hinfix⟩, Option.getD_some, Option.getD_some]

theorem withoutWww_lowerChars : withoutWww (lowerChars (a.www ++ a.host)) = lowerChars a.host := by
  rcases a.www_eq with hwww | hwww
  · rw [hwww, List.nil_append, withoutWww_of_not_prefix a.host_not_www]
  · have hlower : lowerChars a.www = "www.".toList := by
      rw [← lowerChars_map_toLower, hwww]
      decide
    have hsigma := sigma_not_mem a.isTypedChar_of_mem
    rw [List.mem_append, not_or] at hsigma
    rw [lowerChars_append hsigma.1, ← lowerChars_of_not_mem hsigma.1, hlower,
      lowerAfter_of_not_mem hsigma.2, lowerChars_of_not_mem hsigma.2]
    rfl

theorem endsHost_of_mem_head? : ∀ c ∈ (a.port ++ trimChars a.tail).head?, endsHost c = true := by
  intro c hc
  rcases a.port_eq with hport | ⟨digits, hport, -, -⟩
  · rw [hport, List.nil_append, trimChars_of_head a.isBlank_tail] at hc
    have htail : c ∈ a.tail.head? := by
      rw [← List.rdropWhile_append_rtakeWhile (p := isBlank) (l := a.tail)]
      exact List.mem_head?_append_of_mem_head? hc
    rcases a.tail_opens c htail with rfl | rfl | rfl
    · decide
    · decide
    · decide
  · rw [hport] at hc
    obtain rfl := Option.some.inj hc
    decide

/-- The bare host of a typed address is its host, or what its tail comes to on its own. -/
theorem bareHostChars_text : bareHostChars a.text.toList =
    if a.scheme = none ∧ schemeMark <:+: a.tail then bareHostChars a.tail
    else lowerChars a.host := by
  rw [bareHostChars_eq, withoutScheme_text]
  split
  · rw [bareHostChars_eq]
  · rw [takeWhile_lowerChars a.isTypedChar_of_mem a.endsHost_of_mem_head?, withoutWww_lowerChars]

/-- Whatever the parts of a typed address are, and in whatever case. Its bare host is its host in
lower case exactly if there is a scheme in front, or no `://` in the tail, or the tail happens to
come to the same host on its own. -/
theorem bareHost_text_iff : bareHost a.text = lower (String.ofList a.host) ↔
    a.scheme.isSome = true ∨ ¬ schemeMark <:+: a.tail ∨
      bareHost (String.ofList a.tail) = lower (String.ofList a.host) := by
  rw [bareHost, bareHostChars_text, bareHost, lower, String.toList_ofList, String.toList_ofList]
  split
  · next h => simp [h]
  · next h =>
    rw [not_and_or, ← Ne, Option.ne_none_iff_isSome] at h
    simp only [true_iff]
    exact h.imp_right Or.inl

/-- An address of one site that leads to another is taken for an address of the other. -/
theorem not_bareHost_text_behind_query :
    ∃ a : TypedAddress, a.text = "bad.example/?to=https://good.example" ∧
      a.host = "bad.example".toList ∧ bareHost a.text = "good.example" ∧
      bareHost a.text ≠ lower (String.ofList a.host) := by
  let a : TypedAddress :=
    { before := [], scheme := none, www := [], host := "bad.example".toList, port := [],
      tail := "/?to=https://good.example".toList, after := [], isBlank_before := by simp,
      isSchemeChar_scheme := by simp, www_eq := Or.inl rfl,
      isTypedChar_host := List.all_eq_true.mp (by decide), host_not_www := by decide,
      port_eq := Or.inl rfl, tail_opens := by simp, isBlank_after := by simp }
  refine ⟨a, by decide, rfl, by decide +kernel, by decide +kernel⟩

end TypedAddress

end GuildModeration.Link
