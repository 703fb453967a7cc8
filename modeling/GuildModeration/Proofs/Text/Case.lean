import GuildModeration.Proofs.Text.Separation
import GuildModeration.Text.Lowercase

/-!
# Texts that differ in case

Two texts that differ in nothing but the case of ASCII letters have one form with all of these
letters small, so it is enough to see what becomes of a text when its letters are made small. What
is cut out of it is made small likewise, and what is found in it, or put into lower case in full, is
the same as before.

For single characters the capital letters are looked at one by one. What holds for a class of
characters then carries over to everything that reads a text by the class, in the order in which the
texts are read.
-/

namespace GuildModeration.Text

/-- The texts differ in nothing but the case of ASCII letters. -/
def SameButCase (s t : String) : Prop :=
  s.toLower = t.toLower

theorem sameButCase_iff {s t : String} :
    SameButCase s t ↔ s.toList.map Char.toLower = t.toList.map Char.toLower := by
  change s.map Char.toLower = t.map Char.toLower ↔ _
  rw [← String.toList_inj, String.toList_map, String.toList_map]

instance (s t : String) : Decidable (SameButCase s t) :=
  decidable_of_iff _ sameButCase_iff.symm

/-- What is the same for a text with small letters is the same for texts that differ in case. -/
theorem SameButCase.eq_of_map {α : Type} {s t : String} (h : SameButCase s t)
    {f : List Char → α} (hf : ∀ cs, f (cs.map Char.toLower) = f cs) : f s.toList = f t.toList := by
  rw [← hf s.toList, sameButCase_iff.mp h, hf]

/-! ## Characters -/

/-- The ASCII capital letters. -/
def capitals : List Char :=
  (List.range' 65 26).map Char.ofNat

theorem mem_capitals {c : Char} (h : c.isUpper = true) : c ∈ capitals := by
  have hc : 65 ≤ c.toNat ∧ c.toNat ≤ 90 := by
    exact of_decide_eq_true h
  refine List.mem_map.mpr ⟨c.toNat, ?_, Char.ofNat_toNat c⟩
  rw [List.mem_range'_1]
  omega

theorem toLower_of_not_isUpper {c : Char} (h : c.isUpper = false) : c.toLower = c := by
  exact dif_neg (of_decide_eq_false h)

/-- The function makes no difference between a letter and its small form. -/
def CaseBlind {α : Type} (f : Char → α) : Prop :=
  ∀ c : Char, f c.toLower = f c

/-- Only capital letters have to be looked at. -/
theorem caseBlind_of_capitals {α : Type} [DecidableEq α] {f : Char → α}
    (h : capitals.all (fun c ↦ f c.toLower = f c) = true) : CaseBlind f := by
  intro c
  cases hc : c.isUpper with
  | true => exact of_decide_eq_true (List.all_eq_true.mp h c (mem_capitals hc))
  | false => rw [toLower_of_not_isUpper hc]

theorem caseBlind_isBlank : CaseBlind isBlank :=
  caseBlind_of_capitals (by decide)

theorem caseBlind_isAlphanumeric : CaseBlind isAlphanumeric :=
  caseBlind_of_capitals (by decide)

theorem caseBlind_isWordChar : CaseBlind isWordChar :=
  caseBlind_of_capitals (by decide)

theorem caseBlind_foldCase : CaseBlind foldCase :=
  caseBlind_of_capitals (by decide)

theorem caseBlind_isLatin : CaseBlind isLatin :=
  caseBlind_of_capitals (by decide)

theorem caseBlind_isLatinOrDigit : CaseBlind isLatinOrDigit :=
  caseBlind_of_capitals (by decide)

theorem caseBlind_isCased : CaseBlind isCased :=
  caseBlind_of_capitals (by decide)

theorem caseBlind_isCaseIgnorable : CaseBlind isCaseIgnorable :=
  caseBlind_of_capitals (by decide)

theorem caseBlind_lowerChar : CaseBlind lowerChar :=
  caseBlind_of_capitals (by decide)

/-- A character that is no letter is the small form of itself alone. -/
theorem toLower_eq_iff {c d : Char}
    (h : capitals.all (fun c ↦ c.toLower != d && c != d) = true) : c.toLower = d ↔ c = d := by
  cases hc : c.isUpper with
  | true =>
    have hne := List.all_eq_true.mp h c (mem_capitals hc)
    rw [Bool.and_eq_true, bne_iff_ne, bne_iff_ne] at hne
    exact ⟨fun heq ↦ absurd heq hne.1, fun heq ↦ absurd heq hne.2⟩
  | false => rw [toLower_of_not_isUpper hc]

/-- A character that is no letter is folded from itself alone. -/
theorem foldCase_eq_iff {c d : Char} (hs : d ≠ 's') (hk : d ≠ 'k')
    (h : capitals.all (fun c ↦ c.toLower != d && c != d) = true) (hd : foldCase d = d) :
    foldCase c = d ↔ c = d := by
  constructor
  · intro hc
    rw [foldCase] at hc
    split at hc
    · exact absurd hc.symm hs
    · split at hc
      · exact absurd hc.symm hk
      · exact (toLower_eq_iff h).mp hc
  · rintro rfl
    exact hd

/-- A pattern of signs is read exactly if it stands in front of the text. -/
theorem dropCaseless?_eq_some_iff {pattern cs rest : List Char}
    (h : ∀ d ∈ pattern, ∀ c, foldCase c = d ↔ c = d) :
    dropCaseless? pattern cs = some rest ↔ cs = pattern ++ rest := by
  induction pattern generalizing cs with
  | nil => exact Option.some_inj
  | cons d pattern ih =>
    obtain ⟨hd, hpattern⟩ := List.forall_mem_cons.mp h
    cases cs with
    | nil => simp [dropCaseless?]
    | cons c cs =>
      rw [dropCaseless?, List.cons_append, List.cons.injEq, ← hd c, ← ih hpattern]
      by_cases hc : foldCase c = d
      · rw [if_pos hc, and_iff_right hc]
      · rw [if_neg hc]
        exact iff_of_false (by simp) fun hand ↦ hc hand.1

/-! ## Parts of a text -/

section Parts

variable {p : Char → Bool}

theorem CaseBlind.comp (h : CaseBlind p) : p ∘ Char.toLower = p :=
  funext h

theorem CaseBlind.takeWhile (h : CaseBlind p) (cs : List Char) :
    (cs.map Char.toLower).takeWhile p = (cs.takeWhile p).map Char.toLower := by
  rw [List.takeWhile_map, h.comp]

theorem CaseBlind.dropWhile (h : CaseBlind p) (cs : List Char) :
    (cs.map Char.toLower).dropWhile p = (cs.dropWhile p).map Char.toLower := by
  rw [List.dropWhile_map, h.comp]

theorem CaseBlind.runs (h : CaseBlind p) (cs : List Char) :
    runs p (cs.map Char.toLower) = (runs p cs).map (List.map Char.toLower) := by
  induction cs using runs_induction p with
  | nil => rfl
  | skip c cs hc ih =>
    rw [List.map_cons, runs_cons_of_neg ((h c).trans hc), runs_cons_of_neg hc, ih]
  | last c hc =>
    rw [List.map_singleton, runs_singleton ((h c).trans hc), runs_singleton hc]
    rfl
  | ends c d cs hc hd ih =>
    rw [List.map_cons] at ih
    rw [List.map_cons, List.map_cons, runs_cons_cons_of_neg ((h c).trans hc) ((h d).trans hd),
      runs_cons_cons_of_neg hc hd, ih]
    rfl
  | goesOn c d cs hc hd ih =>
    obtain ⟨r, rs, hruns, hlong⟩ := runs_cons_cons_of_pos hc hd cs
    obtain ⟨r', rs', hruns', hlong'⟩ :=
      runs_cons_cons_of_pos ((h c).trans hc) ((h d).trans hd) (cs.map Char.toLower)
    rw [List.map_cons, hruns', hruns, List.map_cons, List.cons.injEq] at ih
    rw [List.map_cons, List.map_cons, hlong', hlong, List.map_cons, ih.1, ih.2, List.map_cons]

theorem trimChars_map_toLower (cs : List Char) :
    trimChars (cs.map Char.toLower) = (trimChars cs).map Char.toLower := by
  rw [trimChars, caseBlind_isBlank.dropWhile, ← List.map_reverse, caseBlind_isBlank.dropWhile,
    ← List.map_reverse, trimChars]

end Parts

/-! ## Lower case -/

theorem leadsCased_map_toLower (cs : List Char) :
    leadsCased (cs.map Char.toLower) = leadsCased cs := by
  rw [leadsCased, caseBlind_isCaseIgnorable.dropWhile, leadsCased]
  cases cs.dropWhile isCaseIgnorable with
  | nil => rfl
  | cons c rest => exact caseBlind_isCased c

theorem lowerSigma_map_toLower (before after : List Char) :
    lowerSigma (before.map Char.toLower) (after.map Char.toLower) = lowerSigma before after := by
  rw [lowerSigma, leadsCased_map_toLower, leadsCased_map_toLower, lowerSigma]

/-- The small letters behind a capital sigma, and those before it, decide its form as capital ones
do. -/
theorem lowerAfter_map_toLower (before cs : List Char) :
    lowerAfter (before.map Char.toLower) (cs.map Char.toLower) = lowerAfter before cs := by
  induction cs generalizing before with
  | nil => rfl
  | cons c cs ih =>
    have hsigma : (c.toLower == 'Σ') = (c == 'Σ') := by
      rw [Bool.eq_iff_iff, beq_iff_eq, beq_iff_eq, toLower_eq_iff (by decide)]
    rw [List.map_cons, lowerAfter, lowerAfter, hsigma, lowerSigma_map_toLower,
      caseBlind_lowerChar c, ← List.map_cons, ih]

theorem lowerChars_map_toLower (cs : List Char) :
    lowerChars (cs.map Char.toLower) = lowerChars cs :=
  lowerAfter_map_toLower [] cs

/-! ## Starts of words -/

theorem startsWord_map_toLower (cs : List Char) :
    startsWord (cs.map Char.toLower) = startsWord cs := by
  cases cs with
  | nil => rfl
  | cons c cs => exact caseBlind_isWordChar c

theorem dropCaseless?_map_toLower (pattern cs : List Char) :
    dropCaseless? pattern (cs.map Char.toLower) =
      (dropCaseless? pattern cs).map (List.map Char.toLower) := by
  induction pattern generalizing cs with
  | nil => rw [dropCaseless?, dropCaseless?, Option.map_some]
  | cons d pattern ih =>
    cases cs with
    | nil => rfl
    | cons c cs =>
      rw [List.map_cons, dropCaseless?, dropCaseless?, caseBlind_foldCase c]
      split
      · exact ih cs
      · rfl

theorem anyWordStartFrom_map_toLower {q : List Char → Bool}
    (hq : ∀ cs, q (cs.map Char.toLower) = q cs) (inWord : Bool) (cs : List Char) :
    anyWordStartFrom q inWord (cs.map Char.toLower) = anyWordStartFrom q inWord cs := by
  induction cs generalizing inWord with
  | nil => rfl
  | cons c cs ih =>
    rw [List.map_cons, anyWordStartFrom, anyWordStartFrom, ← List.map_cons, hq,
      caseBlind_isWordChar c, ih]

theorem anyWordStart_map_toLower {q : List Char → Bool}
    (hq : ∀ cs, q (cs.map Char.toLower) = q cs) (cs : List Char) :
    anyWordStart q (cs.map Char.toLower) = anyWordStart q cs :=
  anyWordStartFrom_map_toLower hq false cs

end GuildModeration.Text
