import GuildModeration.Text.Blank
import GuildModeration.Text.Caseless

/-!
# Texts cut at a blank

No word goes across a blank. So a text can be cut at one, and what is found in the text is what is
found in the part before the blank, followed by what is found in the part behind it. That holds for
the words of a text, and for whatever is looked for at the starts of words as long as it does not
read past a blank, `EndsAt`.

The lemmas on cuts ask of the character only what they need. That blanks have it is read off the
finite list of them.
-/

namespace GuildModeration.Text

variable {s : Char} {p : Char → Bool}

/-! ## Runs -/

theorem takeWhile_append_cons (h : p s = false) (a b : List Char) :
    (a ++ s :: b).takeWhile p = a.takeWhile p := by
  induction a with
  | nil => simp [h]
  | cons c a ih =>
    rw [List.cons_append, List.takeWhile_cons, List.takeWhile_cons, ih]

theorem dropWhile_append_cons (h : p s = false) (a b : List Char) :
    (a ++ s :: b).dropWhile p = a.dropWhile p ++ s :: b := by
  induction a with
  | nil => simp [h]
  | cons c a ih =>
    rw [List.cons_append, List.dropWhile_cons, List.dropWhile_cons, ih]
    split <;> rfl

/-- What is read by a class of characters is a stretch of them that ends there. -/
theorem span_append {a b : List Char} (ha : ∀ c ∈ a, p c = true) (hb : ∀ c ∈ b.head?, p c = false) :
    (a ++ b).takeWhile p = a ∧ (a ++ b).dropWhile p = b := by
  have hstop : b.takeWhile p = [] ∧ b.dropWhile p = b := by
    cases b with
    | nil => exact ⟨rfl, rfl⟩
    | cons c b =>
      have hc : ¬ p c = true := Bool.eq_false_iff.mp (hb c rfl)
      exact ⟨List.takeWhile_cons_of_neg hc, List.dropWhile_cons_of_neg hc⟩
  rw [List.takeWhile_append_of_pos ha, List.dropWhile_append_of_pos ha, hstop.1, hstop.2,
    List.append_nil]
  exact ⟨rfl, rfl⟩

theorem runs_cons_of_neg {c : Char} (h : p c = false) (cs : List Char) :
    runs p (c :: cs) = runs p cs := by
  rw [runs.eq_def]
  exact if_neg (by simp [h])

/-- A run that is only one character long. -/
theorem runs_cons_cons_of_neg {c d : Char} (hc : p c = true) (hd : p d = false) (cs : List Char) :
    runs p (c :: d :: cs) = [c] :: runs p (d :: cs) := by
  rw [runs.eq_def]
  dsimp only
  rw [if_pos hc]
  cases runs p (d :: cs) with
  | nil => rfl
  | cons r rs => exact if_neg (by simp [hd])

theorem runs_ne_nil {c : Char} (hc : p c = true) (cs : List Char) : runs p (c :: cs) ≠ [] := by
  rw [runs.eq_def]
  dsimp only
  rw [if_pos hc]
  split
  · split <;> simp
  · simp

/-- A run that goes on. -/
theorem runs_cons_cons_of_pos {c d : Char} (hc : p c = true) (hd : p d = true) (cs : List Char) :
    ∃ r rs, runs p (d :: cs) = r :: rs ∧ runs p (c :: d :: cs) = (c :: r) :: rs := by
  obtain ⟨r, rs, hruns⟩ := List.exists_cons_of_ne_nil (runs_ne_nil hd cs)
  refine ⟨r, rs, hruns, ?_⟩
  rw [runs.eq_def]
  dsimp only
  rw [if_pos hc, hruns]
  exact if_pos hd

theorem runs_singleton {c : Char} (hc : p c = true) : runs p [c] = [[c]] := by
  simp [runs, hc]

/-- Induction along the runs of a text: what a character does to the first run is known once the
character behind it is. -/
theorem runs_induction {motive : List Char → Prop} (p : Char → Bool) (nil : motive [])
    (skip : ∀ c cs, p c = false → motive cs → motive (c :: cs))
    (last : ∀ c, p c = true → motive [c])
    (ends : ∀ c d cs, p c = true → p d = false → motive (d :: cs) → motive (c :: d :: cs))
    (goesOn : ∀ c d cs, p c = true → p d = true → motive (d :: cs) → motive (c :: d :: cs))
    (cs : List Char) : motive cs := by
  induction cs with
  | nil => exact nil
  | cons c cs ih =>
    cases hc : p c with
    | false => exact skip c cs hc ih
    | true =>
      cases cs with
      | nil => exact last c hc
      | cons d cs =>
        cases hd : p d with
        | false => exact ends c d cs hc hd ih
        | true => exact goesOn c d cs hc hd ih

/-- No run goes across a character that does not belong to one. -/
theorem runs_append_cons (h : p s = false) (a b : List Char) :
    runs p (a ++ s :: b) = runs p a ++ runs p b := by
  induction a using runs_induction p with
  | nil =>
    rw [List.nil_append, runs_cons_of_neg h]
    rfl
  | skip c a hc ih => rw [List.cons_append, runs_cons_of_neg hc, ih, runs_cons_of_neg hc]
  | last c hc =>
    rw [List.cons_append, List.nil_append, runs_cons_cons_of_neg hc h, runs_cons_of_neg h,
      runs_singleton hc]
    rfl
  | ends c d a hc hd ih =>
    rw [List.cons_append, List.cons_append, runs_cons_cons_of_neg hc hd,
      runs_cons_cons_of_neg hc hd, ← List.cons_append, ih]
    rfl
  | goesOn c d a hc hd ih =>
    obtain ⟨r, rs, hruns, hlong⟩ := runs_cons_cons_of_pos hc hd a
    obtain ⟨r', rs', hruns', hlong'⟩ := runs_cons_cons_of_pos hc hd (a ++ s :: b)
    rw [List.cons_append, hruns', hruns, List.cons_append, List.cons.injEq] at ih
    rw [List.cons_append, List.cons_append, hlong', hlong, List.cons_append, ih.1, ih.2]

/-! ## Starts of words -/

/-- A word goes on behind the text: the text ends inside one, or it is empty and `inWord` tells that
one goes on in front of it. -/
def endsWord (inWord : Bool) (cs : List Char) : Bool :=
  (cs.getLast?.map isWordChar).getD inWord

theorem endsWord_cons (inWord : Bool) (c : Char) (cs : List Char) :
    endsWord inWord (c :: cs) = endsWord (isWordChar c) cs := by
  cases cs with
  | nil => rfl
  | cons d cs =>
    rw [endsWord, List.getLast?_cons_cons, endsWord, List.getLast?_cons]
    rfl

/-- What is found in a text begins in the front part of it, or is found in the rest. -/
theorem anyWordStartFrom_append (q : List Char → Bool) (inWord : Bool) (a b : List Char) :
    anyWordStartFrom q inWord (a ++ b) =
      (anyWordStartFrom (fun cs ↦ q (cs ++ b)) inWord a ||
        anyWordStartFrom q (endsWord inWord a) b) := by
  induction a generalizing inWord with
  | nil => rfl
  | cons c a ih =>
    rw [List.cons_append, anyWordStartFrom, ih, anyWordStartFrom, List.cons_append, endsWord_cons,
      Bool.or_assoc]

/-- What is looked for is not empty, and is found or not before the next such character. -/
structure EndsAt (s : Char) (q : List Char → Bool) : Prop where
  nil : q [] = false
  append_cons : ∀ a b, q (a ++ s :: b) = q a

variable {q : List Char → Bool}

theorem anyWordStartFrom_append_cons (hs : isWordChar s = false) (hq : EndsAt s q) (inWord : Bool)
    (a b : List Char) : anyWordStartFrom q inWord (a ++ s :: b) =
      (anyWordStartFrom q inWord a || anyWordStart q b) := by
  have hbefore : (fun cs ↦ q (cs ++ s :: b)) = q := funext fun cs ↦ hq.append_cons cs b
  have hfront : q (s :: b) = false := (hq.append_cons [] b).trans hq.nil
  rw [anyWordStartFrom_append, hbefore, anyWordStartFrom, hfront, Bool.and_false, Bool.false_or, hs,
    anyWordStart]

theorem anyWordStart_append_cons (hs : isWordChar s = false) (hq : EndsAt s q) (a b : List Char) :
    anyWordStart q (a ++ s :: b) = (anyWordStart q a || anyWordStart q b) :=
  anyWordStartFrom_append_cons hs hq false a b

/-- A pattern without the character does not reach past it. -/
theorem dropCaseless?_append_cons {pattern : List Char} (h : foldCase s ∉ pattern)
    (a b : List Char) :
    dropCaseless? pattern (a ++ s :: b) = (dropCaseless? pattern a).map (· ++ s :: b) := by
  induction pattern generalizing a with
  | nil => simp [dropCaseless?]
  | cons c pattern ih =>
    rw [List.mem_cons, not_or] at h
    cases a with
    | nil => exact if_neg h.1
    | cons d a =>
      rw [List.cons_append, dropCaseless?, dropCaseless?]
      split
      · exact ih h.2 a
      · rfl

/-! ## Blanks -/

/-- All white-space characters. -/
def blanks : List Char :=
  blankRanges.flatMap fun r ↦ (List.range' r.1 (r.2 + 1 - r.1)).map Char.ofNat

theorem mem_blanks (h : isBlank s = true) : s ∈ blanks := by
  obtain ⟨r, hr, hle, hge⟩ := inRanges_iff.mp h
  refine List.mem_flatMap.mpr ⟨r, hr, List.mem_map.mpr ⟨s.toNat, ?_, Char.ofNat_toNat s⟩⟩
  rw [List.mem_range'_1]
  omega

/-- What holds of no character of the list holds of no blank. -/
theorem eq_false_of_isBlank (hp : blanks.any p = false) (h : isBlank s = true) : p s = false := by
  rw [List.any_eq_false] at hp
  exact Bool.eq_false_iff.mpr (hp s (mem_blanks h))

/-- Blanks belong to no word, whatever is taken for one. -/
theorem not_inWord_of_isBlank (h : isBlank s = true) :
    isWordChar s = false ∧ isAlphanumeric s = false := by
  rw [← Bool.or_eq_false_iff]
  exact eq_false_of_isBlank (p := fun c ↦ isWordChar c || isAlphanumeric c) (by decide +kernel) h

theorem isWordChar_of_isBlank (h : isBlank s = true) : isWordChar s = false :=
  (not_inWord_of_isBlank h).1

theorem isAlphanumeric_of_isBlank (h : isBlank s = true) : isAlphanumeric s = false :=
  (not_inWord_of_isBlank h).2

theorem isLatinOrDigit_of_isBlank (h : isBlank s = true) : isLatinOrDigit s = false :=
  eq_false_of_isBlank (by decide) h

/-- A blank has no case. -/
theorem foldCase_of_isBlank (h : isBlank s = true) : foldCase s = s := by
  have hfold : (foldCase s != s) = false :=
    eq_false_of_isBlank (p := fun c ↦ foldCase c != c) (by decide) h
  exact bne_eq_false_iff_eq.mp hfold

theorem isLatin_of_isBlank (h : isBlank s = true) : isLatin s = false := by
  have hlatin := isLatinOrDigit_of_isBlank h
  rw [isLatinOrDigit, Bool.or_eq_false_iff] at hlatin
  exact hlatin.1

/-- A character that is no blank is none of the blanks. -/
theorem ne_of_isBlank {c : Char} (h : isBlank s = true) (hc : isBlank c = false) : s ≠ c := by
  rintro rfl
  rw [h] at hc
  cases hc

/-- The words of a text are those on both sides of a blank. -/
theorem words_append_cons (h : isBlank s = true) (a b : List Char) :
    words (a ++ s :: b) = words a ++ words b :=
  runs_append_cons (isAlphanumeric_of_isBlank h) a b

/-- What does not go across blanks is found in the parts between them, each on its own. -/
theorem eq_flatMap_splitOnP {α : Type} {f : List Char → List α}
    (hf : ∀ {s}, isBlank s = true → ∀ a b, f (a ++ s :: b) = f a ++ f b) (cs : List Char) :
    f cs = (cs.splitOnP isBlank).flatMap f := by
  -- a cut at any blank leaves two shorter texts
  induction hlength : cs.length using Nat.strongRecOn generalizing cs with
  | ind n ih =>
    by_cases hcut : ∃ s ∈ cs, isBlank s = true
    · obtain ⟨s, hs, hblank⟩ := hcut
      obtain ⟨a, b, rfl⟩ := List.append_of_mem hs
      rw [List.length_append, List.length_cons] at hlength
      rw [hf hblank, List.splitOnP_append_cons a b hblank, List.flatMap_append,
        ← ih a.length (by omega) a rfl, ← ih b.length (by omega) b rfl]
    · have hwhole : ∀ c ∈ cs, isBlank c = false :=
        fun c hc ↦ Bool.eq_false_iff.mpr fun hblank ↦ hcut ⟨c, hc, hblank⟩
      rw [List.splitOnP_eq_singleton hwhole, List.flatMap_singleton]

end GuildModeration.Text
