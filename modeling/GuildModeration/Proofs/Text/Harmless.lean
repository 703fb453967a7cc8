import GuildModeration.Proofs.Text.Lowercase
import GuildModeration.Proofs.Text.Runs

/-!
# Harmless text

A text that is shown between two backticks can get out of them by a backtick of its own, can end the
line by a blank, and can call on members by `@`, `<` and `>`. There are few such characters, so that
a class of characters is kept free of them by looking at each.

Lower case brings in no harmful character either, as each of them is the lower case of nothing but
itself.
-/

namespace GuildModeration.Text

/-- The character is white space, or has a meaning of its own in a message. -/
def isHarmful (c : Char) : Bool :=
  isBlank c || ['\x60', '@', '<', '>'].contains c

/-- All harmful characters. -/
def harmfulChars : List Char :=
  blanks ++ ['\x60', '@', '<', '>']

/-- No character is harmful. -/
def Harmless (cs : List Char) : Prop :=
  ∀ c ∈ cs, isHarmful c = false

variable {p : Char → Bool} {c : Char} {cs : List Char}

theorem mem_harmfulChars (h : isHarmful c = true) : c ∈ harmfulChars := by
  rw [isHarmful, Bool.or_eq_true, List.contains_iff_mem] at h
  rcases h with h | h
  · exact List.mem_append_left _ (mem_blanks h)
  · exact List.mem_append_right _ h

/-- A class without any of the harmful characters. -/
theorem isHarmful_of_class (hp : harmfulChars.any p = false) (h : p c = true) :
    isHarmful c = false := by
  rw [Bool.eq_false_iff]
  intro hc
  exact List.any_eq_false.mp hp c (mem_harmfulChars hc) h

theorem isHarmful_of_isAlphanumeric (h : isAlphanumeric c = true) : isHarmful c = false := by
  have hblank : isBlank c = false := by
    rw [Bool.eq_false_iff]
    intro hblank
    rw [isAlphanumeric_of_isBlank hblank] at h
    cases h
  have hmarks : ['\x60', '@', '<', '>'].any isAlphanumeric = false := by decide
  rw [isHarmful, hblank, Bool.false_or, Bool.eq_false_iff, ne_eq, List.contains_iff_mem]
  exact fun hmem ↦ List.any_eq_false.mp hmarks c hmem h

theorem isHarmful_of_isDigit (h : c.isDigit = true) : isHarmful c = false :=
  isHarmful_of_class (by decide) h

theorem Harmless.append {ds : List Char} (h : Harmless cs) (h' : Harmless ds) :
    Harmless (cs ++ ds) := by
  intro c hc
  rcases List.mem_append.mp hc with hc | hc
  · exact h c hc
  · exact h' c hc

/-! ## Lines -/

/-- The text is within one line. -/
def IsLine (s : String) : Prop :=
  '\n' ∉ s.toList

instance (s : String) : Decidable (IsLine s) :=
  inferInstanceAs (Decidable ('\n' ∉ s.toList))

theorem IsLine.append {s t : String} (hs : IsLine s) (ht : IsLine t) : IsLine (s ++ t) := by
  rw [IsLine, String.toList_append, List.mem_append, not_or]
  exact ⟨hs, ht⟩

theorem Harmless.isLine {s : String} (h : Harmless s.toList) : IsLine s := by
  intro hmem
  have hnewline : isHarmful '\n' = true := by decide
  rw [h '\n' hmem] at hnewline
  cases hnewline

theorem isLine_toString (n : Nat) : IsLine (toString n) := by
  apply Harmless.isLine
  intro c hc
  change c ∈ n.repr.toList at hc
  rw [Nat.toList_repr] at hc
  exact isHarmful_of_isDigit (Nat.isDigit_of_mem_toDigits (by decide) (by decide) hc)

/-! ## Lower case -/

theorem harmless_lowerAfter (before : List Char) (h : Harmless cs) :
    Harmless (lowerAfter before cs) := by
  have hown : harmfulChars.all isOwnLower = true := by decide +kernel
  intro d hd
  rw [Bool.eq_false_iff]
  intro hharmful
  have hd' := mem_of_mem_lowerAfter (List.all_eq_true.mp hown d (mem_harmfulChars hharmful)) hd
  rw [h d hd'] at hharmful
  cases hharmful

theorem harmless_lowerChars (h : Harmless cs) : Harmless (lowerChars cs) :=
  harmless_lowerAfter [] h

/-! ## Words -/

theorem harmless_of_mem_words {w : List Char} (h : w ∈ words cs) : Harmless w :=
  fun c hc ↦ isHarmful_of_isAlphanumeric (forall_mem_of_mem_runs h c hc)

end GuildModeration.Text
