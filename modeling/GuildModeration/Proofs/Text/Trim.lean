import GuildModeration.Proofs.Text.Separation
import Mathlib.Data.List.DropRight

/-!
# Trimmed texts

Trimming takes the blanks off both ends of a text. A part without blanks at the front stays whole,
and what stands behind it is trimmed at its end only.
-/

namespace GuildModeration.Text

/-! ## Both ends of a list -/

section Ends

variable {α : Type} {p : α → Bool} {front back : List α}

theorem rdropWhile_append_of_pos (h : ∀ x ∈ back, p x = true) (l : List α) :
    (l ++ back).rdropWhile p = l.rdropWhile p := by
  have hback : ∀ x ∈ back.reverse, p x = true := fun x hx ↦ h x (List.mem_reverse.mp hx)
  rw [List.rdropWhile, List.reverse_append, List.dropWhile_append_of_pos hback, List.rdropWhile]

theorem rdropWhile_append_of_neg (h : ∀ x ∈ front, p x = false) (l : List α) :
    (front ++ l).rdropWhile p = front ++ l.rdropWhile p := by
  have hfront : front.reverse.dropWhile p = front.reverse := by
    rw [List.dropWhile_eq_self_iff]
    intro hlength
    have hx := h _ (List.mem_reverse.mp (List.getElem_mem hlength))
    exact Bool.eq_false_iff.mp hx
  rw [List.rdropWhile, List.reverse_append, List.dropWhile_append, List.rdropWhile]
  split
  · next hempty =>
    rw [List.isEmpty_iff.mp hempty, hfront, List.reverse_reverse, List.reverse_nil, List.append_nil]
  · rw [List.reverse_append, List.reverse_reverse]

theorem dropWhile_of_head {l : List α} (h : ∀ x ∈ l.head?, p x = false) : l.dropWhile p = l := by
  cases l with
  | nil => rfl
  | cons x l => exact List.dropWhile_cons_of_neg (Bool.eq_false_iff.mp (h x rfl))

end Ends

/-! ## Trimming -/

variable {before front rest after : List Char}

/-- Blanks are taken off the front, and then off the end. -/
theorem trimChars_eq (cs : List Char) :
    trimChars cs = (cs.dropWhile isBlank).rdropWhile isBlank :=
  rfl

theorem trimChars_of_head (h : ∀ c ∈ rest.head?, isBlank c = false) :
    trimChars rest = rest.rdropWhile isBlank := by
  rw [trimChars_eq, dropWhile_of_head h]

theorem trimChars_of_forall {cs : List Char} (h : ∀ c ∈ cs, isBlank c = false) :
    trimChars cs = cs := by
  rw [trimChars_of_head fun c hc ↦ h c (List.mem_of_head? hc), ← List.append_nil cs,
    rdropWhile_append_of_neg h, List.rdropWhile_nil]

/-- What trimming takes away are blanks at both ends. -/
theorem exists_eq_trimChars (cs : List Char) : ∃ before after,
    (∀ c ∈ before, isBlank c = true) ∧ (∀ c ∈ after, isBlank c = true) ∧
      cs = before ++ (trimChars cs ++ after) := by
  refine ⟨cs.takeWhile isBlank, (cs.dropWhile isBlank).rtakeWhile isBlank,
    fun c hc ↦ List.mem_takeWhile_imp hc, fun c hc ↦ List.mem_rtakeWhile_imp hc, ?_⟩
  rw [trimChars_eq, List.rdropWhile_append_rtakeWhile, List.takeWhile_append_dropWhile]

/-- Of a text between blanks a part without blanks is left, and what is behind it, trimmed. -/
theorem trimChars_append (hbefore : ∀ c ∈ before, isBlank c = true)
    (hfront : ∀ c ∈ front, isBlank c = false) (hrest : ∀ c ∈ rest.head?, isBlank c = false)
    (hafter : ∀ c ∈ after, isBlank c = true) :
    trimChars (before ++ (front ++ (rest ++ after))) = front ++ trimChars rest := by
  have hstart : (front ++ (rest ++ after)).dropWhile isBlank = front ++ (rest ++ after) ∨
      front = [] ∧ rest = [] := by
    cases front with
    | cons c front => exact Or.inl (dropWhile_of_head fun d hd ↦ hfront d (List.mem_of_head? hd))
    | nil =>
      cases rest with
      | cons c rest => exact Or.inl (dropWhile_of_head hrest)
      | nil => exact Or.inr ⟨rfl, rfl⟩
  rw [trimChars_eq, List.dropWhile_append_of_pos hbefore]
  rcases hstart with hstart | ⟨rfl, rfl⟩
  · rw [hstart, rdropWhile_append_of_neg hfront, rdropWhile_append_of_pos hafter,
      trimChars_of_head hrest]
  · rw [List.nil_append, List.nil_append, List.dropWhile_eq_nil_iff.mpr hafter]
    rfl

end GuildModeration.Text
