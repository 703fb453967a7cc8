import GuildModeration.Link.Address
import GuildModeration.Proofs.Text.Lowercase

/-!
# The mark behind a scheme

The scheme of an address is what stands before its first `://`. Wherever that mark stands, whoever
wrote it and for whatever purpose, all in front of it is cut off. Case has nothing to do with it:
the mark is found in lower case where it was before (`withoutScheme_lowerChars`).
-/

namespace GuildModeration.Link

open GuildModeration.Text

variable {cs front back : List Char}

/-- The mark between the scheme of an address and the rest of it. -/
def schemeMark : List Char := [':', '/', '/']

theorem dropCaseless?_schemeMark_eq_some_iff :
    dropCaseless? schemeMark cs = some back ↔ cs = schemeMark ++ back := by
  have hcolon : ∀ c, foldCase c = ':' ↔ c = ':' :=
    fun _ ↦ foldCase_eq_iff (by decide) (by decide) (by decide) (by decide)
  have hslash : ∀ c, foldCase c = '/' ↔ c = '/' :=
    fun _ ↦ foldCase_eq_iff (by decide) (by decide) (by decide) (by decide)
  apply dropCaseless?_eq_some_iff
  simp only [schemeMark, List.forall_mem_cons, List.not_mem_nil, false_implies, implies_true]
  exact ⟨hcolon, hslash, hslash, trivial⟩

/-- What stands behind the first mark. -/
def afterMark? : List Char → Option (List Char)
  | [] => none
  | ':' :: '/' :: '/' :: rest => some rest
  | _ :: rest => afterMark? rest

theorem withoutScheme_eq (cs : List Char) : withoutScheme cs = (afterMark? cs).getD cs := by
  have hgo : ∀ whole cs, withoutScheme.go whole cs = (afterMark? cs).getD whole := by
    intro whole cs
    fun_induction afterMark? cs with
    | case1 => rfl
    | case2 rest => rfl
    | case3 c rest hmark ih => rw [withoutScheme.go.eq_2 whole c rest hmark, ih]
  exact hgo cs cs

/-! ## Where the first mark stands -/

theorem afterMark?_eq_none_iff : afterMark? cs = none ↔ ¬ schemeMark <:+: cs := by
  fun_induction afterMark? cs with
  | case1 => simp [schemeMark]
  | case2 rest =>
    have hmark : schemeMark <:+: ':' :: '/' :: '/' :: rest := ⟨[], rest, rfl⟩
    simp [hmark]
  | case3 c rest hmark ih =>
    have hfront : ¬ schemeMark <+: c :: rest := by
      rintro ⟨more, hmore⟩
      obtain ⟨rfl, hrest⟩ := List.cons.inj hmore
      exact hmark more rfl hrest.symm
    rw [ih, List.infix_cons_iff, or_iff_right hfront]

/-- No mark begins before the first colon. -/
theorem afterMark?_append (h : ':' ∉ front) (cs : List Char) :
    afterMark? (front ++ cs) = afterMark? cs := by
  induction front with
  | nil => rfl
  | cons c front ih =>
    rw [List.mem_cons, not_or] at h
    rw [List.cons_append, afterMark?.eq_3 c, ih h.2]
    exact fun rest hc ↦ absurd hc.symm h.1

theorem afterMark?_mark (h : ':' ∉ front) (cs : List Char) :
    afterMark? (front ++ schemeMark ++ cs) = some cs := by
  rw [List.append_assoc, afterMark?_append h]
  rfl

/-- What has neither a colon nor a slash in it is no part of a mark. -/
theorem afterMark?_append_right (h : ∀ c ∈ back, c ≠ ':' ∧ c ≠ '/') (cs : List Char) :
    afterMark? (cs ++ back) = (afterMark? cs).map (· ++ back) := by
  fun_induction afterMark? cs with
  | case1 =>
    have hnot : ':' ∉ back := fun hmem ↦ (h ':' hmem).1 rfl
    rw [List.nil_append, ← List.append_nil back, afterMark?_append hnot]
    rfl
  | case2 rest => rfl
  | case3 c rest hmark ih =>
    rw [List.cons_append, afterMark?.eq_3 c, ih]
    rintro more rfl hmore
    rcases List.append_eq_cons_iff.mp hmore with ⟨rfl, rfl⟩ | ⟨rest', rfl, hrest'⟩
    · exact (h '/' List.mem_cons_self).2 rfl
    · rcases List.append_eq_cons_iff.mp hrest'.symm with ⟨rfl, rfl⟩ | ⟨rest'', rfl, -⟩
      · exact (h '/' List.mem_cons_self).2 rfl
      · exact hmark rest'' rfl rfl

/-! ## Lower case -/

theorem lowerChar_colon : lowerChar ':' = [':'] := by decide

theorem lowerChar_slash : lowerChar '/' = ['/'] := by decide

/-- The first mark stays the first, and behind it lower case starts afresh. -/
theorem afterMark?_lowerAfter (before cs : List Char) :
    afterMark? (lowerAfter before cs) = (afterMark? cs).map lowerChars := by
  have hcolon : isOwnLower ':' = true := by decide +kernel
  have hslash : isOwnLower '/' = true := by decide +kernel
  fun_induction afterMark? cs generalizing before with
  | case1 => rfl
  | case2 rest =>
    rw [lowerAfter_cons_self lowerChar_colon, lowerAfter_cons_self lowerChar_slash,
      lowerAfter_cons_self lowerChar_slash, lowerAfter_slash]
    rfl
  | case3 c rest hmark ih =>
    by_cases hc : c = ':'
    · subst hc
      rw [lowerAfter_cons_self lowerChar_colon, afterMark?.eq_3 ':', ih]
      rintro more - hmore
      obtain ⟨rest', rfl, hrest'⟩ := exists_of_lowerAfter_eq_cons hslash lowerChar_slash hmore
      obtain ⟨rest'', rfl, -⟩ := exists_of_lowerAfter_eq_cons hslash lowerChar_slash hrest'.symm
      exact hmark rest'' rfl rfl
    · have hnot : ':' ∉ lowerAt before c rest := fun hmem ↦ hc (eq_of_mem_lowerAt hcolon hmem)
      rw [lowerAfter_cons, afterMark?_append hnot, ih]

/-- The scheme may be taken off before the rest is put into lower case. -/
theorem withoutScheme_lowerChars (cs : List Char) :
    withoutScheme (lowerChars cs) = lowerChars (withoutScheme cs) := by
  rw [withoutScheme_eq, lowerChars, afterMark?_lowerAfter, withoutScheme_eq]
  cases afterMark? cs with
  | none => rfl
  | some rest => rfl

end GuildModeration.Link
