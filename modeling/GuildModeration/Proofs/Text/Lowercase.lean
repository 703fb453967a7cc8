import GuildModeration.Proofs.Text.Case

/-!
# Lower case, character by character

A capital sigma is the only character whose lower case depends on its neighbours. So a text without
one is put into lower case character by character, whatever follows it, and a slash cuts a text:
nothing before it is seen from behind.

Going back from lower case, a character that is reached from no other one, `isOwnLower`, was there
before. For the characters above ASCII the runs of capital letters are compared with it.
-/

namespace GuildModeration.Text

variable {c d : Char} {before cs : List Char}

/-! ## Where a character stands -/

/-- The lower case of a character between `before`, nearest character first, and `after`. -/
def lowerAt (before : List Char) (c : Char) (after : List Char) : List Char :=
  if c == 'Σ' then [lowerSigma before after] else lowerChar c

theorem lowerAfter_cons (before : List Char) (c : Char) (cs : List Char) :
    lowerAfter before (c :: cs) = lowerAt before c cs ++ lowerAfter (c :: before) cs :=
  rfl

theorem lowerAt_of_ne (h : c ≠ 'Σ') (before after : List Char) :
    lowerAt before c after = lowerChar c := by
  rw [lowerAt, beq_false_of_ne h, if_neg Bool.false_ne_true]

theorem lowerChar_ne_nil (c : Char) : lowerChar c ≠ [] := by
  rw [lowerChar]
  split
  · exact List.cons_ne_nil _ _
  · split
    · exact List.cons_ne_nil _ _
    · split
      · exact List.cons_ne_nil _ _
      · exact List.cons_ne_nil _ _

theorem lowerAt_ne_nil (before : List Char) (c : Char) (after : List Char) :
    lowerAt before c after ≠ [] := by
  rw [lowerAt]
  split
  · exact List.cons_ne_nil _ _
  · exact lowerChar_ne_nil c

/-- A character that is its own lower case stays in its place. -/
theorem lowerAfter_cons_self (hd : lowerChar d = [d]) (before cs : List Char) :
    lowerAfter before (d :: cs) = d :: lowerAfter (d :: before) cs := by
  have hsigma : d ≠ 'Σ' := by
    rintro rfl
    revert hd
    decide +kernel
  rw [lowerAfter_cons, lowerAt_of_ne hsigma, hd, List.singleton_append]

/-! ## Lengths

Lower case may be longer than the text, but how much longer is a matter of each character alone. -/

theorem length_lowerAt (before : List Char) (c : Char) (after : List Char) :
    (lowerAt before c after).length = (lowerChar c).length := by
  by_cases h : c = 'Σ'
  · subst h
    have hsigma : (lowerChar 'Σ').length = 1 := by decide +kernel
    rw [hsigma]
    rfl
  · rw [lowerAt_of_ne h]

theorem length_lowerAfter (before cs : List Char) :
    (lowerAfter before cs).length = (cs.flatMap lowerChar).length := by
  induction cs generalizing before with
  | nil => rfl
  | cons c cs ih =>
    rw [lowerAfter_cons, List.length_append, length_lowerAt, ih, List.flatMap_cons,
      List.length_append]

theorem length_lowerChars_append (a b : List Char) :
    (lowerChars (a ++ b)).length = (lowerChars a).length + (lowerChars b).length := by
  rw [lowerChars, length_lowerAfter, List.flatMap_append, List.length_append, lowerChars,
    length_lowerAfter, lowerChars, length_lowerAfter]

theorem lowerChars_eq_nil_iff : lowerChars cs = [] ↔ cs = [] := by
  cases cs with
  | nil => exact Iff.rfl
  | cons c cs =>
    rw [lowerChars, lowerAfter_cons, List.append_eq_nil_iff]
    simp [lowerAt_ne_nil]

/-! ## Texts without a capital sigma -/

theorem lowerAfter_append {a : List Char} (h : 'Σ' ∉ a) (before b : List Char) :
    lowerAfter before (a ++ b) = a.flatMap lowerChar ++ lowerAfter (a.reverse ++ before) b := by
  induction a generalizing before with
  | nil => rfl
  | cons c a ih =>
    rw [List.mem_cons, not_or] at h
    rw [List.cons_append, lowerAfter_cons, lowerAt_of_ne (Ne.symm h.1), ih h.2, List.flatMap_cons,
      List.append_assoc, List.reverse_cons, List.append_assoc, List.singleton_append]

theorem lowerChars_append {a : List Char} (h : 'Σ' ∉ a) (b : List Char) :
    lowerChars (a ++ b) = a.flatMap lowerChar ++ lowerAfter a.reverse b := by
  rw [lowerChars, lowerAfter_append h, List.append_nil]

theorem lowerAfter_of_not_mem (h : 'Σ' ∉ cs) (before : List Char) :
    lowerAfter before cs = cs.flatMap lowerChar := by
  rw [← List.append_nil cs, lowerAfter_append h, lowerAfter, List.append_nil, List.append_nil]

theorem lowerChars_of_not_mem (h : 'Σ' ∉ cs) : lowerChars cs = cs.flatMap lowerChar :=
  lowerAfter_of_not_mem h []

theorem lowerChars_of_toNat_lt (h : ∀ c ∈ cs, c.toNat < 128) :
    lowerChars cs = cs.map Char.toLower := by
  have hsigma : 'Σ' ∉ cs := by
    intro hmem
    have hlt := h 'Σ' hmem
    revert hlt
    decide
  have hchar : ∀ c ∈ cs, lowerChar c = [c.toLower] := fun c hc ↦ if_pos (h c hc)
  rw [lowerChars_of_not_mem hsigma, List.map_eq_flatMap, List.flatMap_def, List.flatMap_def,
    List.map_congr_left hchar]

/-! ## Slashes -/

theorem leadsCased_append_slash (a before : List Char) :
    leadsCased (a ++ '/' :: before) = leadsCased a := by
  induction a with
  | nil => rfl
  | cons c a ih =>
    rw [leadsCased, leadsCased] at ih ⊢
    by_cases hc : isCaseIgnorable c = true
    · rw [List.cons_append, List.dropWhile_cons_of_pos hc, List.dropWhile_cons_of_pos hc]
      exact ih
    · rw [List.cons_append, List.dropWhile_cons_of_neg hc, List.dropWhile_cons_of_neg hc]

theorem lowerAfter_append_slash (a before cs : List Char) :
    lowerAfter (a ++ '/' :: before) cs = lowerAfter a cs := by
  induction cs generalizing a with
  | nil => rfl
  | cons c cs ih =>
    have hat : lowerAt (a ++ '/' :: before) c cs = lowerAt a c cs := by
      rw [lowerAt, lowerSigma, leadsCased_append_slash, lowerAt, lowerSigma]
    rw [lowerAfter_cons, hat, ← List.cons_append, ih, lowerAfter_cons]

/-- Behind a slash lower case starts afresh. -/
theorem lowerAfter_slash (before cs : List Char) :
    lowerAfter ('/' :: before) cs = lowerChars cs :=
  lowerAfter_append_slash [] before cs

/-! ## Back from lower case -/

/-- A number that is no code point stands for the zero character. -/
theorem toNat_ofNat_of_pos {n : Nat} (h : 0 < (Char.ofNat n).toNat) : (Char.ofNat n).toNat = n := by
  by_cases hn : n.isValidChar
  · rw [Char.ofNat, dif_pos hn]
    rfl
  · simp [Char.ofNat, hn] at h

/-- The run of capital letters does not lead to the character. -/
def CaseRun.avoids (r : CaseRun) (d : Char) : Bool :=
  (d.toNat : Int) < r.first + r.shift || r.last + r.shift < (d.toNat : Int)

theorem ne_of_avoids {r : CaseRun} {n : Nat} (hd : 0 < d.toNat) (hr : r.avoids d = true)
    (h : r.covers n = true) : Char.ofNat (n + r.shift).toNat ≠ d := by
  rintro rfl
  rw [CaseRun.avoids, toNat_ofNat_of_pos hd] at hr
  rw [toNat_ofNat_of_pos hd] at hd
  simp only [CaseRun.covers, Bool.and_eq_true, decide_eq_true_eq] at h
  simp only [Bool.or_eq_true, decide_eq_true_eq] at hr
  omega

/-- No other character has the character in its lower case. -/
def isOwnLower (d : Char) : Bool :=
  0 < d.toNat && !(['ς', 'σ', 'i', '\u0307'].contains d) &&
    !((capitals.map Char.toLower).contains d) && lowerRuns.all fun r ↦ r.avoids d

theorem eq_of_mem_lowerChar (hown : isOwnLower d = true) (h : d ∈ lowerChar c) : c = d := by
  simp only [isOwnLower, Bool.and_eq_true, decide_eq_true_eq, Bool.not_eq_true',
    List.contains_eq_mem, decide_eq_false_iff_not] at hown
  obtain ⟨⟨⟨hpos, hfew⟩, hcapitals⟩, hruns⟩ := hown
  rw [lowerChar] at h
  split at h
  · rw [List.mem_singleton] at h
    subst h
    cases hc : c.isUpper with
    | true => exact absurd (List.mem_map_of_mem (mem_capitals hc)) hcapitals
    | false => exact (toLower_of_not_isUpper hc).symm
  · split at h
    · simp only [List.mem_cons, not_or] at hfew
      simp only [List.mem_cons, List.not_mem_nil, or_false] at h
      rcases h with rfl | rfl
      · exact absurd rfl hfew.2.2.1
      · exact absurd rfl hfew.2.2.2.1
    · split at h
      · next r hr =>
        have havoids := List.all_eq_true.mp hruns r (List.mem_of_find?_eq_some hr)
        have hcovers : r.covers c.toNat = true :=
          List.find?_some (p := fun r : CaseRun ↦ r.covers c.toNat) hr
        exact absurd (List.mem_singleton.mp h).symm (ne_of_avoids hpos havoids hcovers)
      · exact (List.mem_singleton.mp h).symm

theorem eq_of_mem_lowerAt {after : List Char} (hown : isOwnLower d = true)
    (h : d ∈ lowerAt before c after) : c = d := by
  rw [lowerAt] at h
  split at h
  · have hsigmas : isOwnLower 'ς' = false ∧ isOwnLower 'σ' = false := by decide
    rw [List.mem_singleton, lowerSigma] at h
    split at h
    · rw [h, hsigmas.1] at hown
      cases hown
    · rw [h, hsigmas.2] at hown
      cases hown
  · exact eq_of_mem_lowerChar hown h

theorem mem_of_mem_lowerAfter (hown : isOwnLower d = true) (h : d ∈ lowerAfter before cs) :
    d ∈ cs := by
  induction cs generalizing before with
  | nil => exact h
  | cons c cs ih =>
    rw [lowerAfter_cons, List.mem_append] at h
    rcases h with h | h
    · rw [eq_of_mem_lowerAt hown h]
      exact List.mem_cons_self
    · exact List.mem_cons_of_mem _ (ih h)

/-- If the lower case of a text begins with such a character, the text does. -/
theorem exists_of_lowerAfter_eq_cons {rest : List Char} (hown : isOwnLower d = true)
    (hd : lowerChar d = [d]) (h : lowerAfter before cs = d :: rest) :
    ∃ cs', cs = d :: cs' ∧ rest = lowerAfter (d :: before) cs' := by
  cases cs with
  | nil => cases h
  | cons c cs =>
    obtain ⟨first, more, hfirst⟩ := List.exists_cons_of_ne_nil (lowerAt_ne_nil before c cs)
    have hmem : first ∈ lowerAt before c cs := by
      rw [hfirst]
      exact List.mem_cons_self
    have heq := h
    rw [lowerAfter_cons, hfirst, List.cons_append] at heq
    obtain ⟨rfl, -⟩ := List.cons.inj heq
    obtain rfl := eq_of_mem_lowerAt hown hmem
    rw [lowerAfter_cons_self hd] at h
    exact ⟨cs, rfl, (List.cons.inj h).2.symm⟩

end GuildModeration.Text
