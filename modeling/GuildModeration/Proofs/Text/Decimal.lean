import GuildModeration.Text.Numeral

/-!
# Numbers in decimal

What is written of a number is read back as that number, so that no two numbers are written the same
way. A number can be read in other spellings too, with leading zeros or behind a plus sign, and the
one that is written is the only one without these.
-/

namespace GuildModeration.Text

/-! ## Writing -/

theorem isDigit_of_mem_repr {n : Nat} {c : Char} (h : c ∈ n.repr.toList) : c.isDigit = true := by
  rw [Nat.toList_repr] at h
  exact Nat.isDigit_of_mem_toDigits (by decide) (by decide) h

theorem toList_repr_ne_nil (n : Nat) : n.repr.toList ≠ [] := by
  rw [Nat.toList_repr]
  exact Nat.toDigits_ne_nil

theorem toList_repr_inj {m n : Nat} : m.repr.toList = n.repr.toList ↔ m = n := by
  constructor
  · intro h
    rw [Nat.toList_repr, Nat.toList_repr] at h
    calc
      m = Nat.ofDigitChars 10 (Nat.toDigits 10 m) 0 := Nat.ofDigitChars_ten_toDigits.symm
      _ = Nat.ofDigitChars 10 (Nat.toDigits 10 n) 0 := by rw [h]
      _ = n := Nat.ofDigitChars_ten_toDigits
  · rintro rfl
    rfl

theorem ne_of_mem_repr {n : Nat} {c c' : Char} (h : c ∈ n.repr.toList)
    (hc' : c'.isDigit = false) : c ≠ c' := by
  rintro rfl
  exact Bool.false_ne_true (hc'.symm.trans (isDigit_of_mem_repr h))

theorem repr_ne {n : Nat} {s : String} (hs : s.toList.all Char.isDigit = false) : n.repr ≠ s := by
  rintro rfl
  have hall : n.repr.toList.all Char.isDigit = true :=
    List.all_eq_true.mpr fun _ ↦ isDigit_of_mem_repr
  exact Bool.false_ne_true (hs.symm.trans hall)

theorem toList_repr_ne_cons {c : Char} (hc : c.isDigit = false) (n : Nat) (cs : List Char) :
    n.repr.toList ≠ c :: cs := fun hcs ↦
  ne_of_mem_repr (hcs ▸ List.mem_cons_self) hc rfl

/-- Only zero is written with a zero in front. -/
theorem head?_toDigits_ne {n : Nat} (hn : 0 < n) : (Nat.toDigits 10 n).head? ≠ some '0' := by
  induction n using Nat.strongRecOn with
  | ind n ih =>
    by_cases hlt : n < 10
    · have hdigit : ∀ m < 10, 0 < m → m.digitChar ≠ '0' := by decide
      rw [Nat.toDigits_of_lt_base hlt, List.head?_cons, ne_eq, Option.some_inj]
      exact hdigit n hlt hn
    · have hle : 10 ≤ n := Nat.le_of_not_lt hlt
      rw [Nat.toDigits_of_base_le (by decide) hle, List.head?_append,
        List.head?_eq_some_head Nat.toDigits_ne_nil, Option.some_or,
        ← List.head?_eq_some_head Nat.toDigits_ne_nil]
      exact ih (n / 10) (Nat.div_lt_self hn (by decide)) (Nat.div_pos hle (by decide))

/-! ## Reading back -/

theorem digitValue?_of_isDigit {c : Char} (h : c.isDigit = true) :
    digitValue? 10 c = some (c.toNat - '0'.toNat) := by
  have hle : c.toNat ≤ '9'.toNat := by
    rw [Char.isDigit, Bool.and_eq_true, decide_eq_true_eq, decide_eq_true_eq] at h
    exact UInt32.le_iff_toNat_le.mp h.2
  have hlt : c.toNat - '0'.toNat < 10 := by
    change c.toNat ≤ 57 at hle
    change c.toNat - 48 < 10
    omega
  rw [digitValue?, if_pos h, Option.filter_some, if_pos (decide_eq_true hlt)]

theorem digitsFrom?_of_isDigit {cs : List Char} (h : ∀ c ∈ cs, c.isDigit = true) (value : Nat) :
    digitsFrom? 10 value cs = some (Nat.ofDigitChars 10 cs value) := by
  induction cs generalizing value with
  | nil => rfl
  | cons c cs ih =>
    obtain ⟨hc, hcs⟩ := List.forall_mem_cons.mp h
    rw [digitsFrom?, digitValue?_of_isDigit hc, Option.bind_some, ih hcs, Nat.ofDigitChars_cons,
      Nat.mul_comm]

theorem digits?_repr (n : Nat) : digits? 10 n.repr.toList = some n := by
  rw [digits?, if_neg (mt List.isEmpty_iff.mp (toList_repr_ne_nil n)),
    digitsFrom?_of_isDigit fun c ↦ isDigit_of_mem_repr, Nat.toList_repr,
    Nat.ofDigitChars_ten_toDigits]

/-- A number is read back from what is written of it. -/
theorem word64?_toString (n : UInt64) : word64? (toString n) = some n := by
  have hplus := toList_repr_ne_cons (c := '+') (by decide) n.toNat
  change (unsigned? 10 UInt64.size n.toNat.repr.toList).map UInt64.ofNat = some n
  rw [unsigned?.eq_2 _ _ _ hplus, digits?_repr, Option.filter_some,
    if_pos (decide_eq_true n.toNat_lt), Option.map_some, UInt64.ofNat_toNat]

end GuildModeration.Text
