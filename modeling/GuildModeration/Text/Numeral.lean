/-!
# Reading whole numbers

The strict spelling of whole numbers: digits of one base, at least one of them, with an optional
sign in front. Separators, blanks and anything after the last digit are refused; leading zeros are
not. Writing uses the decimal spelling of `Nat`.
-/

namespace GuildModeration.Text

/-- The value of a digit in bases up to sixteen, in either case. -/
def digitValue? (base : Nat) (c : Char) : Option Nat :=
  let value? :=
    if c.isDigit then some (c.toNat - '0'.toNat)
    else if 'a' ≤ c ∧ c ≤ 'f' then some (c.toNat - 'a'.toNat + 10)
    else if 'A' ≤ c ∧ c ≤ 'F' then some (c.toNat - 'A'.toNat + 10)
    else none
  value?.filter (· < base)

/-- The number whose digits continue those of `value`. -/
def digitsFrom? (base value : Nat) : List Char → Option Nat
  | [] => some value
  | c :: cs => (digitValue? base c).bind fun d ↦ digitsFrom? base (value * base + d) cs

/-- The number written by one or more digits. -/
def digits? (base : Nat) (cs : List Char) : Option Nat :=
  if cs.isEmpty then none else digitsFrom? base 0 cs

/-- The number written by digits after an optional plus sign, when it is below `bound`. -/
def unsigned? (base bound : Nat) : List Char → Option Nat
  | '+' :: cs => (digits? base cs).filter (· < bound)
  | cs => (digits? base cs).filter (· < bound)

/-- The number written by digits after an optional sign, when it is from `-bound` up to and without
`bound`. -/
def signed? (base bound : Nat) : List Char → Option Int
  | '-' :: cs => ((digits? base cs).filter (· ≤ bound)).map fun n ↦ -(n : Int)
  | cs => (unsigned? base bound cs).map fun n ↦ (n : Int)

/-- The number of 64 bits written by a text, as settings and file names spell it. -/
def word64? (s : String) : Option UInt64 :=
  (unsigned? 10 UInt64.size s.toList).map UInt64.ofNat

/-- The truth value that a text spells; only two spellings are known. -/
def bool? (s : String) : Option Bool :=
  if s == "true" then some true else if s == "false" then some false else none

/-! ## Small laws -/

theorem unsigned?_lt {base bound n : Nat} {cs : List Char} (h : unsigned? base bound cs = some n) :
    n < bound := by
  unfold unsigned? at h
  split at h <;> simpa using (Option.filter_eq_some_iff.mp h).2

/-! ## Writing in a base -/

/-- The lower-case digits of `n` in base sixteen, without leading zeros. -/
def hex (n : Nat) : String :=
  String.ofList (Nat.toDigits 16 n)

/-- The decimal digits of `n`, filled up with zeros on the left to `width`. -/
def padded (width n : Nat) : String :=
  let digits := toString n
  String.ofList (List.replicate (width - digits.length) '0') ++ digits

end GuildModeration.Text
