import GuildModeration.Text.Numeral

/-!
# Lengths of time in diagnostics

A length of time is shown in the largest unit that it reaches, as a decimal number without trailing
zeros.
-/

namespace GuildModeration.Text

/-- The digits of a fraction `n / 10 ^ places`, without trailing zeros, behind a point; nothing if
none are left. -/
def fraction (places n : Nat) : String :=
  let digits := (((padded places n).toList.reverse).dropWhile (· == '0')).reverse
  if digits.isEmpty then "" else "." ++ String.ofList digits

/-- A length of time given in milliseconds. -/
def duration (ms : Nat) : String :=
  if ms = 0 then "0ns"
  else if ms < 1000 then s!"{ms}ms"
  else s!"{ms / 1000}{fraction 3 (ms % 1000)}s"

end GuildModeration.Text
