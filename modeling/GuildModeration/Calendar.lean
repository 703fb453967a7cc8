import GuildModeration.Text.Duration

/-!
# Dates and moments

Days are counted from the first of January 1970, in the calendar of today carried back and forth
without end. A moment is a number of seconds from the start of that day, with nanoseconds on top; a
second inserted into a minute has the moment before it and a thousand million nanoseconds or more.
-/

namespace GuildModeration

/-- A date. -/
structure Date where
  year : Int
  month : Nat
  day : Nat
  deriving DecidableEq, Repr

namespace Date

/-- The year has a 29th of February. -/
def isLeapYear (year : Int) : Bool :=
  year % 4 == 0 && (year % 100 != 0 || year % 400 == 0)

/-- The number of days of a month. -/
def daysInMonth (year : Int) (month : Nat) : Nat :=
  if month = 2 then (if isLeapYear year then 29 else 28)
  else if month = 4 ∨ month = 6 ∨ month = 9 ∨ month = 11 then 30 else 31

/-- The date is one of the calendar. -/
def isValid (d : Date) : Bool :=
  1 ≤ d.month && d.month ≤ 12 && 1 ≤ d.day && d.day ≤ daysInMonth d.year d.month

/-- The number of the day. The year is taken to start in March, so that the day that only some years
have is the last one of its year. -/
def toDays (d : Date) : Int :=
  let year := if d.month ≤ 2 then d.year - 1 else d.year
  let month := (d.month + 9) % 12
  let dayOfYear : Int := (153 * month + 2) / 5 + d.day - 1
  year * 365 + year / 4 - year / 100 + year / 400 + dayOfYear - 719468

/-- The date of a day. -/
def ofDays (days : Int) : Date :=
  let z := days + 719468
  let era := z / 146097
  let dayOfEra := (z % 146097).toNat
  let yearOfEra := (dayOfEra - dayOfEra / 1460 + dayOfEra / 36524 - dayOfEra / 146096) / 365
  let dayOfYear := dayOfEra - (365 * yearOfEra + yearOfEra / 4 - yearOfEra / 100)
  let m := (5 * dayOfYear + 2) / 153
  let month := if m < 10 then m + 3 else m - 9
  let year := yearOfEra + era * 400
  { year := if month ≤ 2 then year + 1 else year
    month, day := dayOfYear - (153 * m + 2) / 5 + 1 }

end Date

/-- A moment. -/
structure Moment where
  seconds : Int
  nanos : Nat := 0
  deriving DecidableEq, Repr

namespace Moment

open GuildModeration.Text

/-- The moment that lies a number of microseconds from the start of 1970. -/
def ofMicros (micros : Int) : Moment :=
  ⟨micros / 1000000, (micros % 1000000).toNat * 1000⟩

/-- The number of microseconds from the start of 1970, finer parts left out. -/
def toMicros (m : Moment) : Int :=
  m.seconds * 1000000 + m.nanos / 1000

/-- The year of a moment. -/
def year (m : Moment) : Int :=
  (Date.ofDays (m.seconds / 86400)).year

/-- A year with at least four digits, and with a sign if it has more or lies before the year
zero. -/
def yearText (year : Int) : String :=
  if year < 0 then "-" ++ padded 4 year.natAbs
  else if 9999 < year then "+" ++ toString year.natAbs
  else padded 4 year.natAbs

/-- The fraction of a second, in as many of three, six or nine digits as it needs. -/
def fractionText (nanos : Nat) : String :=
  if nanos = 0 then ""
  else if nanos % 1000000 = 0 then "." ++ padded 3 (nanos / 1000000)
  else if nanos % 1000 = 0 then "." ++ padded 6 (nanos / 1000)
  else "." ++ padded 9 nanos

/-- The moment as a date and a time of day without an offset. -/
def text (m : Moment) : String :=
  let date := Date.ofDays (m.seconds / 86400)
  let second := (m.seconds % 86400).toNat
  s!"{yearText date.year}-{padded 2 date.month}-{padded 2 date.day}T{padded 2 (second / 3600)}:" ++
    s!"{padded 2 (second / 60 % 60)}:{padded 2 (second % 60)}{fractionText m.nanos}Z"

/-! ## Reading -/

/-- A number of exactly `n` digits at the front of a text, and the text after it. -/
def digitsAt? (n : Nat) (cs : List Char) : Option (Nat × List Char) :=
  let front := cs.take n
  if front.length = n ∧ front.all Char.isDigit then
    (digits? 10 front).map fun value ↦ (value, cs.drop n)
  else none

/-- The text after a character at its front. -/
def after? (c : Char) : List Char → Option (List Char)
  | d :: rest => if c = d then some rest else none
  | [] => none

/-- The date at the front of a text. -/
def dateAt? (cs : List Char) : Option (Date × List Char) := do
  let (year, cs) ← digitsAt? 4 cs
  let (month, cs) ← digitsAt? 2 (← after? '-' cs)
  let (day, cs) ← digitsAt? 2 (← after? '-' cs)
  let date : Date := ⟨year, month, day⟩
  if date.isValid then return (date, cs) else none

/-- The time of day at the front of a text, in whole seconds, and whether it lies in an inserted
second. -/
def timeAt? (cs : List Char) : Option (Nat × Bool × List Char) := do
  let (hour, cs) ← digitsAt? 2 cs
  let (minute, cs) ← digitsAt? 2 (← after? ':' cs)
  let (second, cs) ← digitsAt? 2 (← after? ':' cs)
  if hour < 24 ∧ minute < 60 ∧ second ≤ 60 then
    return (hour * 3600 + minute * 60 + min second 59, second == 60, cs)
  else none

/-- The fraction of a second at the front of a text, in nanoseconds; digits beyond the ninth do not
count. A text without a point has none. -/
def fractionAt? : List Char → Option (Nat × List Char)
  | '.' :: cs =>
    let digits := cs.takeWhile Char.isDigit
    let nine := (digits ++ List.replicate 9 '0').take 9
    if digits.isEmpty then none
    else (digits? 10 nine).map fun nanos ↦ (nanos, cs.dropWhile Char.isDigit)
  | cs => some (0, cs)

/-- The offset from the time of Greenwich that a text consists of, in seconds, less than a day. -/
def offset? : List Char → Option Int
  | ['Z'] | ['z'] => some 0
  | sign :: cs => do
    let (hours, cs) ← digitsAt? 2 cs
    let (minutes, cs) ← digitsAt? 2 (← after? ':' cs)
    let seconds : Int := hours * 3600 + minutes * 60
    if !cs.isEmpty || 60 ≤ minutes || 24 ≤ hours then none
    else if sign = '+' then return seconds
    else if sign = '-' ∨ sign = '−' then return -seconds
    else none
  | [] => none

/-- The character that stands between a date and a time. -/
def isDateEnd (c : Char) : Bool :=
  c == 'T' || c == 't' || c == ' '

/-- The moment that a text spells: a date, a time of day, and an offset. -/
def parse? (s : String) : Option Moment := do
  let (date, cs) ← dateAt? s.toList
  let cs ← match cs with
    | c :: rest => if isDateEnd c then some rest else none
    | [] => none
  let (second, isInserted, cs) ← timeAt? cs
  let (nanos, cs) ← fractionAt? cs
  let offset ← offset? cs
  return ⟨date.toDays * 86400 + second - offset, nanos + if isInserted then 1000000000 else 0⟩

/-! ## Times of the chat service -/

/-- The range of moments that can be told apart, in milliseconds. -/
def isRepresentable (ms : Int) : Bool :=
  decide (-8334601228800000 ≤ ms ∧ ms ≤ 8210266876799999)

/-- The moment that the chat service means. It tells milliseconds, and finer parts are cut off; in
years that do not have four digits it is only told to the second. -/
def told (m : Moment) : Moment :=
  if 0 ≤ m.year ∧ m.year ≤ 9999 then { m with nanos := m.nanos / 1000000 * 1000000 }
  else { m with nanos := 0 }

/-- The moment that a text of the chat service means. -/
def ofText? (s : String) : Option Moment :=
  (parse? s).map told

/-- The moment that a number of milliseconds means. -/
def ofMillis? (ms : Int) : Option Moment :=
  if isRepresentable ms then some (told ⟨ms / 1000, (ms % 1000).toNat * 1000000⟩) else none

end Moment

end GuildModeration
