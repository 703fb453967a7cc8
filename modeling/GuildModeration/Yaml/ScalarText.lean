import GuildModeration.Yaml.Cursor

/-!
# Texts of scalars

Reading the text of one scalar: bare, in single or double quotes, or as an indented block. Line
breaks inside a bare or quoted scalar are folded: one break counts as a space, further ones as
themselves. Where a text is malformed the readers answer `none`.
-/

namespace GuildModeration.Yaml

/-! ## Gaps between the words of a scalar -/

/-- What stands between two words of a scalar: spaces in one line, or line breaks. -/
structure Gap where
  spaces : List Char := []
  firstBreak : List Char := []
  furtherBreaks : List Char := []
  /-- The gap goes over the end of a line. -/
  broken : Bool := false

namespace Gap

/-- What a gap counts as. -/
def text (g : Gap) : List Char :=
  if g.broken then
    if g.firstBreak.head? == some '\n' then
      if g.furtherBreaks.isEmpty then [' '] else g.furtherBreaks
    else g.firstBreak ++ g.furtherBreaks
  else g.spaces

/-- Nothing stands between the words. -/
def isEmpty (g : Gap) : Bool :=
  !g.broken && g.spaces.isEmpty

/-- The gap at a position, continuing `g`. After a line break a tab before column `indent` is
malformed. -/
def read (indent : Nat) : Nat → Cursor → Gap → Option (Gap × Cursor)
  | 0, c, g => some (g, c)
  | fuel + 1, c, g =>
    match c.rest with
    | [] => some (g, c)
    | x :: _ =>
      if isGap x then
        if g.broken then
          if x == '\t' && c.column < indent then none else read indent fuel (c.skip 1) g
        else read indent fuel (c.skip 1) { g with spaces := g.spaces ++ [x] }
      else if isBreak x then
        let (text, c) := c.skipBreak
        if g.broken then read indent fuel c { g with furtherBreaks := g.furtherBreaks ++ text }
        else read indent fuel c { g with spaces := [], firstBreak := text, broken := true }
      else some (g, c)

end Gap

/-! ## Bare scalars -/

/-- The character has a meaning of its own inside a flow collection. -/
def isFlowIndicator (c : Char) : Bool :=
  c == ',' || c == '[' || c == ']' || c == '\x7b' || c == '\x7d'

/-- A bare word at the front of a text, and how long it is. A colon ends it before a gap; inside a
flow collection so does an indicator, and a colon right before one is malformed. -/
def plainWord (inFlow : Bool) : List Char → Option (List Char)
  | [] => some []
  | x :: xs =>
    if isGapOrBreak x then some []
    else if inFlow && x == ':' &&
        (xs.head?.map fun y ↦ isFlowIndicator y || y == '?').getD false then none
    else if x == ':' && atGap xs then some []
    else if inFlow && isFlowIndicator x then some []
    else (plainWord inFlow xs).map (x :: ·)

/-- A bare scalar: its text, whether it ends with a line break, and the position behind it. Lines
that continue it are indented at least to `indent`. -/
def plainScalar (inFlow : Bool) (indent : Nat) :
    Nat → Cursor → Gap → List Char → Option (List Char × Bool × Cursor)
  | 0, c, g, text => some (text, g.broken, c)
  | fuel + 1, c, g, text =>
    if c.atDocumentMark || c.sees '#' then some (text, g.broken, c)
    else do
      let word ← plainWord inFlow c.rest
      let after := c.skip word.length
      let text := if word.isEmpty then text else text ++ g.text ++ word
      let g := if word.isEmpty then g else {}
      if (after.peek.map isGapOrBreak).getD false then
        let (g, after) ← Gap.read indent after.rest.length after g
        if !inFlow && after.column < indent then some (text, g.broken, after)
        else plainScalar inFlow indent fuel after g text
      else some (text, g.broken, after)

/-! ## Quoted scalars -/

/-- The number that exactly `n` digits of base sixteen write, and the text behind them. -/
def hexNumber? : Nat → Nat → List Char → Option (Nat × List Char)
  | 0, value, cs => some (value, cs)
  | n + 1, value, c :: cs =>
    if c.isDigit then hexNumber? n (value * 16 + (c.toNat - '0'.toNat)) cs
    else if 'a' ≤ c ∧ c ≤ 'f' then hexNumber? n (value * 16 + (c.toNat - 'a'.toNat + 10)) cs
    else if 'A' ≤ c ∧ c ≤ 'F' then hexNumber? n (value * 16 + (c.toNat - 'A'.toNat + 10)) cs
    else none
  | _ + 1, _, [] => none

/-- The character that an escape stands for, when its letter alone says so. -/
def simpleEscape? (letter : Char) : Option Char :=
  [('0', '\x00'), ('a', '\x07'), ('b', '\x08'), ('t', '\t'), ('\t', '\t'), ('n', '\n'),
    ('v', '\x0b'), ('f', '\x0c'), ('r', '\r'), ('e', '\x1b'), (' ', ' '), ('"', '"'), ('/', '/'),
    ('\\', '\\'), ('N', '\x85'), ('_', '\xa0'), ('L', '\u2028'), ('P', '\u2029')].lookup letter

/-- The number of digits in an escape that names a code point. -/
def escapeDigits? (letter : Char) : Option Nat :=
  [('x', 2), ('u', 4), ('U', 8)].lookup letter

/-- The character of an escape, from the letter behind the backslash on, and the number of
characters the escape takes with the backslash. -/
def escape? : List Char → Option (Char × Nat)
  | [] => none
  | letter :: rest =>
    match simpleEscape? letter, escapeDigits? letter with
    | some c, _ => some (c, 2)
    | none, some n => do
      let (value, _) ← hexNumber? n 0 rest
      if h : value.isValidChar then some (Char.ofNatAux value h, n + 2) else none
    | none, none => none

/-- The characters of a quoted scalar up to a gap or the closing quote: the text, whether an escaped
line break ended it, and the position behind. -/
def quotedWord (double : Bool) :
    Nat → Cursor → List Char → Option (List Char × Bool × Cursor)
  | 0, c, text => some (text, false, c)
  | fuel + 1, c, text =>
    match c.rest with
    | [] => some (text, false, c)
    | x :: xs =>
      if isGapOrBreak x then some (text, false, c)
      else if double then
        if x == '"' then some (text, false, c)
        else if x == '\\' then
          if atBreak xs then some (text, true, (c.skip 1).skipBreak.2)
          else do
            let (y, n) ← escape? xs
            quotedWord double fuel (c.skip n) (text ++ [y])
        else quotedWord double fuel (c.skip 1) (text ++ [x])
      else if x == '\'' then
        if xs.head? == some '\'' then quotedWord double fuel (c.skip 2) (text ++ ['\''])
        else some (text, false, c)
      else quotedWord double fuel (c.skip 1) (text ++ [x])

/-- A quoted scalar from behind its opening quote: its text, and the position behind the closing
quote. -/
def quotedScalar (double : Bool) : Nat → Cursor → List Char → Option (List Char × Cursor)
  | 0, _, _ => none
  | fuel + 1, c, text =>
    if c.atDocumentMark || c.atEnd then none
    else do
      let (text, broken, c) ← quotedWord double c.rest.length c text
      if c.sees (if double then '"' else '\'') then some (text, c.skip 1)
      else
        let (g, c) ← Gap.read 0 c.rest.length c { broken }
        quotedScalar double fuel c (text ++ g.text)

/-! ## Block scalars -/

/-- What happens to the line breaks at the end of a block. -/
inductive Chomp where
  | clip
  | strip
  | keep
  deriving DecidableEq, Repr

/-- The sign of a block header that says what happens to the last line breaks. -/
def chomp? (c : Char) : Option Chomp :=
  if c == '+' then some .keep else if c == '-' then some .strip else none

/-- The header of a block behind its indicator: chomping, the explicit depth, and the start of the
first line. -/
def blockHeader (c : Cursor) : Option (Chomp × Option Nat × Cursor) := do
  let depth? (c : Cursor) : Option (Option Nat × Cursor) :=
    match c.peek with
    | some d =>
      if d == '0' then none
      else if d.isDigit then some (some (d.toNat - '0'.toNat), c.skip 1)
      else some (none, c)
    | none => some (none, c)
  match c.peek.bind chomp? with
  | some chomp =>
    let (depth, c) ← depth? (c.skip 1)
    let c ← c.finishLine
    some (chomp, depth, c)
  | none =>
    let (depth, c) ← depth? c
    match (if depth.isSome then c.peek.bind chomp? else none) with
    | some chomp =>
      let c ← (c.skip 1).finishLine
      some (chomp, depth, c)
    | none =>
      let c ← c.finishLine
      some (.clip, depth, c)

/-- Skips the indentation and the empty lines before a line of a block. `indent` is the depth of
the block, if it is known; otherwise the deepest column reached is reported. -/
def blockGap (indent : Option Nat) :
    Nat → Cursor → Nat → List Char → Option (Nat × List Char × Cursor)
  | 0, c, deepest, breaks => some (deepest, breaks, c)
  | fuel + 1, c, deepest, breaks =>
    let room := (indent.map (· - c.column)).getD c.rest.length
    let c := c.skip (min room (c.span (· == ' ')).length)
    let deepest := max deepest c.column
    if (indent.map fun n ↦ decide (c.column < n)).getD true && c.sees '\t' then none
    else if atBreak c.rest then
      let (text, c) := c.skipBreak
      blockGap indent fuel c deepest (breaks ++ text)
    else some (deepest, breaks, c)

/-- The lines of a block scalar at depth `indent`: the text without the last break, that break, the
empty lines behind it, and the position behind the block. -/
def blockLines (literal : Bool) (indent : Nat) : Nat → Cursor → (text lastBreak : List Char) →
    (breaks : List Char) → (afterBlank : Bool) →
    Option (List Char × List Char × List Char × Cursor)
  | 0, c, text, lastBreak, breaks, _ => some (text, lastBreak, breaks, c)
  | fuel + 1, c, text, lastBreak, breaks, afterBlank =>
    if c.column != indent || c.atEnd then some (text, lastBreak, breaks, c)
    else do
      let startsBlank := (c.peek.map isGap).getD false
      let folds := !literal && lastBreak.head? == some '\n' && !afterBlank && !startsBlank
      let joint :=
        if folds then (if breaks.isEmpty then [' '] else breaks) else lastBreak ++ breaks
      let line := c.span (!isBreak ·)
      let (lastBreak, c) := (c.skip line.length).skipBreak
      let (_, breaks, c) ← blockGap (some indent) c.rest.length c 0 []
      blockLines literal indent fuel c (text ++ joint ++ line) lastBreak breaks startsBlank

/-- A block scalar from behind its indicator: its text, and the position behind it. `parent` is the
column of the surrounding block, if there is one. -/
def blockScalar (literal : Bool) (parent : Option Nat) (c : Cursor) :
    Option (List Char × Cursor) := do
  let (chomp, depth, c) ← blockHeader c
  let indent := depth.map fun d ↦ (parent.map (· + d)).getD d
  let (deepest, breaks, c) ← blockGap indent (c.rest.length + 1) c 0 []
  let indent := indent.getD (max (max deepest ((parent.map (· + 1)).getD 0)) 1)
  let (text, lastBreak, breaks, c) ←
    blockLines literal indent (c.rest.length + 1) c [] [] breaks false
  let text := if chomp == .strip then text else text ++ lastBreak
  some (if chomp == .keep then text ++ breaks else text, c)

end GuildModeration.Yaml
