/-!
# Reading positions

The place up to which a text has been read: what is left, and the line, column and index of its
first character. The classes of characters that the layout of a document rests on stand here too.
-/

namespace GuildModeration.Yaml

/-- The character ends a line. -/
def isBreak (c : Char) : Bool :=
  c == '\n' || c == '\r' || c == '\x85' || c == '\u2028' || c == '\u2029'

/-- The character is a space or a tab. -/
def isGap (c : Char) : Bool :=
  c == ' ' || c == '\t'

/-- The character is a space, a tab or a line break. -/
def isGapOrBreak (c : Char) : Bool :=
  isGap c || isBreak c

/-- The character can stand in the names of anchors, handles and directives. -/
def isNameChar (c : Char) : Bool :=
  c.isAlphanum || c == '_' || c == '-'

/-- The text is at its end or goes on with a space, a tab or a line break. -/
def atGap : List Char → Bool
  | [] => true
  | c :: _ => isGapOrBreak c

/-- The text goes on with a line break. -/
def atBreak : List Char → Bool
  | [] => false
  | c :: _ => isBreak c

/-- The line break at the front of a text as it counts in a scalar, and the number of characters it
takes. -/
def lineBreak : List Char → List Char × Nat
  | '\r' :: '\n' :: _ => (['\n'], 2)
  | '\r' :: _ => (['\n'], 1)
  | '\n' :: _ => (['\n'], 1)
  | '\x85' :: _ => (['\n'], 1)
  | '\u2028' :: _ => (['\u2028'], 1)
  | '\u2029' :: _ => (['\u2029'], 1)
  | _ => ([], 0)

/-- A reading position. -/
structure Cursor where
  rest : List Char
  line : Nat := 0
  column : Nat := 0
  index : Nat := 0
  deriving Repr, Inhabited

namespace Cursor

/-- The position `n` characters on in the same line. -/
def skip (c : Cursor) (n : Nat) : Cursor :=
  { c with rest := c.rest.drop n, column := c.column + n, index := c.index + n }

/-- The characters at the position that satisfy `p`. -/
def span (c : Cursor) (p : Char → Bool) : List Char :=
  c.rest.takeWhile p

/-- The position behind the characters that satisfy `p`. -/
def skipWhile (c : Cursor) (p : Char → Bool) : Cursor :=
  c.skip (c.span p).length

/-- The position behind a line break, and how the break counts. -/
def skipBreak (c : Cursor) : List Char × Cursor :=
  let (text, n) := lineBreak c.rest
  if n == 0 then ([], c)
  else (text, { rest := c.rest.drop n, line := c.line + 1, column := 0, index := c.index + n })

/-- The next character. -/
def peek (c : Cursor) : Option Char :=
  c.rest.head?

/-- The next character is `x`. -/
def sees (c : Cursor) (x : Char) : Bool :=
  c.rest.head? == some x

/-- Nothing is left. -/
def atEnd (c : Cursor) : Bool :=
  c.rest.isEmpty

/-- A document mark, three of `x`, stands at the start of a line. -/
def atMark (c : Cursor) (x : Char) : Bool :=
  c.column == 0 && c.rest.take 3 == [x, x, x] && atGap (c.rest.drop 3)

/-- A mark that starts or ends a document stands here. -/
def atDocumentMark (c : Cursor) : Bool :=
  c.atMark '-' || c.atMark '.'

/-- The position at the end of the line, past a comment if one stands here; `none` if anything else
is left in the line. -/
def finishLine (c : Cursor) : Option Cursor :=
  let c := c.skipWhile isGap
  let c := if c.sees '#' then c.skipWhile (!isBreak ·) else c
  if c.atEnd then some c
  else if atBreak c.rest then some c.skipBreak.2
  else none

end Cursor

end GuildModeration.Yaml
