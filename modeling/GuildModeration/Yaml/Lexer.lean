import GuildModeration.Yaml.ScalarText
import GuildModeration.Yaml.Token

/-!
# Cutting a text into tokens

The lexer keeps the depth of flow collections, the columns of the open blocks, and for each depth
the place where a key may have started. Only when the colon comes does it know that a scalar was a
key: then the key mark is put in front of it, and a block map is opened there if the column says so.
A key has to end in the line where it starts, and within 1024 characters.
-/

namespace GuildModeration.Yaml

/-- A place where a key may have started. -/
structure KeyPlace where
  /-- The number of tokens before it. -/
  token : Nat
  line : Nat
  column : Nat
  index : Nat
  /-- In this place there can be nothing but a key. -/
  required : Bool
  deriving Repr, Inhabited

/-- The lexer between two tokens. The columns of the open blocks are kept innermost first, and so
are the places of keys, one for every depth of flow collections and one for the block outside. -/
structure Lexer where
  cursor : Cursor
  flowDepth : Nat := 0
  blocks : List Nat := []
  keyAllowed : Bool := true
  keys : List (Option KeyPlace) := [none]
  tokens : Array Token := #[]
  deriving Inhabited

namespace Lexer

/-! ## Places of keys -/

/-- The key can no longer end where the cursor is. -/
def isStale (l : Lexer) (k : KeyPlace) : Bool :=
  k.line < l.cursor.line || k.index + 1024 < l.cursor.index

/-- Forgets the places whose key cannot end any more; a required key among them is malformed. -/
def dropStale (l : Lexer) : Option Lexer :=
  if l.keys.any fun k? ↦ (k?.map fun k ↦ l.isStale k && k.required).getD false then none
  else some { l with keys := l.keys.map (·.filter (!l.isStale ·)) }

/-- Forgets the place at the innermost depth; a required key there is malformed. -/
def dropKey (l : Lexer) : Option Lexer :=
  match l.keys with
  | some k :: rest => if k.required then none else some { l with keys := none :: rest }
  | _ => some l

/-- Marks the cursor as the place where a key may start. -/
def markKey (l : Lexer) : Option Lexer :=
  if l.keyAllowed then do
    let l ← l.dropKey
    let place : KeyPlace :=
      { token := l.tokens.size, line := l.cursor.line, column := l.cursor.column
        index := l.cursor.index
        required := l.flowDepth == 0 && l.blocks.head? == some l.cursor.column }
    some { l with keys := some place :: l.keys.tail }
  else some l

/-! ## Blocks -/

/-- Appends a token. -/
def push (l : Lexer) (t : Token) : Lexer :=
  { l with tokens := l.tokens.push t }

/-- Opens a block at a column further in than the innermost one, with its start before the token
number `place`. -/
def openBlock (l : Lexer) (column place : Nat) (start : Token) : Lexer :=
  if l.flowDepth == 0 && (l.blocks.head?.map (decide <| · < column)).getD true then
    { l with blocks := column :: l.blocks, tokens := l.tokens.insertIdxIfInBounds place start }
  else l

/-- Closes the blocks that are further in than the column; without a column all of them. -/
def closeBlocks (l : Lexer) (column : Option Nat) : Lexer :=
  if l.flowDepth == 0 then
    let isClosed (b : Nat) := (column.map (decide <| · < b)).getD true
    let closed := (l.blocks.takeWhile isClosed).length
    { l with blocks := l.blocks.drop closed
             tokens := l.tokens ++ Array.replicate closed Token.blockEnd }
  else l

/-! ## Space between tokens -/

/-- Skips blanks, comments and line ends up to the next token. A tab counts as blank where no key
may start. -/
def skipSpace : Nat → Lexer → Lexer
  | 0, l => l
  | fuel + 1, l =>
    let c := l.cursor
    let c := if c.column == 0 && c.sees '\ufeff' then c.skip 1 else c
    let c := c.skipWhile fun x ↦ x == ' ' || (l.flowDepth != 0 || !l.keyAllowed) && x == '\t'
    let c := if c.sees '#' then c.skipWhile (!isBreak ·) else c
    if atBreak c.rest then
      skipSpace fuel
        { l with cursor := c.skipBreak.2, keyAllowed := l.keyAllowed || l.flowDepth == 0 }
    else { l with cursor := c }

/-! ## Single tokens -/

/-- Moves the cursor past the `n` characters of a token and appends it. -/
def take (l : Lexer) (n : Nat) (t : Token) : Lexer :=
  { l.push t with cursor := l.cursor.skip n }

/-- A mark that starts or ends a document. -/
def documentMark (l : Lexer) (t : Token) : Option Lexer := do
  let l ← (l.closeBlocks none).dropKey
  some ({ l with keyAllowed := false }.take 3 t)

/-- The start of a flow collection. -/
def flowStart (l : Lexer) (t : Token) : Option Lexer := do
  let l ← l.markKey
  let l := { l with keys := none :: l.keys, flowDepth := l.flowDepth + 1, keyAllowed := true }
  some (l.take 1 t)

/-- The end of a flow collection. -/
def flowEnd (l : Lexer) (t : Token) : Option Lexer := do
  let l ← l.dropKey
  let l := if l.flowDepth == 0 then l
    else { l with flowDepth := l.flowDepth - 1, keys := l.keys.tail }
  some ({ l with keyAllowed := false }.take 1 t)

/-- The comma between the entries of a flow collection. -/
def flowComma (l : Lexer) : Option Lexer := do
  let l ← l.dropKey
  some ({ l with keyAllowed := true }.take 1 .flowEntry)

/-- The dash before an entry of a block list. -/
def dash (l : Lexer) : Option Lexer := do
  if l.flowDepth == 0 && !l.keyAllowed then none
  else
    let l ← (l.openBlock l.cursor.column l.tokens.size .blockListStart).dropKey
    some ({ l with keyAllowed := true }.take 1 .blockEntry)

/-- The question mark before an explicit key. -/
def questionMark (l : Lexer) : Option Lexer := do
  if l.flowDepth == 0 && !l.keyAllowed then none
  else
    let l ← (l.openBlock l.cursor.column l.tokens.size .blockMapStart).dropKey
    some ({ l with keyAllowed := l.flowDepth == 0 }.take 1 .key)

/-- The colon before a value. -/
def colon (l : Lexer) : Option Lexer :=
  match l.keys with
  | some k :: rest =>
    let l := { l with tokens := l.tokens.insertIdxIfInBounds k.token .key, keys := none :: rest }
    let l := l.openBlock k.column k.token .blockMapStart
    some ({ l with keyAllowed := false }.take 1 .value)
  | _ =>
    if l.flowDepth == 0 && !l.keyAllowed then none
    else
      let l := l.openBlock l.cursor.column l.tokens.size .blockMapStart
      some ({ l with keyAllowed := l.flowDepth == 0 }.take 1 .value)

/-! ## Names, tags and directives -/

/-- The name of an anchor, or of a reference to one, behind its sign. -/
def anchorName (c : Cursor) : Option (String × Cursor) :=
  let name := c.span isNameChar
  let c := c.skip name.length
  let ends := atGap c.rest ||
    (c.peek.map ['?', ':', ',', ']', '\x7d', '%', '@', '\x60'].contains).getD false
  if name.isEmpty || !ends then none else some (String.ofList name, c)

/-- The character can stand in a tag; commas and brackets only between `!<` and `>`. -/
def isTagChar (bracketed : Bool) (c : Char) : Bool :=
  isNameChar c || ";/?:@&=+$.%!~*'()".toList.contains c || bracketed && ",[]".toList.contains c

/-- The number of bytes in the encoding of a character that starts with `byte`. -/
def encodedLength? (byte : Nat) : Option Nat :=
  if byte < 0x80 then some 1
  else if 0xC0 ≤ byte ∧ byte < 0xE0 then some 2
  else if 0xE0 ≤ byte ∧ byte < 0xF0 then some 3
  else if 0xF0 ≤ byte ∧ byte < 0xF8 then some 4
  else none

/-- The bytes that percent escapes at the front of a text stand for, `n` of them. -/
def percentBytes? : Nat → List Char → Option (List Nat)
  | 0, _ => some []
  | n + 1, '%' :: cs => do
    let (byte, rest) ← hexNumber? 2 0 cs
    let bytes ← percentBytes? n rest
    some (byte :: bytes)
  | _ + 1, _ => none

/-- The character that the percent escapes at the front of a text stand for, and their number. -/
def percentChar? (cs : List Char) : Option (Char × Nat) := do
  let first ← (← percentBytes? 1 cs).head?
  let n ← encodedLength? first
  let bytes ← percentBytes? n cs
  if bytes.tail.any fun b ↦ b / 64 != 2 then none
  else
    let lead := if n == 1 then first else first % Nat.pow 2 (7 - n)
    let value := bytes.tail.foldl (fun v b ↦ v * 64 + b % 64) lead
    some (Char.ofNat value, n)

/-- The characters of a tag at the cursor, with percent escapes decoded. -/
def tagText (bracketed : Bool) : Nat → Cursor → List Char → Option (List Char × Cursor)
  | 0, c, text => some (text, c)
  | fuel + 1, c, text =>
    match c.rest with
    | [] => some (text, c)
    | x :: _ =>
      if !isTagChar bracketed x then some (text, c)
      else if x == '%' then do
        let (y, n) ← percentChar? c.rest
        tagText bracketed fuel (c.skip (3 * n)) (text ++ [y])
      else tagText bracketed fuel (c.skip 1) (text ++ [x])

/-- What stands at the cursor between exclamation marks, as far as it goes: `!`, `!name` or
`!name!`. -/
def handleText (c : Cursor) : Option (List Char × Cursor) :=
  if c.sees '!' then
    let name := (c.skip 1).span isNameChar
    let c := c.skip (name.length + 1)
    if c.sees '!' then some ('!' :: name ++ ['!'], c.skip 1) else some ('!' :: name, c)
  else none

/-- A tag at the cursor: its handle and its suffix. -/
def tagToken (inFlow : Bool) (c : Cursor) : Option (Token × Cursor) := do
  let (token, c) ←
    if c.rest[1]? == some '<' then do
      let (suffix, c) ← tagText true c.rest.length (c.skip 2) []
      if suffix.isEmpty || !c.sees '>' then none
      else some (Token.tag "" (String.ofList suffix), c.skip 1)
    else do
      let (handle, c) ← handleText c
      if handle.length > 1 && handle.getLast? == some '!' then
        let (suffix, c) ← tagText false c.rest.length c []
        if suffix.isEmpty then none
        else some (Token.tag (String.ofList handle) (String.ofList suffix), c)
      else
        let (suffix, c) ← tagText false c.rest.length c handle.tail
        some (if suffix.isEmpty then Token.tag "" "!"
          else Token.tag "!" (String.ofList suffix), c)
  if atGap c.rest || inFlow && c.sees ',' then some (token, c) else none

/-- A number of up to nine digits in a directive. -/
def directiveNumber (c : Cursor) : Option (Nat × Cursor) :=
  let digits := c.span Char.isDigit
  if digits.isEmpty || digits.length > 9 then none
  else some (digits.foldl (fun n d ↦ n * 10 + (d.toNat - '0'.toNat)) 0, c.skip digits.length)

/-- A directive at the cursor, with the rest of its line. -/
def directive (c : Cursor) : Option (Token × Cursor) := do
  let name := (c.skip 1).span isNameChar
  let c := c.skip (name.length + 1)
  if name.isEmpty || !atGap c.rest then none
  else
    let c := c.skipWhile isGap
    let (token, c) ←
      if String.ofList name == "YAML" then do
        let (major, c) ← directiveNumber c
        if !c.sees '.' then none
        else
          let (minor, c) ← directiveNumber (c.skip 1)
          some (Token.version major minor, c)
      else if String.ofList name == "TAG" then do
        let (handle, c) ← handleText c
        if handle.length > 1 && handle.getLast? != some '!' then none
        else if !(c.peek.map isGap).getD false then none
        else
          let (expansion, c) ← tagText true c.rest.length (c.skipWhile isGap) []
          if expansion.isEmpty || !atGap c.rest then none
          else some (Token.handle (String.ofList handle) (String.ofList expansion), c)
      else none
    some (token, ← c.finishLine)

/-! ## The next token -/

/-- Appends a token that a reader found behind the place where a key may start. -/
def takeKeyed (l : Lexer) (read : Cursor → Option (Token × Cursor)) : Option Lexer := do
  let l ← l.markKey
  let (token, c) ← read l.cursor
  some { l.push token with cursor := c, keyAllowed := false }

/-- Appends a quoted scalar. -/
def takeQuoted (l : Lexer) (double : Bool) : Option Lexer :=
  l.takeKeyed fun c ↦ do
    let (text, c) ← quotedScalar double c.rest.length (c.skip 1) []
    some (.scalar (String.ofList text) .quoted, c)

/-- Appends a block scalar. -/
def takeBlock (l : Lexer) (literal : Bool) : Option Lexer := do
  let l ← l.dropKey
  let (text, c) ← blockScalar literal l.blocks.head? (l.cursor.skip 1)
  let token := Token.scalar (String.ofList text) (if literal then .literal else .quoted)
  some { l.push token with cursor := c, keyAllowed := true }

/-- Appends a bare scalar; one that goes over the end of a line lets a key start behind it. -/
def takePlain (l : Lexer) : Option Lexer := do
  let l ← l.markKey
  let indent := (l.blocks.head?.map (· + 1)).getD 0
  let (text, broken, c) ←
    plainScalar (l.flowDepth != 0) indent (l.cursor.rest.length + 1) l.cursor {} []
  some { l.push (.scalar (String.ofList text) .plain) with cursor := c, keyAllowed := broken }

/-- The character cannot start a bare scalar. -/
def isIndicator (c : Char) : Bool :=
  "-?:,[]\x7b\x7d#&*!|>'\"%@\x60".toList.contains c

/-- A bare scalar may start with `x` before `rest`. A dash may start one if no blank follows; a
question mark or colon does outside flow collections if neither a blank nor the end of the line
follows. -/
def startsPlain (inFlow : Bool) (x : Char) (rest : List Char) : Bool :=
  !(isGapOrBreak x || isIndicator x) ||
    x == '-' && !(rest.head?.map isGap).getD false ||
    !inFlow && (x == '?' || x == ':') && !atGap rest

/-- Reads the token at the cursor, whose first character is `x`. -/
def tokenAt (l : Lexer) (x : Char) (rest : List Char) : Option Lexer :=
  let inFlow := l.flowDepth != 0
  if l.cursor.column == 0 && x == '%' then do
    let l ← (l.closeBlocks none).dropKey
    let (token, c) ← directive l.cursor
    some { l.push token with cursor := c, keyAllowed := false }
  else if l.cursor.atMark '-' then l.documentMark .documentStart
  else if l.cursor.atMark '.' then l.documentMark .documentEnd
  else if x == '[' then l.flowStart .flowListStart
  else if x == '\x7b' then l.flowStart .flowMapStart
  else if x == ']' then l.flowEnd .flowListEnd
  else if x == '\x7d' then l.flowEnd .flowMapEnd
  else if x == ',' then l.flowComma
  else if x == '-' && atGap rest then l.dash
  else if x == '?' && (inFlow || atGap rest) then l.questionMark
  else if x == ':' && (inFlow || atGap rest) then l.colon
  else if x == '*' then
    l.takeKeyed fun c ↦ (anchorName (c.skip 1)).map fun (n, c) ↦ (.reference n, c)
  else if x == '&' then l.takeKeyed fun c ↦ (anchorName (c.skip 1)).map fun (n, c) ↦ (.anchor n, c)
  else if x == '!' then l.takeKeyed (tagToken inFlow)
  else if x == '|' && !inFlow then l.takeBlock true
  else if x == '>' && !inFlow then l.takeBlock false
  else if x == '\'' then l.takeQuoted false
  else if x == '"' then l.takeQuoted true
  else if startsPlain inFlow x rest then l.takePlain
  else none

/-- Closes what is open at the end of the text. -/
def finish (l : Lexer) : Option (List Token) := do
  let l ← (l.closeBlocks none).dropKey
  some l.tokens.toList

/-- Reads the tokens up to the end of the text. -/
def run : Nat → Lexer → Option (List Token)
  | 0, _ => none
  | fuel + 1, l => do
    let l ← (l.skipSpace (l.cursor.rest.length + 1)).dropStale
    let l := l.closeBlocks (some l.cursor.column)
    match l.cursor.rest with
    | [] => l.finish
    | x :: rest => run fuel (← l.tokenAt x rest)

end Lexer

/-- The character is allowed in a document. -/
def isDocumentChar (c : Char) : Bool :=
  c == '\t' || c == '\n' || c == '\r' || 0x20 ≤ c.toNat && c.toNat ≤ 0x7E || c.toNat == 0x85 ||
    0xA0 ≤ c.toNat && c.toNat ≤ 0xD7FF || 0xE000 ≤ c.toNat && c.toNat ≤ 0xFFFD ||
    0x10000 ≤ c.toNat

/-- The tokens of a text, or `none` if it is malformed. -/
def tokens? (text : String) : Option (List Token) :=
  let cs := text.toList
  let cs := if cs.head? == some '\ufeff' then cs.tail else cs
  if cs.all isDocumentChar then Lexer.run (cs.length + 2) { cursor := { rest := cs } } else none

end GuildModeration.Yaml
