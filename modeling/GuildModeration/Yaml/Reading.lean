import GuildModeration.Text.Numeral
import GuildModeration.Yaml.Node

/-!
# Reading values from nodes

What a node means where a value of a certain kind is expected. A reader that knows the kind takes
the text of a scalar as it stands: every scalar is a text, and a bare `5` is a number even under a
foreign tag. Without an expected kind a node is first brought to a `Value` by the rules of the core
schema, and a value has lost its spelling: `"5"` is a text and never a number. Some nodes have no
value at all: those under a local tag, numbers that fit no machine word, and nodes nested too deep.
-/

namespace GuildModeration.Yaml

open GuildModeration.Text

/-! ## Spellings -/

/-- The text spells a null. -/
def spellsNull (s : String) : Bool :=
  s == "null" || s == "Null" || s == "NULL" || s == "~"

/-- The truth value that a text spells. -/
def flag? (s : String) : Option Bool :=
  if s == "true" || s == "True" || s == "TRUE" then some true
  else if s == "false" || s == "False" || s == "FALSE" then some false
  else none

/-- The text is digits with a zero in front, after an optional sign; such a text is no number. -/
def hasLeadingZero (cs : List Char) : Bool :=
  let digits := match cs with
    | '+' :: rest => rest
    | '-' :: rest => rest
    | cs => cs
  1 < digits.length && digits.head? == some '0' && digits.all Char.isDigit

/-- The text starts with a sign. -/
def startsSigned (cs : List Char) : Bool :=
  cs.head? == some '+' || cs.head? == some '-'

/-- The base that a text announces, and the digits behind the announcement. -/
def announcedBase? : List Char → Option (Nat × List Char)
  | '0' :: 'x' :: rest => some (16, rest)
  | '0' :: 'o' :: rest => some (8, rest)
  | '0' :: 'b' :: rest => some (2, rest)
  | _ => none

/-- The number without a minus sign that a text spells, below `bound`. -/
def natural? (bound : Nat) (cs : List Char) : Option Nat :=
  let body := match cs with
    | '+' :: rest => rest
    | cs => cs
  match announcedBase? body with
  | some (base, digits) => if startsSigned digits then none else unsigned? base bound digits
  | none => if startsSigned body || hasLeadingZero cs then none else unsigned? 10 bound body

/-- The number with a minus sign that a text spells, from `-bound` on. -/
def negative? (bound : Nat) (cs : List Char) : Option Int :=
  match cs with
  | '-' :: body =>
    match announcedBase? body with
    | some (base, digits) =>
      if startsSigned digits then none else signed? base bound ('-' :: digits)
    | none => if hasLeadingZero cs then none else signed? 10 bound cs
  | _ => none

/-! ## Fractions -/

/-- The decimal exponent at the end of a number: nothing, or `e` and a number. -/
def exponent? : List Char → Option Int
  | [] => some 0
  | e :: rest =>
    if e == 'e' || e == 'E' then
      match rest with
      | '-' :: digits => (digits? 10 digits).map fun n ↦ -(n : Int)
      | '+' :: digits => (digits? 10 digits).map fun n ↦ (n : Int)
      | digits => (digits? 10 digits).map fun n ↦ (n : Int)
    else none

/-- The digits and the exponent of an unsigned decimal number, with or without a point. -/
def decimal? (cs : List Char) : Option (List Char × Int) :=
  let whole := cs.takeWhile Char.isDigit
  let (part, rest) := match cs.dropWhile Char.isDigit with
    | '.' :: rest => (rest.takeWhile Char.isDigit, rest.dropWhile Char.isDigit)
    | rest => ([], rest)
  if whole.isEmpty && part.isEmpty then none
  else (exponent? rest).map fun e ↦ (whole ++ part, e - part.length)

/-- The number with these digits and this exponent is below the bound at which a number of 64 bits
overflows, halfway between the largest one and the next power of two. -/
def isFinite (digits : List Char) (exponent : Int) : Bool :=
  let significant := digits.dropWhile (· == '0')
  let size : Int := significant.length + exponent
  if significant.isEmpty || size ≤ 308 then true
  else if 310 < size then false
  else
    let value := ((digits? 10 significant).getD 0)
    let bound := Nat.pow 2 1024 - Nat.pow 2 970
    if 0 ≤ exponent then decide (value * Nat.pow 10 exponent.toNat < bound)
    else decide (value < bound * Nat.pow 10 (-exponent).toNat)

/-- The text spells a fraction or one of the numbers that are none. -/
def spellsFraction (s : String) : Bool :=
  if [".inf", ".Inf", ".INF", "+.inf", "+.Inf", "+.INF", "-.inf", "-.Inf", "-.INF",
      ".nan", ".NaN", ".NAN"].contains s then true
  else
    let body := match s.toList with
      | '+' :: rest => if startsSigned rest then [] else rest
      | '-' :: rest => rest
      | cs => cs
    ((decimal? body).map fun (digits, e) ↦ isFinite digits e).getD false

/-! ## Readers that know the kind -/

/-- The tags of the core schema. -/
def coreTag (name : String) : String :=
  "tag:yaml.org,2002:" ++ name

/-- The scalar may spell something else than a text: it is bare, or a literal block that is tagged
as such a thing. -/
def Scalar.mayBe (s : Scalar) (kind : String) : Bool :=
  s.style == .plain || s.style == .literal && s.tag == some (coreTag kind)

/-- The scalar is blank: nothing is written. -/
def Scalar.isBlank (s : Scalar) : Bool :=
  s.style == .plain && s.text.isEmpty

namespace Document

variable (d : Document)

/-- The truth value of a node. -/
def flag? (n : Node) : Option Bool :=
  match d.resolve n with
  | .scalar s => if s.mayBe "bool" then Yaml.flag? s.text else none
  | _ => none

/-- The number of a node, without a sign and below `bound`. -/
def natural? (bound : Nat) (n : Node) : Option Nat :=
  match d.resolve n with
  | .scalar s => if s.mayBe "int" then Yaml.natural? bound s.text.toList else none
  | _ => none

/-- The text of a node. -/
def text? (n : Node) : Option String :=
  match d.resolve n with
  | .scalar s => some s.text
  | _ => none

/-- The items of a node; a blank stands for none. -/
def items? (n : Node) : Option (List Node) :=
  match d.resolve n with
  | .list _ items => some items
  | .scalar s => if s.isBlank then some [] else none
  | _ => none

/-- The entries of a node; a blank stands for none. -/
def entries? (n : Node) : Option (List (Node × Node)) :=
  match d.resolve n with
  | .map _ entries => some entries
  | .scalar s => if s.isBlank then some [] else none
  | _ => none

/-- The entries of a node whose keys are texts. -/
def fields? (n : Node) : Option (List (String × Node)) :=
  (d.entries? n).bind fun entries ↦
    entries.mapM fun (key, value) ↦ (d.text? key).map fun name ↦ (name, value)

/-- The texts of a list. -/
def texts? (n : Node) : Option (List String) :=
  (d.items? n).bind fun items ↦ items.mapM d.text?

end Document

/-! ## Values -/

/-- The value of a node by the core schema. Numbers with and without a minus sign are kept apart;
of fractions nothing is kept. -/
inductive Value where
  | null
  | flag (b : Bool)
  | natural (n : Nat)
  | negative (n : Int)
  | fraction
  | text (s : String)
  | list (items : List Value)
  | map (entries : List (Value × Value))
  deriving Repr, Inhabited

/-- The numbers of 64 bits, and those of 128 bits, which are read but have no value. -/
def numberValue? (cs : List Char) : Option (Option Value) :=
  match natural? UInt64.size cs, negative? (UInt64.size / 2) cs with
  | some n, _ => some (some (.natural n))
  | none, some n => some (some (.negative n))
  | none, none =>
    if (natural? (Nat.pow 2 128) cs).isSome || (negative? (Nat.pow 2 127) cs).isSome then some none
    else none

/-- The value of a bare scalar. -/
def plainValue? (s : String) : Option Value :=
  if s.isEmpty || spellsNull s then some .null
  else match flag? s, numberValue? s.toList with
    | some b, _ => some (.flag b)
    | none, some n => n
    | none, none =>
      if !hasLeadingZero s.toList && spellsFraction s then some .fraction else some (.text s)

/-- The value of a scalar. -/
def Scalar.value? (s : Scalar) : Option Value :=
  match s.tag with
  | none => if s.style == .plain then plainValue? s.text else some (.text s.text)
  | some tag =>
    if tag.startsWith "!" then none
    else if tag == coreTag "bool" then (flag? s.text).map .flag
    else if tag == coreTag "int" then (numberValue? s.text.toList).join
    else if tag == coreTag "float" then
      if spellsFraction s.text then some .fraction else none
    else if tag == coreTag "null" then if spellsNull s.text then some .null else none
    else some (.text s.text)

/-- The node is under a local tag, one that starts with an exclamation mark. -/
def isLocal (tag : Option String) : Bool :=
  (tag.map (·.startsWith "!")).getD false

/-- The value of a node that may be nested up to `depth` deep. -/
def Document.value? (d : Document) : (depth : Nat) → Node → Option Value
  | depth, n =>
    match depth, d.resolve n with
    | _, .scalar s => s.value?
    | depth + 1, .list tag items =>
      if isLocal tag then none else (items.mapM (d.value? depth)).map .list
    | depth + 1, .map tag entries =>
      if isLocal tag then none
      else
        (entries.mapM fun (key, value) ↦ do
          return (← d.value? depth key, ← d.value? depth value)).map .map
    | _, _ => none

/-- How deep a document may be nested where values are read. -/
def maxDepth : Nat := 128

namespace Value

/-- The truth value. -/
def flag? : Value → Option Bool
  | .flag b => some b
  | _ => none

/-- The number, without a sign and below `bound`; a zero may have one. -/
def natural? (bound : Nat) : Value → Option Nat
  | .natural n => if n < bound then some n else none
  | .negative n => if n = 0 then some 0 else none
  | _ => none

/-- The items. -/
def items? : Value → Option (List Value)
  | .list items => some items
  | _ => none

/-- Nothing is in the value: a null or a map without entries. -/
def isVoid : Value → Bool
  | .null => true
  | .map entries => entries.isEmpty
  | _ => false

end Value

end GuildModeration.Yaml
