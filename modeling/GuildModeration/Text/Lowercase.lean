import GuildModeration.Text.Casing

/-!
# Lower case of a text

Full Unicode lower case. One rule looks at the context: a capital sigma that ends a word becomes
the final form `ς`. It ends a word when a cased character stands before it and none after it, where
characters that are ignored for casing are passed over on both sides.
-/

namespace GuildModeration.Text

/-- The first character that counts for casing is cased. -/
def leadsCased (cs : List Char) : Bool :=
  match cs.dropWhile isCaseIgnorable with
  | [] => false
  | c :: _ => isCased c

/-- The lower case of a capital sigma between `before`, nearest character first, and `after`. -/
def lowerSigma (before after : List Char) : Char :=
  if leadsCased before && !leadsCased after then 'ς' else 'σ'

/-- The lower case of what follows `before`, nearest character first. -/
def lowerAfter (before : List Char) : List Char → List Char
  | [] => []
  | c :: cs =>
    (if c == 'Σ' then [lowerSigma before cs] else lowerChar c) ++ lowerAfter (c :: before) cs

/-- The lower case of a list of characters. -/
def lowerChars (cs : List Char) : List Char :=
  lowerAfter [] cs

/-- The lower case of a text. -/
def lower (s : String) : String :=
  String.ofList (lowerChars s.toList)

end GuildModeration.Text
