import GuildModeration.Text.Words

/-!
# Matching without case

Fixed lower-case ASCII patterns and the class of Latin letters, read without regard to case. Two
characters above ASCII have an ASCII letter as their simple case folding, the long s and the Kelvin
sign, and both count as that letter.
-/

namespace GuildModeration.Text

/-- The lower-case ASCII character that `c` stands for when case is disregarded; characters without
one stand for themselves. -/
def foldCase (c : Char) : Char :=
  if c == 'ſ' then 's' else if c == '\u212A' then 'k' else c.toLower

/-- The character stands for an ASCII letter. -/
def isLatin (c : Char) : Bool :=
  (foldCase c).isLower

/-- The character stands for an ASCII letter or digit. -/
def isLatinOrDigit (c : Char) : Bool :=
  isLatin c || c.isDigit

/-- The rest of a text after a lower-case pattern read without case. -/
def dropCaseless? : List Char → List Char → Option (List Char)
  | [], cs => some cs
  | _ :: _, [] => none
  | p :: ps, c :: cs => if foldCase c = p then dropCaseless? ps cs else none

/-! ## Word starts -/

/-- Some rest of the text satisfies `p` and does not continue a word; `inWord` tells whether the
text itself continues one. -/
def anyWordStartFrom (p : List Char → Bool) (inWord : Bool) : List Char → Bool
  | [] => false
  | c :: cs => (!inWord && p (c :: cs)) || anyWordStartFrom p (isWordChar c) cs

/-- Some rest of the text satisfies `p` and does not continue a word. -/
def anyWordStart (p : List Char → Bool) (cs : List Char) : Bool :=
  anyWordStartFrom p false cs

end GuildModeration.Text
