import GuildModeration.Text.Alphabetic
import GuildModeration.Text.Mark
import GuildModeration.Text.Numeric

/-!
# Words of a text

Two notions of word meet in a message. Word splitting cuts a text at every character that is not
*alphanumeric*, while the link patterns look for the edge of a run of *word characters*, which also
holds marks, connectors such as `_`, and the two joiners, but no number beyond the decimal digits.
Neither class contains the other.
-/

namespace GuildModeration.Text

/-- The character is alphabetic or a number of any kind. -/
def isAlphanumeric (c : Char) : Bool :=
  isAlphabetic c || isNumeric c

/-- The connectors above ASCII, as increasing disjoint ranges. -/
def connectorRanges : List (Nat × Nat) := [
  (0x203F, 0x2040), (0x2054, 0x2054), (0xFE33, 0xFE34), (0xFE4D, 0xFE4F), (0xFF3F, 0xFF3F)]

/-- The character joins two words into one: the low line and its like, and the two joiners. -/
def isConnector (c : Char) : Bool :=
  c == '_' || c == '\u200C' || c == '\u200D' || inRanges connectorRanges c

/-- The character belongs to a word, so that no word boundary separates two of them. -/
def isWordChar (c : Char) : Bool :=
  isAlphabetic c || isMark c || isDecimal c || isConnector c

theorem isAlphanumeric_of_isAlphanum {c : Char} (h : c.isAlphanum = true) :
    isAlphanumeric c = true := by
  rw [Char.isAlphanum, Bool.or_eq_true] at h
  rcases h with h | h
  · rw [isAlphanumeric, isAlphabetic_of_isAlpha h, Bool.true_or]
  · rw [isAlphanumeric, isNumeric_of_isDigit h, Bool.or_true]

/-- A text starts with a word character. -/
def startsWord : List Char → Bool
  | [] => false
  | c :: _ => isWordChar c

/-! ## Runs -/

/-- The maximal non-empty runs of characters that satisfy `p`, from left to right. -/
def runs (p : Char → Bool) : List Char → List (List Char)
  | [] => []
  | c :: cs =>
    if p c then
      match cs, runs p cs with
      | d :: _, r :: rs => if p d then (c :: r) :: rs else [c] :: r :: rs
      | _, rs => [c] :: rs
    else runs p cs

/-- The words of a text: its maximal alphanumeric runs. -/
def words (cs : List Char) : List (List Char) :=
  runs isAlphanumeric cs

end GuildModeration.Text
