import GuildModeration.Text.Numeral
import GuildModeration.Text.Printable

/-!
# Quoted texts

The form in which diagnostics show a text: in double quotes, with the quote, the backslash and the
common controls escaped by a backslash, and every other character that would not show by itself
written as its code point in braces.
-/

namespace GuildModeration.Text

/-- The code point of a character in braces, in base sixteen. -/
def codePointEscape (c : Char) : String :=
  "\\u\x7b" ++ hex c.toNat ++ "\x7d"

/-- One character inside a quoted text. -/
def quoteChar (c : Char) : String :=
  match c with
  | '\x00' => "\\0"
  | '\t' => "\\t"
  | '\n' => "\\n"
  | '\r' => "\\r"
  | '"' => "\\\""
  | '\\' => "\\\\"
  | c => if isExtending c || !isPrintable c then codePointEscape c else c.toString

/-- The text in quotes. -/
def quoted (s : String) : String :=
  "\"" ++ String.join (s.toList.map quoteChar) ++ "\""

end GuildModeration.Text
