import GuildModeration.Rule.Basic
import GuildModeration.Text.Blank
import GuildModeration.Text.Lowercase
import GuildModeration.Text.Words

/-!
# The words rule

A message with a banned word as a whole word, in any case, is a violation. The list of banned words
is compiled into a lexicon once; checks consult the lexicon alone, so a rule that was never compiled
finds nothing.
-/

namespace GuildModeration

open GuildModeration.Text

/-- The banned words as they were entered, and the lexicon made of them. -/
structure WordsRule where
  settings : RuleSettings := {}
  bannedWords : List String := []
  lexicon : List String := []
  deriving DecidableEq, Repr, Inhabited

namespace WordsRule

/-- The form in which an entry of the list is looked up: without blanks around it, in lower case. -/
def entryForm (entry : String) : String :=
  lower (trim entry)

/-- The rule with its lexicon made from the list; blank entries are left out. -/
def compile (r : WordsRule) : WordsRule :=
  { r with lexicon := (r.bannedWords.map entryForm).filter (!·.isEmpty) }

/-- The words of a text in lower case, from left to right. -/
def lowerWords (content : String) : List String :=
  (words content.toList).map fun w ↦ String.ofList (lowerChars w)

/-- The first word of a text that is in the lexicon, in lower case. -/
def find? (r : WordsRule) (content : String) : Option String :=
  (lowerWords content).find? r.lexicon.contains

/-- Looks for a banned word. -/
def check (r : WordsRule) (message : Message) (_ : RuleState) : RuleAnswer :=
  .ok ((r.find? message.content).map fun word ↦
    r.settings.violation s!"Sent a banned word: `{word}`")

/-- The words rule of a guild. -/
def rule (r : WordsRule) : Rule :=
  r.settings.ruleOf "words" r.check

end WordsRule

end GuildModeration
