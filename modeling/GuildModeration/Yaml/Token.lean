import GuildModeration.Yaml.Node

/-!
# Tokens of a document

The words of the YAML language. Indentation is already turned into the starts and ends of blocks,
and the key mark of `key: value` stands before its key.
-/

namespace GuildModeration.Yaml

/-- One token. -/
inductive Token where
  /-- `%YAML` with its two numbers. -/
  | version (major minor : Nat)
  /-- `%TAG` with a handle and what it stands for. -/
  | handle (name expansion : String)
  | documentStart
  | documentEnd
  | blockListStart
  | blockMapStart
  | blockEnd
  | flowListStart
  | flowListEnd
  | flowMapStart
  | flowMapEnd
  | blockEntry
  | flowEntry
  | key
  | value
  | reference (name : String)
  | anchor (name : String)
  | tag (handle suffix : String)
  | scalar (text : String) (style : Style)
  deriving DecidableEq, Repr, Inhabited

end GuildModeration.Yaml
