import GuildModeration.Ids

/-!
# Failures of the configuration store

Why the policy of a guild could not be read. What another program says about the cause, such as the
reader of a file system, is not part of the library's wording and stands in it as a placeholder.
-/

namespace GuildModeration

/-- Why a configuration could not be had. -/
inductive StoreError where
  | unavailable (text : String)
  /-- The document of a guild cannot be read as a text. -/
  | unreadable (guild : GuildId)
  /-- The document of a guild is no configuration. -/
  | malformed (guild : GuildId)
  /-- The directory is no pattern in which documents can be looked for. -/
  | badPattern
  | other (text : String)
  deriving DecidableEq, Repr

namespace StoreError

/-- Stands for what another program says about a cause. -/
def foreignText : String := "<source>"

/-- The wording of a failure. -/
def message : StoreError → String
  | unavailable text => s!"Config store unavailable: {text}"
  | unreadable guild => s!"Failed to read automod config for guild {guild}: {foreignText}"
  | malformed guild => s!"Invalid automod config for guild {guild}: {foreignText}"
  | badPattern => s!"Invalid config directory pattern: {foreignText}"
  | other text => s!"Automod error: {text}"

end StoreError

end GuildModeration
