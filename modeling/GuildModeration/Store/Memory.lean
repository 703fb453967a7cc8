import GuildModeration.Config
import GuildModeration.Store.Error
import GuildModeration.Table

/-!
# Configurations in memory

A store that holds the policies of guilds by their numbers and can be made to fail.
-/

namespace GuildModeration

/-- The answer of a store for a guild: its policy, if it has one. -/
abbrev StoreAnswer := Except StoreError (Option GuildConfig)

/-- Policies in memory; while `failure` is given, every load fails with that text. -/
structure MemoryStore where
  configs : Table GuildId GuildConfig := .empty
  failure : Option String := none

namespace MemoryStore

/-- The store of some policies; of two for one guild the later counts. -/
def ofList (configs : List GuildConfig) : MemoryStore :=
  { configs := .ofList (configs.map fun c ↦ (c.guild, c)) }

/-- Puts in the policy of a guild, or replaces it. -/
def put (s : MemoryStore) (c : GuildConfig) : MemoryStore :=
  { s with configs := s.configs.insert c.guild c }

/-- Takes the policy of a guild out, and tells whether there was one. -/
def remove (s : MemoryStore) (guild : GuildId) : Bool × MemoryStore :=
  (s.configs.contains guild, { s with configs := s.configs.erase guild })

/-- Answers for a guild. -/
def load (s : MemoryStore) (guild : GuildId) : StoreAnswer :=
  match s.failure with
  | some text => .error (.unavailable text)
  | none => .ok (s.configs.find? guild)

end MemoryStore

/-- The policy that is served for a guild when the store answered with `document`: with all rules
off if there is none, under the number of the guild, and compiled. -/
def GuildConfig.served (guild : GuildId) (document : Option GuildConfig) : GuildConfig :=
  { document.getD (disabled guild) with guild }.compile

end GuildModeration
