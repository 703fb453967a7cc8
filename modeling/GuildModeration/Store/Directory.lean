import GuildModeration.Config.Form
import GuildModeration.Files.Pattern
import GuildModeration.Store.Memory
import GuildModeration.Text.Numeral

/-!
# Configurations in a directory

A directory with one document for each guild, named by the number of the guild. Documents are looked
up by name, and enumerated by a pattern that is made from the name of the directory; a name in which
the pattern language has a meaning is therefore read in two ways.
-/

namespace GuildModeration

open GuildModeration.Files

/-- A directory of documents in a tree of files. -/
structure DirectoryStore where
  dir : String
  files : Tree

namespace DirectoryStore

/-- The path of the document of a guild. -/
def pathOf (s : DirectoryStore) (guild : GuildId) : String :=
  joinPath s.dir s!"{guild}.yaml"

/-- Answers for a guild. The number in the name counts, not the one in the document. -/
def load (s : DirectoryStore) (guild : GuildId) : StoreAnswer :=
  match s.files.readText (s.pathOf guild) with
  | .error .missing => .ok none
  | .error _ => .error (.unreadable guild)
  | .ok text =>
    match GuildConfig.parse? text with
    | some config => .ok (some { config with guild })
    | none => .error (.malformed guild)

/-- A name without its last dot and what follows it; a dot in front does not count. -/
def stem (name : String) : String :=
  match name.toList.reverse.dropWhile (· != '.') with
  | _ :: c :: before => String.ofList (c :: before).reverse
  | _ => name

/-- The guild that a name is for. -/
def guildOf? (place : Place) : Option GuildId :=
  place.getLast?.bind fun name ↦ Text.word64? (stem name)

/-- The guilds that documents are there for, in order; a guild is listed once for each name. -/
def knownGuilds (s : DirectoryStore) : Except StoreError (List GuildId) :=
  let path := joinPath s.dir "*.yaml"
  match PathPattern.parse? path with
  | none => .error .badPattern
  | some p => .ok (((s.files.glob path p).filterMap guildOf?).mergeSort fun a b ↦ decide (a ≤ b))

end DirectoryStore

end GuildModeration
