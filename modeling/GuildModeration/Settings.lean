import GuildModeration.Config.Form
import GuildModeration.Files.Tree
import GuildModeration.Log.Event
import GuildModeration.Store.Error
import GuildModeration.Text.Blank
import GuildModeration.Text.Quoted

/-!
# Settings of the program

What holds for all guilds: whether moderation is on, where the policies are, and the limits of the
cache. The settings are read from a document, which may leave out any field or be missing itself;
after that some of them can be overridden by named values from outside. A value that makes no sense
is reported and ignored.
-/

namespace GuildModeration

open GuildModeration.Files GuildModeration.Yaml

/-- The settings. -/
structure Settings where
  enabled : Bool := true
  configDir : String := "data/automod"
  /-- How long a policy is served before it is loaded again, in seconds. -/
  cacheTtl : UInt64 := 300
  cacheCapacity : UInt64 := 1000
  /-- The time between two passes of the maintenance, in seconds. -/
  reapInterval : UInt64 := 60
  /-- The length of the queue of requests to drop policies. -/
  invalidationBuffer : UInt64 := 100
  deriving DecidableEq, Repr, Inhabited

/-- Why there are no settings. -/
inductive SettingsError where
  | unreadable (cause : ReadError)
  /-- The document does not say what settings are. -/
  | malformed
  deriving DecidableEq, Repr

/-- The wording of a failure. -/
def SettingsError.message : SettingsError → String
  | unreadable cause => cause.message
  | malformed => StoreError.foreignText

namespace Settings

/-- How long a policy is served, in milliseconds. -/
def cacheTtlMs (s : Settings) : Nat :=
  s.cacheTtl.toNat * 1000

/-- The time between two passes, in milliseconds, at least a second. -/
def reapIntervalMs (s : Settings) : Nat :=
  max s.reapInterval.toNat 1 * 1000

/-! ## Reading -/

/-- A number of 64 bits. -/
def word64? (d : Document) (n : Node) : Option UInt64 :=
  (d.natural? UInt64.size n).map UInt64.ofNat

/-- The settings that a document holds; one without content leaves everything out. -/
def ofDocument? (d : Document) : Option Settings := do
  let fs ← d.fields? (d.root.getD .blank)
  let initial : Settings := {}
  return {
    enabled := ← Fields.get? fs ["enabled"] initial.enabled d.flag?
    configDir := ← Fields.get? fs ["config_dir"] initial.configDir d.text?
    cacheTtl := ← Fields.get? fs ["cache_ttl_secs"] initial.cacheTtl (word64? d)
    cacheCapacity := ← Fields.get? fs ["cache_capacity"] initial.cacheCapacity (word64? d)
    reapInterval := ← Fields.get? fs ["reap_interval_secs"] initial.reapInterval (word64? d)
    invalidationBuffer :=
      ← Fields.get? fs ["invalidation_buffer"] initial.invalidationBuffer (word64? d) }

/-- The report on settings that were read. -/
def loadedEvent (path : String) : Log.Event :=
  { level := .info, topic := Log.Topic.console
    message := s!"Loaded automod settings from {path}" }

/-- Reads the settings at a path; if nothing is there the defaults hold. -/
def ofFile (files : Tree) (path : String) : Except SettingsError (Settings × List Log.Event) :=
  match files.readText path with
  | .error .missing => .ok ({}, [])
  | .error cause => .error (.unreadable cause)
  | .ok text =>
    match (Document.parse? text).bind ofDocument? with
    | some s => .ok (s, [loadedEvent path])
    | none => .error .malformed

/-! ## Overriding -/

/-- Named values from outside. -/
abbrev Environment := List (String × String)

/-- The report on a value that makes no sense. -/
def ignoredEvent (name value : String) : Log.Event :=
  { level := .warn, topic := Log.Topic.console
    message := s!"Ignoring invalid value {Text.quoted value} for {name}" }

/-- Sets a field from the value of a name, if there is one that `read` makes sense of; blanks around
a value do not count. -/
def overrideWith {α : Type} (env : Environment) (name : String) (read : String → Option α)
    (set : Settings → α → Settings) (r : Settings × List Log.Event) : Settings × List Log.Event :=
  match env.lookup name with
  | none => r
  | some value =>
    match read (Text.trim value) with
    | some a => (set r.1 a, r.2)
    | none => (r.1, r.2 ++ [ignoredEvent name value])

/-- The settings once the named values have been taken in. The directory is taken as it is. -/
def override (env : Environment) (r : Settings × List Log.Event) : Settings × List Log.Event :=
  let r := ({ r.1 with configDir := (env.lookup "AUTOMOD_CONFIG_DIR").getD r.1.configDir }, r.2)
  let r := overrideWith env "AUTOMOD_CACHE_TTL_SECS" Text.word64?
    (fun s n ↦ { s with cacheTtl := n }) r
  let r := overrideWith env "AUTOMOD_CACHE_CAPACITY" Text.word64?
    (fun s n ↦ { s with cacheCapacity := n }) r
  overrideWith env "AUTOMOD_ENABLED" Text.bool? (fun s b ↦ { s with enabled := b }) r

/-- Where the settings are kept. -/
def path : String := "config/automod.yaml"

/-- The settings that the program starts with. -/
def load (files : Tree) (env : Environment) : Except SettingsError (Settings × List Log.Event) :=
  (ofFile files path).map (override env)

end Settings

end GuildModeration
