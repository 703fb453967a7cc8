import GuildModeration.Cache.Clock
import GuildModeration.Cache.Maintenance
import GuildModeration.Log.Output
import GuildModeration.Settings
import GuildModeration.Store.Directory

/-!
# Start of the program

Everything between the launch and the first contact with the chat service: the settings are read,
the policies that are there are put into the cache, and the maintenance of the cache begins. A start
can end in three ways. What is missing or malformed ends it with a report; limits that cannot be met
break it down.
-/

namespace GuildModeration

open GuildModeration.Files

/-- The named values from outside that matter. -/
def Settings.variables : List String :=
  ["RUST_LOG", "DISCORD_TOKEN", "AUTOMOD_CONFIG_DIR", "AUTOMOD_CACHE_TTL_SECS",
    "AUTOMOD_CACHE_CAPACITY", "AUTOMOD_ENABLED"]

/-- Why a start ended with a report. -/
inductive StartupError where
  | settings (cause : SettingsError)
  /-- Nobody said with which token to turn to the chat service. -/
  | missingToken
  | store (cause : StoreError)
  deriving DecidableEq, Repr

/-- The wording of a failure. -/
def StartupError.message : StartupError → String
  | settings cause => cause.message
  | missingToken => "DISCORD_TOKEN must be set"
  | store cause => cause.message

/-- The program once it has started. -/
structure Program where
  settings : Settings
  token : String
  store : DirectoryStore
  cache : MaintainedCache

/-- How a start ended. -/
inductive Startup where
  | started (p : Program)
  | failed (e : StartupError)
  | crashed (text : String)

namespace Startup

/-- The largest queue that there can be. -/
def maxBuffer : Nat := Nat.pow 2 61 - 1

/-- The breakdown of a queue that cannot be made, if it is one. -/
def queueBreakdown? (capacity : Nat) : Option String :=
  if capacity = 0 then some "mpsc bounded channel requires buffer > 0"
  else if maxBuffer < capacity then
    some s!"a semaphore may not have more than MAX_PERMITS permits ({maxBuffer})"
  else none

/-- The report on policies that were put into the cache. -/
def preloadedEvent (n : Nat) (dir : String) : Log.Event :=
  { level := .info, topic := Log.Topic.program
    message := s!"Preloaded {n} automod config(s) from {dir}" }

/-- The report on a failure. -/
def failedEvent (e : StartupError) : Log.Event :=
  { level := .error, topic := Log.Topic.program, message := s!"Error: {e.message}" }

/-- Puts the policies of all known guilds into the cache, if moderation is on. -/
def preload (s : Settings) (store : DirectoryStore) (guilds : List GuildId) (now : Nat) :
    Except String (ConfigCache × List Log.Event) :=
  let cache : ConfigCache := { ttl := s.cacheTtlMs, limit := s.cacheCapacity.toNat }
  if s.enabled then
    (cache.warmWithin store.load now guilds).map fun (n, cache) ↦
      (cache, [preloadedEvent n s.configDir])
  else .ok (cache, [])

/-- Starts the maintenance of the cache. -/
def maintain (s : Settings) (cache : ConfigCache) (now : Nat) : Except String MaintainedCache :=
  match queueBreakdown? s.invalidationBuffer.toNat with
  | some text => .error text
  | none =>
    let idle : MaintainedCache :=
      { shared := { cache }
        maintenance := { queue := { capacity := s.invalidationBuffer.toNat } } }
    .ok (idle.start now s.reapIntervalMs)

/-- Starts the program with its settings, at a moment of the clock. -/
def ofSettings (s : Settings) (token : Option String) (files : Tree) (now : Nat) :
    Startup × List Log.Event :=
  match token with
  | none => (failed .missingToken, [])
  | some token =>
    let store : DirectoryStore := ⟨s.configDir, files⟩
    match store.knownGuilds with
    | .error e => (failed (.store e), [])
    | .ok guilds =>
      match preload s store guilds now with
      | .error text => (crashed text, [])
      | .ok (cache, log) =>
        match maintain s cache now with
        | .error text => (crashed text, log)
        | .ok cache => (started { settings := s, token, store, cache }, log)

/-- Starts the program, at a moment of the clock. -/
def run (files : Tree) (env : Settings.Environment) (now : Nat) : Startup × List Log.Event :=
  let (startup, log) :=
    match Settings.load files env with
    | .error e => (failed (.settings e), [])
    | .ok (s, log) =>
      let (startup, more) := ofSettings s (env.lookup "DISCORD_TOKEN") files now
      (startup, log ++ more)
  let report := match startup with
    | failed e => [failedEvent e]
    | _ => []
  (startup, Log.openedEvent :: log ++ report)

/-- The code that the program exits with, unless it goes on. A failure that was reported is no
failure of the program. -/
def exitCode : Startup → Nat
  | crashed _ => 101
  | _ => 0

/-- What the program complains about. -/
def complaint? : Startup → Option String
  | failed e => some s!"Error: {e.message}"
  | _ => none

end Startup

end GuildModeration
