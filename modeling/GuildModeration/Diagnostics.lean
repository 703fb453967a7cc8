import GuildModeration.Calendar
import GuildModeration.Engine
import GuildModeration.Settings

/-!
# Diagnostic texts

One-line summaries of the parts that keep state, for whoever has to find out what a running
moderator is doing. A summary that leaves parts out says so by two dots.
-/

namespace GuildModeration.Diagnostics

open GuildModeration.Text

/-- Named parts in braces. -/
def record (name : String) (fields : List (String × String)) (isComplete : Bool) : String :=
  let parts := fields.map fun (field, value) ↦ s!"{field}: {value}"
  let parts := if isComplete then parts else parts ++ [".."]
  name ++ " \x7b " ++ String.intercalate ", " parts ++ " \x7d"

/-- The summary of a cache. -/
def cache (c : ConfigCache) : String :=
  record "ConfigCache" [("entries", toString c.size), ("ttl", duration c.ttl),
    ("capacity", toString c.capacity)] false

/-- The summary of one window of recent messages with its key. -/
def window (key : Spam.WindowKey) (w : Spam.Window) : String :=
  let sightings := w.map fun t ↦ s!"({(Moment.ofMicros t.sentAt).text}, {t.message})"
  s!"({key.guild}, {key.channel}, {key.user}): [" ++ String.intercalate ", " sightings ++ "]"

/-- The summary of the windows of recent messages. -/
def tracker (t : Spam.Tracker) : String :=
  let windows := t.windows.entries.map fun (key, w) ↦ window key w
  record "SpamTracker"
    [("windows", "\x7b" ++ String.intercalate ", " windows ++ "\x7d")] true

/-- The summary of what rules share. -/
def ruleState (s : RuleState) : String :=
  record "RuleState" [("spam", tracker s.spam)] false

/-- The summary of an engine with its cache. -/
def engine (e : Engine) (c : ConfigCache) : String :=
  record "Automod" [("enabled", toString e.isEnabled), ("cache", cache c),
    ("state", ruleState e.state)] false

/-- The summary of the settings. -/
def settings (s : Settings) : String :=
  record "AutomodSettings" [("enabled", toString s.enabled), ("config_dir", quoted s.configDir),
    ("cache_ttl_secs", toString s.cacheTtl), ("cache_capacity", toString s.cacheCapacity),
    ("reap_interval_secs", toString s.reapInterval),
    ("invalidation_buffer", toString s.invalidationBuffer)] true

/-- The summary of what commands can reach. -/
def shared (e : Engine) (c : ConfigCache) (s : Settings) : String :=
  record "Data" [("automod", engine e c), ("settings", settings s)] false

end GuildModeration.Diagnostics
