import GuildModeration.Cache.Timeline
import GuildModeration.Engine

/-!
# Moderation over time

The engine with its cache on a clock. Checking a message waits for the policy of its guild, and for
the end of the punishment if there is one. A pass of the maintenance drops idle windows as well as
old policies; what is idle is told by the clock on the wall.
-/

namespace GuildModeration

open GuildModeration.Punishment

/-- A moderator at one moment. -/
structure Moderator where
  self : UserId
  engine : Engine := {}
  timeline : Timeline
  /-- The time on the wall, in microseconds since the start of 1970. -/
  wallClock : Int

/-- What came of a message: the verdict, and the run of the punishment with its reports. The verdict
is known before the punishment begins. -/
structure Outcome where
  verdict : Verdict
  run : Option JobRun := none
  runLog : List Log.Event := []

namespace Moderator

/-- The texts that describe the policy of a guild to its members. -/
def statusText (isEnabled : Bool) (config : GuildConfig) : String :=
  if !isEnabled then "Automod is disabled for this bot."
  else if !config.enabled then "Automod is disabled in this server."
  else if config.activeRules.isEmpty then "Automod is enabled, but no rules are active."
  else "Automod is enabled. Active rules: " ++ String.intercalate ", " config.activeRules

/-- Changes the cache and lets the engine take part in the passes of the maintenance that were made
meanwhile. -/
def live {α : Type} (m : Moderator) (f : Timeline → α × Timeline) :
    α × List Log.Event × Moderator :=
  let before := m.timeline.cache.maintenance.passes
  let (a, timeline) := f m.timeline
  if timeline.cache.maintenance.passes = before then (a, [], { m with timeline })
  else
    let (log, engine) := m.engine.pass m.wallClock
    (a, log, { m with timeline, engine })

/-- Lets everything happen that is due. -/
def settle (m : Moderator) : List Log.Event × Moderator :=
  (m.live fun t ↦ ((), t.settle)).2

/-- Checks a message; the calls of the punishment are answered by `respond`. The reports are those
that come before the punishment. -/
def check (m : Moderator) (respond : Call → CallOutcome) (message : Message)
    (channel : Option Channel) (member : Member) : Outcome × List Log.Event × Moderator :=
  match m.engine.accept m.self message channel with
  | .error log => ({ verdict := .skipped }, log, m)
  | .ok channel =>
    let (config, log, m) := m.live (·.get channel.guild)
    let checked := m.engine.conclude config ⟨message, channel, member⟩
    let m := { m with engine := checked.engine }
    match checked.verdict with
    | .violation job =>
      let run := job.run respond
      ({ verdict := checked.verdict, run := some run, runLog := job.fullLog run },
        log ++ checked.log, m)
    | verdict => ({ verdict }, log ++ checked.log, m)

/-- Describes the policy of a guild. -/
def status (m : Moderator) (guild : GuildId) :
    Except StoreError String × List Log.Event × Moderator :=
  let (config, log, m) := m.live (·.get guild)
  (config.map (statusText m.engine.isEnabled), log, m)

/-- The report on a request that found the queue full. -/
def fullQueueEvent (guild : GuildId) : Log.Event :=
  { level := .warn, topic := Log.Topic.shared
    message := s!"Invalidation queue full, invalidating guild {guild} directly" }

/-- Asks for the policy of a guild to be dropped. -/
def requestInvalidation (m : Moderator) (guild : GuildId) : Bool × List Log.Event × Moderator :=
  let (accepted, cache) := m.timeline.cache.requestInvalidation guild
  (accepted, if m.timeline.cache.maintenance.queue.isFull then [fullQueueEvent guild] else [],
    { m with timeline := { m.timeline with cache } })

end Moderator

end GuildModeration
