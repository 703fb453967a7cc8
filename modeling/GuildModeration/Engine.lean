import GuildModeration.Analytics
import GuildModeration.Cache.Entries
import GuildModeration.Punishment.Job

/-!
# Checking messages

What happens to one message: whether it is looked at, which policy applies, what the rules of that
policy say, and the punishment that follows from it. A message that is not looked at changes nothing
but the cache. The punishment is a job of its own; the verdict does not wait for it.
-/

namespace GuildModeration

open GuildModeration.Punishment

/-- What became of a message. -/
inductive Verdict where
  /-- The rules were not asked. -/
  | skipped
  /-- No rule was violated. -/
  | clean
  /-- Some rule was violated, and the job punishes it. -/
  | violation (job : Job)

namespace Verdict

/-- The message was flagged, so that nothing else should be done with it. -/
def isViolation : Verdict → Bool
  | violation _ => true
  | _ => false

/-- The name of a verdict. -/
def name : Verdict → String
  | skipped => "skipped"
  | clean => "clean"
  | violation _ => "violation"

/-- The job of a violation. -/
def job? : Verdict → Option Job
  | violation job => some job
  | _ => none

end Verdict

/-- The state of moderation apart from the cache. -/
structure Engine where
  isEnabled : Bool := true
  state : RuleState := {}
  counters : Counters := {}

/-- A checked message: the verdict, what was reported, and the state after it. -/
structure Checked where
  verdict : Verdict
  log : List Log.Event := []
  engine : Engine

namespace Engine

/-! ## Reports -/

/-- The report on a message in a channel that nobody knows. -/
def unknownChannelEvent (m : Message) : Log.Event :=
  { level := .error, topic := Log.Topic.automod, message := "Channel not found in state"
    fields := [("channel_id", .ofId m.channel)] }

/-- The report on a policy that could not be had. -/
def missingConfigEvent (guild : GuildId) (e : StoreError) : Log.Event :=
  { level := .error, topic := Log.Topic.automod, message := "Failed retrieving automod config"
    fields := [("guild_id", .ofId guild), ("error", .text e.message)] }

/-- The report on a violation. -/
def violationEvent (c : MessageContext) (d : Decision) : Log.Event :=
  { level := .info, topic := Log.Topic.automod, message := "Automod rule triggered"
    fields := [("guild_id", .ofId c.channel.guild), ("channel_id", .ofId c.channel.id),
      ("message_id", .ofId c.message.id), ("user_id", .ofId c.message.author.id),
      ("severity", .text d.severity.name), ("event", .word "rule_triggered")] }

/-! ## Steps -/

/-- The channel of a message that is looked at; otherwise what is reported about it. -/
def accept (e : Engine) (self : UserId) (m : Message) (channel : Option Channel) :
    Except (List Log.Event) Channel :=
  if !e.isEnabled || !m.isEligible self then .error []
  else match channel with
    | none => .error [unknownChannelEvent m]
    | some channel => .ok channel

/-- Counts an activity and reports it. -/
def count (e : Engine) (guild : GuildId) (activity : Activity) : Log.Event × Engine :=
  (Counters.recordEvent guild activity,
    { e with counters := e.counters.record guild activity })

/-- The job that punishes a message under a policy. -/
def jobOf (config : GuildConfig) (c : MessageContext) (d : Decision) : Job :=
  { guild := c.channel.guild, channel := c.channel.id, message := c.message.id
    user := c.message.author.id, decision := d, mute := config.mute }

/-- Judges a message under a policy. -/
def judge (e : Engine) (config : GuildConfig) (c : MessageContext) : Checked :=
  if !config.enabled then { verdict := .skipped, engine := e }
  else
    let run := evaluate config c e.state
    let e := { e with state := run.state }
    let d := run.evaluation.decision
    if d.shouldDelete then
      let (event, e) := e.count c.channel.guild .ruleTriggered
      { verdict := .violation (jobOf config c d)
        log := run.log ++ [event, violationEvent c d], engine := e }
    else if run.evaluation.didCheck then
      let (event, e) := e.count c.channel.guild .checked
      { verdict := .clean, log := run.log ++ [event], engine := e }
    else { verdict := .clean, log := run.log, engine := e }

/-- Judges a message once it is known whether its policy can be had. -/
def conclude (e : Engine) (config : Except StoreError GuildConfig) (c : MessageContext) : Checked :=
  match config with
  | .error err =>
    { verdict := .skipped, log := [missingConfigEvent c.channel.guild err], engine := e }
  | .ok config => e.judge config c

/-- Checks a message when loads take no time. -/
def check (e : Engine) (cache : ConfigCache) (load : GuildId → StoreAnswer) (now : Nat)
    (self : UserId) (m : Message) (channel : Option Channel) (member : Member) :
    Checked × ConfigCache :=
  match e.accept self m channel with
  | .error log => ({ verdict := .skipped, log, engine := e }, cache)
  | .ok channel =>
    let (config, cache) := cache.get load now channel.guild
    (e.conclude config ⟨m, channel, member⟩, cache)

/-! ## Idle windows -/

/-- How long a window of recent messages may be idle, in microseconds. -/
def idleLimit : Int := 10 * 60 * 1000000

/-- The report on dropped windows. -/
def prunedEvent (n : Nat) : Log.Event :=
  { level := .debug, topic := Log.Topic.automod, message := "Pruned idle spam windows"
    fields := [("pruned", .number n)] }

/-- Drops the windows of recent messages without a message newer than `maxAge` before `time`. -/
def prune (e : Engine) (time maxAge : Int) : Nat × Engine :=
  let (n, spam) := e.state.spam.prune time maxAge
  (n, { e with state := { e.state with spam } })

/-- What a pass of the maintenance does beside the cache. -/
def pass (e : Engine) (time : Int) : List Log.Event × Engine :=
  let (n, e) := e.prune time idleLimit
  (if n = 0 then [] else [prunedEvent n], e)

end Engine

end GuildModeration
