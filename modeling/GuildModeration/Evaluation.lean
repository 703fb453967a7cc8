import GuildModeration.Config
import GuildModeration.Log.Event

/-!
# Evaluating a message

One message and the rules of its guild become one decision. The rules are asked in order. A rule
that does not apply is passed over, and one whose check fails is reported and passed over; every
violation adds its reason, and the first to reach the highest severity sets the length of a mute.
-/

namespace GuildModeration

/-- What to do about a message. -/
structure Decision where
  /-- Some rule was violated. -/
  shouldDelete : Bool := false
  /-- The highest severity among the violations. -/
  severity : Severity := .none
  /-- The length of a mute in minutes, from the first rule that reached the severity. -/
  muteMinutes : UInt32 := 0
  /-- The reasons of all violations, one a line. -/
  reason : String := ""
  deriving DecidableEq, Repr, Inhabited

/-- The outcome of asking the rules. -/
structure Evaluation where
  /-- Some rule applied to the message. -/
  didCheck : Bool := false
  decision : Decision := {}
  deriving DecidableEq, Repr, Inhabited

/-- Where and by whom a message was sent, as the rules see it. -/
structure MessageContext where
  message : Message
  channel : Channel
  member : Member

namespace Decision

/-- The decision with one more violation, found by a rule with the given length of a mute. Only a
higher severity replaces an earlier one. -/
def add (d : Decision) (v : Violation) (muteMinutes : UInt32) : Decision :=
  let escalates := decide (d.severity < v.severity)
  { shouldDelete := true
    severity := if escalates then v.severity else d.severity
    muteMinutes := if escalates then muteMinutes else d.muteMinutes
    reason := d.reason ++ v.reason ++ "\n" }

/-- The reason without the end of its last line. -/
def finish (d : Decision) : Decision :=
  { d with reason := if d.reason.endsWith "\n" then String.ofList d.reason.toList.dropLast
                     else d.reason }

end Decision

/-- An evaluation under way. -/
structure EvaluationRun where
  evaluation : Evaluation := {}
  state : RuleState := {}
  log : List Log.Event := []

namespace EvaluationRun

/-- The report on a rule whose check failed. -/
def failureEvent (c : MessageContext) (rule : Rule) (e : RuleError) : Log.Event :=
  { level := .warn
    topic := Log.Topic.automod
    message := "Failed checking automod rule"
    fields := [("guild_id", .ofId c.channel.guild), ("channel_id", .ofId c.channel.id),
      ("rule", .word rule.name), ("error", .text e.message)] }

/-- Asks one rule. -/
def ask (c : MessageContext) (r : EvaluationRun) (rule : Rule) : EvaluationRun :=
  if rule.ignores c.channel c.message c.member then r
  else
    let (answer, state) := rule.check c.message c.channel r.state
    match answer with
    | .error e =>
      { evaluation := { r.evaluation with didCheck := true }
        state, log := r.log ++ [failureEvent c rule e] }
    | .ok none => { r with evaluation := { r.evaluation with didCheck := true }, state }
    | .ok (some v) =>
      { r with evaluation := ⟨true, r.evaluation.decision.add v rule.muteMinutes⟩, state }

end EvaluationRun

/-- Asks the rules in order. -/
def evaluateRules (rules : List Rule) (c : MessageContext) (state : RuleState) : EvaluationRun :=
  let run := rules.foldl (EvaluationRun.ask c) { state }
  { run with evaluation := { run.evaluation with decision := run.evaluation.decision.finish } }

/-- Asks the rules of a guild. -/
def evaluate (config : GuildConfig) (c : MessageContext) (state : RuleState) : EvaluationRun :=
  evaluateRules config.rules c state

end GuildModeration
