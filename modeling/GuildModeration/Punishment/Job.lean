import GuildModeration.Evaluation
import GuildModeration.Punishment.Call

/-!
# Punishment jobs

A job punishes one message: first the corrective action, so that a log of the action still sees the
message, then its deletion, whatever became of the action. A job runs beside everything else, one
call at a time: it is either about to make its next call or it has ended, and each answer moves it
on. A call over which the job breaks down ends it on the spot. Nothing is reported before both calls
have been answered.
-/

namespace GuildModeration.Punishment

/-- All that is needed to punish one message. -/
structure Job where
  guild : GuildId
  channel : ChannelId
  message : MessageId
  user : UserId
  decision : Decision
  mute : MuteMechanism
  deriving DecidableEq, Repr

/-- How a job ends: after its last stage, out of the order of the stages, or broken down. -/
inductive Ending where
  | finished (stage : Stage)
  | aborted (e : ActionError)
  | crashed (text : Option String)
  deriving DecidableEq, Repr

/-- Where a job is: it waits for the answer to its action or to the deletion, or it has ended. -/
inductive JobState where
  | acting (stage : Stage)
  | deleting (stage : Stage) (action : Except ActionError Unit)
  | ended (ending : Ending)

/-- What a job has done. -/
structure JobRun where
  state : JobState
  calls : List Call := []
  log : List Log.Event := []

namespace Job

/-- The reason that is given along with the action. -/
def auditReason (j : Job) : String :=
  "Automoderator: " ++ j.decision.reason

/-- The corrective action, by the severity of the decision. -/
def action (j : Job) : Call :=
  match j.decision.severity with
  | .none => .warn j.guild j.channel j.user j.auditReason
  | .mute => .mute j.guild j.user j.mute j.decision.muteMinutes j.auditReason
  | .kick => .kick j.guild j.user j.auditReason
  | .ban => .ban j.guild j.user j.auditReason

/-- The deletion of the message. -/
def deletion (j : Job) : Call :=
  .delete j.channel j.message

/-! ## Reports -/

/-- The report on the result of one call. -/
def resultEvent (j : Job) (action : String) (result : Except ActionError Unit) : Log.Event :=
  let who : List (String × Log.Value) :=
    [("guild_id", .ofId j.guild), ("user_id", .ofId j.user), ("action", .text action)]
  match result with
  | .ok () =>
    { level := .info, topic := Log.Topic.automod, message := "Automod action applied"
      fields := who ++ [("event", .word "punishment_applied")] }
  | .error e =>
    if e.isExpected then
      { level := .debug, topic := Log.Topic.automod, message := "Automod action skipped"
        fields := who ++ [("error", .text e.message)] }
    else
      { level := .error, topic := Log.Topic.error, message := "Error carrying out automod action"
        fields := who ++ [("error", .text e.message)] }

/-- The report on the end of a job that runs beside everything else. -/
def endingEvent (j : Job) : Ending → Log.Event
  | .finished stage =>
    { level := .debug, topic := Log.Topic.automod, message := "Punishment finished"
      fields := [("stage", .text stage.name)] }
  | .aborted e =>
    { level := .error, topic := Log.Topic.error, message := "Automod punishment aborted"
      fields := [("guild_id", .ofId j.guild), ("error", .text e.message)] }
  | .crashed text =>
    { level := .error, topic := Log.Topic.error
      message := "Recovered from panic applying automod punishment"
      fields := [("guild_id", .ofId j.guild), ("panic", .text (crashText text))] }

/-! ## Steps -/

/-- The job before its first call. -/
def start (_ : Job) : JobRun :=
  match Stage.evaluated.advance .actionDispatched with
  | .ok stage => { state := .acting stage }
  | .error e => { state := .ended (.aborted e) }

/-- The call that a job makes next. -/
def pending? (j : Job) : JobState → Option Call
  | .acting _ => some j.action
  | .deleting .. => some j.deletion
  | .ended _ => none

/-- The result of a call that did not break the job down. -/
def resultOf? : CallOutcome → Except (Option String) (Except ActionError Unit)
  | .succeeded => .ok (.ok ())
  | .failed e => .ok (.error e)
  | .crashed text => .error text

/-- Where a job is once its action has been answered. -/
def afterAction (stage : Stage) (result : Except ActionError Unit) : JobState :=
  match stage.advance .deleteAttempted with
  | .ok stage => .deleting stage result
  | .error e => .ended (.aborted e)

/-- How a job ends once the deletion has been answered. -/
def afterDeletion (stage : Stage) : Ending :=
  match stage.advance .done with
  | .ok stage => .finished stage
  | .error e => .aborted e

/-- Makes the next call of a job, which ends in `outcome`. -/
def step (j : Job) (r : JobRun) (outcome : CallOutcome) : JobRun :=
  match r.state, resultOf? outcome with
  | .acting _, .error text =>
    { r with state := .ended (.crashed text), calls := r.calls ++ [j.action] }
  | .deleting .., .error text =>
    { r with state := .ended (.crashed text), calls := r.calls ++ [j.deletion] }
  | .acting stage, .ok result =>
    { r with state := afterAction stage result, calls := r.calls ++ [j.action] }
  | .deleting stage action, .ok result =>
    { state := .ended (afterDeletion stage)
      calls := r.calls ++ [j.deletion]
      log := r.log ++ [j.resultEvent j.decision.severity.action action,
        j.resultEvent "delete_message" result] }
  | .ended _, _ => r

/-- Makes the next call of a job, if there is one, and answers it by `respond`. -/
def stepWith (respond : Call → CallOutcome) (j : Job) (r : JobRun) : JobRun :=
  match j.pending? r.state with
  | some call => j.step r (respond call)
  | none => r

/-- A job from its start to its end; it never makes more than two calls. -/
def run (j : Job) (respond : Call → CallOutcome) : JobRun :=
  j.stepWith respond (j.stepWith respond j.start)

/-- What a job that runs beside everything else leaves in the log, its end included. -/
def fullLog (j : Job) (r : JobRun) : List Log.Event :=
  match r.state with
  | .ended ending => r.log ++ [j.endingEvent ending]
  | _ => r.log

end Job

namespace JobRun

/-- How the job ended, if it has. -/
def ending? (r : JobRun) : Option Ending :=
  match r.state with
  | .ended ending => some ending
  | _ => none

end JobRun

end GuildModeration.Punishment
