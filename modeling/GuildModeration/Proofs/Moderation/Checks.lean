import GuildModeration.Moderator
import GuildModeration.Proofs.Evaluation
import GuildModeration.Proofs.Cache.Idle

/-!
# What a check of a message can do

A check ends early for one of five reasons, or it asks the rules under one policy. What it does in
either case is said once, for the judgement under a policy and then for the check as a whole; the
rest of the theory reads off `CheckRecord.Case` and takes no check apart.

The maintenance may make passes while a check waits for the policy. A pass drops idle windows, which
is all that a check may find changed beside what it does itself.
-/

namespace GuildModeration

open GuildModeration.Punishment

/-! ## Judging -/

namespace Engine

theorem accept_eq_ok_iff {e : Engine} {self : UserId} {m : Message} {channel : Option Channel}
    {c : Channel} : e.accept self m channel = .ok c ↔
      e.isEnabled = true ∧ m.isEligible self = true ∧ channel = some c := by
  unfold accept
  cases e.isEnabled with
  | false => simp
  | true =>
    cases m.isEligible self with
    | false => simp
    | true => cases channel <;> simp

theorem accept_log {e : Engine} {self : UserId} {m : Message} {channel : Option Channel}
    {log : List Log.Event} (h : e.accept self m channel = .error log) :
    ∀ event ∈ log, event.topic = Log.Topic.automod := by
  unfold accept at h
  split at h
  · rw [← Except.error.inj h]
    simp
  · cases channel with
    | none =>
      rw [← Except.error.inj h]
      simp [unknownChannelEvent]
    | some c => cases h

theorem judge_of_disabled (e : Engine) {config : GuildConfig} (h : config.enabled = false)
    (c : MessageContext) : e.judge config c = { verdict := .skipped, engine := e } := by
  rw [judge, h]
  rfl

/-- Under a policy that is switched on the rules are asked. A violation is counted and punished;
otherwise the message is counted if some rule applied to it. -/
theorem judge_of_enabled (e : Engine) {config : GuildConfig} (h : config.enabled = true)
    (c : MessageContext) :
    let run := evaluate config c e.state
    let applies := config.rules.any fun rule ↦ !rule.ignores c.channel c.message c.member
    e.judge config c =
      if run.evaluation.decision.shouldDelete then
        { verdict := .violation (jobOf config c run.evaluation.decision)
          log := run.log ++ [Counters.recordEvent c.channel.guild .ruleTriggered,
            violationEvent c run.evaluation.decision]
          engine :=
            { e with
              state := run.state, counters := e.counters.record c.channel.guild .ruleTriggered } }
      else if applies then
        { verdict := .clean
          log := run.log ++ [Counters.recordEvent c.channel.guild .checked]
          engine :=
            { e with state := run.state, counters := e.counters.record c.channel.guild .checked } }
      else { verdict := .clean, log := run.log, engine := { e with state := run.state } } := by
  intro run applies
  have hdid : run.evaluation.didCheck = applies := evaluateRules_didCheck _ _ _
  rw [judge, h, ← hdid]
  rfl

theorem pass_log (e : Engine) (time : Int) :
    ∀ event ∈ (e.pass time).1, event.topic = Log.Topic.automod := by
  intro event h
  rw [pass] at h
  dsimp only at h
  split at h
  · cases h
  · rw [List.mem_singleton.mp h]
    rfl

end Engine

/-! ## Waiting for a policy -/

namespace Moderator

/-- What the engine has done about the passes that were made on the way to a timeline. -/
def passed (m : Moderator) (t : Timeline) : List Log.Event × Engine :=
  if t.cache.maintenance.passes = m.timeline.cache.maintenance.passes then ([], m.engine)
  else m.engine.pass m.wallClock

theorem live_eq {α : Type} (m : Moderator) (f : Timeline → α × Timeline) :
    m.live f = ((f m.timeline).1, (m.passed (f m.timeline).2).1,
      { m with timeline := (f m.timeline).2, engine := (m.passed (f m.timeline).2).2 }) := by
  rw [live, passed]
  dsimp only
  split <;> rfl

theorem passed_self (m : Moderator) : m.passed m.timeline = ([], m.engine) :=
  if_pos rfl

theorem passed_log (m : Moderator) (t : Timeline) :
    ∀ event ∈ (m.passed t).1, event.topic = Log.Topic.automod := by
  rw [passed]
  split
  · simp
  · exact m.engine.pass_log m.wallClock

theorem passed_counters (m : Moderator) (t : Timeline) :
    (m.passed t).2.counters = m.engine.counters := by
  rw [passed]
  split <;> rfl

/-- The verdict with what follows from it. -/
def outcomeOf (respond : Call → CallOutcome) : Verdict → Outcome
  | .violation job =>
    { verdict := .violation job, run := some (job.run respond), runLog := job.fullLog (job.run respond) }
  | verdict => { verdict }

theorem check_of_error {m : Moderator} {message : Message} {channel : Option Channel}
    {log : List Log.Event} (h : m.engine.accept m.self message channel = .error log)
    (respond : Call → CallOutcome) (member : Member) :
    m.check respond message channel member = ({ verdict := .skipped }, log, m) := by
  rw [check, h]

theorem check_of_ok {m : Moderator} {message : Message} {channel : Option Channel} {c : Channel}
    (h : m.engine.accept m.self message channel = .ok c) (respond : Call → CallOutcome)
    (member : Member) :
    let got := m.timeline.get c.guild
    let checked := (m.passed got.2).2.conclude got.1 ⟨message, c, member⟩
    m.check respond message channel member =
      (outcomeOf respond checked.verdict, (m.passed got.2).1 ++ checked.log,
        { m with timeline := got.2, engine := checked.engine }) := by
  intro got checked
  rw [check, h]
  dsimp only
  rw [live_eq]
  change (match checked.verdict with
    | .violation job => _
    | verdict => _) = _
  cases hverdict : checked.verdict <;> rfl

end Moderator

end GuildModeration
