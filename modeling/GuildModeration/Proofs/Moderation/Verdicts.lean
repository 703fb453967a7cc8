import GuildModeration.Proofs.Moderation.Checks

/-!
# Verdicts and what they stand for

Messages are checked one after the other, and between two checks anything may happen to the cache,
to the store behind it, to the clocks and to what rules share. Each check leaves a record: the
moderator before and after it, the outcome, and the reports. The verdict tells all that the check
has done, and the counters of a guild are the numbers of its verdicts.

A check that waits for its policy may see passes of the maintenance, which drop idle windows. The
engine is therefore compared with what it was once the policy was there, `CheckRecord.waited`; if
the maintenance is not at work, that is the engine as it was before.
-/

namespace GuildModeration

open GuildModeration.Punishment

/-- A message that arrives, what is known of its channel and its sender, and how the chat service
answers the calls that come of it. -/
structure Arrival where
  message : Message
  channel : Option Channel
  member : Member
  respond : Call → CallOutcome

/-- What can happen to a moderator. -/
inductive Occurrence where
  /-- A message is checked. -/
  | check (a : Arrival)
  /-- Something else happens to the cache with its store, to what rules share, and to the time. -/
  | change (timeline : Timeline → Timeline) (state : RuleState → RuleState) (wallClock : Int)

/-- The message that is checked, if one is. -/
def Occurrence.arrival? : Occurrence → Option Arrival
  | .check a => some a
  | .change .. => none

/-- One check of a message. -/
structure CheckRecord where
  arrival : Arrival
  before : Moderator
  outcome : Outcome
  log : List Log.Event
  after : Moderator

namespace Moderator

/-- Checks a message and keeps a record of it. -/
def recordCheck (m : Moderator) (a : Arrival) : CheckRecord :=
  let (outcome, log, after) := m.check a.respond a.message a.channel a.member
  { arrival := a, before := m, outcome, log, after }

/-- Lets things happen one after the other, and keeps the records of the checks. -/
def experience (m : Moderator) : List Occurrence → List CheckRecord × Moderator
  | [] => ([], m)
  | .check a :: rest =>
    let r := m.recordCheck a
    let (records, last) := r.after.experience rest
    (r :: records, last)
  | .change timeline state wallClock :: rest =>
    { m with
      timeline := timeline m.timeline
      engine := { m.engine with state := state m.engine.state }
      wallClock }.experience rest

end Moderator

namespace CheckRecord

/-- The message as the rules see it. -/
def context (r : CheckRecord) (channel : Channel) : MessageContext :=
  ⟨r.arrival.message, channel, r.arrival.member⟩

/-- The engine once the policy of the message was there. -/
def waited (r : CheckRecord) : Engine :=
  (r.before.passed r.after.timeline).2

/-- The calls that were made because of the message. -/
def calls (r : CheckRecord) : List Call :=
  (r.outcome.run.map (·.calls)).getD []

/-- The reports on what was counted. -/
def activities (r : CheckRecord) : List Log.Event :=
  r.log.filter (·.topic == Log.Topic.analytics)

/-- The message is evaluated under a policy. -/
structure Evaluates (r : CheckRecord) (channel : Channel) (config : GuildConfig) : Prop where
  isEnabled : r.before.engine.isEnabled = true
  isEligible : r.arrival.message.isEligible r.before.self = true
  channel_eq : r.arrival.channel = some channel
  /-- The policy could be had. -/
  config_eq : (r.before.timeline.get channel.guild).1 = .ok config
  config_enabled : config.enabled = true

/-- What the rules of a policy make of the message. -/
def evaluation (r : CheckRecord) (channel : Channel) (config : GuildConfig) : EvaluationRun :=
  evaluate config (r.context channel) r.waited.state

/-- Some rule of a policy does not ignore the message. -/
def applies (r : CheckRecord) (channel : Channel) (config : GuildConfig) : Bool :=
  config.rules.any fun rule ↦ !rule.ignores channel r.arrival.message r.arrival.member

/-- What a check does, by its verdict. -/
inductive Case (r : CheckRecord) : Prop where
  | skipped (outcome : r.outcome = { verdict := .skipped })
      (not_evaluates : ∀ channel config, ¬ r.Evaluates channel config)
      (engine : r.after.engine = r.waited) (activities : r.activities = [])
  | violation {channel : Channel} {config : GuildConfig} (evaluates : r.Evaluates channel config)
      (decides : (r.evaluation channel config).evaluation.decision.shouldDelete = true)
      (outcome : r.outcome = Moderator.outcomeOf r.arrival.respond (.violation
        (Engine.jobOf config (r.context channel)
          (r.evaluation channel config).evaluation.decision)))
      (engine : r.after.engine = { r.waited with
        state := (r.evaluation channel config).state
        counters := r.waited.counters.record channel.guild .ruleTriggered })
      (activities : r.activities = [Counters.recordEvent channel.guild .ruleTriggered])
  | counted {channel : Channel} {config : GuildConfig} (evaluates : r.Evaluates channel config)
      (decides : (r.evaluation channel config).evaluation.decision.shouldDelete = false)
      (applies : r.applies channel config = true) (outcome : r.outcome = { verdict := .clean })
      (engine : r.after.engine = { r.waited with
        state := (r.evaluation channel config).state
        counters := r.waited.counters.record channel.guild .checked })
      (activities : r.activities = [Counters.recordEvent channel.guild .checked])
  | ignored {channel : Channel} {config : GuildConfig} (evaluates : r.Evaluates channel config)
      (decides : (r.evaluation channel config).evaluation.decision.shouldDelete = false)
      (applies : r.applies channel config = false) (outcome : r.outcome = { verdict := .clean })
      (engine : r.after.engine = { r.waited with state := (r.evaluation channel config).state })
      (activities : r.activities = [])

theorem filter_analytics {log : List Log.Event}
    (h : ∀ event ∈ log, event.topic = Log.Topic.automod) :
    log.filter (·.topic == Log.Topic.analytics) = [] := by
  refine List.filter_eq_nil_iff.mpr fun event hevent ↦ ?_
  rw [h event hevent]
  decide

theorem filter_evaluation (config : GuildConfig) (c : MessageContext) (state : RuleState) :
    (evaluate config c state).log.filter (·.topic == Log.Topic.analytics) = [] := by
  refine filter_analytics fun event hevent ↦ ?_
  obtain ⟨rule, -, e, rfl⟩ := mem_evaluateRules_log hevent
  rfl

theorem case_of_error {m : Moderator} {a : Arrival} {log : List Log.Event}
    (h : m.engine.accept m.self a.message a.channel = .error log) : (m.recordCheck a).Case := by
  have hr : m.recordCheck a =
      { arrival := a, before := m, outcome := { verdict := .skipped }, log, after := m } := by
    rw [Moderator.recordCheck, Moderator.check_of_error h]
  rw [hr]
  refine .skipped rfl (fun channel config hev ↦ ?_) ?_ (filter_analytics (Engine.accept_log h))
  · -- a message that is evaluated would have been accepted
    have hok := Engine.accept_eq_ok_iff.mpr ⟨hev.isEnabled, hev.isEligible, hev.channel_eq⟩
    rw [h] at hok
    cases hok
  · rw [waited, Moderator.passed_self]

/-- The record of a message that is looked at, by what its judgement came to. -/
theorem recordCheck_of_ok {m : Moderator} {a : Arrival} {c : Channel}
    (h : m.engine.accept m.self a.message a.channel = .ok c) {checked : Checked}
    (hchecked : (m.passed (m.timeline.get c.guild).2).2.conclude (m.timeline.get c.guild).1
      ⟨a.message, c, a.member⟩ = checked) :
    m.recordCheck a =
      { arrival := a
        before := m
        outcome := Moderator.outcomeOf a.respond checked.verdict
        log := (m.passed (m.timeline.get c.guild).2).1 ++ checked.log
        after := { m with timeline := (m.timeline.get c.guild).2, engine := checked.engine } } := by
  rw [Moderator.recordCheck, Moderator.check_of_ok h, hchecked]

theorem case_of_missing {m : Moderator} {a : Arrival} {c : Channel}
    (h : m.engine.accept m.self a.message a.channel = .ok c) {e : StoreError}
    (hgot : (m.timeline.get c.guild).1 = .error e) : (m.recordCheck a).Case := by
  have hlog := filter_analytics (m.passed_log (m.timeline.get c.guild).2)
  obtain ⟨-, -, hchannel⟩ := Engine.accept_eq_ok_iff.mp h
  rw [recordCheck_of_ok h (by rw [hgot, Engine.conclude])]
  -- the channel is the only one that the message could be evaluated in
  refine .skipped rfl (fun channel config hev ↦ ?_) rfl ?_
  · obtain rfl := Option.some.inj (hchannel.symm.trans hev.channel_eq)
    have hconfig := hgot.symm.trans hev.config_eq
    cases hconfig
  · rw [activities, List.filter_append, hlog]
    rfl

theorem case_of_disabled {m : Moderator} {a : Arrival} {c : Channel}
    (h : m.engine.accept m.self a.message a.channel = .ok c) {config : GuildConfig}
    (hgot : (m.timeline.get c.guild).1 = .ok config) (hoff : config.enabled = false) :
    (m.recordCheck a).Case := by
  have hlog := filter_analytics (m.passed_log (m.timeline.get c.guild).2)
  obtain ⟨-, -, hchannel⟩ := Engine.accept_eq_ok_iff.mp h
  rw [recordCheck_of_ok h (by rw [hgot, Engine.conclude, Engine.judge_of_disabled _ hoff])]
  refine .skipped rfl (fun channel other hev ↦ ?_) rfl ?_
  · obtain rfl := Option.some.inj (hchannel.symm.trans hev.channel_eq)
    obtain rfl := Except.ok.inj (hgot.symm.trans hev.config_eq)
    exact Bool.false_ne_true (hoff.symm.trans hev.config_enabled)
  · rw [activities, List.filter_append, hlog]
    rfl

theorem case_of_enabled {m : Moderator} {a : Arrival} {c : Channel}
    (h : m.engine.accept m.self a.message a.channel = .ok c) {config : GuildConfig}
    (hgot : (m.timeline.get c.guild).1 = .ok config) (hon : config.enabled = true) :
    (m.recordCheck a).Case := by
  have hlog := filter_analytics (m.passed_log (m.timeline.get c.guild).2)
  obtain ⟨henabled, heligible, hchannel⟩ := Engine.accept_eq_ok_iff.mp h
  have hjudge := Engine.judge_of_enabled (m.passed (m.timeline.get c.guild).2).2 hon
    ⟨a.message, c, a.member⟩
  -- the three ways in which the rules can end; only counting reports to the analytics
  dsimp only at hjudge
  split at hjudge
  · next hdecides =>
    rw [recordCheck_of_ok h (by rw [hgot, Engine.conclude, hjudge])]
    refine .violation ⟨henabled, heligible, hchannel, hgot, hon⟩ hdecides rfl rfl ?_
    rw [activities, List.filter_append, List.filter_append, hlog, filter_evaluation]
    rfl
  · next hdecides =>
    rw [Bool.not_eq_true] at hdecides
    split at hjudge
    · next happlies =>
      rw [recordCheck_of_ok h (by rw [hgot, Engine.conclude, hjudge])]
      refine .counted ⟨henabled, heligible, hchannel, hgot, hon⟩ hdecides happlies rfl rfl ?_
      rw [activities, List.filter_append, List.filter_append, hlog, filter_evaluation]
      rfl
    · next happlies =>
      rw [Bool.not_eq_true] at happlies
      rw [recordCheck_of_ok h (by rw [hgot, Engine.conclude, hjudge])]
      refine .ignored ⟨henabled, heligible, hchannel, hgot, hon⟩ hdecides happlies rfl rfl ?_
      rw [activities, List.filter_append, hlog, filter_evaluation]
      rfl

/-- Every check is one of the cases. -/
theorem case_recordCheck (m : Moderator) (a : Arrival) : (m.recordCheck a).Case := by
  cases h : m.engine.accept m.self a.message a.channel with
  | error log => exact case_of_error h
  | ok c =>
    cases hgot : (m.timeline.get c.guild).1 with
    | error e => exact case_of_missing h hgot
    | ok config =>
      cases hon : config.enabled with
      | false => exact case_of_disabled h hgot hon
      | true => exact case_of_enabled h hgot hon

/-! ## Waiting without maintenance -/

theorem recordCheck_before (m : Moderator) (a : Arrival) : (m.recordCheck a).before = m := rfl

/-- A check is over at the timeline at which the policy was there, or where it began. -/
theorem recordCheck_timeline (m : Moderator) (a : Arrival) :
    (m.recordCheck a).after.timeline = m.timeline ∨
      ∃ guild, (m.recordCheck a).after.timeline = (m.timeline.get guild).2 := by
  cases h : m.engine.accept m.self a.message a.channel with
  | error log =>
    refine Or.inl ?_
    rw [Moderator.recordCheck, Moderator.check_of_error h]
  | ok c =>
    refine Or.inr ⟨c.guild, ?_⟩
    rw [recordCheck_of_ok h rfl]

theorem waited_of_isIdle {m : Moderator} (h : m.timeline.cache.IsIdle) (a : Arrival) :
    (m.recordCheck a).waited = m.engine := by
  have hpasses : (m.recordCheck a).after.timeline.cache.maintenance =
      m.timeline.cache.maintenance := by
    rcases recordCheck_timeline m a with heq | ⟨guild, heq⟩
    · rw [heq]
    · rw [heq, Timeline.get_maintenance h]
  rw [waited, recordCheck_before, Moderator.passed, hpasses, if_pos rfl]

/-! ## Verdicts -/

/-- The verdict of a check tells all that it has done. -/
structure Accounted (r : CheckRecord) : Prop where
  recorded : r = r.before.recordCheck r.arrival
  /-- The rules are asked exactly if the engine is on, the message is one that moderation looks at,
  its channel is known, and its policy could be had and is switched on. -/
  skipped_iff : r.outcome.verdict = .skipped ↔ ∀ channel config, ¬ r.Evaluates channel config
  /-- A message that is skipped changes neither windows nor counters, and no call is made. -/
  skipped : r.outcome.verdict = .skipped →
    r.calls = [] ∧ r.activities = [] ∧ r.after.engine = r.waited
  /-- No call is made because of a clean message, and it is counted once if some rule applied. -/
  clean : r.outcome.verdict = .clean → ∃ channel config, r.Evaluates channel config ∧
    (r.evaluation channel config).evaluation.decision.shouldDelete = false ∧ r.calls = [] ∧
    r.after.engine.state = (r.evaluation channel config).state ∧
    if r.applies channel config then
      r.activities = [Counters.recordEvent channel.guild .checked] ∧
        r.after.engine.counters = r.before.engine.counters.record channel.guild .checked
    else r.activities = [] ∧ r.after.engine.counters = r.before.engine.counters
  /-- A violation is counted once, and one job punishes it. The job is about this message in this
  channel, and the one policy that was evaluated gives both its decision and its way to mute. -/
  violation : ∀ job, r.outcome.verdict = .violation job →
    ∃ channel config, r.Evaluates channel config ∧
      (r.evaluation channel config).evaluation.decision.shouldDelete = true ∧
      job =
        { guild := channel.guild
          channel := channel.id
          message := r.arrival.message.id
          user := r.arrival.message.author.id
          decision := (r.evaluation channel config).evaluation.decision
          mute := config.mute } ∧
      r.outcome.run = some (job.run r.arrival.respond) ∧
      r.calls = (job.run r.arrival.respond).calls ∧
      r.after.engine.state = (r.evaluation channel config).state ∧
      r.activities = [Counters.recordEvent channel.guild .ruleTriggered] ∧
      r.after.engine.counters = r.before.engine.counters.record channel.guild .ruleTriggered
  /-- Nothing is counted while a message waits for its policy. -/
  waited_counters : r.waited.counters = r.before.engine.counters
  /-- Nothing at all changes meanwhile if the maintenance is not at work. -/
  waited_eq : r.before.timeline.cache.IsIdle → r.waited = r.before.engine

theorem Case.skipped_iff {r : CheckRecord} (hcase : r.Case) :
    r.outcome.verdict = .skipped ↔ ∀ channel config, ¬ r.Evaluates channel config := by
  cases hcase with
  | skipped outcome not_evaluates =>
    rw [outcome]
    exact iff_of_true rfl not_evaluates
  | violation evaluates _ outcome =>
    rw [outcome]
    exact iff_of_false nofun fun h ↦ h _ _ evaluates
  | counted evaluates _ _ outcome =>
    rw [outcome]
    exact iff_of_false nofun fun h ↦ h _ _ evaluates
  | ignored evaluates _ _ outcome =>
    rw [outcome]
    exact iff_of_false nofun fun h ↦ h _ _ evaluates

theorem Case.of_skipped {r : CheckRecord} (hcase : r.Case) (h : r.outcome.verdict = .skipped) :
    r.calls = [] ∧ r.activities = [] ∧ r.after.engine = r.waited := by
  cases hcase with
  | skipped outcome _ engine activities =>
    refine ⟨?_, activities, engine⟩
    rw [calls, outcome]
    rfl
  | violation _ _ outcome =>
    rw [outcome] at h
    cases h
  | counted _ _ _ outcome =>
    rw [outcome] at h
    cases h
  | ignored _ _ _ outcome =>
    rw [outcome] at h
    cases h

theorem Case.of_clean {r : CheckRecord} (hcase : r.Case) (h : r.outcome.verdict = .clean) :
    ∃ channel config, r.Evaluates channel config ∧
      (r.evaluation channel config).evaluation.decision.shouldDelete = false ∧ r.calls = [] ∧
      r.after.engine.state = (r.evaluation channel config).state ∧
      if r.applies channel config then
        r.activities = [Counters.recordEvent channel.guild .checked] ∧
          r.after.engine.counters = r.waited.counters.record channel.guild .checked
      else r.activities = [] ∧ r.after.engine.counters = r.waited.counters := by
  cases hcase with
  | skipped outcome =>
    rw [outcome] at h
    cases h
  | violation _ _ outcome =>
    rw [outcome] at h
    cases h
  | @counted channel config evaluates decides applies outcome engine activities =>
    refine ⟨channel, config, evaluates, decides, ?_, ?_, ?_⟩
    · rw [calls, outcome]
      rfl
    · rw [engine]
    · rw [if_pos applies, engine]
      exact ⟨activities, rfl⟩
  | @ignored channel config evaluates decides applies outcome engine activities =>
    refine ⟨channel, config, evaluates, decides, ?_, ?_, ?_⟩
    · rw [calls, outcome]
      rfl
    · rw [engine]
    · rw [applies, if_neg Bool.false_ne_true, engine]
      exact ⟨activities, rfl⟩

theorem Case.of_violation {r : CheckRecord} (hcase : r.Case) {job : Job}
    (h : r.outcome.verdict = .violation job) :
    ∃ channel config, r.Evaluates channel config ∧
      (r.evaluation channel config).evaluation.decision.shouldDelete = true ∧
      job = Engine.jobOf config (r.context channel)
        (r.evaluation channel config).evaluation.decision ∧
      r.outcome.run = some (job.run r.arrival.respond) ∧
      r.after.engine.state = (r.evaluation channel config).state ∧
      r.activities = [Counters.recordEvent channel.guild .ruleTriggered] ∧
      r.after.engine.counters = r.waited.counters.record channel.guild .ruleTriggered := by
  cases hcase with
  | skipped outcome =>
    rw [outcome] at h
    cases h
  | @violation channel config evaluates decides outcome engine activities =>
    rw [outcome] at h
    obtain rfl := Verdict.violation.inj h
    refine ⟨channel, config, evaluates, decides, rfl, ?_, ?_, activities, ?_⟩
    · rw [outcome]
      rfl
    · rw [engine]
    · rw [engine]
  | counted _ _ _ outcome =>
    rw [outcome] at h
    cases h
  | ignored _ _ _ outcome =>
    rw [outcome] at h
    cases h

theorem accounted_recordCheck (m : Moderator) (a : Arrival) : (m.recordCheck a).Accounted := by
  have hcase := case_recordCheck m a
  have hwaited : (m.recordCheck a).waited.counters = m.engine.counters :=
    Moderator.passed_counters _ _
  constructor
  case recorded => rfl
  case skipped_iff => exact hcase.skipped_iff
  case skipped => exact hcase.of_skipped
  case clean =>
    intro h
    have hclean := hcase.of_clean h
    rwa [hwaited] at hclean
  case violation =>
    intro job h
    obtain ⟨channel, config, evaluates, decides, hjob, hrun, hstate, hactivities, hcounters⟩ :=
      hcase.of_violation h
    refine ⟨channel, config, evaluates, decides, hjob, hrun, ?_, hstate, hactivities, ?_⟩
    · rw [calls, hrun]
      rfl
    · rw [hcounters, hwaited]
      rfl
  case waited_counters => exact hwaited
  case waited_eq => exact fun h ↦ waited_of_isIdle h a

/-! ## Counts -/

/-- The verdict is a violation in a guild. -/
def isTriggeredIn (guild : GuildId) (r : CheckRecord) : Bool :=
  match r.outcome.verdict with
  | .violation job => job.guild == guild
  | _ => false

/-- The verdict is that a message in a guild is clean, and some rule applied to it. -/
def isCheckedIn (guild : GuildId) (r : CheckRecord) : Bool :=
  match r.outcome.verdict, r.arrival.channel with
  | .clean, some channel => channel.guild == guild &&
    match (r.before.timeline.get channel.guild).1 with
    | .ok config => r.applies channel config
    | .error _ => false
  | _, _ => false

/-- One check adds its verdict to the counts. -/
theorem Case.count_eq {r : CheckRecord} (hcase : r.Case)
    (hwaited : r.waited.counters = r.before.engine.counters) (guild : GuildId) :
    r.after.engine.counters.count guild .ruleTriggered =
        r.before.engine.counters.count guild .ruleTriggered +
          (if r.isTriggeredIn guild then 1 else 0) ∧
      r.after.engine.counters.count guild .checked =
        r.before.engine.counters.count guild .checked +
          (if r.isCheckedIn guild then 1 else 0) := by
  cases hcase with
  | skipped outcome _ engine _ =>
    rw [isTriggeredIn, isCheckedIn, outcome, engine, hwaited]
    simp
  | @violation channel config evaluates _ outcome engine _ =>
    rw [isTriggeredIn, isCheckedIn, outcome, engine, Counters.count_record,
      Counters.count_record, hwaited]
    simp [Moderator.outcomeOf, Engine.jobOf, context]
  | @counted channel config evaluates _ applies outcome engine _ =>
    rw [isTriggeredIn, isCheckedIn, outcome, engine, Counters.count_record,
      Counters.count_record, hwaited]
    simp [evaluates.channel_eq, evaluates.config_eq, applies]
  | @ignored channel config evaluates _ applies outcome engine _ =>
    rw [isTriggeredIn, isCheckedIn, outcome, engine, hwaited]
    simp [evaluates.channel_eq, evaluates.config_eq, applies]

end CheckRecord

/-- All checks of a run are accounted for by their verdicts, and for every guild the run has added
the number of its violations to the one count, and the number of its clean messages to which some
rule applied to the other. -/
theorem Moderator.accounted_experience (m : Moderator) (occurrences : List Occurrence) :
    let records := (m.experience occurrences).1
    let last := (m.experience occurrences).2
    records.map (·.arrival) = occurrences.filterMap Occurrence.arrival? ∧
      (∀ r ∈ records, r.Accounted) ∧
      ∀ guild,
        last.engine.counters.count guild .ruleTriggered =
            m.engine.counters.count guild .ruleTriggered +
              records.countP (·.isTriggeredIn guild) ∧
          last.engine.counters.count guild .checked =
            m.engine.counters.count guild .checked + records.countP (·.isCheckedIn guild) := by
  induction occurrences generalizing m with
  | nil => exact ⟨rfl, by simp [experience], fun _ ↦ ⟨rfl, rfl⟩⟩
  | cons o rest ih =>
    cases o with
    | change timeline state wallClock =>
      -- what happens between two checks leaves the counters alone
      exact ih _
    | check a =>
      -- the first check by its case, the others from where it ends
      obtain ⟨harrivals, haccounted, hcounts⟩ := ih (m.recordCheck a).after
      refine ⟨congrArg (a :: ·) harrivals, ?_, fun guild ↦ ?_⟩
      · exact List.forall_mem_cons.mpr ⟨CheckRecord.accounted_recordCheck m a, haccounted⟩
      · obtain ⟨htriggered, hchecked⟩ :=
          (CheckRecord.case_recordCheck m a).count_eq (passed_counters _ _) guild
        obtain ⟨htriggered', hchecked'⟩ := hcounts guild
        rw [experience, List.countP_cons, List.countP_cons]
        refine ⟨htriggered'.trans ?_, hchecked'.trans ?_⟩
        · rw [htriggered, CheckRecord.recordCheck_before, Nat.add_assoc, Nat.add_comm (ite _ _ _)]
        · rw [hchecked, CheckRecord.recordCheck_before, Nat.add_assoc, Nat.add_comm (ite _ _ _)]

end GuildModeration
