import GuildModeration.Proofs.Moderation.Verdicts
import GuildModeration.Proofs.Punishment.Dispatch
import Mathlib.Data.List.Induction

/-!
# Messages that are checked again

Nothing keeps track of the messages that were punished. A message that is checked again, because it
was edited or delivered twice, is judged like any other, and if it still is a violation it is
punished again. What does hold is a count: the corrective calls that are made for a message are as
many as the checks that found it to be a violation and whose punishment has begun.

The checks and the punishments are mixed in any way. A check dispatches its job at once, and the
tasks take their turns while other messages are checked.
-/

namespace GuildModeration.Punishment

/-! ## Corrective calls of one task -/

/-- The event is a call that corrects a member. -/
def TaskEvent.isCorrection : TaskEvent → Bool
  | called call => call.isCorrective
  | _ => false

/-- The action has not been answered. -/
def JobState.isActing : JobState → Bool
  | acting _ => true
  | _ => false

namespace Job

theorem isCorrective_action (j : Job) : j.action.isCorrective = true := by
  rw [action]
  split <;> rfl

theorem isActing_afterAction (stage : Stage) (result : Except ActionError Unit) :
    (afterAction stage result).isActing = false := by
  rw [afterAction]
  split <;> rfl

theorem isActing_step (j : Job) (r : JobRun) (o : CallOutcome) :
    (j.step r o).state.isActing = false := by
  rw [step]
  split
  · rfl
  · rfl
  · exact isActing_afterAction _ _
  · rfl
  · next hended =>
    rw [hended]
    rfl

end Job

namespace Task

/-- The first call of the job has been made. -/
def hasBegun (t : Task) : Bool :=
  t.isWaiting || !t.run.state.isActing

/-- A task makes a corrective call at the step with which it begins, and at no other. -/
theorem countP_step (t : Task) (o : CallOutcome) :
    (t.step o).1.countP TaskEvent.isCorrection + t.hasBegun.toNat =
      (t.step o).2.hasBegun.toNat := by
  rw [hasBegun, hasBegun, step]
  cases hstate : t.run.state with
  | acting stage =>
    cases hwaiting : t.isWaiting with
    | false =>
      simp [Job.pending?, JobState.isActing, TaskEvent.isCorrection, t.job.isCorrective_action]
    | true => simp [Job.pending?, TaskEvent.isCorrection, t.job.isActing_step]
  | deleting stage action =>
    cases hwaiting : t.isWaiting with
    | false =>
      simp [Job.pending?, JobState.isActing, TaskEvent.isCorrection, Job.deletion,
        Call.isCorrective]
    | true => simp [Job.pending?, TaskEvent.isCorrection, t.job.isActing_step]
  | ended ending =>
    cases hjoined : t.isJoined <;>
      simp [Job.pending?, JobState.isActing, TaskEvent.isCorrection, hstate]

theorem countP_play (t : Task) (os : List CallOutcome) :
    (t.play os).1.countP TaskEvent.isCorrection + t.hasBegun.toNat =
      (t.play os).2.hasBegun.toNat := by
  induction os generalizing t with
  | nil => exact Nat.zero_add _
  | cons o os ih =>
    rw [play, List.countP_append, Nat.add_right_comm, countP_step, Nat.add_comm, ih]

end Task

namespace Dispatcher

/-- The jobs that were dispatched, in order. -/
def jobs (d : Dispatcher) : List Job :=
  d.tasks.map (·.job)

/-- The event is a corrective call of a job about a message. -/
def isCorrectionFor (message : MessageId) (jobs : List Job) (x : TaskId × TaskEvent) : Bool :=
  x.2.isCorrection && (jobs[x.1]?.any (·.message == message))

/-- How many corrective calls were made for a message. -/
def corrections (d : Dispatcher) (message : MessageId) : Nat :=
  d.trace.countP (isCorrectionFor message d.jobs)

/-- The job of a task is about a message, and it has begun. -/
def hasBegunFor (message : MessageId) (t : Task) : Bool :=
  t.hasBegun && t.job.message == message

/-- The events of one task, counted for a message. -/
theorem countP_events (message : MessageId) {jobs : List Job} {id : TaskId} {job : Job}
    (h : jobs[id]? = some job) (events : List TaskEvent) :
    (events.map (id, ·)).countP (isCorrectionFor message jobs) =
      if job.message == message then events.countP TaskEvent.isCorrection else 0 := by
  rw [List.countP_map]
  split
  · next hmessage =>
    refine List.countP_congr fun event _ ↦ ?_
    simp [isCorrectionFor, h, hmessage]
  · next hmessage =>
    refine List.countP_eq_zero.mpr fun event _ ↦ ?_
    simp [isCorrectionFor, h, hmessage]

/-- Replacing an element of a list adds the new one to a count and takes the old one away. -/
theorem countP_set_add {α : Type} (p : α → Bool) {l : List α} {i : Nat} (a : α)
    (h : i < l.length) : (l.set i a).countP p + (p l[i]).toNat = l.countP p + (p a).toNat := by
  rw [List.countP_set h]
  cases hold : p l[i] with
  | false => cases p a <;> simp
  | true =>
    have hpos : 0 < l.countP p := List.countP_pos_iff.mpr ⟨l[i], List.getElem_mem h, hold⟩
    cases p a <;> simp <;> omega

/-- One turn changes the two counts alike. -/
theorem corrections_step {d : Dispatcher} (hlt : ∀ x ∈ d.trace, x.1 < d.tasks.length)
    {message : MessageId} (h : d.corrections message = d.tasks.countP (hasBegunFor message))
    (turn : Turn) :
    (d.step turn).corrections message = (d.step turn).tasks.countP (hasBegunFor message) := by
  have hjobs : (d.step turn).jobs = d.jobs ++ turn.job?.toList := jobs_step d turn
  rw [corrections, hjobs]
  cases turn with
  | dispatch job =>
    -- the new task has made no call, and the calls so far keep their jobs
    have hnew : hasBegunFor message (.new job) = false := rfl
    rw [step, List.countP_append, List.countP_singleton, hnew, ← h]
    refine List.countP_congr fun x hx ↦ ?_
    have hx' : x.1 < d.jobs.length := by simpa [jobs] using hlt x hx
    rw [isCorrectionFor, isCorrectionFor, List.getElem?_append_left hx']
  | move id outcome =>
    rw [Turn.job?, Option.toList_none, List.append_nil]
    cases hfind : d.tasks[id]? with
    | none =>
      rw [step_move_of_none hfind]
      exact h
    | some t =>
      obtain ⟨hid, rfl⟩ := List.getElem?_eq_some_iff.mp hfind
      have hjob : d.jobs[id]? = some d.tasks[id].job := by simp [jobs, hfind]
      have hset := countP_set_add (hasBegunFor message) (d.tasks[id].step outcome).2 hid
      have hcount := d.tasks[id].countP_step outcome
      rw [corrections] at h
      rw [step_move hfind]
      dsimp only
      rw [List.countP_append, countP_events message hjob, h]
      rw [hasBegunFor, hasBegunFor, Task.step_job] at hset
      by_cases hmessage : d.tasks[id].job.message == message
      · rw [hmessage, Bool.and_true, Bool.and_true] at hset
        rw [if_pos hmessage]
        omega
      · rw [Bool.not_eq_true] at hmessage
        rw [hmessage, Bool.and_false, Bool.and_false, Nat.add_right_cancel_iff] at hset
        rw [hmessage, if_neg Bool.false_ne_true, hset, Nat.add_zero]

/-- The corrective calls for a message are as many as the tasks that have begun for it. -/
theorem corrections_run (turns : List Turn) (message : MessageId) :
    (run {} turns).corrections message = (run {} turns).tasks.countP (hasBegunFor message) := by
  induction turns using List.reverseRecOn with
  | nil => rfl
  | append_singleton turns turn ih =>
    rw [run_append]
    exact corrections_step (trace_lt turns) ih turn

/-- A task makes one corrective call, when it begins. -/
theorem countP_traceOf (turns : List Turn) (id : TaskId) :
    ((run {} turns).traceOf id).countP TaskEvent.isCorrection =
      ((run {} turns).tasks[id]?.map (·.hasBegun.toNat)).getD 0 := by
  refine run_induction (P := fun d ↦ (d.traceOf id).countP TaskEvent.isCorrection =
    (d.tasks[id]?.map (·.hasBegun.toNat)).getD 0) ?_ rfl turns
  intro d turn h
  cases hfind : d.tasks[id]? with
  | some t =>
    -- the turn means to the task what it means to the task alone
    obtain ⟨hfind', htrace⟩ := step_task hfind turn
    rw [hfind, Option.map_some, Option.getD_some] at h
    rw [hfind', htrace, List.countP_append, h, Option.map_some, Option.getD_some, Nat.add_comm]
    exact t.countP_play _
  | none =>
    rw [hfind] at h
    cases turn with
    | dispatch job =>
      have hnew : ((d.tasks ++ [Task.new job])[id]?.map (·.hasBegun.toNat)).getD 0 = 0 := by
        rw [List.getElem?_append_right (List.getElem?_eq_none_iff.mp hfind)]
        cases id - d.tasks.length <;> rfl
      exact h.trans hnew.symm
    | move i outcome =>
      cases hfind' : d.tasks[i]? with
      | none =>
        rw [step_move_of_none hfind', hfind]
        exact h
      | some other =>
        have hne : i ≠ id := by
          rintro rfl
          rw [hfind] at hfind'
          cases hfind'
        rw [step_move hfind', traceOf_append, if_neg hne, List.append_nil]
        dsimp only
        rw [List.getElem?_set_ne hne, hfind]
        exact h

end Dispatcher

end GuildModeration.Punishment

namespace GuildModeration

open GuildModeration.Punishment

/-! ## Checks and punishments mixed -/

/-- What can happen while messages are checked and punished. -/
inductive DutyEvent where
  /-- A message is checked, or something happens between two checks. -/
  | occur (o : Occurrence)
  /-- The task of a punishment does the next thing. -/
  | move (id : TaskId) (outcome : CallOutcome)

/-- What happens to the moderator, if it is not the turn of a punishment. -/
def DutyEvent.occurrence? : DutyEvent → Option Occurrence
  | occur o => some o
  | move .. => none

namespace CheckRecord

/-- The turn at which the punishment of a violation is dispatched. -/
def turns (r : CheckRecord) : List Turn :=
  (r.outcome.verdict.job?.map Turn.dispatch).toList

/-- A message was found to be a violation. -/
def isViolationOf (message : MessageId) (r : CheckRecord) : Bool :=
  r.outcome.verdict.isViolation && r.arrival.message.id == message

end CheckRecord

/-- A moderator on duty, with the records of its checks and the punishments that follow from
them. -/
structure Duty where
  moderator : Moderator
  records : List CheckRecord := []
  dispatcher : Dispatcher := {}

namespace Duty

/-- Lets one thing happen; the punishment of a violation is dispatched with the check. -/
def step (d : Duty) : DutyEvent → Duty
  | .occur o =>
    let (records, moderator) := d.moderator.experience [o]
    { moderator
      records := d.records ++ records
      dispatcher := d.dispatcher.run (records.flatMap CheckRecord.turns) }
  | .move id outcome => { d with dispatcher := d.dispatcher.step (.move id outcome) }

/-- Lets things happen one after the other. -/
def run (d : Duty) (events : List DutyEvent) : Duty :=
  events.foldl step d

end Duty

/-! ## The checks of a run -/

namespace Moderator

theorem experience_append (m : Moderator) (os more : List Occurrence) :
    m.experience (os ++ more) =
      ((m.experience os).1 ++ ((m.experience os).2.experience more).1,
        ((m.experience os).2.experience more).2) := by
  induction os generalizing m with
  | nil => rfl
  | cons o os ih =>
    cases o with
    | check a =>
      rw [List.cons_append, experience, ih]
      rfl
    | change timeline state wallClock => exact ih _

theorem accounted_of_mem {m : Moderator} {os : List Occurrence} {r : CheckRecord}
    (h : r ∈ (m.experience os).1) : r.Accounted := by
  induction os generalizing m with
  | nil => cases h
  | cons o os ih =>
    cases o with
    | check a =>
      rcases List.mem_cons.mp h with rfl | h
      · exact CheckRecord.accounted_recordCheck m a
      · exact ih h
    | change timeline state wallClock => exact ih h

end Moderator

namespace CheckRecord

/-- A violation dispatches one job, and the job is about the message that was checked. -/
theorem Accounted.any_job? {r : CheckRecord} (h : r.Accounted) (message : MessageId) :
    (r.outcome.verdict.job?.map (·.message == message)).getD false = r.isViolationOf message := by
  rw [isViolationOf]
  cases hverdict : r.outcome.verdict with
  | skipped => rfl
  | clean => rfl
  | violation job =>
    obtain ⟨channel, config, -, -, rfl, -⟩ := h.violation job hverdict
    exact (Bool.true_and _).symm

theorem dispatched_turns (records : List CheckRecord) :
    dispatched (records.flatMap turns) = records.filterMap (·.outcome.verdict.job?) := by
  induction records with
  | nil => rfl
  | cons r records ih =>
    have hrest : dispatched ((r :: records).flatMap turns) =
        dispatched r.turns ++ dispatched (records.flatMap turns) := by
      rw [List.flatMap_cons]
      exact List.filterMap_append
    rw [hrest, ih, turns, List.filterMap_cons]
    cases r.outcome.verdict.job? <;> rfl

end CheckRecord

namespace Duty

/-- The punishments leave the checks alone, and every violation has dispatched its job. -/
theorem run_eq (m : Moderator) (events : List DutyEvent) :
    let d := run { moderator := m } events
    (d.records, d.moderator) = m.experience (events.filterMap DutyEvent.occurrence?) ∧
      ∃ turns, d.dispatcher = Dispatcher.run {} turns ∧
        dispatched turns = d.records.filterMap (·.outcome.verdict.job?) := by
  induction events using List.reverseRecOn with
  | nil => exact ⟨rfl, [], rfl, rfl⟩
  | append_singleton events event ih =>
    obtain ⟨hchecks, turns, hdispatcher, hjobs⟩ := ih
    rw [run, List.foldl_append, ← run, List.filterMap_append]
    cases event with
    | occur o =>
      constructor
      · rw [Moderator.experience_append, ← hchecks]
        rfl
      · let records := ((run { moderator := m } events).moderator.experience [o]).1
        refine ⟨turns ++ records.flatMap CheckRecord.turns, ?_, ?_⟩
        · rw [Dispatcher.run_append, ← hdispatcher]
          rfl
        · rw [dispatched, List.filterMap_append, ← dispatched, ← dispatched, hjobs,
            CheckRecord.dispatched_turns, ← List.filterMap_append]
          rfl
    | move id outcome =>
      refine ⟨?_, turns ++ [.move id outcome], ?_, ?_⟩
      · rw [Moderator.experience_append, ← hchecks]
        exact Prod.ext (List.append_nil _).symm rfl
      · rw [Dispatcher.run_append, ← hdispatcher]
        rfl
      · rw [dispatched, List.filterMap_append, ← dispatched, hjobs]
        exact List.append_nil _

/-- However checks and punishments are mixed: a punishment makes at most one corrective call, and
the corrective calls that are made for a message are never more than the checks that found it to be
a violation, and as many once the punishments of it have begun. Whether a message was checked
before makes no difference. -/
theorem corrections_le (m : Moderator) (events : List DutyEvent) (message : MessageId) :
    let d := run { moderator := m } events
    let violations := d.records.countP (·.isViolationOf message)
    d.records = (m.experience (events.filterMap DutyEvent.occurrence?)).1 ∧
      (∀ id, (d.dispatcher.traceOf id).countP TaskEvent.isCorrection ≤ 1) ∧
      d.dispatcher.corrections message ≤ violations ∧
      ((∀ t ∈ d.dispatcher.tasks, t.job.message = message → t.hasBegun = true) →
        d.dispatcher.corrections message = violations) := by
  intro d violations
  obtain ⟨hchecks, turns, hdispatcher, hjobs⟩ := run_eq m events
  obtain ⟨hrecords, -⟩ := Prod.mk.inj hchecks
  have hcount : d.dispatcher.corrections message =
      d.dispatcher.tasks.countP (Dispatcher.hasBegunFor message) := by
    rw [hdispatcher]
    exact Dispatcher.corrections_run turns message
  -- the tasks for the message are the violations that were found
  have hviolations : d.dispatcher.tasks.countP (·.job.message == message) = violations :=
    calc d.dispatcher.tasks.countP (·.job.message == message)
      _ = (d.dispatcher.tasks.map (·.job)).countP (·.message == message) := by
        rw [List.countP_map]
        rfl
      _ = (d.records.filterMap (·.outcome.verdict.job?)).countP (·.message == message) := by
        rw [hdispatcher, Dispatcher.jobs_run {} turns, hjobs]
        rfl
      _ = violations := by
        rw [List.countP_filterMap]
        refine List.countP_congr fun r hr ↦ ?_
        rw [hrecords] at hr
        rw [(Moderator.accounted_of_mem hr).any_job? message]
  refine ⟨hrecords, fun id ↦ ?_, ?_, fun hbegun ↦ ?_⟩
  · rw [hdispatcher, Dispatcher.countP_traceOf]
    cases (Dispatcher.run {} turns).tasks[id]? with
    | none => exact Nat.zero_le 1
    | some t => exact t.hasBegun.toNat_le
  · rw [hcount, ← hviolations]
    refine List.countP_mono_left fun t _ ht ↦ ?_
    exact (Bool.and_eq_true_iff.mp ht).2
  · rw [hcount, ← hviolations]
    refine List.countP_congr fun t ht ↦ ?_
    rw [Dispatcher.hasBegunFor, Bool.and_eq_true]
    exact ⟨And.right, fun h ↦ ⟨hbegun t ht (beq_iff_eq.mp h), h⟩⟩

/-- A policy under which whoever mentions somebody is kicked. -/
def noMentions (guild : GuildId) : GuildConfig :=
  { guild, enabled := true
    mention := { settings := { enabled := true, punishment := .kick }, threshold := 1 } }

/-- A moderator of the bot 99 over a store with one policy. -/
def moderatorUnder (config : GuildConfig) : Moderator :=
  { self := 99, wallClock := 0
    timeline :=
      { cache := { maintenance := { queue := { capacity := 1 } } }, store := .ofList [config] } }

/-- The message 3 of the user 4 in the guild 1, mentioning some users. -/
def arrivalMentioning (mentions : List UserId) : Arrival :=
  { message := { id := 3, guild := some 1, channel := 2, author := { id := 4 }, mentions }
    channel := some { id := 2, guild := 1 }, member := { user := 4 }, respond := fun _ ↦ .succeeded }

/-- A message whose mention is taken out before it is checked again: its author is kicked once. -/
theorem corrections_of_mended :
    let d := run { moderator := moderatorUnder (noMentions 1) }
      [.occur (.check (arrivalMentioning [5])), .move 0 .succeeded,
        .occur (.check (arrivalMentioning []))]
    (∀ t ∈ d.dispatcher.tasks, t.job.message = 3 → t.hasBegun = true) ∧
      d.records.countP (·.isViolationOf 3) = 1 ∧ d.dispatcher.corrections 3 = 1 := by
  intro d
  have hbegun : ∀ t ∈ d.dispatcher.tasks, t.job.message = 3 → t.hasBegun = true := by
    decide +kernel
  have hviolations : d.records.countP (·.isViolationOf 3) = 1 := by decide +kernel
  obtain ⟨-, -, -, heq⟩ := corrections_le (moderatorUnder (noMentions 1)) _ 3
  exact ⟨hbegun, hviolations, (heq hbegun).trans hviolations⟩

/-- A message that is checked twice with its mention: its author is kicked twice. -/
theorem corrections_of_checked_twice :
    let d := run { moderator := moderatorUnder (noMentions 1) }
      [.occur (.check (arrivalMentioning [5])), .occur (.check (arrivalMentioning [5])),
        .move 0 .succeeded, .move 1 .succeeded]
    ¬ d.dispatcher.corrections 3 ≤ 1 := by
  decide +kernel

end Duty

end GuildModeration
