import GuildModeration.Proofs.Punishment.Course
import GuildModeration.Service.Moderation

/-!
# Punishments that break down

A call that fails has a result, and the job goes on. A call that breaks down has none: the job ends
there, and nothing is left of it but the report on the breakdown. So the message of a job is deleted
exactly if its action was answered, which is to say, with the chat service at the other end, if none
of the numbers that the action needs is zero. Of the numbers of a job only that of the mute role is
chosen by a guild, and nothing keeps it from being zero.

A breakdown over the deletion has another price: what became of the action is not reported either.
-/

namespace GuildModeration.Service

open GuildModeration.Punishment

/-- All numbers that a call needs. -/
def idsOf (c : Call) : List (IdKind × UInt64) :=
  (neededIds c).1 ++ (neededIds c).2

theorem firstZero?_eq_none_iff {ids : List (IdKind × UInt64)} :
    firstZero? ids = none ↔ ∀ i ∈ ids, i.2 ≠ 0 := by
  rw [firstZero?, Option.map_eq_none_iff, List.find?_eq_none]
  simp

theorem exists_of_firstZero? {ids : List (IdKind × UInt64)} {text : String}
    (h : firstZero? ids = some text) : ∃ i ∈ ids, i.2 = 0 := by
  rw [firstZero?, Option.map_eq_some_iff] at h
  obtain ⟨i, hfind, -⟩ := h
  have hzero : i.2 = 0 := by simpa using List.find?_some hfind
  exact ⟨i, List.mem_of_find?_eq_some hfind, hzero⟩

/-- A request does not break down, whatever comes back. -/
theorem perform_ne_crashed {c : Call} (hfirst : firstZero? (neededIds c).1 = none)
    (hlater : firstZero? (neededIds c).2 = none) (respond : Request → Reply)
    (text : Option String) : (perform respond c).outcome ≠ .crashed text := by
  intro h
  simp only [perform, hfirst, hlater] at h
  cases hrequest : requestOf c with
  | error e =>
    rw [hrequest] at h
    cases h
  | ok request =>
    rw [hrequest] at h
    by_cases hsuccess : (respond request).isSuccess = true
    · simp only [hsuccess, if_true] at h
      cases h
    · simp only [hsuccess] at h
      cases h

/-- A call breaks down over a number of zero, and over nothing that the service answers. -/
theorem perform_ne_crashed_iff (respond : Request → Reply) (c : Call) :
    (∀ text, (perform respond c).outcome ≠ .crashed text) ↔ ∀ i ∈ idsOf c, i.2 ≠ 0 := by
  cases hfirst : firstZero? (neededIds c).1 with
  | some text =>
    obtain ⟨i, hi, hzero⟩ := exists_of_firstZero? hfirst
    have hcrashed : (perform respond c).outcome = .crashed (some text) := by
      simp only [perform, hfirst]
    exact ⟨fun h ↦ absurd hcrashed (h _),
      fun h ↦ absurd hzero (h i (List.mem_append_left _ hi))⟩
  | none =>
    cases hlater : firstZero? (neededIds c).2 with
    | some text =>
      obtain ⟨i, hi, hzero⟩ := exists_of_firstZero? hlater
      have hcrashed : (perform respond c).outcome = .crashed (some text) := by
        simp only [perform, hfirst, hlater]
      exact ⟨fun h ↦ absurd hcrashed (h _),
        fun h ↦ absurd hzero (h i (List.mem_append_right _ hi))⟩
    | none =>
      refine ⟨fun _ i hi ↦ ?_, fun _ ↦ perform_ne_crashed hfirst hlater respond⟩
      rcases List.mem_append.mp hi with hi | hi
      · exact firstZero?_eq_none_iff.mp hfirst i hi
      · exact firstZero?_eq_none_iff.mp hlater i hi

end GuildModeration.Service

namespace GuildModeration.Punishment

namespace Job

variable (j : Job) {o o' : CallOutcome}

/-- What is seen of a task from its first turn to its last, if the action of its job ends in `o` and
the deletion, where it comes to that, in `o'`. -/
def course (o o' : CallOutcome) : List TaskEvent :=
  match o with
  | .crashed text => j.cutCourse text
  | .succeeded | .failed _ => j.fullCourse o o'

/-- What such a task leaves in the log: the results of both calls, or only the breakdown. -/
def report (o o' : CallOutcome) : List Log.Event :=
  match resultOf? o, resultOf? o' with
  | .error text, _ => [j.endingEvent (.crashed text)]
  | .ok _, .error text => [j.endingEvent (.crashed text)]
  | .ok result, .ok result' =>
    [j.resultEvent j.decision.severity.action result, j.resultEvent "delete_message" result',
      j.endingEvent (.finished .done)]

theorem course_of_result {result : Except ActionError Unit} (h : resultOf? o = .ok result)
    (o' : CallOutcome) : j.course o o' = j.fullCourse o o' := by
  cases o with
  | succeeded => rfl
  | failed e => rfl
  | crashed text => cases h

theorem action_ne_deletion : j.action ≠ j.deletion := by
  rw [action]
  split <;> exact Call.noConfusion

theorem count_deletion_cutCourse (text : Option String) :
    (j.cutCourse text).count (.called j.deletion) = 0 := by
  simp [cutCourse, j.action_ne_deletion]

theorem count_deletion_fullCourse (o o' : CallOutcome) :
    (j.fullCourse o o').count (.called j.deletion) = 1 := by
  simp [fullCourse, j.action_ne_deletion]

/-- The deletion is attempted, once, if the action was answered, and else not at all. -/
theorem count_deletion_course_iff (o o' : CallOutcome) :
    (j.course o o').count (.called j.deletion) = 1 ↔ ∀ text, o ≠ .crashed text := by
  rcases crashed_or_result o with ⟨text, rfl⟩ | ⟨result, h⟩
  · have hnone : (j.course (.crashed text) o').count (.called j.deletion) = 0 :=
      j.count_deletion_cutCourse text
    rw [hnone]
    exact ⟨fun hone ↦ absurd hone Nat.zero_ne_one, fun hne ↦ absurd rfl (hne text)⟩
  · rw [j.course_of_result h, j.count_deletion_fullCourse]
    exact ⟨fun _ ↦ ne_crashed_of_result h, fun _ ↦ rfl⟩

theorem fullLog_acted (result : Except ActionError Unit) (h : resultOf? o = .ok result)
    (o' : CallOutcome) : j.fullLog (j.step (j.acted result) o') = j.report o o' := by
  rcases crashed_or_result o' with ⟨text, rfl⟩ | ⟨result', h'⟩
  · rw [step_acted_crashed, report, h]
    rfl
  · rw [j.step_acted_of_result h', report, h, h']
    rfl

end Job

namespace Task

/-- A task of five turns has taken its course and left its report; the second turn ended its action,
and the fourth the deletion. -/
theorem play_course (j : Job) (o₀ o o₂ o' o₄ : CallOutcome) (os : List CallOutcome) :
    ∃ t, (new j).play (o₀ :: o :: o₂ :: o' :: o₄ :: os) = (j.course o o', t) ∧
      t.isJoined = true ∧ t.log = j.report o o' := by
  rcases Job.crashed_or_result o with ⟨text, rfl⟩ | ⟨result, h⟩
  · exact ⟨_, play_cut j o₀ o₂ text _, rfl, rfl⟩
  · rw [j.course_of_result h]
    exact ⟨_, play_full j h o₀ o₂ o' o₄ os, rfl, j.fullLog_acted result h o'⟩

end Task

namespace Dispatcher

/-- Whatever is dispatched beside a job, five turns of its own bring it to its end, and the end is
reported; what is seen of it and what it leaves in the log follow from how its action ends. Its
message is deleted, once, exactly if the action does not break down, and with the chat service at
the other end exactly if none of the numbers that the action needs is zero. -/
theorem deletes_iff_unbroken (before after : List Turn) (job : Job)
    (hturns : 5 ≤ (outcomesOf (dispatched before).length after).length) :
    let id := (dispatched before).length
    let d := run {} (before ++ .dispatch job :: after)
    let deletions := (d.traceOf id).count (.called (.delete job.channel job.message))
    ∃ t o o', d.tasks[id]? = some t ∧ t.isJoined = true ∧
      d.traceOf id = job.course o o' ∧ t.log = job.report o o' ∧
      (deletions = 1 ↔ ∀ text, o ≠ .crashed text) ∧
      ∀ respond, o = (Service.perform respond job.action).outcome →
        (deletions = 1 ↔ ∀ i ∈ Service.idsOf job.action, i.2 ≠ 0) := by
  intro id d deletions
  obtain ⟨htask, htrace⟩ := run_dispatched before after job
  match hos : outcomesOf id after, hturns with
  | o₀ :: o :: o₂ :: o' :: o₄ :: os, _ =>
    obtain ⟨t, hplay, hjoined, hlog⟩ := Task.play_course job o₀ o o₂ o' o₄ os
    rw [hos, hplay] at htask htrace
    have hcourse : d.traceOf id = job.course o o' := htrace
    have hdeletions : deletions = 1 ↔ ∀ text, o ≠ .crashed text := by
      rw [← job.count_deletion_course_iff o o', ← hcourse]
      rfl
    refine ⟨t, o, o', htask, hjoined, hcourse, hlog, hdeletions, fun respond ho ↦ ?_⟩
    rw [hdeletions, ho]
    exact Service.perform_ne_crashed_iff respond job.action

/-- A mute by a role that the service knows, beside one that it refuses. -/
theorem deletes_after_mute_by_role :
    let job : Job :=
      { guild := 1, channel := 2, message := 3, user := 4, mute := .role 7
        decision := { shouldDelete := true, severity := .mute, muteMinutes := 10 } }
    let outcome := (Service.perform (fun _ ↦ .answered 204 0 "") job.action).outcome
    let before := [Turn.dispatch job, .move 0 .succeeded]
    let after := [.move 1 outcome, .move 0 (.failed .missingAccess), .move 1 outcome,
      .move 1 outcome, .move 1 outcome, .move 1 outcome]
    let d := run {} (before ++ .dispatch job :: after)
    5 ≤ (outcomesOf (dispatched before).length after).length ∧
      ∃ t o o', d.tasks[1]? = some t ∧ t.isJoined = true ∧ t.log = job.report o o' ∧
        ∀ text, o ≠ .crashed text := by
  intro job outcome before after d
  have hturns : 5 ≤ (outcomesOf (dispatched before).length after).length := by decide
  obtain ⟨t, o, o', htask, hjoined, -, hlog, hdeletions, -⟩ :=
    deletes_iff_unbroken before after job hturns
  exact ⟨hturns, t, o, o', htask, hjoined, hlog, hdeletions.mp (by decide)⟩

/-- A mute by a role of number zero breaks down: the message stays, and the end of the job is
reported all the same. -/
theorem not_deleted_after_mute_by_zero :
    let job : Job :=
      { guild := 1, channel := 2, message := 3, user := 4, mute := .role 0
        decision := { shouldDelete := true, severity := .mute, muteMinutes := 10 } }
    let outcome := (Service.perform (fun _ ↦ .answered 204 0 "") job.action).outcome
    let d := run {} (.dispatch job :: List.replicate 5 (.move 0 outcome))
    d.traceOf 0 = [.called job.action, .answered job.action outcome, .joined] ∧
      (d.traceOf 0).count (.called (.delete 2 3)) ≠ 1 := by
  decide

end Dispatcher

end GuildModeration.Punishment
