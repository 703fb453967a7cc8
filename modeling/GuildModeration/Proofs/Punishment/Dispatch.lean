import GuildModeration.Punishment.Job
import Mathlib.Data.List.Basic

/-!
# Punishments side by side

Every job is handed to a task of its own, and any number of tasks are under way at once. A task makes
the calls of its job one after the other, waits for each to end, and reports the end of the job to
whoever waits for it. Nothing is said about who is next: a run of the dispatcher is any list of
turns, and the outcome of a call is known only at the turn at which it ends.

All calls go into one trace. The main statement, `Dispatcher.run_dispatched`, takes it apart again:
what becomes of a job, and its part of the trace, is what the task would do on its own, whatever is
dispatched beside it and whichever way the turns are mixed.
-/

namespace GuildModeration.Punishment

/-- The place of a job in the order in which jobs were dispatched. -/
abbrev TaskId := Nat

/-- Something that is seen of a task. -/
inductive TaskEvent where
  /-- A call is made. -/
  | called (call : Call)
  /-- A call ends. -/
  | answered (call : Call) (outcome : CallOutcome)
  /-- The end of the job is reported, and whoever waited for it goes on. -/
  | joined
  deriving DecidableEq, Repr

/-- A job under way. -/
structure Task where
  job : Job
  run : JobRun
  /-- The next call has been made and has not ended. -/
  isWaiting : Bool := false
  /-- The end of the job has been reported. -/
  isJoined : Bool := false

namespace Task

/-- The task of a job that has just been dispatched. -/
def new (job : Job) : Task :=
  { job, run := job.start }

/-- What the task has left in the log. -/
def log (t : Task) : List Log.Event :=
  if t.isJoined then t.job.fullLog t.run else t.run.log

/-- The next thing that a task does: it makes a call, or the call that it has made ends in `outcome`,
or it reports the end of its job. -/
def step (t : Task) (outcome : CallOutcome) : List TaskEvent × Task :=
  match t.job.pending? t.run.state with
  | some call =>
    if t.isWaiting then
      ([.answered call outcome],
        { t with run := t.job.step t.run outcome, isWaiting := false })
    else ([.called call], { t with isWaiting := true })
  | none => if t.isJoined then ([], t) else ([.joined], { t with isJoined := true })

/-- Some steps of a task one after the other, with what is seen of them. -/
def play (t : Task) : List CallOutcome → List TaskEvent × Task
  | [] => ([], t)
  | o :: os => ((t.step o).1 ++ ((t.step o).2.play os).1, ((t.step o).2.play os).2)

theorem play_append (t : Task) (os more : List CallOutcome) :
    t.play (os ++ more) =
      ((t.play os).1 ++ ((t.play os).2.play more).1, ((t.play os).2.play more).2) := by
  induction os generalizing t with
  | nil => rfl
  | cons o os ih => rw [List.cons_append, play, ih, play, List.append_assoc]

@[simp] theorem step_job (t : Task) (outcome : CallOutcome) : (t.step outcome).2.job = t.job := by
  rw [step]
  split
  · split <;> rfl
  · split <;> rfl

@[simp] theorem play_job (t : Task) (os : List CallOutcome) : (t.play os).2.job = t.job := by
  induction os generalizing t with
  | nil => rfl
  | cons o os ih => rw [play, ih, step_job]

end Task

/-! ## Turns -/

/-- What can happen next. -/
inductive Turn where
  /-- A job is dispatched. -/
  | dispatch (job : Job)
  /-- A task does the next thing; a call that ends thereby ends in `outcome`. -/
  | move (id : TaskId) (outcome : CallOutcome)

namespace Turn

/-- The job that is dispatched, if one is. -/
def job? : Turn → Option Job
  | dispatch job => some job
  | move .. => none

/-- The outcome that a task is given, if it is its turn. -/
def outcome? (id : TaskId) : Turn → Option CallOutcome
  | dispatch _ => none
  | move i outcome => if i = id then some outcome else none

end Turn

/-- The jobs that are dispatched, in order. -/
def dispatched (turns : List Turn) : List Job :=
  turns.filterMap Turn.job?

/-- The outcomes that a task is given, in order. -/
def outcomesOf (id : TaskId) (turns : List Turn) : List CallOutcome :=
  turns.filterMap (Turn.outcome? id)

theorem mem_outcomesOf_iff {id : TaskId} {turns : List Turn} {outcome : CallOutcome} :
    outcome ∈ outcomesOf id turns ↔ .move id outcome ∈ turns := by
  rw [outcomesOf, List.mem_filterMap]
  constructor
  · rintro ⟨turn, hmem, hturn⟩
    cases turn with
    | dispatch job => cases hturn
    | move i o =>
      rw [Turn.outcome?, Option.ite_none_right_eq_some, Option.some.injEq] at hturn
      obtain ⟨rfl, rfl⟩ := hturn
      exact hmem
  · intro hmem
    exact ⟨_, hmem, if_pos rfl⟩

/-! ## The dispatcher -/

/-- The tasks so far, in the order in which they were dispatched, and all that was seen of them. -/
structure Dispatcher where
  tasks : List Task := []
  trace : List (TaskId × TaskEvent) := []

namespace Dispatcher

/-- Takes a turn; one of a task that is not there changes nothing. -/
def step (d : Dispatcher) : Turn → Dispatcher
  | .dispatch job => { d with tasks := d.tasks ++ [.new job] }
  | .move id outcome =>
    match d.tasks[id]? with
    | some t =>
      { tasks := d.tasks.set id (t.step outcome).2
        trace := d.trace ++ (t.step outcome).1.map (id, ·) }
    | none => d

/-- Takes turns one after the other. -/
def run (d : Dispatcher) (turns : List Turn) : Dispatcher :=
  turns.foldl step d

/-- What was seen of one task. -/
def traceOf (d : Dispatcher) (id : TaskId) : List TaskEvent :=
  (d.trace.filter (·.1 == id)).map (·.2)

theorem run_append (d : Dispatcher) (turns more : List Turn) :
    d.run (turns ++ more) = (d.run turns).run more :=
  List.foldl_append

/-- What every turn keeps, every run keeps. -/
theorem run_induction {P : Dispatcher → Prop} (hstep : ∀ d turn, P d → P (d.step turn))
    {d : Dispatcher} (h : P d) (turns : List Turn) : P (d.run turns) := by
  induction turns generalizing d with
  | nil => exact h
  | cons turn turns ih => exact ih (hstep d turn h)

theorem step_move {d : Dispatcher} {id : TaskId} {t : Task} (h : d.tasks[id]? = some t)
    (outcome : CallOutcome) :
    d.step (.move id outcome) =
      { tasks := d.tasks.set id (t.step outcome).2
        trace := d.trace ++ (t.step outcome).1.map (id, ·) } := by
  rw [step, h]

theorem step_move_of_none {d : Dispatcher} {id : TaskId} (h : d.tasks[id]? = none)
    (outcome : CallOutcome) : d.step (.move id outcome) = d := by
  rw [step, h]

/-- A task keeps its job, and jobs are added behind. -/
theorem jobs_step (d : Dispatcher) (turn : Turn) :
    (d.step turn).tasks.map (·.job) = d.tasks.map (·.job) ++ turn.job?.toList := by
  cases turn with
  | dispatch job => exact List.map_append
  | move id outcome =>
    rw [Turn.job?, Option.toList_none, List.append_nil]
    cases h : d.tasks[id]? with
    | none => rw [step_move_of_none h]
    | some t =>
      obtain ⟨hlt, rfl⟩ := List.getElem?_eq_some_iff.mp h
      have hlt' : id < (d.tasks.map (·.job)).length := by simpa using hlt
      have hjob : (d.tasks.map (·.job))[id] = d.tasks[id].job := List.getElem_map _
      rw [step_move h, List.map_set, Task.step_job, ← hjob, List.set_getElem_self]

theorem jobs_run (d : Dispatcher) (turns : List Turn) :
    (d.run turns).tasks.map (·.job) = d.tasks.map (·.job) ++ dispatched turns := by
  induction turns generalizing d with
  | nil => exact (List.append_nil _).symm
  | cons turn turns ih =>
    have hrest : (d.run (turn :: turns)).tasks.map (·.job) =
        (d.step turn).tasks.map (·.job) ++ dispatched turns := ih (d.step turn)
    rw [hrest, jobs_step, List.append_assoc]
    cases turn <;> rfl

/-- Nothing was seen of tasks to come. -/
theorem trace_lt (turns : List Turn) :
    ∀ x ∈ (run {} turns).trace, x.1 < (run {} turns).tasks.length := by
  refine run_induction (P := fun d ↦ ∀ x ∈ d.trace, x.1 < d.tasks.length) ?_ (by simp) turns
  intro d turn h x hx
  cases turn with
  | dispatch job =>
    have hlt : x.1 < d.tasks.length := h x hx
    rw [step, List.length_append]
    exact Nat.lt_add_right _ hlt
  | move id outcome =>
    cases hfind : d.tasks[id]? with
    | none =>
      rw [step_move_of_none hfind] at hx ⊢
      exact h x hx
    | some t =>
      rw [step_move hfind] at hx ⊢
      rw [List.length_set]
      rcases List.mem_append.mp hx with hx | hx
      · exact h x hx
      · obtain ⟨event, -, rfl⟩ := List.mem_map.mp hx
        exact (List.getElem?_eq_some_iff.mp hfind).1

/-! ## One task among many -/

/-- The events of one turn, read by one task. -/
theorem traceOf_append (d : Dispatcher) (tasks : List Task) (i id : TaskId)
    (events : List TaskEvent) :
    traceOf { tasks, trace := d.trace ++ events.map (i, ·) } id =
      d.traceOf id ++ if i = id then events else [] := by
  rw [traceOf, traceOf, List.filter_append, List.map_append, List.filter_map, List.map_map]
  by_cases h : i = id <;> simp [h, Function.comp_def]

/-- A turn means to a task what it means to the task alone. -/
theorem step_task {d : Dispatcher} {id : TaskId} {t : Task} (h : d.tasks[id]? = some t)
    (turn : Turn) :
    (d.step turn).tasks[id]? = some (t.play (outcomesOf id [turn])).2 ∧
      (d.step turn).traceOf id = d.traceOf id ++ (t.play (outcomesOf id [turn])).1 := by
  obtain ⟨hlt, -⟩ := List.getElem?_eq_some_iff.mp h
  cases turn with
  | dispatch job =>
    constructor
    · rw [step, List.getElem?_append_left hlt]
      exact h
    · exact (List.append_nil _).symm
  | move i outcome =>
    by_cases hi : i = id
    · subst hi
      have hown : outcomesOf i [.move i outcome] = [outcome] := by simp [outcomesOf, Turn.outcome?]
      rw [hown, step_move h, traceOf_append, if_pos rfl, List.getElem?_set_self hlt]
      exact ⟨rfl, by rw [Task.play, Task.play, List.append_nil]⟩
    · -- it is the turn of another task, or of none
      have hother : outcomesOf id [.move i outcome] = [] := by simp [outcomesOf, Turn.outcome?, hi]
      rw [hother, Task.play, List.append_nil]
      cases hfind : d.tasks[i]? with
      | none =>
        rw [step_move_of_none hfind]
        exact ⟨h, rfl⟩
      | some other =>
        rw [step_move hfind, traceOf_append, if_neg hi, List.append_nil, List.getElem?_set_ne hi]
        exact ⟨h, rfl⟩

/-- What happens to a task depends on nothing but its own turns. -/
theorem run_task {d : Dispatcher} {id : TaskId} {t : Task} (h : d.tasks[id]? = some t)
    (turns : List Turn) :
    (d.run turns).tasks[id]? = some (t.play (outcomesOf id turns)).2 ∧
      (d.run turns).traceOf id = d.traceOf id ++ (t.play (outcomesOf id turns)).1 := by
  induction turns generalizing d t with
  | nil => exact ⟨h, (List.append_nil _).symm⟩
  | cons turn turns ih =>
    obtain ⟨hfind, htrace⟩ := step_task h turn
    obtain ⟨hfind', htrace'⟩ := ih hfind
    have hsplit : outcomesOf id (turn :: turns) = outcomesOf id [turn] ++ outcomesOf id turns :=
      List.filterMap_append (l := [turn])
    rw [hsplit, Task.play_append]
    refine ⟨hfind', htrace'.trans ?_⟩
    rw [htrace, List.append_assoc]

/-- A job that is dispatched at some moment of a run does what its task does on its own, from its
start and with its own turns. -/
theorem run_dispatched (before after : List Turn) (job : Job) :
    let id := (dispatched before).length
    let d := run {} (before ++ .dispatch job :: after)
    d.tasks[id]? = some ((Task.new job).play (outcomesOf id after)).2 ∧
      d.traceOf id = ((Task.new job).play (outcomesOf id after)).1 := by
  intro id d
  have hlength : (run {} before).tasks.length = id := by
    have hjobs := congrArg List.length (jobs_run {} before)
    rwa [List.map_nil, List.nil_append, List.length_map] at hjobs
  have hnone : (run {} before).traceOf id = [] := by
    rw [traceOf, List.map_eq_nil_iff, List.filter_eq_nil_iff]
    intro x hx
    have hlt := trace_lt before x hx
    rw [hlength] at hlt
    simp [Nat.ne_of_lt hlt]
  have hfind : ((run {} before).step (.dispatch job)).tasks[id]? = some (Task.new job) := by
    rw [step, ← hlength]
    exact List.getElem?_concat_length
  obtain ⟨htask, htrace⟩ := run_task hfind after
  have hd : d = ((run {} before).step (.dispatch job)).run after := run_append {} before _
  rw [hd]
  refine ⟨htask, htrace.trans ?_⟩
  have hsame : ((run {} before).step (.dispatch job)).traceOf id = [] := hnone
  rw [hsame, List.nil_append]

end Dispatcher

end GuildModeration.Punishment
