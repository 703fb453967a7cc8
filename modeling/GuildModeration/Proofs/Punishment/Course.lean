import GuildModeration.Proofs.Punishment.Dispatch

/-!
# The course of a punishment

A task that is given its turns takes one of two courses. If the job does not break down over its
corrective action, the action is followed by the deletion of the message, and both have been answered
when the end of the job is reported. If it does, its end is reported at once. Either course is over
after five turns, and at any time before that a part of it has been seen.

So it is enough to know the two full courses, `Task.play_full` and `Task.play_cut`. What is seen in
between is a prefix, as more turns only add to what has been seen.
-/

namespace GuildModeration.Punishment

/-- The corrective call that a decision asks for: by its severity, with the numbers of the job, and
with the reasons of the decision behind a fixed mark. -/
inductive Corrects (j : Job) : Call → Prop
  | warn (severity : j.decision.severity = .none) :
    Corrects j (.warn j.guild j.channel j.user ("Automoderator: " ++ j.decision.reason))
  | mute (severity : j.decision.severity = .mute) :
    Corrects j (.mute j.guild j.user j.mute j.decision.muteMinutes
      ("Automoderator: " ++ j.decision.reason))
  | kick (severity : j.decision.severity = .kick) :
    Corrects j (.kick j.guild j.user ("Automoderator: " ++ j.decision.reason))
  | ban (severity : j.decision.severity = .ban) :
    Corrects j (.ban j.guild j.user ("Automoderator: " ++ j.decision.reason))

namespace Job

variable (j : Job) {o : CallOutcome} {result : Except ActionError Unit}

theorem corrects_action : Corrects j j.action := by
  rw [action]
  split
  · next h => exact .warn h
  · next h => exact .mute h
  · next h => exact .kick h
  · next h => exact .ban h

/-! ## A job on its own -/

/-- A job whose action was answered, well or not. -/
def acted (result : Except ActionError Unit) : JobRun :=
  { state := .deleting .deleteAttempted result, calls := [j.action] }

/-- A job that broke down over one of its calls. -/
def broken (calls : List Call) (text : Option String) : JobRun :=
  { state := .ended (.crashed text), calls }

/-- A job both of whose calls were answered. -/
def completed (result result' : Except ActionError Unit) : JobRun :=
  { state := .ended (.finished .done)
    calls := [j.action, j.deletion]
    log := [j.resultEvent j.decision.severity.action result,
      j.resultEvent "delete_message" result'] }

theorem step_start_of_result (h : resultOf? o = .ok result) :
    j.step j.start o = j.acted result := by
  rw [step, h]
  rfl

theorem step_acted_crashed (result : Except ActionError Unit) (text : Option String) :
    j.step (j.acted result) (.crashed text) = broken [j.action, j.deletion] text := rfl

theorem step_acted_of_result {result' : Except ActionError Unit} (h : resultOf? o = .ok result') :
    j.step (j.acted result) o = j.completed result result' := by
  rw [step, h]
  rfl

/-- An outcome is a breakdown, or it has a result. -/
theorem crashed_or_result (o : CallOutcome) :
    (∃ text, o = .crashed text) ∨ ∃ result, resultOf? o = .ok result := by
  cases o with
  | succeeded => exact Or.inr ⟨.ok (), rfl⟩
  | failed e => exact Or.inr ⟨.error e, rfl⟩
  | crashed text => exact Or.inl ⟨text, rfl⟩

theorem ne_crashed_of_result (h : resultOf? o = .ok result) (text : Option String) :
    o ≠ .crashed text := by
  rintro rfl
  cases h

/-- Once the deletion was answered the job has ended, and not out of the order of its stages. -/
theorem step_acted_ended (result : Except ActionError Unit) (o : CallOutcome) :
    ∃ ending, (j.step (j.acted result) o).state = .ended ending ∧
      (ending = .finished .done ∨ ∃ text, o = .crashed text ∧ ending = .crashed text) := by
  rcases crashed_or_result o with ⟨text, rfl⟩ | ⟨result', h⟩
  · rw [step_acted_crashed]
    exact ⟨_, rfl, Or.inr ⟨text, rfl, rfl⟩⟩
  · rw [j.step_acted_of_result h]
    exact ⟨_, rfl, Or.inl rfl⟩

/-! ## Courses -/

/-- What is seen of a task whose action did not break the job down. -/
def fullCourse (o o' : CallOutcome) : List TaskEvent :=
  [.called j.action, .answered j.action o, .called j.deletion, .answered j.deletion o', .joined]

/-- What is seen of a task whose action broke the job down. -/
def cutCourse (text : Option String) : List TaskEvent :=
  [.called j.action, .answered j.action (.crashed text), .joined]

end Job

namespace Task

/-- A job that has ended stays as it is. -/
theorem play_run_of_ended {t : Task} {ending : Ending} (h : t.run.state = .ended ending)
    (os : List CallOutcome) : (t.play os).2.run = t.run := by
  induction os generalizing t with
  | nil => rfl
  | cons o os ih =>
    have hpending : t.job.pending? t.run.state = none := by rw [h]; rfl
    have hstep : (t.step o).2.run = t.run := by
      rw [step, hpending]
      dsimp only
      split <;> rfl
    have hended : (t.step o).2.run.state = .ended ending := by rw [hstep, h]
    rw [play, ih hended, hstep]

/-- Nothing more is seen of a task whose end has been reported. -/
theorem play_of_joined {t : Task} {ending : Ending} (h : t.run.state = .ended ending)
    (hjoined : t.isJoined = true) (os : List CallOutcome) : t.play os = ([], t) := by
  induction os with
  | nil => rfl
  | cons o os ih =>
    have hpending : t.job.pending? t.run.state = none := by rw [h]; rfl
    have hstep : t.step o = ([], t) := by
      rw [step, hpending]
      exact if_pos hjoined
    rw [play, hstep, ih, List.append_nil]

/-- The end of a job is reported at the next turn. -/
theorem step_of_ended {t : Task} {ending : Ending} (h : t.run.state = .ended ending)
    (hjoined : t.isJoined = false) (o : CallOutcome) :
    t.step o = ([.joined], { t with isJoined := true }) := by
  have hpending : t.job.pending? t.run.state = none := by rw [h]; rfl
  rw [step, hpending]
  exact if_neg (by simp [hjoined])

theorem play_cut (j : Job) (o₀ o₂ : CallOutcome) (text : Option String) (os : List CallOutcome) :
    (new j).play (o₀ :: .crashed text :: o₂ :: os) =
      (j.cutCourse text, { job := j, run := Job.broken [j.action] text, isJoined := true }) := by
  have hcalled : (new j).step o₀ =
      ([.called j.action], { job := j, run := j.start, isWaiting := true }) := rfl
  have hanswered : step { job := j, run := j.start, isWaiting := true } (.crashed text) =
      ([.answered j.action (.crashed text)], { job := j, run := Job.broken [j.action] text }) := rfl
  have hjoined : step { job := j, run := Job.broken [j.action] text } o₂ =
      ([.joined], { job := j, run := Job.broken [j.action] text, isJoined := true }) := rfl
  have hrest : play { job := j, run := Job.broken [j.action] text, isJoined := true } os = ([], _) :=
    play_of_joined rfl rfl os
  rw [play, hcalled, play, hanswered, play, hjoined, hrest]
  rfl

theorem play_full (j : Job) {o : CallOutcome} {result : Except ActionError Unit}
    (h : Job.resultOf? o = .ok result) (o₀ o₂ o' o₄ : CallOutcome) (os : List CallOutcome) :
    (new j).play (o₀ :: o :: o₂ :: o' :: o₄ :: os) =
      (j.fullCourse o o', { job := j, run := j.step (j.acted result) o', isJoined := true }) := by
  obtain ⟨ending, hended, -⟩ := j.step_acted_ended result o'
  have hcalled : (new j).step o₀ =
      ([.called j.action], { job := j, run := j.start, isWaiting := true }) := rfl
  have hanswered : step { job := j, run := j.start, isWaiting := true } o =
      ([.answered j.action o], { job := j, run := j.acted result }) := by
    rw [← j.step_start_of_result h]
    rfl
  have hdeleting : step { job := j, run := j.acted result } o₂ =
      ([.called j.deletion], { job := j, run := j.acted result, isWaiting := true }) := rfl
  have hdeleted : step { job := j, run := j.acted result, isWaiting := true } o' =
      ([.answered j.deletion o'], { job := j, run := j.step (j.acted result) o' }) := rfl
  have hjoined := step_of_ended (t := { job := j, run := j.step (j.acted result) o' }) hended rfl o₄
  have hrest := play_of_joined
    (t := { job := j, run := j.step (j.acted result) o', isJoined := true }) hended rfl os
  rw [play, hcalled, play, hanswered, play, hdeleting, play, hdeleted, play, hjoined, hrest]
  rfl

/-- After five turns a task has taken the one course or the other to its end. -/
theorem play_cases (j : Job) {os : List CallOutcome} (h : 5 ≤ os.length) :
    (∃ text, .crashed text ∈ os ∧ (new j).play os =
      (j.cutCourse text, { job := j, run := Job.broken [j.action] text, isJoined := true })) ∨
    ∃ o result o', Job.resultOf? o = .ok result ∧ o' ∈ os ∧ (new j).play os =
      (j.fullCourse o o', { job := j, run := j.step (j.acted result) o', isJoined := true }) := by
  match os, h with
  | o₀ :: o :: o₂ :: o' :: o₄ :: rest, _ =>
    rcases Job.crashed_or_result o with ⟨text, rfl⟩ | ⟨result, hresult⟩
    · exact Or.inl ⟨text, by simp, play_cut j o₀ o₂ text _⟩
    · exact Or.inr ⟨o, result, o', hresult, by simp, play_full j hresult o₀ o₂ o' o₄ rest⟩

/-- A task whose turns are answered by `respond` does what its job does when it runs by itself. -/
theorem play_eq_run (j : Job) (respond : Call → CallOutcome) (o₀ o₂ o₄ : CallOutcome)
    (os : List CallOutcome) :
    ((new j).play (o₀ :: respond j.action :: o₂ :: respond j.deletion :: o₄ :: os)).2.run =
      j.run respond := by
  have hfirst : j.stepWith respond j.start = j.step j.start (respond j.action) := rfl
  rcases Job.crashed_or_result (respond j.action) with ⟨text, h⟩ | ⟨result, h⟩
  · rw [h, play_cut, Job.run, hfirst, h]
    rfl
  · rw [play_full j h, Job.run, hfirst, j.step_start_of_result h]
    rfl

/-- A job that none of its calls breaks down has run to its last stage after five turns. -/
theorem play_of_answered (j : Job) {os : List CallOutcome} (hlength : 5 ≤ os.length)
    (h : ∀ text, .crashed text ∉ os) :
    ∃ o o' run, (new j).play os = (j.fullCourse o o', { job := j, run, isJoined := true }) ∧
      run.state = .ended (.finished .done) := by
  rcases play_cases j hlength with ⟨text, hmem, -⟩ | ⟨o, result, o', -, hmem, hplay⟩
  · exact absurd hmem (h text)
  · obtain ⟨ending, hended, rfl | ⟨text, rfl, -⟩⟩ := j.step_acted_ended result o'
    · exact ⟨o, o', _, hplay, hended⟩
    · exact absurd hmem (h text)

/-- What has been seen of such a job, and how it has ended if it has, fit the full course. -/
theorem exists_play_full (j : Job) {os : List CallOutcome} (h : ∀ text, .crashed text ∉ os) :
    ∃ o o', ((new j).play os).1 <+: j.fullCourse o o' ∧
      (((new j).play os).2.run.ending? = none ∨
        ((new j).play os).2.run.ending? = some (.finished .done)) ∧
      (5 ≤ os.length → ((new j).play os).1 = j.fullCourse o o' ∧
        ((new j).play os).2.run.ending? = some (.finished .done) ∧
        ((new j).play os).2.isJoined = true) := by
  by_cases hlength : 5 ≤ os.length
  · obtain ⟨o, o', run, hplay, hended⟩ := play_of_answered j hlength h
    have hending : run.ending? = some (.finished .done) := by rw [JobRun.ending?, hended]
    rw [hplay]
    exact ⟨o, o', List.prefix_refl _, Or.inr hending, fun _ ↦ ⟨rfl, hending, rfl⟩⟩
  · -- the turns that are missing are made up for by calls that go well
    have hlong : 5 ≤ (os ++ List.replicate 5 CallOutcome.succeeded).length := by simp
    obtain ⟨o, o', run, hplay, hended⟩ := play_of_answered j hlong (by simpa using h)
    rw [play_append] at hplay
    obtain ⟨hevents, hlast⟩ := Prod.mk.inj hplay
    refine ⟨o, o', ⟨_, hevents⟩, ?_, fun hle ↦ absurd hle hlength⟩
    cases hstate : ((new j).play os).2.run.state with
    | acting stage => exact Or.inl (by rw [JobRun.ending?, hstate])
    | deleting stage action => exact Or.inl (by rw [JobRun.ending?, hstate])
    | ended ending =>
      have hsame := play_run_of_ended hstate (List.replicate 5 .succeeded)
      rw [hlast] at hsame
      exact Or.inr (by rw [← hsame, JobRun.ending?, hended])

end Task

namespace Dispatcher

/-- Whatever is dispatched beside a job, and in whatever order calls are made and answered: if none
of its own calls breaks it down, the job makes one corrective call and, when that has been answered,
well or not, one call that deletes the message; it ends in its last stage, and never out of the order
of its stages. Five turns of its own bring it there, and then its end has been reported. -/
theorem corrects_then_deletes (before after : List Turn) (job : Job)
    (hanswered : ∀ text, Turn.move (dispatched before).length (.crashed text) ∉ after) :
    let id := (dispatched before).length
    let d := run {} (before ++ .dispatch job :: after)
    let deletion := Call.delete job.channel job.message
    ∃ t action o o', d.tasks[id]? = some t ∧ t.job = job ∧ Corrects job action ∧
      d.traceOf id <+: [.called action, .answered action o, .called deletion,
        .answered deletion o', .joined] ∧
      (t.run.ending? = none ∨ t.run.ending? = some (.finished .done)) ∧
      (5 ≤ (outcomesOf id after).length →
        d.traceOf id = [.called action, .answered action o, .called deletion,
          .answered deletion o', .joined] ∧
        t.run.ending? = some (.finished .done) ∧ t.isJoined = true) := by
  intro id d deletion
  obtain ⟨htask, htrace⟩ := run_dispatched before after job
  have hnone : ∀ text, .crashed text ∉ outcomesOf id after :=
    fun text hmem ↦ hanswered text (mem_outcomesOf_iff.mp hmem)
  obtain ⟨o, o', hprefix, hending, hfull⟩ := Task.exists_play_full job hnone
  refine ⟨_, job.action, o, o', htask, ?_, job.corrects_action, ?_, hending, fun hturns ↦ ?_⟩
  · exact Task.play_job _ _
  · rw [htrace]
    exact hprefix
  · rw [htrace]
    exact hfull hturns

/-- A kick that is refused, beside a mute that breaks down between its two turns: the message is
deleted nevertheless, and the end of the job is reported. -/
theorem corrects_then_deletes_beside_crash :
    let kick : Job :=
      { guild := 1, channel := 2, message := 3, user := 4, mute := .none
        decision := { shouldDelete := true, severity := .kick, reason := "Sent a link" } }
    let mute : Job :=
      { kick with mute := .role 0, decision := { kick.decision with severity := .mute } }
    let before := [Turn.dispatch mute, .move 0 .succeeded]
    let after := [Turn.move 1 .succeeded, .move 0 (.crashed none),
      .move 1 (.failed .missingPermissions), .move 0 .succeeded, .move 1 .succeeded,
      .move 1 .succeeded, .move 1 .succeeded]
    let d := run {} (before ++ .dispatch kick :: after)
    let action := Call.kick 1 4 "Automoderator: Sent a link"
    (∀ text, Turn.move 1 (.crashed text) ∉ after) ∧
      d.traceOf 1 = [.called action, .answered action (.failed .missingPermissions),
        .called (.delete 2 3), .answered (.delete 2 3) .succeeded, .joined] ∧
      ∃ t, d.tasks[1]? = some t ∧ t.run.ending? = some (.finished .done) ∧ t.isJoined = true := by
  intro kick mute before after d action
  have hanswered : ∀ text, Turn.move 1 (.crashed text) ∉ after := by simp [after]
  obtain ⟨t, _, _, _, htask, -, -, -, -, hfull⟩ := corrects_then_deletes before after kick hanswered
  obtain ⟨-, hending, hjoined⟩ := hfull (by decide)
  exact ⟨hanswered, by decide, t, htask, hending, hjoined⟩

end Dispatcher

end GuildModeration.Punishment
