import GuildModeration.Proofs.Cache.Maintenance
import GuildModeration.Proofs.Cache.Run

/-!
# Runs of a cache with its maintenance

Whoever wants a guild taken out of the cache asks the maintenance task, and takes it out on the spot
if the task cannot be asked. Here callers, senders of other requests and the task take turns in any
order. The task ends in two steps: it leaves its loop, and only then the queue is closed. A request
that is sent in between is taken into the queue as before.

`MaintainedRun.trace` tells what all of them do to the cache itself, which is a run of the cache
alone. What one action does to the queue and to the task is listed in `MaintainedRun.Turn`.
-/

namespace GuildModeration

/-! ## Sending -/

namespace RequestQueue

/-- A request is put at the end of the queue, or else nothing changes. -/
theorem send_cases (q : RequestQueue) (request : CacheRequest) :
    ((q.send request).1 = .queued ∧ q.hasReceiver = true ∧
        (q.send request).2 = { q with pending := q.pending ++ [request] }) ∨
      ((q.send request).1 ≠ .queued ∧ (q.send request).2 = q) := by
  rw [send]
  cases hreceiver : q.hasReceiver with
  | false => exact Or.inr ⟨nofun, rfl⟩
  | true =>
    rw [if_neg (by decide)]
    split
    · exact Or.inr ⟨nofun, rfl⟩
    · exact Or.inl ⟨rfl, rfl, rfl⟩

theorem pending_prefix_send (q : RequestQueue) (request : CacheRequest) :
    q.pending <+: (q.send request).2.pending := by
  obtain ⟨-, -, hsend⟩ | ⟨-, hsend⟩ := q.send_cases request
  · rw [hsend]
    exact List.prefix_append _ _
  · exact ⟨[], by rw [hsend, List.append_nil]⟩

theorem send_hasReceiver (q : RequestQueue) (request : CacheRequest) :
    (q.send request).2.hasReceiver = q.hasReceiver := by
  obtain ⟨-, -, hsend⟩ | ⟨-, hsend⟩ := q.send_cases request
  · rw [hsend]
  · rw [hsend]

end RequestQueue

theorem MaintainedCache.requestInvalidation_eq (m : MaintainedCache) (guild : GuildId) :
    m.requestInvalidation guild =
      (decide ((m.maintenance.queue.send (.invalidate guild)).1 ≠ .closed),
        { shared :=
            if (m.maintenance.queue.send (.invalidate guild)).1 = .queued then m.shared
            else m.shared.invalidate guild
          maintenance :=
            { m.maintenance with queue := (m.maintenance.queue.send (.invalidate guild)).2 } }) := by
  have hcases := m.maintenance.queue.send_cases (.invalidate guild)
  rw [requestInvalidation]
  generalize m.maintenance.queue.send (.invalidate guild) = sent at hcases
  obtain ⟨delivery, queue⟩ := sent
  cases delivery with
  | queued => rfl
  | full =>
    obtain ⟨hqueued, -⟩ | ⟨-, hqueue⟩ := hcases
    · cases hqueued
    · dsimp only at hqueue
      rw [hqueue]
      rfl
  | closed =>
    obtain ⟨hqueued, -⟩ | ⟨-, hqueue⟩ := hcases
    · cases hqueued
    · dsimp only at hqueue
      rw [hqueue]
      rfl

/-! ## One request at a time -/

/-- What carrying the request out does to the cache. -/
def CacheRequest.action? : CacheRequest → Option CacheAction
  | .invalidate guild => some (.invalidate guild)
  | .invalidateAll => some .invalidateAll
  | .shutdown => none

theorem CacheRequest.mem_action?_iff {request : CacheRequest} {guild : GuildId} :
    .invalidate guild ∈ request.action?.toList ↔ request = .invalidate guild := by
  cases request with
  | invalidate other => simp [action?, eq_comm]
  | invalidateAll => simp [action?]
  | shutdown => simp [action?]

/-- The task goes on unless it is asked to end. -/
theorem SharedCache.handle_goesOn {request : CacheRequest} (h : request ≠ .shutdown)
    (s : SharedCache) : (s.handle request).1 = true := by
  cases request with
  | shutdown => exact absurd rfl h
  | _ => rfl

namespace MaintainedCache

variable {m : MaintainedCache}

/-- The request that the task would carry out next. -/
def next? (m : MaintainedCache) : Option CacheRequest :=
  match m.maintenance.phase with
  | .running .. => m.maintenance.queue.pending.head?
  | _ => none

/-- One step of the task at its queue, up to the point where it would end. The flag says that it
ends. -/
def take (m : MaintainedCache) : Bool × MaintainedCache :=
  match m.maintenance.phase with
  | .running .. =>
    match m.maintenance.queue.pending with
    | [] => (!m.maintenance.queue.hasSender, m)
    | request :: rest =>
      let (goesOn, shared) := m.shared.handle request
      (!goesOn,
        { shared, maintenance :=
          { m.maintenance with queue := { m.maintenance.queue with pending := rest } } })
  | _ => (false, m)

theorem next?_of_isIdle (h : m.IsIdle) : m.next? = none := by
  rw [next?]
  split
  · next interval nextPass hphase => exact absurd hphase (h interval nextPass)
  · rfl

/-- A task that has not been started yet is put to work, if there is a queue to take from. -/
theorem start_of_idle (hphase : m.maintenance.phase = .idle)
    (hreceiver : m.maintenance.queue.hasReceiver = true) (now : Nat) {interval : Nat}
    (h : 0 < interval) :
    m.start now interval =
      { m with maintenance := { m.maintenance with phase := .running interval now } } := by
  rw [start, hphase, hreceiver, if_neg (by decide), if_neg (Nat.ne_of_gt h)]

theorem start_cases (m : MaintainedCache) (now : Nat) {interval : Nat} (h : 0 < interval) :
    m.start now interval = m ∨ (m.maintenance.phase = .idle ∧ m.start now interval =
      { m with maintenance := { m.maintenance with phase := .running interval now } }) := by
  by_cases hphase : m.maintenance.phase = .idle
  · cases hreceiver : m.maintenance.queue.hasReceiver with
    | true => exact Or.inr ⟨hphase, start_of_idle hphase hreceiver now h⟩
    | false =>
      rw [start, if_pos (by simp [hreceiver])]
      exact Or.inl rfl
  · rw [start, if_pos (by simp [hphase])]
    exact Or.inl rfl

theorem take_of_isIdle (h : m.IsIdle) : m.take = (false, m) := by
  rw [take]
  split
  · next interval nextPass hphase => exact absurd hphase (h interval nextPass)
  · rfl

section Running

variable {interval nextPass : Nat} (hphase : m.maintenance.phase = .running interval nextPass)

include hphase

theorem next?_of_running : m.next? = m.maintenance.queue.pending.head? := by
  rw [next?, hphase]

theorem take_of_nil (h : m.maintenance.queue.pending = []) :
    m.take = (!m.maintenance.queue.hasSender, m) := by
  rw [take, hphase, h]

theorem take_of_cons {request : CacheRequest} {rest : List CacheRequest}
    (h : m.maintenance.queue.pending = request :: rest) :
    m.take = (!(m.shared.handle request).1,
      { shared := (m.shared.handle request).2
        maintenance :=
          { m.maintenance with queue := { m.maintenance.queue with pending := rest } } }) := by
  rw [take, hphase, h]

end Running

/-- With the end it is the step that the task makes when nothing comes in between. -/
theorem receive_eq_take (m : MaintainedCache) :
    m.receive = if m.take.1 then m.take.2.stop else m.take.2 := by
  rcases m.isIdle_or_running with hidle | ⟨interval, nextPass, hphase⟩
  · rw [receive_of_isIdle hidle, take_of_isIdle hidle]
    rfl
  · cases hpending : m.maintenance.queue.pending with
    | nil =>
      rw [take_of_nil hphase hpending, receive, hphase, hpending]
      cases m.maintenance.queue.hasSender <;> rfl
    | cons request rest =>
      rw [take_of_cons hphase hpending, receive, hphase, hpending]
      cases request <;> rfl

end MaintainedCache

/-! ## Callers, senders and the task -/

/-- Something that can happen to a cache with its maintenance. -/
inductive MaintainedAction where
  /-- The cache is used, or time passes. -/
  | use (action : CacheAction)
  /-- Somebody asks for a guild to be taken out. -/
  | request (guild : GuildId)
  /-- Somebody else sends a request, if there is room. -/
  | send (request : CacheRequest)
  /-- Nobody is left who could send. -/
  | leave
  /-- The task is started, with some time between its passes. -/
  | start (interval : Nat) (pos : 0 < interval)
  /-- The task takes a request from the queue. -/
  | receive
  /-- The task makes a pass that is due. -/
  | pass
  /-- The task ends, and with it the queue. -/
  | stop

/-- A cache with its maintenance at one moment. -/
structure MaintainedRun where
  now : Nat
  cache : MaintainedCache
  /-- The task has left its loop and is about to end. -/
  isLeaving : Bool := false

namespace MaintainedRun

/-- A new cache at some moment, with any limits and any queue, and a task that is not yet at work. -/
def new (ttl limit now : Nat) (queue : RequestQueue) : MaintainedRun :=
  { now, cache := { shared := { cache := { ttl, limit } }, maintenance := { queue } } }

/-- The queue of requests. -/
def queue (r : MaintainedRun) : RequestQueue :=
  r.cache.maintenance.queue

/-- The task has ended. -/
def HasEnded (r : MaintainedRun) : Prop :=
  r.cache.maintenance.phase = .ended

/-- The cache alone, with nothing seen of it so far. -/
def alone (r : MaintainedRun) : CacheRun :=
  { now := r.now, shared := r.cache.shared }

/-- Lets an action happen; one that is not possible changes nothing. -/
def step (r : MaintainedRun) : MaintainedAction → MaintainedRun
  | .use action =>
    { r with
      now := (r.alone.step action).now
      cache := { r.cache with shared := (r.alone.step action).shared } }
  | .request guild =>
    if r.queue.hasSender then { r with cache := (r.cache.requestInvalidation guild).2 } else r
  | .send request =>
    if r.queue.hasSender then
      { r with cache := { r.cache with maintenance :=
        { r.cache.maintenance with queue := (r.queue.send request).2 } } }
    else r
  | .leave =>
    { r with cache := { r.cache with maintenance :=
      { r.cache.maintenance with queue := { r.queue with hasSender := false } } } }
  | .start interval _ => { r with cache := r.cache.start r.now interval }
  | .receive =>
    if r.isLeaving then r else { r with cache := r.cache.take.2, isLeaving := r.cache.take.1 }
  | .pass =>
    if r.isLeaving || r.cache.duePasses r.now == 0 then r
    else { r with cache := r.cache.pass r.now }
  | .stop => if r.isLeaving then { r with cache := r.cache.stop, isLeaving := false } else r

/-- Lets actions happen one after the other. -/
def run (r : MaintainedRun) (actions : List MaintainedAction) : MaintainedRun :=
  actions.foldl step r

/-- What an action does to the cache itself. -/
def effects (r : MaintainedRun) : MaintainedAction → List CacheAction
  | .use action => [action]
  | .request guild =>
    if r.queue.hasSender && (r.queue.send (.invalidate guild)).1 != .queued then
      [.invalidate guild]
    else []
  | .receive =>
    if r.isLeaving then [] else (r.cache.next?.bind CacheRequest.action?).toList
  | .pass => if r.isLeaving || r.cache.duePasses r.now == 0 then [] else [.reap]
  | _ => []

/-- What actions do to the cache itself, in order. -/
def trace (r : MaintainedRun) : List MaintainedAction → List CacheAction
  | [] => []
  | action :: actions => r.effects action ++ (r.step action).trace actions

variable {r : MaintainedRun} {guild : GuildId}

theorem step_receive_of_cons {interval nextPass : Nat} {request : CacheRequest}
    {rest : List CacheRequest} (hphase : r.cache.maintenance.phase = .running interval nextPass)
    (hleaving : r.isLeaving = false) (hpending : r.queue.pending = request :: rest) :
    r.effects .receive = request.action?.toList ∧
      r.step .receive =
        { r with
          cache :=
            { shared := (r.cache.shared.handle request).2
              maintenance := { r.cache.maintenance with queue := { r.queue with pending := rest } } }
          isLeaving := !(r.cache.shared.handle request).1 } := by
  rw [queue] at hpending
  rw [effects, step, hleaving, if_neg Bool.false_ne_true, if_neg Bool.false_ne_true,
    MaintainedCache.next?_of_running hphase, MaintainedCache.take_of_cons hphase hpending, hpending]
  exact ⟨rfl, rfl⟩

theorem step_receive_of_isIdle (hidle : r.cache.IsIdle) : r.step .receive = r := by
  rw [step, MaintainedCache.take_of_isIdle hidle]
  obtain ⟨now, cache, isLeaving⟩ := r
  cases isLeaving <;> rfl

theorem step_request_of_queued (hsender : r.queue.hasSender = true)
    (h : (r.queue.send (.invalidate guild)).1 = .queued) :
    r.effects (.request guild) = [] ∧
      r.step (.request guild) =
        { r with cache := { r.cache with maintenance := { r.cache.maintenance with
            queue := { r.queue with pending := r.queue.pending ++ [.invalidate guild] } } } } := by
  obtain ⟨-, -, hsend⟩ | ⟨hnot, -⟩ := r.queue.send_cases (.invalidate guild)
  · rw [effects, step, hsender, h, MaintainedCache.requestInvalidation_eq]
    rw [queue] at h hsend
    rw [h, hsend]
    exact ⟨rfl, rfl⟩
  · exact absurd h hnot

theorem effects_request_of_not_queued (hsender : r.queue.hasSender = true)
    (h : (r.queue.send (.invalidate guild)).1 ≠ .queued) :
    r.effects (.request guild) = [.invalidate guild] := by
  rw [effects, hsender, Bool.true_and, if_pos (bne_iff_ne.mpr h)]

/-! ## Turns -/

/-- What one action does to the queue and to the task, and what it does to the cache. -/
inductive Turn (r : MaintainedRun) : List CacheAction → MaintainedRun → Prop where
  /-- The task is where it was, and the queue has at most grown. -/
  | quiet {effects : List CacheAction} {r' : MaintainedRun} (leaving : r'.isLeaving = r.isLeaving)
      (ended : r'.HasEnded ↔ r.HasEnded) (pending : r.queue.pending <+: r'.queue.pending)
      (receiver : r'.queue.hasReceiver = r.queue.hasReceiver)
      (cache : ∃ h, r.alone.run effects = { r'.alone with history := h }) : Turn r effects r'
  /-- The task carries the first request out. -/
  | take {interval nextPass : Nat} {request : CacheRequest} {rest : List CacheRequest}
      (phase : r.cache.maintenance.phase = .running interval nextPass)
      (leaving : r.isLeaving = false) (pending : r.queue.pending = request :: rest) :
      Turn r request.action?.toList
        { r with
          cache :=
            { shared := (r.cache.shared.handle request).2
              maintenance := { r.cache.maintenance with queue := { r.queue with pending := rest } } }
          isLeaving := !(r.cache.shared.handle request).1 }
  /-- The task has nothing to do, and leaves if nobody can send. -/
  | wait (pending : r.queue.pending = []) : Turn r [] { r with isLeaving := !r.queue.hasSender }
  /-- The task ends. -/
  | stop (leaving : r.isLeaving = true) :
      Turn r [] { r with cache := r.cache.stop, isLeaving := false }

theorem turn_stay (r : MaintainedRun) : r.Turn [] r :=
  .quiet rfl Iff.rfl (List.prefix_refl _) rfl ⟨[], rfl⟩

theorem turn_request (r : MaintainedRun) (guild : GuildId) :
    r.Turn (r.effects (.request guild)) (r.step (.request guild)) := by
  rw [effects, step]
  cases hsender : r.queue.hasSender with
  | false => exact r.turn_stay
  | true =>
    rw [Bool.true_and, if_pos rfl, MaintainedCache.requestInvalidation_eq, ← queue]
    refine .quiet rfl Iff.rfl (r.queue.pending_prefix_send _) (r.queue.send_hasReceiver _) ?_
    by_cases h : (r.queue.send (.invalidate guild)).1 = .queued
    · rw [h]
      exact ⟨[], rfl⟩
    · rw [if_pos (bne_iff_ne.mpr h), if_neg h]
      exact ⟨_, rfl⟩

theorem turn_receive (r : MaintainedRun) : r.Turn (r.effects .receive) (r.step .receive) := by
  cases hleaving : r.isLeaving with
  | true =>
    rw [effects, step, hleaving]
    exact r.turn_stay
  | false =>
    obtain hidle | ⟨interval, nextPass, hphase⟩ := r.cache.isIdle_or_running
    · rw [step_receive_of_isIdle hidle, effects, MaintainedCache.next?_of_isIdle hidle, hleaving]
      exact r.turn_stay
    · cases hpending : r.queue.pending with
      | nil =>
        rw [effects, step, hleaving, MaintainedCache.next?_of_running hphase, ← queue, hpending,
          MaintainedCache.take_of_nil hphase hpending]
        exact .wait hpending
      | cons request rest =>
        obtain ⟨heffects, hstep⟩ := step_receive_of_cons hphase hleaving hpending
        rw [heffects, hstep]
        exact .take hphase hleaving hpending

theorem turn_step (r : MaintainedRun) (action : MaintainedAction) :
    r.Turn (r.effects action) (r.step action) := by
  cases action with
  | use action => exact .quiet rfl Iff.rfl (List.prefix_refl _) rfl ⟨_, rfl⟩
  | request guild => exact r.turn_request guild
  | send request =>
    rw [step]
    split
    · exact .quiet rfl Iff.rfl (r.queue.pending_prefix_send _) (r.queue.send_hasReceiver _)
        ⟨[], rfl⟩
    · exact r.turn_stay
  | leave => exact .quiet rfl Iff.rfl (List.prefix_refl _) rfl ⟨[], rfl⟩
  | start interval pos =>
    rw [step]
    obtain hstart | ⟨hidle, hstart⟩ := r.cache.start_cases r.now pos
    · rw [hstart]
      exact r.turn_stay
    · rw [hstart]
      exact .quiet rfl
        (iff_of_false (fun hended ↦ by cases hended) fun hended ↦ by cases hidle.symm.trans hended)
        (List.prefix_refl _) rfl ⟨[], rfl⟩
  | receive => exact r.turn_receive
  | pass =>
    rw [effects, step]
    split
    · exact r.turn_stay
    · next hdue =>
      obtain hidle | ⟨interval, nextPass, hphase⟩ := r.cache.isIdle_or_running
      · exact absurd (by simp [MaintainedCache.duePasses_of_isIdle hidle]) hdue
      · rw [MaintainedCache.pass, hphase]
        exact .quiet rfl
          (iff_of_false (fun hended ↦ by cases hended)
            fun hended ↦ by cases hphase.symm.trans hended)
          (List.prefix_refl _) rfl ⟨_, rfl⟩
  | stop =>
    cases hleaving : r.isLeaving with
    | true =>
      rw [step, if_pos hleaving]
      exact .stop hleaving
    | false =>
      rw [step, hleaving]
      exact r.turn_stay

end MaintainedRun

/-! ## What is done to the cache -/

/-- What has been seen of a cache makes no difference to what happens to it. -/
theorem CacheRun.exists_step_eq (r : CacheRun) (h : History) (action : CacheAction) :
    ∃ h', CacheRun.step { r with history := h } action = { r.step action with history := h' } := by
  cases action with
  | wait ms => exact ⟨h, rfl⟩
  | start guild =>
    simp only [CacheRun.step]
    split <;> exact ⟨_, rfl⟩
  | resume id =>
    simp only [CacheRun.step]
    split
    · split <;> exact ⟨_, rfl⟩
    · exact ⟨_, rfl⟩
  | finish id answer =>
    simp only [CacheRun.step]
    split <;> exact ⟨_, rfl⟩
  | invalidate guild => exact ⟨_, rfl⟩
  | invalidateAll => exact ⟨_, rfl⟩
  | reap => exact ⟨_, rfl⟩

theorem CacheRun.exists_run_eq (r : CacheRun) (h : History) (actions : List CacheAction) :
    ∃ h', CacheRun.run { r with history := h } actions = { r.run actions with history := h' } := by
  induction actions generalizing r h with
  | nil => exact ⟨h, rfl⟩
  | cons action actions ih =>
    obtain ⟨h', hstep⟩ := r.exists_step_eq h action
    rw [CacheRun.run, List.foldl_cons, hstep]
    exact ih (r.step action) h'

namespace MaintainedRun

variable {r : MaintainedRun}

theorem Turn.exists_run_eq {effects : List CacheAction} {r' : MaintainedRun}
    (turn : r.Turn effects r') : ∃ h, r.alone.run effects = { r'.alone with history := h } := by
  cases turn with
  | quiet _ _ _ _ cache => exact cache
  | @take _ _ request => cases request <;> exact ⟨_, rfl⟩
  | wait => exact ⟨[], rfl⟩
  | stop => exact ⟨[], rfl⟩

/-- The trace tells all that happens to the cache. -/
theorem exists_run_trace (r : MaintainedRun) (actions : List MaintainedAction) :
    ∃ h, r.alone.run (r.trace actions) = { (r.run actions).alone with history := h } := by
  induction actions generalizing r with
  | nil => exact ⟨[], rfl⟩
  | cons action actions ih =>
    obtain ⟨h, heffects⟩ := (r.turn_step action).exists_run_eq
    obtain ⟨h', htrace⟩ := ih (r.step action)
    obtain ⟨h'', hrun⟩ := (r.step action).alone.exists_run_eq h ((r.step action).trace actions)
    refine ⟨h'', ?_⟩
    rw [trace, CacheRun.run_append, heffects, hrun, htrace]
    rfl

end MaintainedRun

end GuildModeration
