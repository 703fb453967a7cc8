import GuildModeration.Proofs.Cache.MaintainedRun
import Mathlib.Data.List.TakeWhile

/-!
# Requests to the maintenance

Requests are served in the order in which they were sent, so a request is served unless the task
leaves before its turn. `MaintainedRun.IsAhead` says that it will be, and that is kept by every
turn but the one that serves it. A request behind one to shut down is thrown away instead, and so is
one that is sent while the task ends, though whoever asked was told that it was accepted.

For the converse a course of things is given in which the request is lost: the task takes what is
before the request to shut down, then that request, and ends. It has to be able to do so, which is
why a task that has ended is known to have closed the queue (`MaintainedRun.ClosedOnceEnded`).
-/

namespace GuildModeration

/-! ## Requests before one to shut down -/

/-- The requests before the first one to shut down. -/
def beforeShutdown (pending : List CacheRequest) : List CacheRequest :=
  pending.takeWhile (· ≠ .shutdown)

section BeforeShutdown

variable {request : CacheRequest} {pending : List CacheRequest}

theorem beforeShutdown_cons (h : request ≠ .shutdown) (pending : List CacheRequest) :
    beforeShutdown (request :: pending) = request :: beforeShutdown pending :=
  List.takeWhile_cons_of_pos (decide_eq_true h)

theorem forall_ne_shutdown (h : .shutdown ∉ pending) :
    ∀ request ∈ pending, decide (request ≠ .shutdown) = true :=
  fun _ hrequest ↦ decide_eq_true fun heq ↦ h (heq ▸ hrequest)

theorem mem_of_mem_beforeShutdown (h : request ∈ beforeShutdown pending) : request ∈ pending :=
  (List.takeWhile_sublist _).mem h

/-- More requests behind it do not matter. -/
theorem mem_beforeShutdown_of_prefix {more : List CacheRequest} (hmore : pending <+: more)
    (h : request ∈ beforeShutdown pending) : request ∈ beforeShutdown more := by
  obtain ⟨rest, rfl⟩ := hmore
  rw [beforeShutdown, List.takeWhile_append]
  split
  · next hall =>
    rw [beforeShutdown, (List.takeWhile_prefix _).eq_of_length hall] at h
    exact List.mem_append_left _ h
  · exact h

/-- A request at the end is before one to shut down if there is none, or if it stands somewhere
before it as well. -/
theorem mem_beforeShutdown_concat_iff (h : request ≠ .shutdown) :
    request ∈ beforeShutdown (pending ++ [request]) ↔
      .shutdown ∉ pending ∨ request ∈ beforeShutdown pending := by
  by_cases hnone : .shutdown ∈ pending
  · have hlength : (pending.takeWhile (· ≠ .shutdown)).length ≠ pending.length := by
      intro hlength
      have hself := (List.takeWhile_prefix _).eq_of_length hlength
      exact absurd rfl (of_decide_eq_true (List.takeWhile_eq_self_iff.mp hself _ hnone))
    rw [beforeShutdown, List.takeWhile_append, if_neg hlength]
    exact ⟨Or.inr, fun h ↦ h.resolve_left (not_not_intro hnone)⟩
  · rw [beforeShutdown, List.takeWhile_append_of_pos (forall_ne_shutdown hnone), ← beforeShutdown,
      beforeShutdown_cons h]
    exact ⟨fun _ ↦ Or.inl hnone, fun _ ↦ List.mem_append_right _ List.mem_cons_self⟩

end BeforeShutdown

namespace MaintainedRun

variable {r : MaintainedRun} {guild : GuildId}

/-! ## Requests ahead of the end -/

/-- A request to take the guild out is in the queue, and the task will come to it. -/
structure IsAhead (r : MaintainedRun) (guild : GuildId) : Prop where
  not_leaving : r.isLeaving = false
  not_ended : ¬ r.HasEnded
  mem : .invalidate guild ∈ beforeShutdown r.queue.pending

theorem IsAhead.pending_ne_nil (h : r.IsAhead guild) : r.queue.pending ≠ [] :=
  List.ne_nil_of_mem (mem_of_mem_beforeShutdown h.mem)

/-- A request ahead is served, or stays ahead. -/
theorem IsAhead.turn (h : r.IsAhead guild) {effects : List CacheAction} {r' : MaintainedRun}
    (turn : r.Turn effects r') : .invalidate guild ∈ effects ∨ r'.IsAhead guild := by
  cases turn with
  | quiet leaving ended pending receiver =>
    exact Or.inr ⟨leaving.trans h.not_leaving, fun hended ↦ h.not_ended (ended.mp hended),
      mem_beforeShutdown_of_prefix pending h.mem⟩
  | @take _ _ request rest phase leaving pending =>
    have hmem := h.mem
    rw [pending] at hmem
    have hgoesOn : request ≠ .shutdown := by
      rintro rfl
      cases hmem
    rw [beforeShutdown_cons hgoesOn] at hmem
    rw [r.cache.shared.handle_goesOn hgoesOn]
    obtain heq | hrest := List.mem_cons.mp hmem
    · exact Or.inl (CacheRequest.mem_action?_iff.mpr heq.symm)
    · exact Or.inr ⟨rfl, h.not_ended, hrest⟩
  | wait pending => exact absurd pending h.pending_ne_nil
  | stop leaving =>
    rw [h.not_leaving] at leaving
    cases leaving

theorem IsAhead.run (h : r.IsAhead guild) (actions : List MaintainedAction) :
    .invalidate guild ∈ r.trace actions ∨ (r.run actions).IsAhead guild := by
  induction actions generalizing r with
  | nil => exact Or.inr h
  | cons action actions ih =>
    rw [trace]
    obtain hserved | hahead := h.turn (r.turn_step action)
    · exact Or.inl (List.mem_append_left _ hserved)
    · obtain hserved | hahead := ih hahead
      · exact Or.inl (List.mem_append_right _ hserved)
      · exact Or.inr hahead

/-! ## Requests behind the end -/

/-- A task that has ended has closed the queue. -/
def ClosedOnceEnded (r : MaintainedRun) : Prop :=
  r.HasEnded → r.queue.hasReceiver = false

theorem ClosedOnceEnded.turn (h : r.ClosedOnceEnded) {effects : List CacheAction}
    {r' : MaintainedRun} (turn : r.Turn effects r') : r'.ClosedOnceEnded := by
  cases turn with
  | quiet leaving ended pending receiver =>
    exact fun hended ↦ receiver.trans (h (ended.mp hended))
  | take phase leaving pending => exact h
  | wait pending => exact h
  | stop leaving => exact fun _ ↦ rfl

theorem ClosedOnceEnded.run (h : r.ClosedOnceEnded) (actions : List MaintainedAction) :
    (r.run actions).ClosedOnceEnded := by
  induction actions generalizing r with
  | nil => exact h
  | cons action actions ih => exact ih (h.turn (r.turn_step action))

/-- A task at work that comes to a request to shut down first throws the rest away. -/
theorem exists_lost_of_running {interval nextPass : Nat}
    (hphase : r.cache.maintenance.phase = .running interval nextPass)
    (hleaving : r.isLeaving = false) (hshutdown : .shutdown ∈ r.queue.pending)
    (hbehind : .invalidate guild ∉ beforeShutdown r.queue.pending) :
    ∃ later, (r.run later).HasEnded ∧ .invalidate guild ∉ r.trace later := by
  generalize hpending : r.queue.pending = pending at hshutdown hbehind
  induction pending generalizing r with
  | nil => cases hshutdown
  | cons request rest ih =>
    obtain ⟨heffects, hstep⟩ := step_receive_of_cons hphase hleaving hpending
    by_cases hrequest : request = .shutdown
    · -- the task leaves, and ends
      subst hrequest
      refine ⟨[.receive, .stop], ?_, ?_⟩
      · rw [run, List.foldl_cons, hstep]
        rfl
      · rw [trace, heffects, hstep]
        exact List.not_mem_nil
    · rw [beforeShutdown_cons hrequest, List.mem_cons, not_or] at hbehind
      have hrest := (List.mem_cons.mp hshutdown).resolve_left (Ne.symm hrequest)
      rw [r.cache.shared.handle_goesOn hrequest] at hstep
      have hnext : (r.step .receive).isLeaving = false ∧ (r.step .receive).queue.pending = rest ∧
          (r.step .receive).cache.maintenance.phase = .running interval nextPass := by
        rw [hstep]
        exact ⟨rfl, rfl, hphase⟩
      obtain ⟨later, hended, hlost⟩ := ih hnext.2.2 hnext.1 hnext.2.1 hrest hbehind.2
      refine ⟨.receive :: later, hended, ?_⟩
      rw [trace, heffects, List.mem_append, not_or, CacheRequest.mem_action?_iff]
      exact ⟨Ne.symm hbehind.1, hlost⟩

theorem ClosedOnceEnded.not_ended (h : r.ClosedOnceEnded)
    (hreceiver : r.queue.hasReceiver = true) : ¬ r.HasEnded := by
  intro hended
  rw [h hended] at hreceiver
  cases hreceiver

/-- A request in the queue that is not ahead of the end is lost in some course of things. -/
theorem exists_lost (hclosed : r.ClosedOnceEnded) (hreceiver : r.queue.hasReceiver = true)
    (hmem : .invalidate guild ∈ r.queue.pending) (h : ¬ r.IsAhead guild) :
    ∃ later, (r.run later).HasEnded ∧ .invalidate guild ∉ r.trace later := by
  have hended := hclosed.not_ended hreceiver
  cases hleaving : r.isLeaving with
  | true =>
    -- nothing is taken from the queue any more
    refine ⟨[.stop], ?_, List.not_mem_nil⟩
    rw [run, List.foldl_cons, step, hleaving]
    rfl
  | false =>
    have hbehind : .invalidate guild ∉ beforeShutdown r.queue.pending :=
      fun hahead ↦ h ⟨hleaving, hended, hahead⟩
    have hshutdown : .shutdown ∈ r.queue.pending := by
      by_contra hnone
      rw [beforeShutdown, List.takeWhile_eq_self_iff.mpr (forall_ne_shutdown hnone)] at hbehind
      exact hbehind hmem
    cases hphase : r.cache.maintenance.phase with
    | idle =>
      -- the task has to be started first, which leaves the queue as it is
      have hstarted : r.step (.start 1 Nat.one_pos) =
          { r with cache := { r.cache with maintenance :=
            { r.cache.maintenance with phase := .running 1 r.now } } } := by
        rw [step, MaintainedCache.start_of_idle hphase hreceiver r.now Nat.one_pos]
      obtain ⟨later, hlater, hlost⟩ : ∃ later,
          ((r.step (.start 1 Nat.one_pos)).run later).HasEnded ∧
            .invalidate guild ∉ (r.step (.start 1 Nat.one_pos)).trace later := by
        rw [hstarted]
        exact exists_lost_of_running rfl hleaving hshutdown hbehind
      exact ⟨.start 1 Nat.one_pos :: later, hlater, hlost⟩
    | running interval nextPass => exact exists_lost_of_running hphase hleaving hshutdown hbehind
    | ended => exact absurd hphase hended

/-! ## Requests that are kept -/

/-- However things go on after the request, the guild has been taken out once the queue is empty or
the task has ended. -/
def Keeps (r : MaintainedRun) (guild : GuildId) : Prop :=
  ∀ later, ((r.step (.request guild)).run later).queue.pending = [] ∨
      ((r.step (.request guild)).run later).HasEnded →
    CacheAction.invalidate guild ∈ r.trace (.request guild :: later)

/-- If the request goes to the task, then the task is not about to end, and the queue has no request
to shut down in it, or a request for the guild before the first one. -/
def IsInTime (r : MaintainedRun) (guild : GuildId) : Prop :=
  (r.queue.send (.invalidate guild)).1 = .queued → r.isLeaving = false ∧
    (.shutdown ∉ r.queue.pending ∨
      .invalidate guild ∈ beforeShutdown r.queue.pending)

theorem keeps_of_isInTime (hclosed : r.ClosedOnceEnded) (hsender : r.queue.hasSender = true)
    (h : r.IsInTime guild) : r.Keeps guild := by
  intro later hend
  have hne : CacheRequest.invalidate guild ≠ .shutdown := nofun
  rw [trace]
  obtain ⟨hqueued, hreceiver, -⟩ | ⟨hnot, -⟩ := r.queue.send_cases (.invalidate guild)
  · obtain ⟨hleaving, hbefore⟩ := h hqueued
    have hmem := (mem_beforeShutdown_concat_iff hne).mpr hbefore
    have hahead : (r.step (.request guild)).IsAhead guild := by
      rw [(step_request_of_queued hsender hqueued).2]
      exact ⟨hleaving, hclosed.not_ended hreceiver, hmem⟩
    -- a request that is still ahead is in the queue, and the task has not ended
    obtain hserved | hahead := hahead.run later
    · exact List.mem_append_right _ hserved
    · rcases hend with hempty | hended
      · exact absurd hempty hahead.pending_ne_nil
      · exact absurd hended hahead.not_ended
  · rw [effects_request_of_not_queued hsender hnot]
    exact List.mem_append_left _ List.mem_cons_self

theorem isInTime_of_keeps (hclosed : r.ClosedOnceEnded) (hsender : r.queue.hasSender = true)
    (h : r.Keeps guild) : r.IsInTime guild := by
  intro hqueued
  have hne : CacheRequest.invalidate guild ≠ .shutdown := nofun
  obtain ⟨-, hreceiver, -⟩ | ⟨hnot, -⟩ := r.queue.send_cases (.invalidate guild)
  · obtain ⟨heffects, hstep⟩ := step_request_of_queued hsender hqueued
    have hahead : (r.step (.request guild)).IsAhead guild := by
      -- otherwise the task can end before it comes to the request
      by_contra hbehind
      have hclosed' := hclosed.turn (r.turn_step (.request guild))
      obtain ⟨later, hended, hlost⟩ := exists_lost hclosed'
        (by rw [hstep]; exact hreceiver)
        (by rw [hstep]; exact List.mem_append_right _ List.mem_cons_self) hbehind
      have hserved := h later (Or.inr hended)
      rw [trace, heffects, List.nil_append] at hserved
      exact hlost hserved
    rw [hstep] at hahead
    exact ⟨hahead.not_leaving, (mem_beforeShutdown_concat_iff hne).mp hahead.mem⟩
  · exact absurd hqueued hnot

/-- Whatever has happened to a cache with any queue, to its callers and to its task: a request that
is answered with no has been carried out on the spot, and a request is kept exactly if it is in
time. The trace that tells so is what happens to the cache. -/
theorem keeps_iff (ttl limit now : Nat) (queue : RequestQueue) (actions : List MaintainedAction)
    (guild : GuildId) :
    let r := (new ttl limit now queue).run actions
    (∀ later, (r.alone.run (r.trace later)).shared = (r.run later).cache.shared) ∧
      (r.queue.hasSender = true →
        ((r.cache.requestInvalidation guild).1 = false →
          .invalidate guild ∈ r.effects (.request guild)) ∧
        (r.Keeps guild ↔ r.IsInTime guild)) := by
  intro r
  have hnew : (new ttl limit now queue).ClosedOnceEnded := fun hended ↦ by cases hended
  have hclosed : r.ClosedOnceEnded := hnew.run actions
  refine ⟨fun later ↦ ?_, fun hsender ↦ ⟨fun hno ↦ ?_, ?_, ?_⟩⟩
  · obtain ⟨h, htrace⟩ := r.exists_run_trace later
    rw [htrace]
    rfl
  · rw [MaintainedCache.requestInvalidation_eq, ← MaintainedRun.queue] at hno
    have hdelivery : (r.queue.send (.invalidate guild)).1 = .closed := by simpa using hno
    rw [effects_request_of_not_queued hsender (by rw [hdelivery]; decide)]
    exact List.mem_cons_self
  · exact isInTime_of_keeps hclosed hsender
  · exact keeps_of_isInTime hclosed hsender

/-- A request behind others, none of them to shut down. -/
theorem keeps_behind_others :
    let r := (new 300000 10 0 { capacity := 4, pending := [.invalidateAll, .invalidate 2] }).run []
    r.queue.hasSender = true ∧ (r.cache.requestInvalidation 1).1 = true ∧ r.Keeps 1 := by
  intro r
  obtain ⟨-, hkeeps⟩ := keeps_iff 300000 10 0
    { capacity := 4, pending := [.invalidateAll, .invalidate 2] } [] 1
  exact ⟨rfl, rfl, (hkeeps rfl).2.mpr fun _ ↦ ⟨rfl, Or.inl (by decide)⟩⟩

/-- A request behind one to shut down: it is accepted, the task starts and ends, and nothing has
happened to the cache. -/
theorem not_keeps_behind_shutdown :
    let r := new 300000 10 0 { capacity := 4, pending := [.shutdown] }
    let later : List MaintainedAction := [.start 1000 (by decide), .receive, .stop]
    r.queue.hasSender = true ∧ (r.cache.requestInvalidation 1).1 = true ∧
      ((r.step (.request 1)).run later).HasEnded ∧ r.trace (.request 1 :: later) = [] ∧
      ¬ r.Keeps 1 := by
  intro r later
  have hended : ((r.step (.request 1)).run later).HasEnded := rfl
  have htrace : r.trace (.request 1 :: later) = [] := rfl
  refine ⟨rfl, rfl, hended, htrace, fun hkeeps ↦ ?_⟩
  have hserved := hkeeps later (Or.inr hended)
  rw [htrace] at hserved
  cases hserved

end MaintainedRun

end GuildModeration
