import GuildModeration.Proofs.Cache.Records
import GuildModeration.Proofs.Cache.Idle

/-!
# Timelines follow runs

A timeline decides in which order things happen: lookups go as far as they can, loads end when they
are due, the maintenance makes up for its passes. Whatever it decides, what happens to the cache is
a run, and every answer that a timeline hands out was seen in that run. So all that holds of runs
holds of timelines.

Two things have to be kept in mind on the way. One is which loads are still to end:
`SharedCache.Steady` says that they are those of lookups that wait for the store, each once. The
loads are a parameter because those that are due leave the timeline together and end one after the
other. The other is that the maintenance is never late, so that a pass made on the way to a later
moment is made after all that happened before.
-/

namespace GuildModeration

namespace SharedCache

/-- The lookups are in order, and the loads that are pending are theirs. -/
structure Steady (s : SharedCache) (pending : List PendingLoad) : Prop where
  orderly : s.Orderly
  load_mem : ∀ p ∈ pending, p.lookup ∈ s.lookups
  load_phase : ∀ p ∈ pending, p.lookup.phase = .loading
  load_nodup : (pending.map (·.lookup.id)).Nodup

variable {s : SharedCache} {pending : List PendingLoad}

/-- The order in which loads are listed does not matter. -/
theorem Steady.perm (h : s.Steady pending) {pending' : List PendingLoad}
    (hperm : pending'.Perm pending) : s.Steady pending' where
  orderly := h.orderly
  load_mem p hp := h.load_mem p (hperm.mem_iff.mp hp)
  load_phase p hp := h.load_phase p (hperm.mem_iff.mp hp)
  load_nodup := (hperm.map _).nodup_iff.mpr h.load_nodup

theorem Steady.tail {p : PendingLoad} (h : s.Steady (p :: pending)) : s.Steady pending where
  orderly := h.orderly
  load_mem q hq := h.load_mem q (List.mem_cons_of_mem _ hq)
  load_phase q hq := h.load_phase q (List.mem_cons_of_mem _ hq)
  load_nodup := (List.nodup_cons.mp h.load_nodup).2

theorem Steady.withCache (h : s.Steady pending) (cache : ConfigCache) :
    (s.withCache cache).Steady pending :=
  { h with orderly := h.orderly.withCache cache }

theorem Steady.reap (h : s.Steady pending) (now : Nat) : (s.reap now).2.Steady pending :=
  { h with orderly := h.orderly.reap now }

theorem Steady.enqueue (h : s.Steady pending) (guild : GuildId) :
    ((s.lockFor guild).2.enqueue guild (s.lockFor guild).1).Steady pending where
  orderly := (h.orderly.lockFor guild).enqueue (find?_lockFor s guild)
  load_mem p hp := by
    refine List.mem_append_left _ ?_
    rw [lockFor_lookups]
    exact h.load_mem p hp
  load_phase := h.load_phase
  load_nodup := h.load_nodup

/-- The end of a lookup leaves the loads of others pending. -/
theorem Steady.release (h : s.Steady pending) {l : Lookup} (hl : l ∈ s.lookups)
    (hphase : l.phase ≠ .waiting) (hother : ∀ p ∈ pending, p.lookup.id ≠ l.id) :
    (s.release l).Steady pending where
  orderly := h.orderly.release hl hphase
  load_mem p hp :=
    mem_release h.orderly.ids_nodup (h.load_mem p hp) (hother p hp) (by simp [h.load_phase p hp])
  load_phase := h.load_phase
  load_nodup := h.load_nodup

theorem Steady.id_ne (h : s.Steady pending) {l : Lookup} (hl : l ∈ s.lookups)
    (hphase : l.phase ≠ .loading) : ∀ p ∈ pending, p.lookup.id ≠ l.id := by
  intro p hp hid
  have heq := eq_of_id_eq h.orderly.ids_nodup (h.load_mem p hp) hl hid
  exact hphase (heq ▸ h.load_phase p hp)

/-- A lookup that has asked the store has a load pending. -/
theorem Steady.ask (h : s.Steady pending) {l : Lookup} (hl : l ∈ s.lookups)
    (hphase : l.phase = .granted) (due : Nat) :
    (s.setPhase l.id .loading).Steady (⟨{ l with phase := .loading }, due⟩ :: pending) where
  orderly := h.orderly.setPhase hl (by simp [hphase]) (by simp)
  load_mem p hp := by
    refine (mem_setPhase_iff h.orderly.ids_nodup hl).mpr ?_
    rcases List.mem_cons.mp hp with rfl | hp
    · exact Or.inl rfl
    · exact Or.inr ⟨h.load_mem p hp, h.id_ne hl (by simp [hphase]) p hp⟩
  load_phase p hp := by
    rcases List.mem_cons.mp hp with rfl | hp
    · rfl
    · exact h.load_phase p hp
  load_nodup := by
    rw [List.map_cons, List.nodup_cons]
    refine ⟨fun hmem ↦ ?_, h.load_nodup⟩
    obtain ⟨p, hp, hid⟩ := List.mem_map.mp hmem
    exact h.id_ne hl (by simp [hphase]) p hp hid

/-- No guild is loaded twice at once. -/
theorem Steady.guild_nodup (h : s.Steady pending) : (pending.map (·.lookup.guild)).Nodup := by
  rw [List.nodup_iff_pairwise_ne, List.pairwise_map]
  refine (List.pairwise_map.mp h.load_nodup).imp_of_mem fun {p q} hp hq hne hguild ↦ hne ?_
  have hlock := h.orderly.lock_eq_lock (h.load_mem p hp) (h.load_mem q hq) hguild
  exact congrArg Lookup.id (h.orderly.holder_unique _ (h.load_mem p hp) _ (h.load_mem q hq) hlock
    (by simp [h.load_phase p hp]) (by simp [h.load_phase q hq]))

end SharedCache

namespace Timeline

/-- The cache of a timeline as a moment of a run. -/
def asRun (t : Timeline) (h : History) : CacheRun :=
  { now := t.now, shared := t.shared, history := h }

/-- All answers of a timeline are in the history. -/
def Seen (t : Timeline) (h : History) : Prop :=
  ∀ x ∈ t.answers, ∃ time guild, (time, .answered x.1 guild x.2) ∈ h

/-- What happens from one timeline to another is a run. -/
def Follows (t t' : Timeline) : Prop :=
  ∀ h, t.Seen h → ∃ actions h', (t.asRun h).run actions = t'.asRun h' ∧ t'.Seen h'

variable {t t' t'' : Timeline} {pending : List PendingLoad}

theorem Follows.trans (h : t.Follows t') (h' : t'.Follows t'') : t.Follows t'' := by
  intro past hseen
  obtain ⟨actions, past', hrun, hseen'⟩ := h past hseen
  obtain ⟨more, past'', hrun', hseen''⟩ := h' past' hseen'
  refine ⟨actions ++ more, past'', ?_, hseen''⟩
  rw [CacheRun.run_append, hrun, hrun']

/-- One action at one moment. -/
theorem Follows.of_step (a : CacheAction) (events : List CacheEvent)
    (hstep : ∀ past, (t.asRun past).step a = (t.asRun past).record t'.shared events)
    (hnow : t'.now = t.now)
    (hanswers : ∀ x ∈ t'.answers, x ∈ t.answers ∨ ∃ guild, .answered x.1 guild x.2 ∈ events) :
    t.Follows t' := by
  intro past hseen
  refine ⟨[a], events.map (t.now, ·) ++ past, ?_, fun x hx ↦ ?_⟩
  · rw [CacheRun.run, List.foldl_cons, List.foldl_nil, hstep, CacheRun.record, asRun, asRun, hnow]
  · rcases hanswers x hx with hold | ⟨guild, hnew⟩
    · obtain ⟨time, guild, hmem⟩ := hseen x hold
      exact ⟨time, guild, List.mem_append_right _ hmem⟩
    · exact ⟨t.now, guild, List.mem_append_left _ (List.mem_map_of_mem hnew)⟩

/-- Time may pass, and answers may be taken. -/
theorem Follows.of_wait (hshared : t'.shared = t.shared) (hnow : t.now ≤ t'.now)
    (hanswers : ∀ x ∈ t'.answers, x ∈ t.answers) : t.Follows t' := by
  intro past hseen
  refine ⟨[.wait (t'.now - t.now)], past, ?_, fun x hx ↦ hseen x (hanswers x hx)⟩
  rw [CacheRun.run, List.foldl_cons, List.foldl_nil, CacheRun.step, asRun, asRun, hshared,
    Nat.add_sub_cancel' hnow]

theorem Follows.refl (t : Timeline) : t.Follows t :=
  .of_wait rfl (Nat.le_refl _) fun _ ↦ id

/-! ## Lookups -/

theorem follows_finishLoad {p : PendingLoad} (h : t.shared.Steady (p :: pending)) :
    (t.finishLoad p.lookup).shared.Steady pending ∧ t.Follows (t.finishLoad p.lookup) := by
  have hl := h.load_mem p List.mem_cons_self
  have hphase := h.load_phase p List.mem_cons_self
  constructor
  · refine (h.tail.withCache _).release hl (by simp [hphase]) fun q hq hid ↦ ?_
    exact (List.nodup_cons.mp h.load_nodup).1 (List.mem_map.mpr ⟨q, hq, hid⟩)
  · refine .of_step (.finish p.lookup.id (t.store.load p.lookup.guild))
      [.answered p.lookup.id p.lookup.guild
        (t.shared.finish t.now p.lookup (t.store.load p.lookup.guild)).1,
        .loaded p.lookup.id p.lookup.guild (t.store.load p.lookup.guild)]
      (fun past ↦ ?_) rfl (fun x hx ↦ ?_)
    · exact CacheRun.step_finish (r := t.asRun past) h.orderly.ids_nodup hl hphase _
    rcases List.mem_append.mp hx with hx | hx
    · exact Or.inl hx
    · rw [List.mem_singleton.mp hx]
      exact Or.inr ⟨p.lookup.guild, List.mem_cons_self⟩

/-- The timeline once a lookup has asked the store. -/
def asking (t : Timeline) (l : Lookup) : Timeline :=
  { t with
    cache := { t.cache with shared := t.shared.setPhase l.id .loading }
    asked := t.asked ++ [l.guild] }

theorem goOn_of_fresh {l : Lookup} {config : GuildConfig}
    (h : t.shared.cache.fresh? t.now l.guild = some config) :
    t.goOn l = (t.withShared
      ((t.shared.withCache (t.shared.cache.touch t.now l.guild)).release l)).answer l.id
        (.ok config) := by
  rw [goOn, SharedCache.resume_of_fresh h]

theorem goOn_of_not_fresh {l : Lookup} (h : t.shared.cache.fresh? t.now l.guild = none) :
    t.goOn l =
      if t.delay = 0 then (t.asking l).finishLoad { l with phase := .loading }
      else { t.asking l with
        loads := t.loads ++ [⟨{ l with phase := .loading }, t.now + t.delay⟩] } := by
  rw [goOn, SharedCache.resume_of_not_fresh h]
  rfl

theorem follows_goOn (h : t.shared.Steady t.loads) {l : Lookup} (hl : l ∈ t.shared.lookups)
    (hphase : l.phase = .granted) :
    (t.goOn l).shared.Steady (t.goOn l).loads ∧ t.Follows (t.goOn l) := by
  cases hfresh : t.shared.cache.fresh? t.now l.guild with
  | some config =>
    rw [goOn_of_fresh hfresh]
    constructor
    · exact (h.withCache _).release hl (by simp [hphase]) (h.id_ne hl (by simp [hphase]))
    · refine .of_step (.resume l.id) [.answered l.id l.guild (.ok config)] (fun past ↦ ?_) rfl
        (fun x hx ↦ ?_)
      · exact CacheRun.step_resume_of_fresh (r := t.asRun past) h.orderly.ids_nodup hl hphase hfresh
      · rcases List.mem_append.mp hx with hx | hx
        · exact Or.inl hx
        · rw [List.mem_singleton.mp hx]
          exact Or.inr ⟨l.guild, List.mem_cons_self⟩
  | none =>
    have hasking : t.Follows (t.asking l) := by
      refine .of_step (.resume l.id) [.asked l.id l.guild] (fun past ↦ ?_) rfl (fun x hx ↦ Or.inl hx)
      exact CacheRun.step_resume_of_not_fresh (r := t.asRun past) h.orderly.ids_nodup hl hphase hfresh
    have hsteady : (t.asking l).shared.Steady _ := h.ask hl hphase (t.now + t.delay)
    rw [goOn_of_not_fresh hfresh]
    split
    · -- the load takes no time and ends at once
      have hend := follows_finishLoad hsteady
      exact ⟨hend.1, hasking.trans hend.2⟩
    · exact ⟨hsteady.perm (List.perm_append_singleton _ t.loads),
        hasking.trans (.of_wait rfl (Nat.le_refl _) fun _ ↦ id)⟩

theorem follows_runGranted (fuel : Nat) (h : t.shared.Steady t.loads) :
    (runGranted fuel t).shared.Steady (runGranted fuel t).loads ∧
      t.Follows (runGranted fuel t) := by
  induction fuel generalizing t with
  | zero => exact ⟨h, .refl t⟩
  | succ fuel ih =>
    rw [runGranted]
    split
    · next l hfind =>
      have hphase : l.phase = .granted := by simpa using List.find?_some hfind
      have hgo := follows_goOn h (List.mem_of_find?_eq_some hfind) hphase
      have hrest := ih hgo.1
      exact ⟨hrest.1, hgo.2.trans hrest.2⟩
    · exact ⟨h, .refl t⟩

theorem follows_runLookups (h : t.shared.Steady t.loads) :
    t.runLookups.shared.Steady t.runLookups.loads ∧ t.Follows t.runLookups :=
  follows_runGranted t.shared.lookups.length h

theorem follows_startGet (h : t.shared.Steady t.loads) (guild : GuildId) :
    (t.startGet guild).2.shared.Steady (t.startGet guild).2.loads ∧
      t.Follows (t.startGet guild).2 := by
  cases hfresh : t.shared.cache.fresh? t.now guild with
  | some config =>
    rw [startGet, SharedCache.start_of_fresh hfresh]
    constructor
    · have hstart := h.orderly.start t.now guild
      rw [SharedCache.start_of_fresh hfresh] at hstart
      exact { h with orderly := hstart }
    · refine .of_step (.start guild)
        [.answered t.shared.nextLookup guild (.ok config), .started t.shared.nextLookup guild]
        (fun past ↦ CacheRun.step_start_of_fresh (r := t.asRun past) hfresh) rfl (fun x hx ↦ ?_)
      rcases List.mem_append.mp hx with hx | hx
      · exact Or.inl hx
      · rw [List.mem_singleton.mp hx]
        exact Or.inr ⟨guild, List.mem_cons_self⟩
  | none =>
    rw [startGet, SharedCache.start_of_not_fresh hfresh]
    -- the lookup joins the queue, and then all go as far as they can
    have hrun := follows_runLookups (t := t.withShared
      ((t.shared.lockFor guild).2.enqueue guild (t.shared.lockFor guild).1)) (h.enqueue guild)
    refine ⟨hrun.1, Follows.trans ?_ hrun.2⟩
    refine .of_step (.start guild) [.started t.shared.nextLookup guild] (fun past ↦ ?_) rfl
      (fun x hx ↦ Or.inl hx)
    exact CacheRun.step_start_of_not_fresh (r := t.asRun past) hfresh

/-! ## Loads that are due -/

theorem follows_finishLoads {due : List PendingLoad} (h : t.shared.Steady (due ++ t.loads)) :
    (due.foldl (fun t p ↦ t.finishLoad p.lookup) t).shared.Steady
        (due.foldl (fun t p ↦ t.finishLoad p.lookup) t).loads ∧
      t.Follows (due.foldl (fun t p ↦ t.finishLoad p.lookup) t) := by
  -- the loads still to end are those of the list and those that the timeline has kept
  induction due generalizing t with
  | nil => exact ⟨h, .refl t⟩
  | cons p due ih =>
    have hend := follows_finishLoad h
    have hrest := ih hend.1
    exact ⟨hrest.1, hend.2.trans hrest.2⟩

/-- The loads of a moment are those that are due and those that are not. -/
theorem perm_loads (t : Timeline) :
    ((t.loads.filter fun p ↦ decide (p.due ≤ t.now)).mergeSort
        (fun a b ↦ decide (a.due ≤ b.due)) ++
      t.loads.filter fun p ↦ decide (t.now < p.due)).Perm t.loads := by
  have hlater : (t.loads.filter fun p ↦ decide (t.now < p.due)) =
      t.loads.filter fun p ↦ !decide (p.due ≤ t.now) := by
    refine List.filter_congr fun p _ ↦ ?_
    rw [← decide_not, decide_eq_decide, Nat.not_le]
  rw [hlater]
  exact ((List.mergeSort_perm _ _).append_right _).trans (List.filter_append_perm _ _)

theorem follows_endLoads (h : t.shared.Steady t.loads) :
    t.endLoads.shared.Steady t.endLoads.loads ∧ t.Follows t.endLoads := by
  have hrest : t.Follows { t with loads := t.loads.filter fun p ↦ decide (t.now < p.due) } :=
    .of_wait rfl (Nat.le_refl _) fun _ ↦ id
  have hdue := follows_finishLoads
    (t := { t with loads := t.loads.filter fun p ↦ decide (t.now < p.due) }) (h.perm t.perm_loads)
  have hrun := follows_runLookups hdue.1
  exact ⟨hrun.1, hrest.trans (hdue.2.trans hrun.2)⟩

/-! ## Maintenance -/

theorem follows_receive (h : t.shared.Steady pending) :
    t.cache.receive.shared.Steady pending ∧ t.Follows { t with cache := t.cache.receive } := by
  rcases t.cache.receive_shared with hshared | ⟨guild, hshared⟩ | hshared
  · refine ⟨?_, .of_wait hshared (Nat.le_refl _) fun _ ↦ id⟩
    rw [hshared]
    exact h
  · constructor
    · rw [hshared]
      exact h.withCache _
    · refine .of_step (.invalidate guild) [.dropped guild] (fun past ↦ ?_) rfl fun x hx ↦ Or.inl hx
      change _ = (t.asRun past).record t.cache.receive.shared _
      rw [hshared]
      rfl
  · constructor
    · rw [hshared]
      exact h.withCache _
    · refine .of_step .invalidateAll [.droppedAll] (fun past ↦ ?_) rfl fun x hx ↦ Or.inl hx
      change _ = (t.asRun past).record t.cache.receive.shared _
      rw [hshared]
      rfl

theorem follows_serve (h : t.shared.Steady pending) :
    t.cache.serve.shared.Steady pending ∧ t.Follows { t with cache := t.cache.serve } := by
  rw [MaintainedCache.serve]
  induction List.range (t.cache.maintenance.queue.pending.length + 1) generalizing t with
  | nil => exact ⟨h, .refl t⟩
  | cons _ ns ih =>
    have hone := follows_receive h
    have hrest := ih (t := { t with cache := t.cache.receive }) hone.1
    exact ⟨hrest.1, hone.2.trans hrest.2⟩

theorem follows_pass (h : t.shared.Steady pending) :
    (t.cache.pass t.now).shared.Steady pending ∧
      t.Follows { t with cache := t.cache.pass t.now } := by
  obtain hidle | ⟨interval, nextPass, hphase⟩ := t.cache.isIdle_or_running
  · rw [MaintainedCache.pass_of_isIdle hidle]
    exact ⟨h, .refl t⟩
  · have hshared := MaintainedCache.pass_shared hphase t.now
    constructor
    · rw [hshared]
      exact h.reap t.now
    · refine .of_step .reap [.reaped (t.shared.reap t.now).1] (fun past ↦ ?_) rfl
        fun x hx ↦ Or.inl hx
      change _ = (t.asRun past).record (t.cache.pass t.now).shared _
      rw [hshared]
      rfl

theorem follows_catchUp (h : t.shared.Steady pending) :
    (t.cache.catchUp t.now).shared.Steady pending ∧
      t.Follows { t with cache := t.cache.catchUp t.now } := by
  rw [MaintainedCache.catchUp]
  induction List.range (t.cache.duePasses t.now) generalizing t with
  | nil => exact ⟨h, .refl t⟩
  | cons _ ns ih =>
    have hone := follows_pass h
    have hrest := ih (t := { t with cache := t.cache.pass t.now }) hone.1
    exact ⟨hrest.1, hone.2.trans hrest.2⟩

/-- On the way to a later moment passes are made, each at its own moment. -/
theorem follows_passes {moment interval nextPass : Nat} (ns : List Nat)
    (h : t.shared.Steady pending)
    (hphase : t.cache.maintenance.phase = .running interval nextPass) (hnow : t.now ≤ nextPass)
    (hdue : ∀ k < ns.length, nextPass + k * interval ≤ moment) :
    (ns.foldl (fun c _ ↦ c.pass (c.nextPass?.getD 0)) t.cache).shared.Steady pending ∧
      t.Follows { t with
        cache := ns.foldl (fun c _ ↦ c.pass (c.nextPass?.getD 0)) t.cache
        now := max t.now moment } := by
  -- wait for the next pass, make it, and go on from there
  induction ns generalizing t nextPass with
  | nil => exact ⟨h, .of_wait rfl (Nat.le_max_left _ _) fun _ ↦ id⟩
  | cons n ns ih =>
    have hnext : t.cache.nextPass?.getD 0 = nextPass := by
      rw [MaintainedCache.nextPass?, hphase, Option.getD_some]
    have hfirst : nextPass ≤ moment := by simpa using hdue 0 (Nat.succ_pos _)
    have hwait : t.Follows { t with now := nextPass } := .of_wait rfl hnow fun _ ↦ id
    have hone := follows_pass (t := { t with now := nextPass }) h
    have hrest := ih (t := { t with now := nextPass, cache := t.cache.pass nextPass }) hone.1
      (MaintainedCache.pass_phase hphase nextPass) (Nat.le_add_right _ _) fun k hk ↦ by
        have hle := hdue (k + 1) (Nat.succ_lt_succ hk)
        rw [Nat.succ_mul] at hle
        omega
    rw [List.foldl_cons, hnext]
    refine ⟨hrest.1, hwait.trans (hone.2.trans ?_)⟩
    have hmax : max t.now moment = max nextPass moment := by omega
    rw [hmax]
    exact hrest.2

/-! ## Between two errands -/

/-- The loads and the task are in order. -/
structure Sound (t : Timeline) : Prop where
  steady : t.shared.Steady t.loads
  paced : t.cache.Paced
  onTime : t.cache.OnTime t.now

/-- One timeline in order follows from another. -/
def Leads (t t' : Timeline) : Prop :=
  t'.Sound ∧ t.Follows t'

theorem Leads.trans (h : t.Leads t') (h' : t'.Leads t'') : t.Leads t'' :=
  ⟨h'.1, h.2.trans h'.2⟩

theorem Sound.refl (h : t.Sound) : t.Leads t :=
  ⟨h, .refl t⟩

/-- Lookups do not make the task late. -/
theorem Sound.of_sameTask (h : t.Sound) (hsame : t.SameTask t')
    (hsteady : t'.shared.Steady t'.loads) : t'.Sound where
  steady := hsteady
  paced := by
    rw [MaintainedCache.Paced, hsame.maintenance_eq]
    exact h.paced
  onTime := by
    rw [MaintainedCache.OnTime, hsame.maintenance_eq, hsame.now_eq]
    exact h.onTime

theorem Sound.startGet (h : t.Sound) (guild : GuildId) : t.Leads (t.startGet guild).2 := by
  have hstart := follows_startGet h.steady guild
  exact ⟨h.of_sameTask (sameTask_startGet t guild) hstart.1, hstart.2⟩

/-- Whatever is late at a moment is made up for. -/
theorem leads_settle (h : t.shared.Steady t.loads) (hpaced : t.cache.Paced) :
    t.Leads t.settle := by
  have hends := follows_endLoads h
  have hserve := follows_serve hends.1
  have hcatchUp := follows_catchUp (t := { t.endLoads with cache := t.endLoads.cache.serve }) hserve.1
  have htask : t.endLoads.cache.Paced := by
    rw [MaintainedCache.Paced, (sameTask_endLoads t).maintenance_eq]
    exact hpaced
  have hpasses := MaintainedCache.onTime_catchUp htask.serve t.endLoads.now
  exact ⟨⟨hcatchUp.1, hpasses.1, hpasses.2⟩, hends.2.trans (hserve.2.trans hcatchUp.2)⟩

theorem Sound.moveTo (h : t.Sound) (moment : Nat) : t.Leads (t.moveTo moment) := by
  obtain hidle | ⟨interval, nextPass, hphase⟩ := t.cache.isIdle_or_running
  · rw [Timeline.moveTo, MaintainedCache.duePasses_of_isIdle hidle, ite_self]
    exact ⟨⟨h.steady, h.paced, MaintainedCache.onTime_of_isIdle hidle _⟩,
      .of_wait rfl (Nat.le_max_left _ _) fun _ ↦ id⟩
  · have hpos := h.paced interval nextPass hphase
    have hnow := h.onTime interval nextPass hphase
    rw [Timeline.moveTo]
    generalize hn : (if moment = 0 then 0 else t.cache.duePasses (moment - 1)) = n
    -- all passes before the moment are made, and no others
    have hdue : ∀ k < n, nextPass + k * interval ≤ moment := by
      intro k hk
      split at hn
      · omega
      · have hle := MaintainedCache.due_of_lt_duePasses hphase (hn ▸ hk)
        omega
    have hpast : moment ≤ nextPass + n * interval := by
      split at hn
      · omega
      · have hlt := MaintainedCache.lt_after_duePasses hpos hphase (moment - 1)
        rw [hn] at hlt
        omega
    have hpasses := follows_passes (List.range n) h.steady hphase hnow (by simpa using hdue)
    have hafter := MaintainedCache.passes_phase (fun c ↦ c.nextPass?.getD 0) (List.range n) hphase
    rw [List.length_range] at hafter
    have hle : nextPass ≤ nextPass + n * interval := Nat.le_add_right _ _
    exact ⟨⟨hpasses.1, MaintainedCache.paced_of_phase hafter hpos,
      MaintainedCache.onTime_of_phase hafter (Nat.max_le.mpr ⟨Nat.le_trans hnow hle, hpast⟩)⟩,
      hpasses.2⟩

theorem Sound.awaitLoad (h : t.Sound) : t.Leads t.awaitLoad := by
  rw [Timeline.awaitLoad]
  split
  · next due _ =>
    have hmove := h.moveTo due
    exact hmove.trans (leads_settle hmove.1.steady hmove.1.paced)
  · exact h.refl

theorem Sound.awaitWithin (id : LookupId) (fuel : Nat) (h : t.Sound) :
    t.Leads (awaitWithin id fuel t) := by
  induction fuel generalizing t with
  | zero => exact h.refl
  | succ fuel ih =>
    rw [Timeline.awaitWithin]
    split
    · exact h.refl
    · exact h.awaitLoad.trans (ih h.awaitLoad.1)

theorem Sound.await (h : t.Sound) (id : LookupId) : t.Leads (t.await id).2 := by
  have hwait := h.awaitWithin id (t.shared.lookups.length + 1)
  refine hwait.trans ⟨⟨hwait.1.steady, hwait.1.paced, hwait.1.onTime⟩, ?_⟩
  exact .of_wait rfl (Nat.le_refl _) fun x hx ↦ List.mem_of_mem_filter hx

theorem Sound.get (h : t.Sound) (guild : GuildId) : t.Leads (t.get guild).2 :=
  (h.startGet guild).trans ((h.startGet guild).1.await _)

theorem Sound.advance (h : t.Sound) (ms : Nat) : t.Leads (t.advance ms) := by
  have hwait : t.Follows { t with now := t.now + ms } :=
    .of_wait rfl (Nat.le_add_right _ _) fun _ ↦ id
  have hsettle := leads_settle (t := { t with now := t.now + ms }) h.steady h.paced
  exact ⟨hsettle.1, hwait.trans hsettle.2⟩

theorem Sound.startAll (h : t.Sound) (ids : List LookupId) (guilds : List GuildId) :
    t.Leads (guilds.foldl (fun (ids, t) guild ↦
      let (id, t) := t.startGet guild
      (ids ++ [id], t)) (ids, t)).2 := by
  induction guilds generalizing ids t with
  | nil => exact h.refl
  | cons guild guilds ih =>
    have hstart := h.startGet guild
    exact hstart.trans (ih hstart.1 _)

theorem Sound.awaitAll (h : t.Sound) (answers : List (Except StoreError GuildConfig))
    (ids : List LookupId) :
    t.Leads (ids.foldl (fun (answers, t) id ↦
      let (a, t) := t.await id
      (answers ++ [a], t)) (answers, t)).2 := by
  induction ids generalizing answers t with
  | nil => exact h.refl
  | cons id ids ih =>
    have hwait := h.await id
    exact hwait.trans (ih hwait.1 _)

theorem Sound.getAll (h : t.Sound) (guilds : List GuildId) : t.Leads (t.getAll guilds).2 := by
  have hstart := h.startAll [] guilds
  exact hstart.trans (hstart.1.awaitAll [] _)

theorem Sound.warm (h : t.Sound) (guilds : List GuildId) : t.Leads (t.warm guilds).2 := by
  rw [Timeline.warm]
  generalize 0 = n
  induction guilds generalizing n t with
  | nil => exact h.refl
  | cons guild guilds ih =>
    have hget := h.get guild
    rw [List.foldl_cons]
    dsimp only
    split
    · next config t' heq =>
      rw [heq] at hget
      exact hget.trans (ih hget.1 _)
    · next e t' heq =>
      rw [heq] at hget
      exact hget.trans (ih hget.1 _)

/-- One action on the cache from outside. -/
theorem Sound.changeShared (h : t.Sound) {f : SharedCache → SharedCache} (a : CacheAction)
    (events : List CacheEvent) (hsteady : (f t.shared).Steady t.loads)
    (hstep : ∀ past, (t.asRun past).step a = (t.asRun past).record (f t.shared) events) :
    t.Leads (t.changeShared f) :=
  ⟨⟨hsteady, h.paced, h.onTime⟩, .of_step a events hstep rfl fun _ hx ↦ Or.inl hx⟩

theorem Sound.requestInvalidation (h : t.Sound) (guild : GuildId) :
    t.Leads { t with cache := (t.cache.requestInvalidation guild).2 } := by
  have hdrop := h.changeShared (f := (·.invalidate guild)) (.invalidate guild) [.dropped guild]
    (h.steady.withCache (t.shared.cache.invalidate guild)) fun _ ↦ rfl
  rw [MaintainedCache.requestInvalidation]
  dsimp only
  split
  · exact ⟨⟨h.steady, h.paced, h.onTime⟩, .of_wait rfl (Nat.le_refl _) fun _ ↦ id⟩
  · exact hdrop
  · exact hdrop

theorem Sound.startTask (h : t.Sound) (interval : Nat) :
    t.Leads { t with cache := t.cache.start t.now interval } := by
  have hshared := t.cache.start_shared t.now interval
  have htask := h.paced.start h.onTime interval
  refine ⟨⟨?_, htask.1, htask.2⟩, .of_wait hshared (Nat.le_refl _) fun _ ↦ id⟩
  change (t.cache.start t.now interval).shared.Steady t.loads
  rw [hshared]
  exact h.steady

/-! ## Errands -/

/-- Something that is asked of a timeline. -/
inductive Errand where
  | get (guild : GuildId)
  | getAll (guilds : List GuildId)
  | warm (guilds : List GuildId)
  | advance (ms : Nat)
  /-- The store holds something else. -/
  | rewrite (store : MemoryStore)
  | invalidate (guild : GuildId)
  | invalidateAll
  | reap
  | requestInvalidation (guild : GuildId)
  /-- The maintenance task is started. -/
  | maintain (interval : Nat)

/-- Does what is asked; what is answered is left out. -/
def carryOut (t : Timeline) : Errand → Timeline
  | .get guild => (t.get guild).2
  | .getAll guilds => (t.getAll guilds).2
  | .warm guilds => (t.warm guilds).2
  | .advance ms => t.advance ms
  | .rewrite store => t.withStore store
  | .invalidate guild => t.changeShared (·.invalidate guild)
  | .invalidateAll => t.changeShared (·.invalidateAll)
  | .reap => t.changeShared fun s ↦ (s.reap t.now).2
  | .requestInvalidation guild => { t with cache := (t.cache.requestInvalidation guild).2 }
  | .maintain interval => { t with cache := t.cache.start t.now interval }

theorem Sound.carryOut (h : t.Sound) (errand : Errand) : t.Leads (t.carryOut errand) := by
  cases errand with
  | get guild => exact h.get guild
  | getAll guilds => exact h.getAll guilds
  | warm guilds => exact h.warm guilds
  | advance ms => exact h.advance ms
  | rewrite store =>
    exact ⟨⟨h.steady, h.paced, h.onTime⟩, .of_wait rfl (Nat.le_refl _) fun _ ↦ id⟩
  | invalidate guild =>
    exact h.changeShared (f := (·.invalidate guild)) (.invalidate guild) [.dropped guild]
      (h.steady.withCache _) fun _ ↦ rfl
  | invalidateAll =>
    exact h.changeShared (f := (·.invalidateAll)) .invalidateAll [.droppedAll]
      (h.steady.withCache _) fun _ ↦ rfl
  | reap =>
    exact h.changeShared (f := fun s ↦ (s.reap t.now).2) .reap
      [.reaped (t.shared.reap t.now).1] (h.steady.reap t.now) fun _ ↦ rfl
  | requestInvalidation guild => exact h.requestInvalidation guild
  | maintain interval => exact h.startTask interval

/-- A timeline with a new cache, before the maintenance is started. -/
def new (ttl limit now delay : Nat) (store : MemoryStore) (queue : RequestQueue) : Timeline :=
  { now, store, delay
    cache := { shared := { cache := { ttl, limit } }, maintenance := { queue } } }

theorem sound_new (ttl limit now delay : Nat) (store : MemoryStore) (queue : RequestQueue) :
    (new ttl limit now delay store queue).Sound where
  steady :=
    { orderly := CacheRun.orderly_new ttl limit now
      load_mem := by simp [new]
      load_phase := by simp [new]
      load_nodup := by simp [new] }
  paced := MaintainedCache.paced_of_isIdle fun i n hphase ↦ by cases hphase
  onTime := MaintainedCache.onTime_of_isIdle (fun i n hphase ↦ by cases hphase) _

theorem leads_errands (h : t.Sound) (errands : List Errand) :
    t.Leads (errands.foldl carryOut t) := by
  induction errands generalizing t with
  | nil => exact h.refl
  | cons errand errands ih =>
    have hone := h.carryOut errand
    exact hone.trans (ih hone.1)

/-- Whatever is asked of a timeline, what happens to its cache is a run of a new cache, and the
answers that it has were seen in that run. At no moment is a guild loaded twice at once. -/
theorem exists_run_of_errands (ttl limit now delay : Nat) (store : MemoryStore)
    (queue : RequestQueue) (errands : List Errand) :
    let t := errands.foldl carryOut (new ttl limit now delay store queue)
    (∃ actions h, (CacheRun.new ttl limit now).run actions = t.asRun h ∧ t.Seen h) ∧
      (t.loads.map (·.lookup.guild)).Nodup := by
  intro t
  obtain ⟨hsound, hfollows⟩ := leads_errands (sound_new ttl limit now delay store queue) errands
  have hseen : (new ttl limit now delay store queue).Seen [] := by
    intro x hx
    cases hx
  exact ⟨hfollows [] hseen, hsound.steady.guild_nodup⟩

end Timeline

end GuildModeration
