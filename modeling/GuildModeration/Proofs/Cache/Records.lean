import GuildModeration.Proofs.Cache.Run

/-!
# Lookups and their records

A run keeps the lookups under way and the history of what was seen side by side. This file relates
the two: the order among the lookups lasts over every run, and the history shows exactly which
lookups are under way and which loads are in flight. A lookup is under way from the event that
started it to the event that answered it; its load is in flight from the event that asked the store
to the event that shows its answer.
-/

namespace GuildModeration

namespace CacheRun

/-- A load ends once, after it began. -/
def LoadInOrder : Nat × CacheEvent → History → Prop
  | (_, .loaded id guild _), past =>
    (∃ t, (t, .asked id guild) ∈ past) ∧ ∀ x ∈ past, x.2.ends id = false
  | _, _ => True

/-- The history fits the lookups under way. -/
structure Recorded (r : CacheRun) : Prop where
  /-- Lookups to come have left no trace. -/
  id_lt : ∀ x ∈ r.history, ∀ id, x.2.lookup? = some id → id < r.shared.nextLookup
  /-- Lookups under way have not ended. -/
  not_ended : ∀ l ∈ r.shared.lookups, ∀ x ∈ r.history, x.2.ends l.id = false
  /-- Lookups that began are under way or answered. -/
  started_cases : ∀ t id guild, (t, .started id guild) ∈ r.history →
    (∃ l ∈ r.shared.lookups, l.id = id ∧ l.guild = guild) ∨
      ∃ t' result, (t', .answered id guild result) ∈ r.history
  /-- Who waits for the store has asked it. -/
  asked : ∀ l ∈ r.shared.lookups, l.phase = .loading → ∃ t, (t, .asked l.id l.guild) ∈ r.history
  /-- The store has answered those that asked it and do not wait for it. -/
  asked_cases : ∀ t id guild, (t, .asked id guild) ∈ r.history →
    (∃ l ∈ r.shared.lookups, l.id = id ∧ l.guild = guild ∧ l.phase = .loading) ∨
      ∃ t' answer, (t', .loaded id guild answer) ∈ r.history
  /-- Loads end once, after they began. -/
  ordered : r.history.Holds LoadInOrder

theorem recorded_new (ttl limit now : Nat) : (new ttl limit now).Recorded where
  id_lt := by simp [new]
  not_ended := by simp [new]
  started_cases := by simp [new]
  asked := by simp [new]
  asked_cases := by simp [new]
  ordered := trivial

theorem orderly_new (ttl limit now : Nat) : (new ttl limit now).shared.Orderly where
  id_lt := by simp [new]
  ids_nodup := by simp [new]
  lock_lt := by simp [new]
  lock_injective := by simp [new]
  lock_eq := by simp [new]
  holder_unique := by simp [new]
  holder_exists := by simp [new]

/-! ## The order lasts -/

theorem Move.orderly {r r' : CacheRun} (m : r.Move r') (h : r.shared.Orderly) :
    r'.shared.Orderly := by
  cases m with
  | stay => exact h
  | wait ms => exact h
  | @hit guild config fresh =>
    have hstart := h.start r.now guild
    rwa [SharedCache.start_of_fresh fresh] at hstart
  | @miss guild missing =>
    have hstart := h.start r.now guild
    rwa [SharedCache.start_of_not_fresh missing] at hstart
  | lateHit mem phase _ => exact (h.withCache _).release mem (by simp [phase])
  | ask mem phase _ => exact h.setPhase mem (by simp [phase]) (by simp)
  | load _ mem phase => exact (h.withCache _).release mem (by simp [phase])
  | fail _ mem phase => exact h.release mem (by simp [phase])
  | invalidate guild => exact h.withCache _
  | invalidateAll => exact h.withCache _
  | reap => exact h.reap r.now

theorem orderly_run {r : CacheRun} (ho : r.shared.Orderly) (actions : List CacheAction) :
    (r.run actions).shared.Orderly :=
  run_induction (P := fun r ↦ r.shared.Orderly) (fun _ _ h m ↦ m.orderly h) ho actions

/-! ## The history lasts -/

/-- Some events tell what became of the lookups under way. -/
structure Told (s s' : SharedCache) (events : List CacheEvent) : Prop where
  next_le : s.nextLookup ≤ s'.nextLookup
  id_lt : ∀ e ∈ events, ∀ id, e.lookup? = some id → id < s'.nextLookup
  /-- A lookup is new and does not load, or it was under way before. -/
  origin : ∀ l ∈ s'.lookups, l.id = s.nextLookup ∧ l.phase ≠ .loading ∨
    ∃ old ∈ s.lookups, l.id = old.id ∧ l.guild = old.guild ∧
      (l.phase = .loading → old.phase = .loading ∨ .asked l.id l.guild ∈ events)
  not_ended : ∀ l ∈ s'.lookups, ∀ e ∈ events, e.ends l.id = false
  /-- A lookup goes on, and with it its load, or its end is among the events. -/
  fate : ∀ l ∈ s.lookups,
    (∃ l' ∈ s'.lookups, l'.id = l.id ∧ l'.guild = l.guild ∧
      (l.phase = .loading → l'.phase = .loading)) ∨
    (∃ result, .answered l.id l.guild result ∈ events) ∧
      (l.phase = .loading → ∃ answer, .loaded l.id l.guild answer ∈ events)
  started : ∀ id guild, .started id guild ∈ events →
    (∃ l ∈ s'.lookups, l.id = id ∧ l.guild = guild) ∨
      ∃ result, .answered id guild result ∈ events
  asked : ∀ id guild, .asked id guild ∈ events →
    ∃ l ∈ s'.lookups, l.id = id ∧ l.guild = guild ∧ l.phase = .loading

theorem mem_record_iff {r : CacheRun} {s : SharedCache} {events : List CacheEvent}
    {x : Nat × CacheEvent} :
    x ∈ (r.record s events).history ↔ x.1 = r.now ∧ x.2 ∈ events ∨ x ∈ r.history := by
  rw [record, List.mem_append, List.mem_map]
  refine or_congr ⟨?_, ?_⟩ Iff.rfl
  · rintro ⟨e, he, rfl⟩
    exact ⟨rfl, he⟩
  · rintro ⟨hnow, he⟩
    exact ⟨x.2, he, by rw [← hnow]⟩

theorem Recorded.record {r : CacheRun} (h : r.Recorded) {s : SharedCache}
    {events : List CacheEvent} (told : Told r.shared s events)
    (hordered : History.Holds LoadInOrder (events.map (r.now, ·) ++ r.history)) :
    (r.record s events).Recorded where
  id_lt x hx id hid := by
    rcases mem_record_iff.mp hx with ⟨-, he⟩ | hx
    · exact told.id_lt x.2 he id hid
    · exact Nat.lt_of_lt_of_le (h.id_lt x hx id hid) told.next_le
  not_ended l hl x hx := by
    rcases mem_record_iff.mp hx with ⟨-, he⟩ | hx
    · exact told.not_ended l hl x.2 he
    · rcases told.origin l hl with ⟨hnew, -⟩ | ⟨old, hold, hid, -⟩
      · -- a lookup that has just begun has left no trace
        by_contra hended
        have hlt := h.id_lt x hx l.id (CacheEvent.lookup?_of_ends (by simpa using hended))
        exact absurd (hnew ▸ hlt) (Nat.lt_irrefl _)
      · rw [hid]
        exact h.not_ended old hold x hx
  started_cases t id guild hx := by
    rcases mem_record_iff.mp hx with ⟨-, he⟩ | hx
    · rcases told.started id guild he with hl | ⟨result, he⟩
      · exact Or.inl hl
      · exact Or.inr ⟨r.now, result, mem_record_iff.mpr (Or.inl ⟨rfl, he⟩)⟩
    · rcases h.started_cases t id guild hx with ⟨l, hl, rfl, rfl⟩ | ⟨t', result, hx⟩
      · -- it was under way, and goes on or ends now
        rcases told.fate l hl with ⟨l', hl', hid, hguild, -⟩ | ⟨⟨result, he⟩, -⟩
        · exact Or.inl ⟨l', hl', hid, hguild⟩
        · exact Or.inr ⟨r.now, result, mem_record_iff.mpr (Or.inl ⟨rfl, he⟩)⟩
      · exact Or.inr ⟨t', result, mem_record_iff.mpr (Or.inr hx)⟩
  asked l hl hphase := by
    rcases told.origin l hl with ⟨-, hnot⟩ | ⟨old, hold, hid, hguild, hcase⟩
    · exact absurd hphase hnot
    · rcases hcase hphase with hpold | he
      · obtain ⟨t, ht⟩ := h.asked old hold hpold
        rw [hid, hguild]
        exact ⟨t, mem_record_iff.mpr (Or.inr ht)⟩
      · exact ⟨r.now, mem_record_iff.mpr (Or.inl ⟨rfl, he⟩)⟩
  asked_cases t id guild hx := by
    rcases mem_record_iff.mp hx with ⟨-, he⟩ | hx
    · exact Or.inl (told.asked id guild he)
    · rcases h.asked_cases t id guild hx with ⟨l, hl, rfl, rfl, hphase⟩ | ⟨t', answer, hx⟩
      · rcases told.fate l hl with ⟨l', hl', hid, hguild, hkeep⟩ | ⟨-, hend⟩
        · exact Or.inl ⟨l', hl', hid, hguild, hkeep hphase⟩
        · obtain ⟨answer, he⟩ := hend hphase
          exact Or.inr ⟨r.now, answer, mem_record_iff.mpr (Or.inl ⟨rfl, he⟩)⟩
      · exact Or.inr ⟨t', answer, mem_record_iff.mpr (Or.inr hx)⟩
  ordered := hordered

/-- An event about no lookup tells that the lookups stay as they are. -/
theorem told_of_quiet {s s' : SharedCache} {e : CacheEvent} (hlookups : s'.lookups = s.lookups)
    (hnext : s'.nextLookup = s.nextLookup) (hquiet : e.lookup? = none) : Told s s' [e] where
  next_le := Nat.le_of_eq hnext.symm
  id_lt a ha id hid := by
    rw [List.mem_singleton.mp ha, hquiet] at hid
    cases hid
  origin l hl := Or.inr ⟨l, hlookups ▸ hl, rfl, rfl, Or.inl⟩
  not_ended l _ a ha := by
    by_contra hended
    have hid : a.lookup? = some l.id := CacheEvent.lookup?_of_ends (by simpa using hended)
    rw [List.mem_singleton.mp ha, hquiet] at hid
    cases hid
  fate l hl := Or.inl ⟨l, hlookups ▸ hl, rfl, rfl, id⟩
  started id guild ha := by
    rw [← List.mem_singleton.mp ha] at hquiet
    cases hquiet
  asked id guild ha := by
    rw [← List.mem_singleton.mp ha] at hquiet
    cases hquiet

/-- The events of a lookup that ends tell of its end, if they are about it alone. -/
theorem told_of_end {s : SharedCache} (ho : s.Orderly) {l : Lookup} (hl : l ∈ s.lookups)
    (cache : ConfigCache) {events : List CacheEvent}
    (hid : ∀ e ∈ events, e.lookup? = some l.id)
    (hstarted : ∀ id guild, .started id guild ∉ events)
    (hasked : ∀ id guild, .asked id guild ∉ events)
    (hanswered : ∃ result, .answered l.id l.guild result ∈ events)
    (hloaded : l.phase = .loading → ∃ answer, .loaded l.id l.guild answer ∈ events) :
    Told s ((s.withCache cache).release l) events where
  next_le := Nat.le_of_eq ((s.withCache cache).release_nextLookup l).symm
  id_lt e he id hideq := by
    rw [hid e he, Option.some.injEq] at hideq
    rw [SharedCache.release_nextLookup, ← hideq]
    exact ho.id_lt l hl
  origin a ha := by
    obtain ⟨old, hold, -, hida, hguild, -, hphase⟩ :=
      SharedCache.of_mem_release (ho.withCache cache).ids_nodup ha
    refine Or.inr ⟨old, hold, hida, hguild, fun hload ↦ Or.inl ?_⟩
    -- being granted a lock is not yet a load
    rcases hphase with hphase | ⟨-, hgranted⟩
    · exact hphase.symm.trans hload
    · rw [hload] at hgranted
      cases hgranted
  not_ended a ha e he := by
    obtain ⟨old, -, hne, hida, -⟩ :=
      SharedCache.of_mem_release (ho.withCache cache).ids_nodup ha
    -- the events are about the lookup that ends, and `a` is another one
    by_contra hended
    have hlook : e.lookup? = some a.id := CacheEvent.lookup?_of_ends (by simpa using hended)
    rw [hid e he, Option.some.injEq] at hlook
    exact hne (hida.symm.trans hlook.symm)
  fate a ha := by
    by_cases hal : a.id = l.id
    · obtain rfl := SharedCache.eq_of_id_eq ho.ids_nodup ha hl hal
      exact Or.inr ⟨hanswered, hloaded⟩
    · obtain ⟨b, hb, hida, hguild, heq⟩ :=
        SharedCache.exists_mem_release (ho.withCache cache).ids_nodup ha hal
      exact Or.inl ⟨b, hb, hida, hguild, fun hp ↦ by rw [heq (by simp [hp]), hp]⟩
  started id guild he := absurd he (hstarted id guild)
  asked id guild he := absurd he (hasked id guild)

/-- A lookup that is answered at once leaves the others alone. -/
theorem told_of_hit {s s' : SharedCache} (ho : s.Orderly) {guild : GuildId} {config : GuildConfig}
    (hlookups : s'.lookups = s.lookups) (hnext : s'.nextLookup = s.nextLookup + 1) :
    Told s s' [.answered s.nextLookup guild (.ok config), .started s.nextLookup guild] where
  next_le := hnext ▸ Nat.le_succ _
  id_lt := by simp [CacheEvent.lookup?, hnext]
  origin l hl := Or.inr ⟨l, hlookups ▸ hl, rfl, rfl, Or.inl⟩
  not_ended l hl e he := by
    have hlt := ho.id_lt l (hlookups ▸ hl)
    rcases List.mem_cons.mp he with rfl | he
    · exact beq_eq_false_iff_ne.mpr (Nat.ne_of_gt hlt)
    · rw [List.mem_singleton.mp he]
      rfl
  fate l hl := Or.inl ⟨l, hlookups ▸ hl, rfl, rfl, id⟩
  started id g he := by
    rcases List.mem_cons.mp he with he | he
    · cases he
    · obtain ⟨rfl, rfl⟩ := CacheEvent.started.inj (List.mem_singleton.mp he)
      exact Or.inr ⟨.ok config, List.mem_cons_self⟩
  asked := by simp

/-- A lookup that gets its lock or queues for it comes to the others. -/
theorem told_of_miss (s : SharedCache) (guild : GuildId) :
    Told s ((s.lockFor guild).2.enqueue guild (s.lockFor guild).1)
      [.started s.nextLookup guild] where
  next_le := by
    rw [SharedCache.enqueue, SharedCache.lockFor_nextLookup]
    exact Nat.le_succ _
  id_lt := by simp [CacheEvent.lookup?, SharedCache.enqueue]
  origin l hl := by
    rw [SharedCache.enqueue, SharedCache.lockFor_lookups] at hl
    rcases List.mem_append.mp hl with hl | hl
    · exact Or.inr ⟨l, hl, rfl, rfl, Or.inl⟩
    · obtain rfl := List.mem_singleton.mp hl
      refine Or.inl ⟨SharedCache.lockFor_nextLookup s guild, ?_⟩
      dsimp only
      split <;> simp
  not_ended l _ e he := by
    rw [List.mem_singleton.mp he]
    rfl
  fate l hl := by
    rw [SharedCache.enqueue, SharedCache.lockFor_lookups]
    exact Or.inl ⟨l, List.mem_append_left _ hl, rfl, rfl, id⟩
  started id g he := by
    obtain ⟨rfl, rfl⟩ := CacheEvent.started.inj (List.mem_singleton.mp he)
    exact Or.inl ⟨_, List.mem_append_right _ List.mem_cons_self,
      SharedCache.lockFor_nextLookup s g, rfl⟩
  asked := by simp

/-- A lookup that asks the store goes on, and the others stay as they are. -/
theorem told_of_ask {s : SharedCache} (ho : s.Orderly) {l : Lookup} (hl : l ∈ s.lookups)
    (hphase : l.phase ≠ .loading) :
    Told s (s.setPhase l.id .loading) [.asked l.id l.guild] where
  next_le := Nat.le_refl _
  id_lt e he id hid := by
    rw [List.mem_singleton.mp he] at hid
    exact Option.some.inj hid ▸ ho.id_lt l hl
  origin a ha := by
    rcases (SharedCache.mem_setPhase_iff ho.ids_nodup hl).mp ha with rfl | ⟨ha, -⟩
    · exact Or.inr ⟨l, hl, rfl, rfl, fun _ ↦ Or.inr List.mem_cons_self⟩
    · exact Or.inr ⟨a, ha, rfl, rfl, Or.inl⟩
  not_ended a _ e he := by
    rw [List.mem_singleton.mp he]
    rfl
  fate a ha := by
    by_cases hid : a.id = l.id
    · obtain rfl := SharedCache.eq_of_id_eq ho.ids_nodup ha hl hid
      exact Or.inl ⟨{ a with phase := .loading },
        (SharedCache.mem_setPhase_iff ho.ids_nodup hl).mpr (Or.inl rfl), rfl, rfl, fun _ ↦ rfl⟩
    · exact Or.inl ⟨a, (SharedCache.mem_setPhase_iff ho.ids_nodup hl).mpr (Or.inr ⟨ha, hid⟩),
        rfl, rfl, id⟩
  started := by simp
  asked id guild he := by
    obtain ⟨rfl, rfl⟩ := CacheEvent.asked.inj (List.mem_singleton.mp he)
    exact ⟨_, (SharedCache.mem_setPhase_iff ho.ids_nodup hl).mpr (Or.inl rfl), rfl, rfl, rfl⟩

theorem Move.recorded {r r' : CacheRun} (m : r.Move r') (ho : r.shared.Orderly)
    (h : r.Recorded) : r'.Recorded := by
  cases m with
  | stay => exact h
  | wait ms => exact { h with }
  | hit _ => exact h.record (told_of_hit ho rfl rfl) ⟨trivial, trivial, h.ordered⟩
  | @miss guild _ => exact h.record (told_of_miss r.shared guild) ⟨trivial, h.ordered⟩
  | @lateHit l config mem phase _ =>
    refine h.record (told_of_end ho mem _ ?_ ?_ ?_ ?_ ?_) ⟨trivial, h.ordered⟩
    · simp [CacheEvent.lookup?]
    · simp
    · simp
    · exact ⟨.ok config, List.mem_cons_self⟩
    · simp [phase]
  | @ask l mem phase _ =>
    exact h.record (told_of_ask ho mem (by simp [phase])) ⟨trivial, h.ordered⟩
  | @load l document mem phase =>
    refine h.record (told_of_end ho mem _ ?_ ?_ ?_ ?_ ?_)
      ⟨trivial, ⟨h.asked l mem phase, h.not_ended l mem⟩, h.ordered⟩
    · simp [CacheEvent.lookup?]
    · simp
    · simp
    · exact ⟨_, List.mem_cons_self⟩
    · exact fun _ ↦ ⟨.ok document, by simp⟩
  | @fail l e mem phase =>
    refine h.record (told_of_end ho mem r.shared.cache ?_ ?_ ?_ ?_ ?_)
      ⟨trivial, ⟨h.asked l mem phase, h.not_ended l mem⟩, h.ordered⟩
    · simp [CacheEvent.lookup?]
    · simp
    · simp
    · exact ⟨_, List.mem_cons_self⟩
    · exact fun _ ↦ ⟨.error e, by simp⟩
  | invalidate guild => exact h.record (told_of_quiet rfl rfl rfl) ⟨trivial, h.ordered⟩
  | invalidateAll => exact h.record (told_of_quiet rfl rfl rfl) ⟨trivial, h.ordered⟩
  | reap => exact h.record (told_of_quiet rfl rfl rfl) ⟨trivial, h.ordered⟩

/-- The order among lookups and their records last over every run. -/
theorem orderly_recorded_run {r : CacheRun} (ho : r.shared.Orderly) (h : r.Recorded)
    (actions : List CacheAction) :
    (r.run actions).shared.Orderly ∧ (r.run actions).Recorded :=
  run_induction (P := fun r ↦ r.shared.Orderly ∧ r.Recorded)
    (fun _ _ h m ↦ ⟨m.orderly h.1, m.recorded h.1 h.2⟩) ⟨ho, h⟩ actions

end CacheRun

end GuildModeration
