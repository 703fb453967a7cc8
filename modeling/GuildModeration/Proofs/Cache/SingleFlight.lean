import GuildModeration.Proofs.Cache.Records

/-!
# One load of a guild at a time

Whatever happens to a cache, and in whatever order, at most one lookup of a guild waits for the
store. The others of that guild wait for the same lock, because the lock that the table has for a
guild cannot change as long as anybody uses it: a lookup takes the lock it finds, and reaping leaves
it there. A lock is let go with the answer, whether the load went well or not, and then belongs to
the next in the queue, so that nobody waits for a lock that nobody holds.
-/

namespace GuildModeration

namespace SharedCache

/-- The lookups of a guild that wait for the store. -/
def loads (s : SharedCache) (guild : GuildId) : List Lookup :=
  s.lookups.filter fun l ↦ l.guild == guild && l.phase == .loading

theorem mem_loads_iff {s : SharedCache} {guild : GuildId} {l : Lookup} :
    l ∈ s.loads guild ↔ l ∈ s.lookups ∧ l.guild = guild ∧ l.phase = .loading := by
  simp [loads]

/-- Two lookups of a guild that have got past the queue are the same. -/
theorem Orderly.eq_of_guild_eq {s : SharedCache} (h : s.Orderly) {l l' : Lookup}
    (hl : l ∈ s.lookups) (hl' : l' ∈ s.lookups) (hguild : l.guild = l'.guild)
    (hp : l.phase ≠ .waiting) (hp' : l'.phase ≠ .waiting) : l = l' :=
  h.holder_unique l hl l' hl' (h.lock_eq_lock hl hl' hguild) hp hp'

theorem Orderly.loads_length_le {s : SharedCache} (h : s.Orderly) (guild : GuildId) :
    (s.loads guild).length ≤ 1 := by
  have hnodup : (s.loads guild).Nodup := (List.Nodup.of_map _ h.ids_nodup).filter _
  have heq : ∀ l ∈ s.loads guild, ∀ l' ∈ s.loads guild, l = l' := by
    intro l hl l' hl'
    obtain ⟨hmem, hguild, hphase⟩ := mem_loads_iff.mp hl
    obtain ⟨hmem', hguild', hphase'⟩ := mem_loads_iff.mp hl'
    exact h.eq_of_guild_eq hmem hmem' (hguild.trans hguild'.symm) (by simp [hphase])
      (by simp [hphase'])
  -- two elements would be equal, and the list repeats none
  match hloads : s.loads guild with
  | [] => simp
  | [_] => simp
  | a :: b :: _ =>
    rw [hloads] at hnodup heq
    have hab := heq a (by simp) b (by simp)
    simp [hab] at hnodup

/-- A lock that somebody uses has exactly one holder. -/
theorem Orderly.exists_unique_holder {s : SharedCache} (h : s.Orderly) {l : Lookup}
    (hl : l ∈ s.lookups) :
    ∃! holder, holder ∈ s.lookups ∧ holder.lock = l.lock ∧ holder.phase ≠ .waiting := by
  obtain ⟨holder, hmem, hlock, hphase⟩ := h.holder_exists l hl
  refine ⟨holder, ⟨hmem, hlock, hphase⟩, ?_⟩
  rintro other ⟨hmem', hlock', hphase'⟩
  exact h.holder_unique other hmem' holder hmem (hlock'.trans hlock.symm) hphase' hphase

/-- If no lookup of a guild is under way, the next one does not wait. -/
theorem Orderly.granted_of_start {s : SharedCache} (h : s.Orderly) {guild : GuildId}
    (hidle : ∀ l ∈ s.lookups, l.guild ≠ guild) (now : Nat) :
    ∀ l ∈ (s.start now guild).2.lookups, l.guild = guild → l.phase = .granted := by
  intro l hl hguild
  cases hf : s.cache.fresh? now guild with
  | some config =>
    rw [start_of_fresh hf] at hl
    exact absurd hguild (hidle l hl)
  | none =>
    rw [start_of_not_fresh hf, SharedCache.enqueue] at hl
    rcases List.mem_append.mp hl with hl | hl
    · rw [lockFor_lookups] at hl
      exact absurd hguild (hidle l hl)
    · -- whoever used the lock of the guild would be a lookup of that guild
      obtain rfl := List.mem_singleton.mp hl
      refine if_neg fun hused ↦ ?_
      obtain ⟨a, ha, halock⟩ := isLockUsed_iff.mp hused
      have hlocks := (h.lockFor guild).lock_eq a ha
      rw [halock] at hlocks
      have hag := (h.lockFor guild).lock_injective hlocks (find?_lockFor s guild)
      rw [lockFor_lookups] at ha
      exact hidle a ha hag

end SharedCache

namespace CacheRun

/-- The store is asked for a guild by one lookup at a time. -/
structure SingleFlight (r : CacheRun) : Prop where
  /-- At most one lookup of a guild waits for the store. -/
  loads_le : ∀ guild, (r.shared.loads guild).length ≤ 1
  /-- At most one load of a guild that was seen to begin has not been seen to end. -/
  load_unique : ∀ guild id id', r.history.InFlight id guild → r.history.InFlight id' guild → id = id'
  /-- All lookups of a guild that have begun and not ended use one lock, the one in the table. -/
  lock_shared : ∀ guild id, r.history.UnderWay id guild →
    ∃ l ∈ r.shared.lookups, l.id = id ∧ l.guild = guild ∧ r.shared.locks.find? guild = some l.lock
  /-- Guilds do not share locks. -/
  lock_own : ∀ l ∈ r.shared.lookups, ∀ l' ∈ r.shared.lookups, l.lock = l'.lock → l.guild = l'.guild
  /-- Reaping forgets no lock that a lookup holds or waits for. -/
  lock_kept : ∀ l ∈ r.shared.lookups, (r.step .reap).shared.locks.find? l.guild = some l.lock
  /-- A lock that is used has one holder, which has not ended. -/
  lock_held : ∀ l ∈ r.shared.lookups,
    ∃! holder, holder ∈ r.shared.lookups ∧ holder.lock = l.lock ∧ holder.phase ≠ .waiting
  /-- A lookup that was answered, well or not, neither holds a lock nor waits for one. -/
  lock_let_go : ∀ t id guild result, (t, .answered id guild result) ∈ r.history →
    ∀ l ∈ r.shared.lookups, l.id ≠ id
  /-- If all lookups of a guild have ended, the next one gets the lock without waiting. -/
  lock_free : ∀ guild, (∀ l ∈ r.shared.lookups, l.guild ≠ guild) →
    ∀ l ∈ (r.step (.start guild)).shared.lookups, l.guild = guild → l.phase = .granted

theorem step_start_shared (r : CacheRun) (guild : GuildId) :
    (r.step (.start guild)).shared = (r.shared.start r.now guild).2 := by
  rw [step]
  split
  · next h => exact (congrArg Prod.snd h).symm
  · next h => exact (congrArg Prod.snd h).symm

/-- A load that was seen to begin and not to end is that of a lookup that waits for the store. -/
theorem Recorded.exists_loading {r : CacheRun} (h : r.Recorded) {id : LookupId} {guild : GuildId}
    (hflight : r.history.InFlight id guild) :
    ∃ l ∈ r.shared.lookups, l.id = id ∧ l.guild = guild ∧ l.phase = .loading := by
  obtain ⟨⟨t, ht⟩, hnone⟩ := hflight
  rcases h.asked_cases t id guild ht with hl | ⟨t', answer, hx⟩
  · exact hl
  · exact absurd hx (hnone t' answer)

theorem Recorded.exists_lookup {r : CacheRun} (h : r.Recorded) {id : LookupId} {guild : GuildId}
    (hunder : r.history.UnderWay id guild) :
    ∃ l ∈ r.shared.lookups, l.id = id ∧ l.guild = guild := by
  obtain ⟨⟨t, ht⟩, hnone⟩ := hunder
  rcases h.started_cases t id guild ht with hl | ⟨t', result, hx⟩
  · exact hl
  · exact absurd hx (hnone t' result)

theorem Recorded.load_unique {r : CacheRun} (h : r.Recorded) (ho : r.shared.Orderly)
    {guild : GuildId} {id id' : LookupId} (hid : r.history.InFlight id guild)
    (hid' : r.history.InFlight id' guild) : id = id' := by
  obtain ⟨l, hl, rfl, hguild, hphase⟩ := h.exists_loading hid
  obtain ⟨l', hl', rfl, hguild', hphase'⟩ := h.exists_loading hid'
  exact congrArg Lookup.id (ho.eq_of_guild_eq hl hl' (hguild.trans hguild'.symm)
    (by simp [hphase]) (by simp [hphase']))

/-- Whatever happens to a cache, and in whatever order, it asks the store for a guild once at a
time. -/
theorem singleFlight_run (ttl limit now : Nat) (actions : List CacheAction) :
    ((new ttl limit now).run actions).SingleFlight := by
  obtain ⟨ho, h⟩ :=
    orderly_recorded_run (orderly_new ttl limit now) (recorded_new ttl limit now) actions
  generalize (new ttl limit now).run actions = r at ho h
  constructor
  case loads_le => exact fun guild ↦ ho.loads_length_le guild
  case load_unique => exact fun guild id id' ↦ h.load_unique ho
  case lock_shared =>
    intro guild id hunder
    obtain ⟨l, hl, hid, hguild⟩ := h.exists_lookup hunder
    exact ⟨l, hl, hid, hguild, hguild ▸ ho.lock_eq l hl⟩
  case lock_own => exact fun l hl l' hl' ↦ ho.guild_eq hl hl'
  case lock_kept => exact fun l hl ↦ ho.find?_reap r.now hl
  case lock_held => exact fun l hl ↦ ho.exists_unique_holder hl
  case lock_let_go =>
    rintro t id guild result hx l hl rfl
    have hended := h.not_ended l hl _ hx
    simp [CacheEvent.ends] at hended
  case lock_free =>
    intro guild hidle
    rw [step_start_shared]
    exact ho.granted_of_start hidle r.now

end CacheRun

end GuildModeration
