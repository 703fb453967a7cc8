import GuildModeration.Proofs.Cache.Eviction
import GuildModeration.Proofs.Cache.Queues
import GuildModeration.Proofs.Cache.Renewal

/-!
# Passes that nobody notices

Reaping takes out the entries that are no longer served and forgets the locks that nobody uses. Two
runs of a cache are compared here that differ only in how often it is reaped. From the first pass on
that one of them makes alone they have different entries and different locks, and passes may fall
between the miss of a lookup and its load. Still all that is seen of them is the same, apart from the
passes, as long as no entry has to make room for another one: `CacheRun.Trails` lists what the two
have in common.

Room matters because an entry that has expired counts like any other. A cache that is reaped may
keep an entry that would have had to go.
-/

namespace GuildModeration

/-! ## What a pass takes out -/

namespace Table

variable {κ α : Type}

/-- A table with fewer keys is smaller. -/
theorem size_le_of_keys_subset {t t' : Table κ α} (h : t'.keys ⊆ t.keys) : t'.size ≤ t.size := by
  have hle := t'.nodup.length_le_of_subset h
  rwa [keys, List.length_map, List.length_map] at hle

theorem mem_keys_iff [DecidableEq κ] {t : Table κ α} {k : κ} : k ∈ t.keys ↔ (t.find? k).isSome := by
  rw [keys, List.mem_map, Option.isSome_iff_exists]
  constructor
  · rintro ⟨⟨_, a⟩, hmem, rfl⟩
    exact ⟨a, mem_entries_iff.mp hmem⟩
  · rintro ⟨a, hfind⟩
    exact ⟨(k, a), mem_entries_iff.mpr hfind, rfl⟩

end Table

namespace ConfigCache

variable {c c' : ConfigCache} {now : Nat} {guild : GuildId} {config : GuildConfig}

theorem contains_of_mem {e : GuildId × CacheEntry} (he : e ∈ c.entries.entries) :
    c.contains now e.1 = decide (now < e.2.expiresAt) := by
  rw [contains, fresh?, Table.mem_entries_iff.mp he, Option.bind_some]
  by_cases hlt : now < e.2.expiresAt
  · rw [if_pos hlt, decide_eq_true hlt, Option.isSome_some]
  · rw [if_neg hlt, decide_eq_false hlt, Option.isSome_none]

/-- A pass takes out the entries of the guilds that the cache denies to have. -/
theorem reap_entries (c : ConfigCache) (now : Nat) :
    (c.reap now).2.entries.entries = c.entries.entries.filter fun e ↦ c.contains now e.1 :=
  List.filter_congr fun _ he ↦ (contains_of_mem he).symm

/-- A pass counts what it takes out. -/
theorem reap_fst (c : ConfigCache) (now : Nat) :
    (c.reap now).1 = (c.entries.keys.filter fun guild ↦ !c.contains now guild).length := by
  have hsplit := List.length_eq_length_filter_add (l := c.entries.entries)
    fun e ↦ c.contains now e.1
  rw [reap]
  dsimp only
  rw [Table.size, Table.size, show (c.entries.filter _).entries = _ from reap_entries c now,
    Table.keys, List.filter_map, List.length_map, hsplit, Nat.add_sub_cancel_left]
  rfl

/-! ## Caches that differ in what has expired -/

/-- The second cache has what the first one has, apart from entries that have expired. -/
structure Trimmed (now : Nat) (c c' : ConfigCache) : Prop where
  ttl_eq : c'.ttl = c.ttl
  limit_eq : c'.limit = c.limit
  of_find? : ∀ {guild e}, c'.entries.find? guild = some e → c.entries.find? guild = some e
  find? : ∀ {guild e}, c.entries.find? guild = some e → now < e.expiresAt →
    c'.entries.find? guild = some e

theorem Trimmed.refl (now : Nat) (c : ConfigCache) : Trimmed now c c :=
  ⟨rfl, rfl, id, fun hfind _ ↦ hfind⟩

theorem Trimmed.fresh?_eq (h : Trimmed now c c') (guild : GuildId) :
    c'.fresh? now guild = c.fresh? now guild := by
  refine Option.ext fun config ↦ ?_
  rw [fresh?_eq_some_iff, fresh?_eq_some_iff]
  constructor
  · rintro ⟨e, hfind, hserved⟩
    exact ⟨e, h.of_find? hfind, hserved⟩
  · rintro ⟨e, hfind, hlt, hconfig⟩
    exact ⟨e, h.find? hfind hlt, hlt, hconfig⟩

theorem Trimmed.later (h : Trimmed now c c') {later : Nat} (hle : now ≤ later) :
    Trimmed later c c' :=
  { h with find? := fun hfind hlt ↦ h.find? hfind (Nat.lt_of_le_of_lt hle hlt) }

/-- The entry of one guild is replaced in both. -/
theorem Trimmed.replace (h : Trimmed now c c') (guild : GuildId) (e : CacheEntry) :
    Trimmed now { c with entries := c.entries.insert guild e }
      { c' with entries := c'.entries.insert guild e } where
  ttl_eq := h.ttl_eq
  limit_eq := h.limit_eq
  of_find? {other a} hfind := by
    dsimp only at hfind ⊢
    rw [Table.find?_insert] at hfind ⊢
    split
    · next hg => rwa [if_pos hg] at hfind
    · next hg =>
      rw [if_neg hg] at hfind
      exact h.of_find? hfind
  find? {other a} hfind hlt := by
    dsimp only at hfind ⊢
    rw [Table.find?_insert] at hfind ⊢
    split
    · next hg => rwa [if_pos hg] at hfind
    · next hg =>
      rw [if_neg hg] at hfind
      exact h.find? hfind hlt

theorem Trimmed.touch (h : Trimmed now c c') (hfresh : c.fresh? now guild = some config) :
    Trimmed now (c.touch now guild) (c'.touch now guild) := by
  obtain ⟨e, hfind, hlt, -⟩ := fresh?_eq_some_iff.mp hfresh
  rw [ConfigCache.touch, ConfigCache.touch, hfind, h.find? hfind hlt]
  exact h.replace guild _

/-- With room for all nothing has to go. -/
theorem insert_of_room
    (h : (c.entries.insert guild ⟨config, now + c.ttl, now⟩).size ≤ c.capacity) :
    c.insert now guild config =
      { c with entries := c.entries.insert guild ⟨config, now + c.ttl, now⟩ } := by
  rw [insert, Nat.sub_eq_zero_of_le h]
  rfl

/-- If no entry has gone there was room for all. -/
theorem room_of_kept
    (h : ∀ other ∈ c.entries.keys, ((c.insert now guild config).entries.find? other).isSome) :
    (c.entries.insert guild ⟨config, now + c.ttl, now⟩).size ≤ c.capacity := by
  refine Nat.le_trans (Table.size_le_of_keys_subset fun other hmem ↦ ?_)
    (size_insert_le c now guild config)
  rw [Table.mem_keys_iff]
  by_cases hg : guild = other
  · rw [← hg, find?_insert_self, Option.isSome_some]
  · rw [Table.mem_keys_iff, Table.find?_insert, if_neg hg, ← Table.mem_keys_iff] at hmem
    exact h other hmem

theorem Trimmed.insert (h : Trimmed now c c')
    (hroom : (c.entries.insert guild ⟨config, now + c.ttl, now⟩).size ≤ c.capacity) :
    Trimmed now (c.insert now guild config) (c'.insert now guild config) := by
  have hreplace := h.replace guild ⟨config, now + c.ttl, now⟩
  have hroom' : (c'.entries.insert guild ⟨config, now + c'.ttl, now⟩).size ≤ c'.capacity := by
    rw [h.ttl_eq, capacity, h.limit_eq]
    refine Nat.le_trans (Table.size_le_of_keys_subset fun other hmem ↦ ?_) hroom
    obtain ⟨e, hfind⟩ := Option.isSome_iff_exists.mp (Table.mem_keys_iff.mp hmem)
    exact Table.mem_keys_iff.mpr (Option.isSome_iff_exists.mpr ⟨e, hreplace.of_find? hfind⟩)
  rw [insert_of_room hroom, insert_of_room hroom']
  simpa only [h.ttl_eq] using hreplace

theorem Trimmed.invalidate (h : Trimmed now c c') (guild : GuildId) :
    Trimmed now (c.invalidate guild) (c'.invalidate guild) where
  ttl_eq := h.ttl_eq
  limit_eq := h.limit_eq
  of_find? hfind := by
    obtain ⟨hne, hfind⟩ := find?_of_invalidate hfind
    rw [ConfigCache.invalidate, Table.find?_erase, if_neg hne]
    exact h.of_find? hfind
  find? hfind hlt := by
    obtain ⟨hne, hfind⟩ := find?_of_invalidate hfind
    rw [ConfigCache.invalidate, Table.find?_erase, if_neg hne]
    exact h.find? hfind hlt

theorem Trimmed.invalidateAll (h : Trimmed now c c') :
    Trimmed now c.invalidateAll c'.invalidateAll :=
  ⟨h.ttl_eq, h.limit_eq, id, fun hfind _ ↦ hfind⟩

/-- One of the caches is reaped. -/
theorem Trimmed.reap_right (h : Trimmed now c c') : Trimmed now c (c'.reap now).2 where
  ttl_eq := h.ttl_eq
  limit_eq := h.limit_eq
  of_find? hfind := h.of_find? (find?_of_reap hfind)
  find? hfind hlt := find?_reap_of_lt (h.find? hfind hlt) hlt

/-- Both caches are reaped. -/
theorem Trimmed.reap (h : Trimmed now c c') : Trimmed now (c.reap now).2 (c'.reap now).2 where
  ttl_eq := h.ttl_eq
  limit_eq := h.limit_eq
  of_find? hfind := by
    rw [ConfigCache.reap, Table.find?_filter, Option.filter_eq_some_iff] at hfind
    exact find?_reap_of_lt (h.of_find? hfind.1) (of_decide_eq_true hfind.2)
  find? hfind hlt := find?_reap_of_lt (h.find? (find?_of_reap hfind) hlt) hlt

end ConfigCache

/-! ## Runs that differ in their passes -/

/-- The event is no pass. -/
def CacheEvent.isVisible : CacheEvent → Bool
  | reaped _ => false
  | _ => true

theorem SharedCache.id_of_inPhase? {s : SharedCache} {id : LookupId} {phase : LookupPhase}
    {l : Lookup} (h : s.inPhase? id phase = some l) : l.id = id := by
  have hp := List.find?_some h
  rw [Bool.and_eq_true, beq_iff_eq, beq_iff_eq] at hp
  exact hp.1

/-- The event gives a policy to the lookup. -/
def CacheEvent.provides (id : LookupId) : CacheEvent → Bool
  | answered i _ (.ok _) => i == id
  | _ => false

/-- What callers and the store see of a history. -/
def History.visible (h : History) : History :=
  h.filter fun x ↦ x.2.isVisible

/-- How many of some lookups were given a policy. Preloading counts so. -/
def History.provided (h : History) (ids : List LookupId) : Nat :=
  ids.countP fun id ↦ h.any fun x ↦ x.2.provides id

theorem History.provided_visible (h : History) (ids : List LookupId) :
    h.visible.provided ids = h.provided ids := by
  refine List.countP_congr fun id _ ↦ ?_
  rw [visible, List.any_filter, List.any_eq_true, List.any_eq_true]
  refine exists_congr fun x ↦ and_congr_right fun _ ↦ ?_
  rw [Bool.and_eq_true]
  refine and_iff_right_of_imp fun hprovides ↦ ?_
  cases hx : x.2 with
  | reaped n =>
    rw [hx] at hprovides
    cases hprovides
  | _ => rfl

/-- The second list of actions is the first one with some more passes. -/
inductive WithReaps : List CacheAction → List CacheAction → Prop where
  | nil : WithReaps [] []
  | cons (a : CacheAction) {actions more : List CacheAction} (rest : WithReaps actions more) :
      WithReaps (a :: actions) (a :: more)
  | reap {actions more : List CacheAction} (rest : WithReaps actions more) :
      WithReaps actions (.reap :: more)

namespace CacheRun

/-- The action puts in the entry of a guild, and another one has to make room for it. -/
def evicts (r : CacheRun) : CacheAction → Bool
  | .finish id answer =>
    r.shared.cache.entries.keys.any fun guild ↦ !(r.step (.finish id answer)).has guild
  | _ => false

/-- No entry has to make room for another one. -/
def hasRoom : CacheRun → List CacheAction → Bool
  | _, [] => true
  | r, a :: actions => !r.evicts a && (r.step a).hasRoom actions

variable {r r' : CacheRun}

/-- The second run is the first one with some more passes, as far as it can be told from where they
have come. -/
structure Trails (r r' : CacheRun) : Prop where
  now_eq : r'.now = r.now
  visible_eq : r'.history.visible = r.history.visible
  queue_eq : r'.shared.queue = r.shared.queue
  next_eq : r'.shared.nextLookup = r.shared.nextLookup
  cache : r.shared.cache.Trimmed r.now r'.shared.cache
  orderly : r.shared.Orderly
  orderly' : r'.shared.Orderly

theorem trails_new (ttl limit now : Nat) : (new ttl limit now).Trails (new ttl limit now) :=
  ⟨rfl, rfl, rfl, rfl, .refl _ _, orderly_new ttl limit now, orderly_new ttl limit now⟩

/-- The same is seen of both. -/
theorem Trails.record (h : r.Trails r') {s s' : SharedCache} (events : List CacheEvent)
    (hqueue : s'.queue = s.queue) (hnext : s'.nextLookup = s.nextLookup)
    (hcache : s.cache.Trimmed r.now s'.cache) (ho : s.Orderly) (ho' : s'.Orderly) :
    (r.record s events).Trails (r'.record s' events) where
  now_eq := h.now_eq
  visible_eq := by
    rw [CacheRun.record, CacheRun.record, History.visible, History.visible, List.filter_append,
      List.filter_append, h.now_eq]
    exact congrArg _ h.visible_eq
  queue_eq := hqueue
  next_eq := hnext
  cache := hcache
  orderly := ho
  orderly' := ho'

theorem Trails.fresh?_eq (h : r.Trails r') (guild : GuildId) :
    r'.shared.cache.fresh? r'.now guild = r.shared.cache.fresh? r.now guild := by
  rw [h.now_eq]
  exact h.cache.fresh?_eq guild

/-- Time passes in both. -/
theorem Trails.wait (h : r.Trails r') (ms : Nat) :
    (r.step (.wait ms)).Trails (r'.step (.wait ms)) :=
  { h with
    now_eq := congrArg (· + ms) h.now_eq
    cache := h.cache.later (Nat.le_add_right _ _) }

theorem Trails.start (h : r.Trails r') (guild : GuildId) :
    (r.step (.start guild)).Trails (r'.step (.start guild)) := by
  have ho := (move_start r guild).orderly h.orderly
  have ho' := (move_start r' guild).orderly h.orderly'
  have hfresh' := h.fresh?_eq guild
  cases hfresh : r.shared.cache.fresh? r.now guild with
  | some config =>
    rw [hfresh] at hfresh'
    rw [step_start_of_fresh hfresh] at ho ⊢
    rw [step_start_of_fresh hfresh', h.next_eq] at ho' ⊢
    refine h.record _ h.queue_eq rfl ?_ ho ho'
    rw [h.now_eq]
    exact h.cache.touch hfresh
  | none =>
    rw [hfresh] at hfresh'
    rw [step_start_of_not_fresh hfresh] at ho ⊢
    rw [step_start_of_not_fresh hfresh', h.next_eq] at ho' ⊢
    refine h.record _ ?_ ?_ ?_ ho ho'
    · rw [h.orderly.queue_enqueue, h.orderly'.queue_enqueue, h.queue_eq, h.next_eq]
    · simp [SharedCache.enqueue, h.next_eq]
    · simpa [SharedCache.enqueue] using h.cache

/-- A lookup is in a phase in both or in neither. -/
theorem Trails.inPhase?_cases (h : r.Trails r') (id : LookupId) (phase : LookupPhase) :
    (r.shared.inPhase? id phase = none ∧ r'.shared.inPhase? id phase = none) ∨
      ∃ l ∈ r.shared.lookups, ∃ l' ∈ r'.shared.lookups, l.id = id ∧ l.phase = phase ∧
        l'.id = l.id ∧ l'.guild = l.guild ∧ l'.phase = l.phase := by
  have hqueued := r.shared.queued_inPhase? id phase
  rw [← h.queue_eq, ← r'.shared.queued_inPhase? id phase] at hqueued
  cases hl : r.shared.inPhase? id phase with
  | none =>
    rw [hl, Option.map_none, eq_comm, Option.map_eq_none_iff] at hqueued
    exact Or.inl ⟨rfl, hqueued⟩
  | some l =>
    rw [hl, Option.map_some, eq_comm, Option.map_eq_some_iff] at hqueued
    obtain ⟨l', hl', hsame⟩ := hqueued
    rw [Lookup.queued, Lookup.queued, QueuedLookup.mk.injEq] at hsame
    obtain ⟨hmem, hphase⟩ := SharedCache.mem_of_inPhase? hl
    exact Or.inr ⟨l, hmem, l', (SharedCache.mem_of_inPhase? hl').1, SharedCache.id_of_inPhase? hl,
      hphase, hsame⟩

/-- A lookup ends in both. -/
theorem Trails.release (h : r.Trails r') {l l' : Lookup} (hl : l ∈ r.shared.lookups)
    (hl' : l' ∈ r'.shared.lookups) (hid : l'.id = l.id) (hguild : l'.guild = l.guild)
    {c c' : ConfigCache} (hcache : c.Trimmed r.now c') (events : List CacheEvent)
    (ho : ((r.shared.withCache c).release l).Orderly)
    (ho' : ((r'.shared.withCache c').release l').Orderly) :
    (r.record ((r.shared.withCache c).release l) events).Trails
      (r'.record ((r'.shared.withCache c').release l') events) := by
  refine h.record events ?_ ?_ ?_ ho ho'
  · rw [(h.orderly.withCache c).queue_release hl, (h.orderly'.withCache c').queue_release hl', hid,
      hguild]
    exact congrArg (fun q ↦ QueuedLookup.grantNext (List.filter (·.id != l.id) q) l.guild) h.queue_eq
  · rw [SharedCache.release_nextLookup, SharedCache.release_nextLookup]
    exact h.next_eq
  · rw [SharedCache.release_cache, SharedCache.release_cache]
    exact hcache

theorem Trails.resume (h : r.Trails r') (id : LookupId) :
    (r.step (.resume id)).Trails (r'.step (.resume id)) := by
  have ho := (move_resume r id).orderly h.orderly
  have ho' := (move_resume r' id).orderly h.orderly'
  obtain ⟨hnone, hnone'⟩ | ⟨l, hl, l', hl', rfl, hphase, hid, hguild, hphase'⟩ :=
    h.inPhase?_cases id .granted
  · rw [step, step, hnone, hnone']
    exact h
  rw [hphase] at hphase'
  have hfresh' := h.fresh?_eq l.guild
  cases hfresh : r.shared.cache.fresh? r.now l.guild with
  | some config =>
    have hstep := step_resume_of_fresh h.orderly.ids_nodup hl hphase hfresh
    rw [hfresh, ← hguild] at hfresh'
    have hstep' := step_resume_of_fresh h.orderly'.ids_nodup hl' hphase' hfresh'
    rw [hid, hguild, h.now_eq] at hstep'
    rw [hstep] at ho ⊢
    rw [hstep'] at ho' ⊢
    exact h.release hl hl' hid hguild (h.cache.touch hfresh) _ ho ho'
  | none =>
    have hstep := step_resume_of_not_fresh h.orderly.ids_nodup hl hphase hfresh
    rw [hfresh, ← hguild] at hfresh'
    have hstep' := step_resume_of_not_fresh h.orderly'.ids_nodup hl' hphase' hfresh'
    rw [hid, hguild] at hstep'
    rw [hstep] at ho ⊢
    rw [hstep'] at ho' ⊢
    refine h.record _ ?_ h.next_eq h.cache ho ho'
    rw [SharedCache.queue_setPhase, SharedCache.queue_setPhase, h.queue_eq]

/-- What the store answers goes into both caches if there is room, or into neither. -/
theorem Trails.receive (h : r.Trails r') {l : Lookup} (hl : l ∈ r.shared.lookups)
    (hphase : l.phase = .loading) {answer : StoreAnswer}
    (hroom : r.evicts (.finish l.id answer) = false) :
    (r.shared.cache.receive r.now l.guild answer).2.Trimmed r.now
      (r'.shared.cache.receive r.now l.guild answer).2 := by
  cases answer with
  | error e => exact h.cache
  | ok document =>
    refine h.cache.insert (ConfigCache.room_of_kept fun other hmem ↦ ?_)
    rw [evicts, List.any_eq_false] at hroom
    have hkept := hroom other hmem
    rw [Bool.not_eq_true, Bool.not_eq_false', has, step_finish h.orderly.ids_nodup hl hphase,
      SharedCache.finish_snd] at hkept
    simpa [CacheRun.record, ConfigCache.receive] using hkept

theorem Trails.finish (h : r.Trails r') (id : LookupId) (answer : StoreAnswer)
    (hroom : r.evicts (.finish id answer) = false) :
    (r.step (.finish id answer)).Trails (r'.step (.finish id answer)) := by
  have ho := (move_finish r id answer).orderly h.orderly
  have ho' := (move_finish r' id answer).orderly h.orderly'
  obtain ⟨hnone, hnone'⟩ | ⟨l, hl, l', hl', rfl, hphase, hid, hguild, hphase'⟩ :=
    h.inPhase?_cases id .loading
  · rw [step, step, hnone, hnone']
    exact h
  rw [hphase] at hphase'
  have hresult : (r'.shared.finish r'.now l' answer).1 = (r.shared.finish r.now l answer).1 := by
    cases answer with
    | error e => rfl
    | ok document =>
      exact congrArg (fun guild ↦ Except.ok (GuildConfig.served guild document)) hguild
  have hstep := step_finish h.orderly.ids_nodup hl hphase answer
  have hstep' := step_finish h.orderly'.ids_nodup hl' hphase' answer
  rw [hid, hresult, SharedCache.finish_snd, hguild, h.now_eq] at hstep'
  rw [SharedCache.finish_snd] at hstep
  rw [hstep] at ho ⊢
  rw [hstep'] at ho' ⊢
  exact h.release hl hl' hid hguild (h.receive hl hphase hroom) _ ho ho'

/-- An action that leaves the lookups under way and their locks alone. -/
theorem Trails.withCache (h : r.Trails r') {c c' : ConfigCache} (hcache : c.Trimmed r.now c')
    (events : List CacheEvent) :
    (r.record (r.shared.withCache c) events).Trails
      (r'.record (r'.shared.withCache c') events) :=
  h.record events h.queue_eq h.next_eq hcache (h.orderly.withCache c) (h.orderly'.withCache c')

/-- A pass that is left out is not missed. -/
theorem Trails.reap_right (h : r.Trails r') : r.Trails (r'.step .reap) where
  now_eq := h.now_eq
  visible_eq := h.visible_eq
  queue_eq := h.queue_eq
  next_eq := h.next_eq
  cache := by
    change r.shared.cache.Trimmed r.now (r'.shared.cache.reap r'.now).2
    rw [h.now_eq]
    exact h.cache.reap_right
  orderly := h.orderly
  orderly' := h.orderly'.reap r'.now

/-- Both make a pass, which may find different entries to take out. -/
theorem Trails.reap (h : r.Trails r') : (r.step .reap).Trails (r'.step .reap) where
  now_eq := h.now_eq
  visible_eq := h.visible_eq
  queue_eq := h.queue_eq
  next_eq := h.next_eq
  cache := by
    change (r.shared.cache.reap r.now).2.Trimmed r.now (r'.shared.cache.reap r'.now).2
    rw [h.now_eq]
    exact h.cache.reap
  orderly := h.orderly.reap r.now
  orderly' := h.orderly'.reap r'.now

theorem Trails.step (h : r.Trails r') (a : CacheAction) (hroom : r.evicts a = false) :
    (r.step a).Trails (r'.step a) := by
  cases a with
  | wait ms => exact h.wait ms
  | start guild => exact h.start guild
  | resume id => exact h.resume id
  | finish id answer => exact h.finish id answer hroom
  | invalidate guild => exact h.withCache (h.cache.invalidate guild) [.dropped guild]
  | invalidateAll => exact h.withCache h.cache.invalidateAll [.droppedAll]
  | reap => exact h.reap

theorem Trails.run (h : r.Trails r') {actions more : List CacheAction}
    (hreaps : WithReaps actions more) (hroom : r.hasRoom actions = true) :
    (r.run actions).Trails (r'.run more) := by
  induction hreaps generalizing r r' with
  | nil => exact h
  | cons a _ ih =>
    rw [hasRoom, Bool.and_eq_true, Bool.not_eq_true'] at hroom
    exact ih (h.step a hroom.1) hroom.2
  | reap _ ih => exact ih h.reap_right hroom

/-- Nobody notices passes while there is room. Make any passes more during a run in which no entry
has to make room for another one, also between the miss of a lookup and its load: all the lookups
still start, ask the store, hear from it and are answered in the same order, at the same times and in
the same way, and at every moment the same guilds are served. Whoever preloads the policies of guilds
makes one lookup after the other, and comes to the same count of those that could be had.

What a pass takes out, whatever came before it, are the entries that are no longer served at that
moment, and it returns their number. -/
theorem visible_of_withReaps (ttl limit now : Nat) (actions : List CacheAction) :
    let r := (new ttl limit now).run actions
    ((new ttl limit now).hasRoom actions = true → ∀ more, WithReaps actions more →
      let r' := (new ttl limit now).run more
      r'.now = r.now ∧ r'.history.visible = r.history.visible ∧
        (∀ ids, r'.history.provided ids = r.history.provided ids) ∧
        ∀ guild, r'.shared.cache.contains r'.now guild = r.shared.cache.contains r.now guild) ∧
    (r.step .reap).shared.cache.entries.entries =
      r.shared.cache.entries.entries.filter (fun e ↦ r.shared.cache.contains r.now e.1) ∧
    (r.step .reap).history =
      (r.now, .reaped (r.shared.cache.entries.keys.countP fun guild ↦
        !r.shared.cache.contains r.now guild)) :: r.history := by
  intro r
  refine ⟨fun hroom more hreaps ↦ ?_, r.shared.cache.reap_entries r.now, ?_⟩
  · intro r'
    have htrails : r.Trails r' := (trails_new ttl limit now).run hreaps hroom
    refine ⟨htrails.now_eq, htrails.visible_eq, fun ids ↦ ?_, fun guild ↦ ?_⟩
    · rw [← History.provided_visible, htrails.visible_eq, History.provided_visible]
    · exact congrArg Option.isSome (htrails.fresh?_eq guild)
  · rw [List.countP_eq_length_filter, ← ConfigCache.reap_fst]
    rfl

/-- A guild is loaded, its entry expires, and the load that follows fails. -/
def lapse : List CacheAction :=
  [.start 1, .resume 0, .wait 10, .finish 0 (.ok none), .wait 100, .start 1, .resume 1,
    .finish 1 (.error (.unavailable "down"))]

/-- One pass finds a lookup that has its lock and has not asked yet, another one finds nothing but
the expired entry and an idle lock. -/
def reapedLapse : List CacheAction :=
  [.start 1, .reap, .resume 0, .wait 10, .finish 0 (.ok none), .wait 100, .reap, .start 1,
    .resume 1, .reap, .finish 1 (.error (.unavailable "down"))]

theorem visible_of_withReaps_of_lapse :
    (new 100 2 0).hasRoom lapse = true ∧ WithReaps lapse reapedLapse ∧
      ((new 100 2 0).run reapedLapse).history.visible = ((new 100 2 0).run lapse).history.visible ∧
      ((new 100 2 0).run reapedLapse).shared.cache.size = 0 ∧
      ((new 100 2 0).run lapse).shared.cache.size = 1 := by
  have hroom : (new 100 2 0).hasRoom lapse = true := by decide
  have hreaps : WithReaps lapse reapedLapse :=
    .cons _ <| .reap <| .cons _ <| .cons _ <| .cons _ <| .cons _ <| .reap <| .cons _ <| .cons _ <|
      .reap <| .cons _ .nil
  exact ⟨hroom, hreaps, ((visible_of_withReaps 100 2 0 lapse).1 hroom reapedLapse hreaps).2.1, rfl,
    rfl⟩

end CacheRun

end GuildModeration
