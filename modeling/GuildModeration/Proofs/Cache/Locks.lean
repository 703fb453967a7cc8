import GuildModeration.Cache.Lookup
import GuildModeration.Proofs.Cache.Entries
import Mathlib.Data.List.Nodup

/-!
# The order among lookups

The invariant that lets one lookup of a guild at a time ask the store. It relates three things that
change independently: the table of locks, the lookups under way, and what each of them is doing.

Every lookup under way uses the lock that the table has for its guild *now*, although locks are
forgotten and created anew; two guilds never share a lock; and a lock that anybody uses has exactly
one holder. The last point is an invariant only together with the existence of a holder: a lock that
was waited for but held by nobody would never be granted to anybody.

Nothing here depends on what is in the cache, so a step of a lookup is first taken apart into the
lookups it adds, removes or moves to another phase.
-/

namespace GuildModeration

namespace SharedCache

/-- The order among the lookups under way and their locks. -/
structure Orderly (s : SharedCache) : Prop where
  /-- Identities of lookups to come are new. -/
  id_lt : ∀ l ∈ s.lookups, l.id < s.nextLookup
  /-- No two lookups share an identity. -/
  ids_nodup : (s.lookups.map (·.id)).Nodup
  /-- Identities of locks to come are new. -/
  lock_lt : ∀ {guild lock}, s.locks.find? guild = some lock → lock < s.nextLock
  /-- No two guilds share a lock. -/
  lock_injective : ∀ {guild other lock}, s.locks.find? guild = some lock →
    s.locks.find? other = some lock → guild = other
  /-- The lock of a lookup is the one that the table has for its guild. -/
  lock_eq : ∀ l ∈ s.lookups, s.locks.find? l.guild = some l.lock
  /-- Nobody shares a lock with its holder but those that wait. -/
  holder_unique : ∀ l ∈ s.lookups, ∀ l' ∈ s.lookups, l.lock = l'.lock →
    l.phase ≠ .waiting → l'.phase ≠ .waiting → l = l'
  /-- A lock that somebody uses is held. -/
  holder_exists : ∀ l ∈ s.lookups, ∃ h ∈ s.lookups, h.lock = l.lock ∧ h.phase ≠ .waiting

/-! ## Lookups by identity -/

theorem eq_of_id_eq {s : SharedCache} (h : (s.lookups.map (·.id)).Nodup) {l l' : Lookup}
    (hl : l ∈ s.lookups) (hl' : l' ∈ s.lookups) (hid : l.id = l'.id) : l = l' :=
  List.inj_on_of_nodup_map h hl hl' hid

theorem Orderly.guild_eq {s : SharedCache} (h : s.Orderly) {l l' : Lookup} (hl : l ∈ s.lookups)
    (hl' : l' ∈ s.lookups) (hlock : l.lock = l'.lock) : l.guild = l'.guild :=
  h.lock_injective (h.lock_eq l hl) (hlock ▸ h.lock_eq l' hl')

theorem Orderly.lock_eq_lock {s : SharedCache} (h : s.Orderly) {l l' : Lookup}
    (hl : l ∈ s.lookups) (hl' : l' ∈ s.lookups) (hguild : l.guild = l'.guild) :
    l.lock = l'.lock := by
  have hlock := h.lock_eq l hl
  rw [hguild, h.lock_eq l' hl', Option.some.injEq] at hlock
  exact hlock.symm

theorem isLockUsed_iff {s : SharedCache} {lock : LockId} :
    s.isLockUsed lock = true ↔ ∃ l ∈ s.lookups, l.lock = lock := by
  simp [isLockUsed]

/-! ## Another phase for one lookup -/

theorem setPhase_ids (s : SharedCache) (id : LookupId) (phase : LookupPhase) :
    (s.setPhase id phase).lookups.map (·.id) = s.lookups.map (·.id) := by
  rw [setPhase, List.map_map]
  refine List.map_congr_left fun l _ ↦ ?_
  rw [Function.comp_apply]
  split <;> rfl

/-- The other lookups stay as they are. -/
theorem mem_setPhase_iff {s : SharedCache} (h : (s.lookups.map (·.id)).Nodup) {l l' : Lookup}
    (hl : l ∈ s.lookups) {phase : LookupPhase} :
    l' ∈ (s.setPhase l.id phase).lookups ↔
      l' = { l with phase } ∨ l' ∈ s.lookups ∧ l'.id ≠ l.id := by
  rw [setPhase, List.mem_map]
  constructor
  · rintro ⟨a, ha, rfl⟩
    by_cases hid : a.id = l.id
    · rw [if_pos hid, eq_of_id_eq h ha hl hid]
      exact Or.inl rfl
    · rw [if_neg hid]
      exact Or.inr ⟨ha, hid⟩
  · rintro (rfl | ⟨ha, hid⟩)
    · exact ⟨l, hl, if_pos rfl⟩
    · exact ⟨l', ha, if_neg hid⟩

/-- A holder may go on holding its lock in another phase. -/
theorem Orderly.setPhase {s : SharedCache} (h : s.Orderly) {l : Lookup} (hl : l ∈ s.lookups)
    (hold : l.phase ≠ .waiting) {phase : LookupPhase} (hnew : phase ≠ .waiting) :
    (s.setPhase l.id phase).Orderly where
  id_lt a ha := by
    rcases (mem_setPhase_iff h.ids_nodup hl).mp ha with rfl | ⟨ha, -⟩
    · exact h.id_lt l hl
    · exact h.id_lt a ha
  ids_nodup := by
    rw [setPhase_ids]
    exact h.ids_nodup
  lock_lt := h.lock_lt
  lock_injective := h.lock_injective
  lock_eq a ha := by
    rcases (mem_setPhase_iff h.ids_nodup hl).mp ha with rfl | ⟨ha, -⟩
    · exact h.lock_eq l hl
    · exact h.lock_eq a ha
  holder_unique a ha b hb hlock hpa hpb := by
    rcases (mem_setPhase_iff h.ids_nodup hl).mp ha with rfl | ⟨ha, hida⟩
    · rcases (mem_setPhase_iff h.ids_nodup hl).mp hb with rfl | ⟨hb, hidb⟩
      · rfl
      · exact absurd (congrArg Lookup.id (h.holder_unique l hl b hb hlock hold hpb)).symm hidb
    · rcases (mem_setPhase_iff h.ids_nodup hl).mp hb with rfl | ⟨hb, hidb⟩
      · exact absurd (congrArg Lookup.id (h.holder_unique a ha l hl hlock hpa hold)) hida
      · exact h.holder_unique a ha b hb hlock hpa hpb
  holder_exists a ha := by
    have hheld : ∃ b ∈ s.lookups, b.lock = a.lock ∧ b.phase ≠ .waiting := by
      rcases (mem_setPhase_iff h.ids_nodup hl).mp ha with rfl | ⟨ha, -⟩
      · exact h.holder_exists l hl
      · exact h.holder_exists a ha
    obtain ⟨b, hb, hlock, hpb⟩ := hheld
    -- the holder may be the very lookup whose phase changes
    by_cases hid : b.id = l.id
    · have hbl := eq_of_id_eq h.ids_nodup hb hl hid
      exact ⟨{ l with phase }, (mem_setPhase_iff h.ids_nodup hl).mpr (Or.inl rfl),
        hbl ▸ hlock, hnew⟩
    · exact ⟨b, (mem_setPhase_iff h.ids_nodup hl).mpr (Or.inr ⟨hb, hid⟩), hlock, hpb⟩

/-! ## The end of a lookup -/

/-- The lookups apart from one. -/
def others (s : SharedCache) (l : Lookup) : SharedCache :=
  { s with lookups := s.lookups.filter (·.id != l.id) }

theorem mem_others_iff {s : SharedCache} {l a : Lookup} :
    a ∈ (s.others l).lookups ↔ a ∈ s.lookups ∧ a.id ≠ l.id := by
  simp [others]

theorem others_ids_nodup {s : SharedCache} (h : (s.lookups.map (·.id)).Nodup) (l : Lookup) :
    ((s.others l).lookups.map (·.id)).Nodup :=
  h.sublist (List.filter_sublist.map _)

/-- The first that waited for the lock of a lookup that has ended holds it, if anybody did. -/
theorem release_cases (s : SharedCache) (l : Lookup) :
    (∃ w ∈ (s.others l).lookups, w.lock = l.lock ∧ w.phase = .waiting ∧
      s.release l = (s.others l).setPhase w.id .granted) ∨
    ((∀ w ∈ (s.others l).lookups, w.lock = l.lock → w.phase ≠ .waiting) ∧
      s.release l = s.others l) := by
  have hrelease : s.release l = (s.others l).grantNext l.lock := rfl
  rw [hrelease, grantNext]
  split
  · next w hw =>
    have hp := List.find?_some hw
    rw [Bool.and_eq_true, beq_iff_eq, beq_iff_eq] at hp
    exact Or.inl ⟨w, List.mem_of_find?_eq_some hw, hp.1, hp.2, rfl⟩
  · next hw =>
    refine Or.inr ⟨fun w hmem hlock hphase ↦ ?_, rfl⟩
    have hp := List.find?_eq_none.mp hw w hmem
    rw [Bool.and_eq_true, beq_iff_eq, beq_iff_eq] at hp
    exact hp ⟨hlock, hphase⟩

@[simp] theorem release_cache (s : SharedCache) (l : Lookup) : (s.release l).cache = s.cache := by
  rcases release_cases s l with ⟨w, -, -, -, h⟩ | ⟨-, h⟩ <;> exact h ▸ rfl

@[simp] theorem release_locks (s : SharedCache) (l : Lookup) : (s.release l).locks = s.locks := by
  rcases release_cases s l with ⟨w, -, -, -, h⟩ | ⟨-, h⟩ <;> exact h ▸ rfl

@[simp] theorem release_nextLock (s : SharedCache) (l : Lookup) :
    (s.release l).nextLock = s.nextLock := by
  rcases release_cases s l with ⟨w, -, -, -, h⟩ | ⟨-, h⟩ <;> exact h ▸ rfl

@[simp] theorem release_nextLookup (s : SharedCache) (l : Lookup) :
    (s.release l).nextLookup = s.nextLookup := by
  rcases release_cases s l with ⟨w, -, -, -, h⟩ | ⟨-, h⟩ <;> exact h ▸ rfl

theorem release_ids (s : SharedCache) (l : Lookup) :
    (s.release l).lookups.map (·.id) = (s.others l).lookups.map (·.id) := by
  rcases release_cases s l with ⟨w, -, -, -, hrel⟩ | ⟨-, hrel⟩
  · rw [hrel, setPhase_ids]
  · rw [hrel]

/-- What is under way after the end of a lookup was under way before, up to a lock granted. -/
theorem of_mem_release {s : SharedCache} (h : (s.lookups.map (·.id)).Nodup) {l a : Lookup}
    (ha : a ∈ (s.release l).lookups) :
    ∃ old ∈ s.lookups, old.id ≠ l.id ∧ a.id = old.id ∧ a.guild = old.guild ∧ a.lock = old.lock ∧
      (a.phase = old.phase ∨ old.phase = .waiting ∧ a.phase = .granted) := by
  rcases release_cases s l with ⟨w, hw, -, hp, hrel⟩ | ⟨-, hrel⟩
  · rw [hrel] at ha
    rcases (mem_setPhase_iff (others_ids_nodup h l) hw).mp ha with rfl | ⟨ha, -⟩
    · obtain ⟨hmem, hid⟩ := mem_others_iff.mp hw
      exact ⟨w, hmem, hid, rfl, rfl, rfl, Or.inr ⟨hp, rfl⟩⟩
    · obtain ⟨hmem, hid⟩ := mem_others_iff.mp ha
      exact ⟨a, hmem, hid, rfl, rfl, rfl, Or.inl rfl⟩
  · rw [hrel] at ha
    obtain ⟨hmem, hid⟩ := mem_others_iff.mp ha
    exact ⟨a, hmem, hid, rfl, rfl, rfl, Or.inl rfl⟩

/-- The end of a lookup leaves the others under way, and those that do not wait alone. -/
theorem exists_mem_release {s : SharedCache} (h : (s.lookups.map (·.id)).Nodup) {l a : Lookup}
    (ha : a ∈ s.lookups) (hid : a.id ≠ l.id) :
    ∃ b ∈ (s.release l).lookups, b.id = a.id ∧ b.guild = a.guild ∧
      (a.phase ≠ .waiting → b = a) := by
  have hmem := mem_others_iff.mpr ⟨ha, hid⟩
  rcases release_cases s l with ⟨w, hw, -, hpw, hrel⟩ | ⟨-, hrel⟩
  · -- `a` is the one that is granted the lock, or it is left alone
    have hiff : ∀ b, b ∈ ((s.others l).setPhase w.id .granted).lookups ↔
        b = { w with phase := .granted } ∨ b ∈ (s.others l).lookups ∧ b.id ≠ w.id :=
      fun _ ↦ mem_setPhase_iff (others_ids_nodup h l) hw
    rw [hrel]
    by_cases hwid : a.id = w.id
    · have haw := eq_of_id_eq (others_ids_nodup h l) hmem hw hwid
      refine ⟨{ w with phase := .granted }, (hiff _).mpr (Or.inl rfl), hwid.symm,
        haw ▸ rfl, fun hp ↦ absurd ?_ hp⟩
      rw [haw]
      exact hpw
    · exact ⟨a, (hiff a).mpr (Or.inr ⟨hmem, hwid⟩), rfl, rfl, fun _ ↦ rfl⟩
  · rw [hrel]
    exact ⟨a, hmem, rfl, rfl, fun _ ↦ rfl⟩

theorem mem_release {s : SharedCache} (h : (s.lookups.map (·.id)).Nodup) {l a : Lookup}
    (ha : a ∈ s.lookups) (hid : a.id ≠ l.id) (hp : a.phase ≠ .waiting) :
    a ∈ (s.release l).lookups := by
  obtain ⟨b, hb, -, -, heq⟩ := exists_mem_release h ha hid
  rwa [← heq hp]

/-- The end of a holder leaves at most one holder of its lock: the others only waited. -/
theorem Orderly.release_holder_unique {s : SharedCache} (h : s.Orderly) {l : Lookup}
    (hl : l ∈ s.lookups) (hold : l.phase ≠ .waiting) {a b : Lookup}
    (ha : a ∈ (s.release l).lookups) (hb : b ∈ (s.release l).lookups) (hlock : a.lock = b.lock)
    (hpa : a.phase ≠ .waiting) (hpb : b.phase ≠ .waiting) : a = b := by
  have hkept : ∀ c ∈ (s.others l).lookups, ∀ d ∈ (s.others l).lookups, c.lock = d.lock →
      c.phase ≠ .waiting → d.phase ≠ .waiting → c = d := fun c hc d hd ↦
    h.holder_unique c (mem_others_iff.mp hc).1 d (mem_others_iff.mp hd).1
  -- whoever else held the lock of `l` would be `l`
  have hgone : ∀ c ∈ (s.others l).lookups, c.lock = l.lock → c.phase = .waiting := by
    intro c hc hclock
    obtain ⟨hmem, hid⟩ := mem_others_iff.mp hc
    by_contra hpc
    exact hid (congrArg Lookup.id (h.holder_unique c hmem l hl hclock hpc hold))
  rcases release_cases s l with ⟨w, hw, hwlock, -, hrel⟩ | ⟨-, hrel⟩
  · have hnodup := others_ids_nodup h.ids_nodup l
    rw [hrel] at ha hb
    rcases (mem_setPhase_iff hnodup hw).mp ha with rfl | ⟨ha, -⟩
    · rcases (mem_setPhase_iff hnodup hw).mp hb with rfl | ⟨hb, -⟩
      · rfl
      · exact absurd (hgone b hb (hlock.symm.trans hwlock)) hpb
    · rcases (mem_setPhase_iff hnodup hw).mp hb with rfl | ⟨hb, -⟩
      · exact absurd (hgone a ha (hlock.trans hwlock)) hpa
      · exact hkept a ha b hb hlock hpa hpb
  · rw [hrel] at ha hb
    exact hkept a ha b hb hlock hpa hpb

/-- The end of a holder leaves no lock that is waited for and not held. -/
theorem Orderly.release_holder_exists {s : SharedCache} (h : s.Orderly) {l : Lookup}
    (hl : l ∈ s.lookups) (hold : l.phase ≠ .waiting) {a : Lookup}
    (ha : a ∈ (s.release l).lookups) :
    ∃ b ∈ (s.release l).lookups, b.lock = a.lock ∧ b.phase ≠ .waiting := by
  obtain ⟨old, hmem, hid, -, -, hlock, -⟩ := of_mem_release h.ids_nodup ha
  obtain ⟨b, hb, hblock, hpb⟩ := h.holder_exists old hmem
  by_cases hbl : b.id = l.id
  · -- the holder is the lookup that ends, so the lock goes to the first that waits for it
    have heq := eq_of_id_eq h.ids_nodup hb hl hbl
    have holdlock : old.lock = l.lock := by rw [← hblock, heq]
    have hwait : old.phase = .waiting := by
      by_contra hp
      exact hid (congrArg Lookup.id (h.holder_unique old hmem l hl holdlock hp hold))
    rcases release_cases s l with ⟨w, hw, hwlock, -, hrel⟩ | ⟨hnone, -⟩
    · refine ⟨{ w with phase := .granted }, ?_, ?_, by simp⟩
      · rw [hrel]
        exact (mem_setPhase_iff (others_ids_nodup h.ids_nodup l) hw).mpr (Or.inl rfl)
      · rw [hlock, holdlock]
        exact hwlock
    · exact absurd hwait (hnone old (mem_others_iff.mpr ⟨hmem, hid⟩) holdlock)
  · exact ⟨b, mem_release h.ids_nodup hb hbl hpb, hlock ▸ hblock, hpb⟩

/-- The order outlasts the end of a holder. -/
theorem Orderly.release {s : SharedCache} (h : s.Orderly) {l : Lookup} (hl : l ∈ s.lookups)
    (hold : l.phase ≠ .waiting) : (s.release l).Orderly where
  id_lt a ha := by
    obtain ⟨old, hmem, -, hid, -⟩ := of_mem_release h.ids_nodup ha
    rw [release_nextLookup, hid]
    exact h.id_lt old hmem
  ids_nodup := by
    rw [release_ids]
    exact others_ids_nodup h.ids_nodup l
  lock_lt hfind := by
    rw [release_locks] at hfind
    rw [release_nextLock]
    exact h.lock_lt hfind
  lock_injective h₁ h₂ := by
    rw [release_locks] at h₁ h₂
    exact h.lock_injective h₁ h₂
  lock_eq a ha := by
    obtain ⟨old, hmem, -, -, hguild, hlock, -⟩ := of_mem_release h.ids_nodup ha
    rw [release_locks, hguild, hlock]
    exact h.lock_eq old hmem
  holder_unique _ ha _ hb := h.release_holder_unique hl hold ha hb
  holder_exists _ ha := h.release_holder_exists hl hold ha

/-! ## The start of a lookup -/

@[simp] theorem lockFor_lookups (s : SharedCache) (guild : GuildId) :
    (s.lockFor guild).2.lookups = s.lookups := by
  rw [lockFor]
  split <;> rfl

@[simp] theorem lockFor_nextLookup (s : SharedCache) (guild : GuildId) :
    (s.lockFor guild).2.nextLookup = s.nextLookup := by
  rw [lockFor]
  split <;> rfl

@[simp] theorem lockFor_cache (s : SharedCache) (guild : GuildId) :
    (s.lockFor guild).2.cache = s.cache := by
  rw [lockFor]
  split <;> rfl

/-- The lock that is handed out is the one in the table. -/
theorem find?_lockFor (s : SharedCache) (guild : GuildId) :
    (s.lockFor guild).2.locks.find? guild = some (s.lockFor guild).1 := by
  rw [lockFor]
  split
  · next lock h => exact h
  · rw [Table.find?_insert, if_pos rfl]

/-- A new lock is one that nobody else uses. -/
theorem Orderly.lockFor {s : SharedCache} (h : s.Orderly) (guild : GuildId) :
    (s.lockFor guild).2.Orderly := by
  rw [SharedCache.lockFor]
  split
  · exact h
  · next hnone =>
    -- what the new table has is the new lock, or was in the old one under another guild
    have hfind : ∀ {other lock}, (s.locks.insert guild s.nextLock).find? other = some lock →
        guild = other ∧ lock = s.nextLock ∨ guild ≠ other ∧ s.locks.find? other = some lock := by
      intro other lock hother
      rw [Table.find?_insert] at hother
      by_cases hg : guild = other
      · rw [if_pos hg, Option.some.injEq] at hother
        exact Or.inl ⟨hg, hother.symm⟩
      · rw [if_neg hg] at hother
        exact Or.inr ⟨hg, hother⟩
    exact
      { id_lt := h.id_lt
        ids_nodup := h.ids_nodup
        lock_lt := fun hlock ↦ by
          rcases hfind hlock with ⟨-, rfl⟩ | ⟨-, hold⟩
          · exact Nat.lt_succ_self _
          · exact Nat.lt_succ_of_lt (h.lock_lt hold)
        lock_injective := fun h₁ h₂ ↦ by
          -- an old lock is below the identity that the new one has
          rcases hfind h₁ with ⟨rfl, rfl⟩ | ⟨-, h₁⟩
          · rcases hfind h₂ with ⟨rfl, -⟩ | ⟨-, h₂⟩
            · rfl
            · exact absurd (h.lock_lt h₂) (Nat.lt_irrefl _)
          · rcases hfind h₂ with ⟨-, rfl⟩ | ⟨-, h₂⟩
            · exact absurd (h.lock_lt h₁) (Nat.lt_irrefl _)
            · exact h.lock_injective h₁ h₂
        lock_eq := fun l hl ↦ by
          have hlock := h.lock_eq l hl
          rw [Table.find?_insert, if_neg, hlock]
          rintro rfl
          rw [hnone] at hlock
          cases hlock
        holder_unique := h.holder_unique
        holder_exists := h.holder_exists }

/-- The lookups under way once another one has been put behind them. -/
def enqueue (s : SharedCache) (guild : GuildId) (lock : LockId) : SharedCache :=
  { s with
    lookups := s.lookups ++
      [⟨s.nextLookup, guild, lock, if s.isLockUsed lock then .waiting else .granted⟩]
    nextLookup := s.nextLookup + 1 }

theorem start_of_fresh {s : SharedCache} {now : Nat} {guild : GuildId} {config : GuildConfig}
    (h : s.cache.fresh? now guild = some config) :
    s.start now guild = (some config,
      { s with cache := s.cache.touch now guild, nextLookup := s.nextLookup + 1 }) := by
  rw [start, ConfigCache.look_of_fresh h]

theorem start_of_not_fresh {s : SharedCache} {now : Nat} {guild : GuildId}
    (h : s.cache.fresh? now guild = none) :
    s.start now guild =
      (none, (s.lockFor guild).2.enqueue guild (s.lockFor guild).1) := by
  rw [start, ConfigCache.look_of_not_fresh h]
  simp only [enqueue, lockFor_nextLookup]

/-- A lookup waits exactly if its lock is in use, so that the lock has one holder afterwards. -/
theorem Orderly.enqueue {s : SharedCache} (h : s.Orderly) {guild : GuildId} {lock : LockId}
    (hlock : s.locks.find? guild = some lock) : (s.enqueue guild lock).Orderly := by
  have hmem : ∀ a ∈ (s.enqueue guild lock).lookups, a ∈ s.lookups ∨
      a = ⟨s.nextLookup, guild, lock, if s.isLockUsed lock then .waiting else .granted⟩ := by
    intro a ha
    simpa [SharedCache.enqueue] using ha
  exact
    { id_lt := fun a ha ↦ by
        rcases hmem a ha with ha | rfl
        · exact Nat.lt_succ_of_lt (h.id_lt a ha)
        · exact Nat.lt_succ_self _
      ids_nodup := by
        rw [SharedCache.enqueue, List.map_append, List.nodup_append]
        refine ⟨h.ids_nodup, by simp, fun i hi j hj ↦ ?_⟩
        obtain ⟨a, ha, rfl⟩ := List.mem_map.mp hi
        rw [List.map_singleton, List.mem_singleton] at hj
        exact hj ▸ Nat.ne_of_lt (h.id_lt a ha)
      lock_lt := h.lock_lt
      lock_injective := h.lock_injective
      lock_eq := fun a ha ↦ by
        rcases hmem a ha with ha | rfl
        · exact h.lock_eq a ha
        · exact hlock
      holder_unique := fun a ha b hb hab hpa hpb ↦ by
        -- whoever uses the lock makes the one that comes wait
        have hunused : ∀ c ∈ s.lookups, c.lock = lock →
            (if s.isLockUsed lock then LookupPhase.waiting else .granted) = .waiting :=
          fun c hc hclock ↦ if_pos (isLockUsed_iff.mpr ⟨c, hc, hclock⟩)
        rcases hmem a ha with ha | rfl
        · rcases hmem b hb with hb | rfl
          · exact h.holder_unique a ha b hb hab hpa hpb
          · exact absurd (hunused a ha hab) hpb
        · rcases hmem b hb with hb | rfl
          · exact absurd (hunused b hb hab.symm) hpa
          · rfl
      holder_exists := fun a ha ↦ by
        have hold : ∀ c ∈ s.lookups, ∃ b ∈ (s.enqueue guild lock).lookups,
            b.lock = c.lock ∧ b.phase ≠ .waiting := by
          intro c hc
          obtain ⟨b, hb, hbc⟩ := h.holder_exists c hc
          exact ⟨b, List.mem_append_left _ hb, hbc⟩
        rcases hmem a ha with ha | rfl
        · exact hold a ha
        · by_cases hused : s.isLockUsed lock
          · obtain ⟨c, hc, hclock⟩ := isLockUsed_iff.mp hused
            obtain ⟨b, hb, hbc, hpb⟩ := hold c hc
            exact ⟨b, hb, hbc.trans hclock, hpb⟩
          · exact ⟨_, ha, rfl, by simp [hused]⟩ }

/-! ## Steps -/

/-- The same lookups with another cache. -/
def withCache (s : SharedCache) (cache : ConfigCache) : SharedCache :=
  { s with cache }

@[simp] theorem withCache_cache (s : SharedCache) (cache : ConfigCache) :
    (s.withCache cache).cache = cache := rfl

/-- The order does not depend on what is in the cache. -/
theorem Orderly.withCache {s : SharedCache} (h : s.Orderly) (cache : ConfigCache) :
    (s.withCache cache).Orderly :=
  { h with }

theorem Orderly.start {s : SharedCache} (h : s.Orderly) (now : Nat) (guild : GuildId) :
    (s.start now guild).2.Orderly := by
  cases hf : s.cache.fresh? now guild with
  | some config =>
    rw [start_of_fresh hf]
    exact { h with id_lt := fun l hl ↦ Nat.lt_succ_of_lt (h.id_lt l hl) }
  | none =>
    rw [start_of_not_fresh hf]
    exact (h.lockFor guild).enqueue (find?_lockFor s guild)

theorem resume_of_fresh {s : SharedCache} {now : Nat} {l : Lookup} {config : GuildConfig}
    (h : s.cache.fresh? now l.guild = some config) :
    s.resume now l =
      (some config, (s.withCache (s.cache.touch now l.guild)).release l) := by
  rw [resume, ConfigCache.look_of_fresh h]
  rfl

theorem resume_of_not_fresh {s : SharedCache} {now : Nat} {l : Lookup}
    (h : s.cache.fresh? now l.guild = none) :
    s.resume now l = (none, s.setPhase l.id .loading) := by
  rw [resume, ConfigCache.look_of_not_fresh h]

theorem finish_snd (s : SharedCache) (now : Nat) (l : Lookup) (answer : StoreAnswer) :
    (s.finish now l answer).2 =
      (s.withCache (s.cache.receive now l.guild answer).2).release l := rfl

/-- Reaping forgets no lock that is in use. -/
theorem Orderly.find?_reap {s : SharedCache} (h : s.Orderly) (now : Nat) {l : Lookup}
    (hl : l ∈ s.lookups) : (s.reap now).2.locks.find? l.guild = some l.lock := by
  have hused : s.isLockUsed l.lock = true := isLockUsed_iff.mpr ⟨l, hl, rfl⟩
  rw [SharedCache.reap, Table.find?_filter, h.lock_eq l hl, Option.filter_some, if_pos hused]

theorem Orderly.reap {s : SharedCache} (h : s.Orderly) (now : Nat) :
    (s.reap now).2.Orderly := by
  have hold : ∀ {guild lock}, (s.reap now).2.locks.find? guild = some lock →
      s.locks.find? guild = some lock := by
    intro guild lock hfind
    rw [SharedCache.reap, Table.find?_filter, Option.filter_eq_some_iff] at hfind
    exact hfind.1
  exact
    { id_lt := h.id_lt
      ids_nodup := h.ids_nodup
      lock_lt := fun hfind ↦ h.lock_lt (hold hfind)
      lock_injective := fun h₁ h₂ ↦ h.lock_injective (hold h₁) (hold h₂)
      lock_eq := fun _ hl ↦ h.find?_reap now hl
      holder_unique := h.holder_unique
      holder_exists := h.holder_exists }

end SharedCache

end GuildModeration
