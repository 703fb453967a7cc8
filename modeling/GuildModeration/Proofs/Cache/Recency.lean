import Mathlib.Data.List.Dedup
import GuildModeration.Proofs.Cache.Eviction
import GuildModeration.Proofs.Cache.SingleFlight

/-!
# What stays in a cache of limited capacity

A cache never has more entries than its capacity. As long as nothing is taken out and no two lookups
are given a policy at the same time, its entries are those of the guilds that lookups were given a
policy of last, as many as there is room for: `CacheRun.Ranked`. A hit and a load both make their
guild the latest, whether an entry of it was there, had expired or had gone before, so that the
history alone tells which guilds have an entry.

When lookups come one after the other, each is given its policy before the next begins, and the
guilds that were asked for last are the ones that were served last.
-/

namespace GuildModeration

/-! ## The latest uses -/

/-- The uses of each guild apart from its latest left out; the newest use is the first. -/
def recent : List (Nat × GuildId) → List (Nat × GuildId)
  | [] => []
  | use :: older => use :: (recent older).filter (·.2 != use.2)

theorem recent_sublist (uses : List (Nat × GuildId)) : (recent uses).Sublist uses := by
  induction uses with
  | nil => exact List.Sublist.refl _
  | cons use older ih => exact (List.filter_sublist.trans ih).cons_cons use

theorem recent_guilds_nodup (uses : List (Nat × GuildId)) : ((recent uses).map (·.2)).Nodup := by
  induction uses with
  | nil => exact List.nodup_nil
  | cons use older ih =>
    rw [recent, List.map_cons, List.nodup_cons]
    refine ⟨fun hmem ↦ ?_, ih.sublist (List.filter_sublist.map _)⟩
    obtain ⟨u, hu, heq⟩ := List.mem_map.mp hmem
    exact bne_iff_ne.mp (List.mem_filter.mp hu).2 heq

theorem dedup_concat (guilds : List GuildId) (guild : GuildId) :
    (guilds ++ [guild]).dedup = guilds.dedup.filter (· != guild) ++ [guild] := by
  induction guilds with
  | nil => rfl
  | cons g guilds ih =>
    rw [List.cons_append]
    by_cases hmem : g ∈ guilds
    · rw [List.dedup_cons_of_mem (List.mem_append_left _ hmem), List.dedup_cons_of_mem hmem, ih]
    rw [List.dedup_cons_of_notMem hmem]
    by_cases hg : g = guild
    · rw [List.dedup_cons_of_mem (by simp [hg]), ih, List.filter_cons_of_neg (by simp [hg])]
    · rw [List.dedup_cons_of_notMem (by simp [hmem, hg]), ih,
        List.filter_cons_of_pos (by simp [hg]), List.cons_append]

/-- The guilds of the latest uses are those that were used, in the order of their last use. -/
theorem recent_guilds (uses : List (Nat × GuildId)) :
    (recent uses).map (·.2) = (uses.map (·.2)).reverse.dedup.reverse := by
  induction uses with
  | nil => rfl
  | cons use older ih =>
    rw [List.map_cons, List.reverse_cons, dedup_concat, List.reverse_append, List.reverse_singleton,
      List.singleton_append, ← List.filter_reverse, ← ih, recent, List.map_cons, List.filter_map]
    rfl

/-- To leave a guild out of the latest uses makes room for one that was left out. -/
theorem take_filter_take {uses : List (Nat × GuildId)} (h : (uses.map (·.2)).Nodup)
    (guild : GuildId) (m : Nat) :
    ((uses.take (m + 1)).filter (·.2 != guild)).take m = (uses.filter (·.2 != guild)).take m := by
  induction uses generalizing m with
  | nil => rfl
  | cons use older ih =>
    rw [List.map_cons, List.nodup_cons] at h
    rw [List.take_succ_cons]
    by_cases hg : use.2 = guild
    · -- there is no other use of the guild
      have hall : ∀ u ∈ older, (u.2 != guild) = true := fun u hu ↦ bne_iff_ne.mpr fun heq ↦
        h.1 (List.mem_map.mpr ⟨u, hu, heq.trans hg.symm⟩)
      rw [List.filter_cons_of_neg (by simp [hg]), List.filter_cons_of_neg (by simp [hg]),
        List.filter_eq_self.mpr hall,
        List.filter_eq_self.mpr fun u hu ↦ hall u (List.mem_of_mem_take hu), List.take_take,
        Nat.min_self]
    · rw [List.filter_cons_of_pos (by simp [hg]), List.filter_cons_of_pos (by simp [hg])]
      cases m with
      | zero => rfl
      | succ m => rw [List.take_succ_cons, List.take_succ_cons, ih h.2]

/-- What there is room for among the latest uses does not depend on what there was no room for. -/
theorem take_recent_cons (use : Nat × GuildId) (older : List (Nat × GuildId)) {n : Nat}
    (hn : 0 < n) :
    (recent (use :: older)).take n =
      (use :: ((recent older).take n).filter (·.2 != use.2)).take n := by
  obtain ⟨m, rfl⟩ := Nat.exists_eq_add_of_lt hn
  rw [recent, List.take_succ_cons, List.take_succ_cons,
    take_filter_take (recent_guilds_nodup older)]

/-! ## What lookups were given -/

namespace CacheEvent

/-- The guild whose policy a lookup is given. -/
def served? : CacheEvent → Option GuildId
  | answered _ guild (.ok _) => some guild
  | _ => none

/-- The event takes out entries, whoever they are of. -/
def removes : CacheEvent → Bool
  | dropped _ => true
  | droppedAll => true
  | reaped _ => true
  | _ => false

end CacheEvent

namespace History

/-- The guilds that lookups were given a policy of, with the times when they were. -/
def served (h : History) : List (Nat × GuildId) :=
  h.filterMap fun x ↦ x.2.served?.map (x.1, ·)

/-- Nothing was taken out, and no two lookups were given a policy at the same time. -/
structure Undisturbed (h : History) : Prop where
  kept : ∀ x ∈ h, x.2.removes = false
  times : (h.served.map (·.1)).Nodup

theorem Undisturbed.of_suffix {h h' : History} (hlater : h'.Undisturbed) (hsuffix : h <:+ h') :
    h.Undisturbed where
  kept x hx := hlater.kept x (hsuffix.subset hx)
  times := hlater.times.sublist ((hsuffix.sublist.filterMap _).map _)

end History

namespace CacheRun

variable {r r' : CacheRun}

theorem served_record (r : CacheRun) (s : SharedCache) (events : List CacheEvent) :
    (r.record s events).history.served =
      (events.filterMap CacheEvent.served?).map (r.now, ·) ++ r.history.served := by
  rw [History.served, record, List.filterMap_append, List.filterMap_map, List.map_filterMap]
  rfl

/-! ## No more entries than there is room for -/

/-- The limit of the cache stays, and there are no more entries than it allows. -/
structure Within (limit : Nat) (r : CacheRun) : Prop where
  limit_eq : r.shared.cache.limit = limit
  size_le : r.shared.cache.size ≤ max limit 1

variable {limit : Nat}

theorem within_new (ttl limit now : Nat) : (new ttl limit now).Within limit :=
  ⟨rfl, Nat.zero_le _⟩

theorem Within.of_size_le (h : r.Within limit)
    (hlimit : r'.shared.cache.limit = r.shared.cache.limit)
    (hsize : r'.shared.cache.size ≤ r.shared.cache.size) : r'.Within limit :=
  ⟨hlimit.trans h.limit_eq, Nat.le_trans hsize h.size_le⟩

theorem Within.of_cache_eq (h : r.Within limit) (hcache : r'.shared.cache = r.shared.cache) :
    r'.Within limit :=
  h.of_size_le (congrArg _ hcache) (Nat.le_of_eq (congrArg _ hcache))

theorem Within.touch (h : r.Within limit) {guild : GuildId}
    (hcache : r'.shared.cache = r.shared.cache.touch r.now guild) : r'.Within limit := by
  refine h.of_size_le ?_ ?_ <;> rw [hcache]
  · exact ConfigCache.touch_limit _ _ _
  · exact Nat.le_of_eq (ConfigCache.size_touch _ _ _)

theorem Move.within (m : r.Move r') (h : r.Within limit) : r'.Within limit := by
  cases m with
  | stay => exact h
  | wait ms => exact h.of_cache_eq rfl
  | hit _ => exact h.touch rfl
  | miss _ => exact h.of_cache_eq (SharedCache.lockFor_cache _ _)
  | lateHit _ _ _ => exact h.touch (SharedCache.release_cache _ _)
  | ask _ _ _ => exact h.of_cache_eq rfl
  | @load l document _ _ =>
    have hle := ConfigCache.size_insert_le r.shared.cache r.now l.guild (.served l.guild document)
    rw [ConfigCache.capacity, h.limit_eq] at hle
    constructor
    · rw [record, SharedCache.release_cache]
      exact h.limit_eq
    · rw [record, SharedCache.release_cache]
      exact hle
  | fail _ _ _ => exact h.of_cache_eq (SharedCache.release_cache _ _)
  | invalidate guild => exact h.of_size_le rfl (ConfigCache.size_invalidate_le _ _)
  | invalidateAll => exact h.of_size_le rfl (Nat.zero_le _)
  | reap => exact h.of_size_le rfl (ConfigCache.size_reap_le _ _)

theorem within_run (h : r.Within limit) (actions : List CacheAction) :
    (r.run actions).Within limit :=
  run_induction (P := Within limit) (fun _ _ h m ↦ m.within h) h actions

/-! ## The entries that stay -/

/-- The entries are those of the latest uses, as many as there is room for. -/
structure Ranked (r : CacheRun) : Prop where
  times_le : ∀ use ∈ r.history.served, use.1 ≤ r.now
  ordered : r.history.served.Pairwise fun a b ↦ b.1 < a.1
  uses : r.shared.cache.UsedAs ((recent r.history.served).take r.shared.cache.capacity)

theorem ranked_new (ttl limit now : Nat) : (new ttl limit now).Ranked where
  times_le _ hu := absurd hu List.not_mem_nil
  ordered := List.Pairwise.nil
  uses := ⟨[], .refl _, List.take_nil.symm⟩

/-- Nothing changes as long as nobody is given a policy and nothing is taken out. -/
theorem Ranked.of_quiet (h : r.Ranked) (hserved : r'.history.served = r.history.served)
    (hcache : r'.shared.cache = r.shared.cache) (hnow : r.now ≤ r'.now) : r'.Ranked where
  times_le use hu := Nat.le_trans (h.times_le use (hserved ▸ hu)) hnow
  ordered := hserved ▸ h.ordered
  uses := by
    rw [hserved, hcache]
    exact h.uses

section Serve

variable {guild : GuildId} (h : r.Ranked)
  (hserved : r'.history.served = (r.now, guild) :: r.history.served) (hnow : r'.now = r.now)
  (htimes : (r'.history.served.map (·.1)).Nodup)

include h hserved hnow htimes

/-- Whoever is given a policy is the latest. -/
theorem Ranked.serve
    (huses : r'.shared.cache.UsedAs ((recent r'.history.served).take r'.shared.cache.capacity)) :
    r'.Ranked where
  times_le use hu := by
    rw [hserved] at hu
    rcases List.mem_cons.mp hu with rfl | hu
    · exact Nat.le_of_eq hnow.symm
    · exact hnow ▸ h.times_le use hu
  ordered := by
    rw [hserved, List.map_cons, List.nodup_cons] at htimes
    rw [hserved]
    refine List.pairwise_cons.mpr ⟨fun use hu ↦ ?_, h.ordered⟩
    exact Nat.lt_of_le_of_ne (h.times_le use hu) fun heq ↦
      htimes.1 (List.mem_map.mpr ⟨use, hu, heq⟩)
  uses := huses

theorem Ranked.touch {e : CacheEntry} (hfind : r.shared.cache.entries.find? guild = some e)
    (hcache : r'.shared.cache = r.shared.cache.touch r.now guild) : r'.Ranked := by
  refine h.serve hserved hnow htimes ?_
  have huses := h.uses.touch hfind r.now
  -- the entry that is used leaves its old place, so there is still room for all
  have hroom : (((recent r.history.served).take r.shared.cache.capacity).filter
      (·.2 != guild)).length < r.shared.cache.capacity := by
    have hkey : guild ∈ r.shared.cache.entries.keys :=
      List.mem_map_of_mem (Table.mem_entries_iff.mpr hfind)
    obtain ⟨use, hmem, rfl⟩ := List.mem_map.mp (h.uses.keys_perm.mem_iff.mp hkey)
    have hlt := (List.length_filter_lt_length_iff_exists (p := (·.2 != use.2))).mpr
      ⟨use, hmem, by simp⟩
    exact Nat.lt_of_lt_of_le hlt (List.length_take_le _ _)
  rw [hcache, hserved, ConfigCache.touch_capacity, take_recent_cons _ _ r.shared.cache.capacity_pos,
    List.take_of_length_le hroom]
  exact huses

theorem Ranked.insert (config : GuildConfig)
    (hcache : r'.shared.cache = r.shared.cache.insert r.now guild config) : r'.Ranked := by
  refine h.serve hserved hnow htimes ?_
  have hordered := h.ordered.sublist
    ((List.take_sublist r.shared.cache.capacity _).trans (recent_sublist r.history.served))
  rw [hcache, hserved, ConfigCache.insert_capacity,
    take_recent_cons _ _ r.shared.cache.capacity_pos]
  exact h.uses.insert hordered r.now guild config

end Serve

theorem Move.ranked (m : r.Move r') (h : r.Ranked) (hlater : r'.history.Undisturbed) :
    r'.Ranked := by
  cases m with
  | stay => exact h
  | wait ms => exact h.of_quiet rfl rfl (Nat.le_add_right _ _)
  | hit fresh =>
    obtain ⟨e, hfind, -⟩ := ConfigCache.fresh?_eq_some_iff.mp fresh
    exact h.touch (served_record ..) rfl hlater.times hfind rfl
  | miss _ => exact h.of_quiet (served_record ..) (SharedCache.lockFor_cache _ _) (Nat.le_refl _)
  | lateHit _ _ fresh =>
    obtain ⟨e, hfind, -⟩ := ConfigCache.fresh?_eq_some_iff.mp fresh
    exact h.touch (served_record ..) rfl hlater.times hfind (SharedCache.release_cache _ _)
  | ask _ _ _ => exact h.of_quiet (served_record ..) rfl (Nat.le_refl _)
  | @load l document _ _ =>
    exact h.insert (served_record ..) rfl hlater.times (.served l.guild document)
      (SharedCache.release_cache _ _)
  | fail _ _ _ =>
    exact h.of_quiet (served_record ..) (SharedCache.release_cache _ _) (Nat.le_refl _)
  | invalidate guild => exact absurd (hlater.kept _ List.mem_cons_self) Bool.noConfusion
  | invalidateAll => exact absurd (hlater.kept _ List.mem_cons_self) Bool.noConfusion
  | reap => exact absurd (hlater.kept _ List.mem_cons_self) Bool.noConfusion

/-- The entries of a cache that nothing is taken out of are those that were used last. -/
theorem ranked_run (h : r.Ranked) (actions : List CacheAction)
    (hlater : (r.run actions).history.Undisturbed) : (r.run actions).Ranked :=
  run_induction (P := fun r ↦ r.history.Undisturbed → r.Ranked)
    (fun _ _ h m hlater ↦ m.ranked (h (hlater.of_suffix m.suffix)) hlater) (fun _ ↦ h) actions
    hlater

/-! ## Lookups one after the other -/

/-- A lookup with the cache to itself, the load of which succeeds if it makes one. -/
structure Visit where
  /-- How long nothing happens before. -/
  pause : Nat
  guild : GuildId
  /-- How long it takes to look again after a miss. -/
  lag : Nat
  /-- How long the store takes to answer. -/
  delay : Nat
  document : Option GuildConfig
  deriving Repr

/-- What happens in a visit. A lookup that was answered at once does not go on, and what is said
here about its going on changes nothing but the time. -/
def Visit.actions (v : Visit) (id : LookupId) : List CacheAction :=
  [.wait v.pause, .start v.guild, .wait v.lag, .resume id, .wait v.delay,
    .finish id (.ok v.document)]

/-- The run after one more visit. -/
def visit (r : CacheRun) (v : Visit) : CacheRun :=
  r.run (v.actions r.shared.nextLookup)

/-- The run after some visits, each of which begins when the one before has ended. -/
def visitAll (r : CacheRun) (visits : List Visit) : CacheRun :=
  visits.foldl visit r

/-- A lookup that was answered at once does not go on. -/
theorem run_of_idle (h : r.shared.lookups = []) (id : LookupId) (lag delay : Nat)
    (answer : StoreAnswer) :
    r.run [.wait lag, .resume id, .wait delay, .finish id answer] =
      { r with now := r.now + lag + delay } := by
  simp [run, step, SharedCache.inPhase?, h]

/-- The end of a lookup that is alone leaves none. -/
theorem lookups_release_of_alone {s : SharedCache} {l : Lookup}
    (h : s.lookups = [l]) : (s.release l).lookups = [] := by
  have hids := SharedCache.release_ids s l
  rw [SharedCache.others, h, List.filter_cons_of_neg (by simp), List.filter_nil] at hids
  exact List.map_eq_nil_iff.mp hids

/-- A lookup that was granted its lock and is alone asks the store and ends. -/
theorem run_of_alone {l : Lookup} (halone : r.shared.lookups = [l]) (hphase : l.phase = .granted)
    (hmissing : r.shared.cache.fresh? r.now l.guild = none) (lag delay : Nat)
    (document : Option GuildConfig) :
    let r' := r.run [.wait lag, .resume l.id, .wait delay, .finish l.id (.ok document)]
    r'.shared.lookups = [] ∧
      r'.history = (r.now + lag + delay, .answered l.id l.guild (.ok (.served l.guild document))) ::
        (r.now + lag + delay, .loaded l.id l.guild (.ok document)) ::
          (r.now + lag, .asked l.id l.guild) :: r.history := by
  let looking := r.step (.wait lag)
  let loading := (looking.record (r.shared.setPhase l.id .loading) [.asked l.id l.guild]).step
    (.wait delay)
  have hlookups : loading.shared.lookups = [{ l with phase := .loading }] := by
    simp [loading, step, record, SharedCache.setPhase, halone]
  have hask : looking.step (.resume l.id) =
      looking.record (r.shared.setPhase l.id .loading) [.asked l.id l.guild] := by
    refine step_resume_of_not_fresh (r := looking) ?_ ?_ hphase
      (ConfigCache.fresh?_eq_none_of_le hmissing (Nat.le_add_right _ _))
    · simp [looking, step, halone]
    · simp [looking, step, halone]
  have hfinish := step_finish (r := loading) (l := { l with phase := .loading })
    (by simp [hlookups]) (by simp [hlookups]) rfl (.ok document)
  have hrun : r.run [.wait lag, .resume l.id, .wait delay, .finish l.id (.ok document)] =
      loading.step (.finish l.id (.ok document)) :=
    congrArg (fun r ↦ (r.step (.wait delay)).step (.finish l.id (.ok document))) hask
  dsimp only
  rw [hrun, hfinish]
  refine ⟨?_, rfl⟩
  rw [record, SharedCache.finish_snd]
  exact lookups_release_of_alone hlookups

/-- A lookup that misses and is alone is granted its lock. -/
theorem step_start_of_idle {guild : GuildId} (hidle : r.shared.lookups = [])
    (hmissing : r.shared.cache.fresh? r.now guild = none) :
    let r' := r.step (.start guild)
    r'.now = r.now ∧ r'.shared.cache = r.shared.cache ∧
      r'.shared.lookups =
        [⟨r.shared.nextLookup, guild, (r.shared.lockFor guild).1, .granted⟩] ∧
      r'.history = (r.now, .started r.shared.nextLookup guild) :: r.history := by
  have hunused : (r.shared.lockFor guild).2.isLockUsed (r.shared.lockFor guild).1 = false := by
    rw [SharedCache.isLockUsed, SharedCache.lockFor_lookups, hidle, List.any_nil]
  rw [step_start_of_not_fresh hmissing]
  refine ⟨rfl, SharedCache.lockFor_cache _ _, ?_, rfl⟩
  rw [record, SharedCache.enqueue, hunused, SharedCache.lockFor_lookups, hidle,
    SharedCache.lockFor_nextLookup]
  rfl

/-- Between two moments, at the later of which nothing is under way, one lookup was given the policy
of its guild and nothing was taken out. -/
structure Serves (guild : GuildId) (r r' : CacheRun) : Prop where
  idle : r'.shared.lookups = []
  served : ∃ time, r'.history.served = (time, guild) :: r.history.served
  kept : (∀ x ∈ r.history, x.2.removes = false) → ∀ x ∈ r'.history, x.2.removes = false

/-- A lookup with the cache to itself is answered. -/
theorem serves_lookup (hidle : r.shared.lookups = []) (guild : GuildId) (lag delay : Nat)
    (document : Option GuildConfig) :
    Serves guild r ((r.step (.start guild)).run [.wait lag, .resume r.shared.nextLookup,
      .wait delay, .finish r.shared.nextLookup (.ok document)]) := by
  cases hfresh : r.shared.cache.fresh? r.now guild with
  | some config =>
    have hstart := step_start_of_fresh hfresh
    have hnone : (r.step (.start guild)).shared.lookups = [] := hstart ▸ hidle
    rw [run_of_idle hnone, hstart]
    refine ⟨hidle, ⟨r.now, rfl⟩, fun hkept ↦ ?_⟩
    exact List.forall_mem_cons.mpr ⟨rfl, List.forall_mem_cons.mpr ⟨rfl, hkept⟩⟩
  | none =>
    obtain ⟨hnow, hcache, halone, hbegun⟩ := step_start_of_idle hidle hfresh
    obtain ⟨hended, hhistory⟩ := run_of_alone halone rfl (by rw [hcache, hnow]; exact hfresh) lag
      delay document
    rw [hbegun] at hhistory
    refine ⟨hended, ⟨_, congrArg History.served hhistory⟩, fun hkept ↦ ?_⟩
    rw [hhistory]
    simpa only [List.forall_mem_cons, CacheEvent.removes, true_and] using hkept

theorem serves_visit (hidle : r.shared.lookups = []) (v : Visit) :
    Serves v.guild r (r.visit v) := by
  have h := serves_lookup (r := r.step (.wait v.pause)) hidle v.guild v.lag v.delay v.document
  rw [visit, Visit.actions, run, List.foldl_cons, List.foldl_cons, ← run]
  exact ⟨h.idle, h.served, h.kept⟩

/-- Visits are answered in their order, and they take nothing out. -/
theorem served_visitAll (hidle : r.shared.lookups = []) (visits : List Visit) :
    (r.visitAll visits).history.served.map (·.2) =
        (visits.map (·.guild)).reverse ++ r.history.served.map (·.2) ∧
      ((∀ x ∈ r.history, x.2.removes = false) →
        ∀ x ∈ (r.visitAll visits).history, x.2.removes = false) := by
  induction visits generalizing r with
  | nil => exact ⟨rfl, id⟩
  | cons v visits ih =>
    have h := serves_visit hidle v
    obtain ⟨time, hserved⟩ := h.served
    obtain ⟨hguilds, hkept⟩ := ih h.idle
    refine ⟨?_, fun hfirst ↦ hkept (h.kept hfirst)⟩
    rw [visitAll, List.foldl_cons, ← visitAll, hguilds, hserved]
    simp

theorem visitAll_eq_run (r : CacheRun) (visits : List Visit) :
    ∃ actions, r.visitAll visits = r.run actions := by
  induction visits generalizing r with
  | nil => exact ⟨[], rfl⟩
  | cons v visits ih =>
    obtain ⟨actions, h⟩ := ih (r.visit v)
    exact ⟨v.actions r.shared.nextLookup ++ actions, by rw [run_append]; exact h⟩

/-- A cache never has more entries than its capacity, of which none at all counts as one. And when
lookups come one after the other, their loads succeed, no two of them end at the same time and
nothing is taken out, its entries are those of the guilds that were asked for last. -/
theorem keys_visitAll (ttl limit now : Nat) :
    (∀ actions, ((new ttl limit now).run actions).shared.cache.size ≤ max limit 1) ∧
    ∀ visits : List Visit,
      let r := (new ttl limit now).visitAll visits
      let asked := visits.map (·.guild)
      r.history.served.map (·.2) = asked.reverse ∧
      ((r.history.served.map (·.1)).Nodup →
        r.shared.cache.entries.keys.Perm (asked.dedup.reverse.take (max limit 1)) ∧
        r.shared.cache.size = min (max limit 1) asked.dedup.length) := by
  refine ⟨fun actions ↦ (within_run (within_new ttl limit now) actions).size_le,
    fun visits ↦ ?_⟩
  intro r asked
  obtain ⟨hserved, hkept⟩ := served_visitAll (r := new ttl limit now) rfl visits
  have hguilds : r.history.served.map (·.2) = asked.reverse := by
    rw [hserved]
    exact List.append_nil _
  refine ⟨hguilds, fun htimes ↦ ?_⟩
  obtain ⟨actions, hrun⟩ := visitAll_eq_run (new ttl limit now) visits
  have hundisturbed : r.history.Undisturbed :=
    ⟨hkept fun _ hx ↦ absurd hx List.not_mem_nil, htimes⟩
  have hranked : r.Ranked := by
    rw [show r = _ from hrun] at hundisturbed ⊢
    exact ranked_run (ranked_new ttl limit now) actions hundisturbed
  have hcapacity : r.shared.cache.capacity = max limit 1 := by
    rw [ConfigCache.capacity, show r = _ from hrun,
      (within_run (within_new ttl limit now) actions).limit_eq]
  have hkeys := hranked.uses.keys_perm
  rw [List.map_take, recent_guilds, hguilds, List.reverse_reverse, hcapacity] at hkeys
  refine ⟨hkeys, ?_⟩
  have hlength := hkeys.length_eq
  rwa [List.length_take, List.length_reverse, Table.keys, List.length_map] at hlength

/-- Two guilds have room. The first is asked for again before a third comes, so that it is the
second that has to go, although both have expired by then. -/
theorem keys_visitAll_of_three :
    let visits : List Visit :=
      [⟨0, 1, 0, 5, none⟩, ⟨10, 2, 1, 5, none⟩, ⟨10, 1, 0, 0, none⟩, ⟨90, 3, 0, 2, none⟩]
    let r := (new 100 2 0).visitAll visits
    (r.history.served.map (·.1)).Nodup ∧ r.shared.cache.entries.keys.Perm [3, 1] := by
  intro visits r
  have htimes : (r.history.served.map (·.1)).Nodup := by
    rw [show r.history.served.map (·.1) = [123, 31, 21, 5] from rfl]
    decide
  have hlatest : (visits.map (·.guild)).dedup.reverse.take (max 2 1) = [3, 1] := by decide
  have hkeys := (((keys_visitAll 100 2 0).2 visits).2 htimes).1
  rw [hlatest] at hkeys
  exact ⟨htimes, hkeys⟩

end CacheRun

end GuildModeration
