import GuildModeration.Cache.Clock
import GuildModeration.Proofs.Cache.Renewal

/-!
# Runs and the end of the clock

A policy that is put in expires `ttl` later, and that moment has to be one of the clock. Nothing
that happens to a cache changes its `ttl` (`CacheRun.Move.ttl_eq`), and so the moment of the last
action decides about a whole run: if the clock reaches `ttl` beyond it, no lookup of the run breaks
down, whatever the store answers (`CacheRun.survives_of_le`). If not, a lookup at that moment does,
even one of a guild that the store does not know (`CacheRun.survives_missOfUnknown_iff`).
-/

namespace GuildModeration

namespace ConfigCache

/-! ## One caller at a time -/

theorem receive_ttl (c : ConfigCache) (now : Nat) (guild : GuildId) (answer : StoreAnswer) :
    (c.receive now guild answer).2.ttl = c.ttl := by
  cases answer <;> rfl

theorem get_ttl (c : ConfigCache) (load : GuildId → StoreAnswer) (now : Nat) (guild : GuildId) :
    (c.get load now guild).2.ttl = c.ttl := by
  cases h : c.fresh? now guild with
  | some config =>
    rw [get, look_of_fresh h]
    exact c.touch_ttl now guild
  | none =>
    rw [get, look_of_not_fresh h]
    exact c.receive_ttl now guild _

theorem warm_singleton (c : ConfigCache) (load : GuildId → StoreAnswer) (now : Nat)
    (guild : GuildId) : (c.warm load now [guild]).2 = (c.get load now guild).2 := by
  rw [warm, List.foldl_cons, List.foldl_nil]
  dsimp only
  split <;> next h => rw [h]

theorem breakdown?_eq_none {c : ConfigCache} {now : Nat} (h : c.isBeyondClock now = false)
    (load : GuildId → StoreAnswer) (guild : GuildId) : c.breakdown? load now guild = none := by
  rw [breakdown?, h]
  split <;> rfl

/-- What preloading does about one guild, with the number of policies that could be had. -/
def warmNext (load : GuildId → StoreAnswer) (now : Nat) (r : Nat × ConfigCache) (guild : GuildId) :
    Except String (Nat × ConfigCache) :=
  match r.2.breakdown? load now guild with
  | some text => .error text
  | none => .ok (r.1 + (r.2.warm load now [guild]).1, (r.2.warm load now [guild]).2)

theorem warmWithin_eq (c : ConfigCache) (load : GuildId → StoreAnswer) (now : Nat)
    (guilds : List GuildId) :
    c.warmWithin load now guilds = guilds.foldlM (warmNext load now) (0, c) := rfl

section Preloading

variable {load : GuildId → StoreAnswer} {now : Nat} {guild : GuildId} {guilds : List GuildId}
  {r r' : Nat × ConfigCache}

theorem warmNext_ttl (h : warmNext load now r guild = .ok r') : r'.2.ttl = r.2.ttl := by
  rw [warmNext] at h
  split at h
  · cases h
  · cases h
    rw [warm_singleton, get_ttl]

theorem exists_warmNext (h : r.2.isBeyondClock now = false) (load : GuildId → StoreAnswer)
    (guild : GuildId) : ∃ r', warmNext load now r guild = .ok r' := by
  rw [warmNext, breakdown?_eq_none h]
  exact ⟨_, rfl⟩

/-- Preloading leaves the `ttl` as it is. -/
theorem foldlM_warmNext_ttl (h : guilds.foldlM (warmNext load now) r = .ok r') :
    r'.2.ttl = r.2.ttl := by
  induction guilds generalizing r with
  | nil =>
    cases h
    rfl
  | cons guild guilds ih =>
    rw [List.foldlM_cons] at h
    cases hnext : warmNext load now r guild with
    | error text =>
      rw [hnext] at h
      cases h
    | ok next =>
      rw [hnext] at h
      exact (ih h).trans (warmNext_ttl hnext)

/-- Preloading does not break down before the end of the clock. -/
theorem exists_foldlM_warmNext (h : r.2.isBeyondClock now = false) (load : GuildId → StoreAnswer)
    (guilds : List GuildId) : ∃ r', guilds.foldlM (warmNext load now) r = .ok r' := by
  induction guilds generalizing r with
  | nil => exact ⟨r, rfl⟩
  | cons guild guilds ih =>
    obtain ⟨next, hnext⟩ := exists_warmNext h load guild
    rw [List.foldlM_cons, hnext]
    exact ih (by rwa [isBeyondClock, warmNext_ttl hnext])

end Preloading

end ConfigCache

namespace CacheRun

variable {r r' : CacheRun}

/-! ## Lookups of many callers -/

/-- The action breaks the program down: the store answers a lookup, and what it answered cannot be
put in. -/
def breaksDown (r : CacheRun) : CacheAction → Bool
  | .finish id (.ok _) =>
    (r.shared.inPhase? id .loading).isSome && r.shared.cache.isBeyondClock r.now
  | _ => false

/-- None of the actions, one after the other, breaks the program down. -/
def survives (r : CacheRun) : List CacheAction → Bool
  | [] => true
  | a :: actions => !r.breaksDown a && (r.step a).survives actions

theorem Move.ttl_eq (m : r.Move r') : r'.shared.cache.ttl = r.shared.cache.ttl := by
  cases m with
  | stay => rfl
  | wait ms => rfl
  | hit fresh => exact ConfigCache.touch_ttl _ _ _
  | miss missing => rw [record, SharedCache.enqueue, SharedCache.lockFor_cache]
  | lateHit mem phase fresh =>
    rw [record, SharedCache.release_cache]
    exact ConfigCache.touch_ttl _ _ _
  | ask mem phase missing => rfl
  | load document mem phase =>
    rw [record, SharedCache.release_cache]
    rfl
  | fail e mem phase => rw [record, SharedCache.release_cache]
  | invalidate guild => rfl
  | invalidateAll => rfl
  | reap => rfl

theorem le_now_run (r : CacheRun) (actions : List CacheAction) : r.now ≤ (r.run actions).now :=
  run_induction (P := fun r' ↦ r.now ≤ r'.now) (fun _ _ h m ↦ Nat.le_trans h m.later.1)
    (Nat.le_refl _) actions

theorem breaksDown_eq_false (h : r.now + r.shared.cache.ttl ≤ lastMoment) (a : CacheAction) :
    r.breaksDown a = false := by
  have hclock : r.shared.cache.isBeyondClock r.now = false :=
    decide_eq_false (Nat.not_lt_of_le h)
  rw [breaksDown.eq_def]
  split
  · rw [hclock, Bool.and_false]
  · rfl

/-- A run survives if the clock goes on for `ttl` beyond its last moment. -/
theorem survives_of_le {actions : List CacheAction}
    (h : (r.run actions).now + r.shared.cache.ttl ≤ lastMoment) : r.survives actions = true := by
  induction actions generalizing r with
  | nil => rfl
  | cons a actions ih =>
    have hnow := Nat.add_le_add_right (r.le_now_run (a :: actions)) r.shared.cache.ttl
    rw [survives, breaksDown_eq_false (Nat.le_trans hnow h), Bool.not_false, Bool.true_and]
    rw [← (move_step r a).ttl_eq] at h
    exact ih h

/-- A lookup of a guild without a document, from its start to its end. -/
def missOfUnknown : List CacheAction :=
  [.invalidateAll, .start 0, .resume 0, .finish 0 (.ok none)]

theorem now_run_missOfUnknown (cache : ConfigCache) (now : Nat) :
    (({ now, shared := { cache } } : CacheRun).run missOfUnknown).now = now := rfl

/-- The lookup survives exactly if what is put in expires at a moment of the clock. -/
theorem survives_missOfUnknown_iff (cache : ConfigCache) (now : Nat) :
    ({ now, shared := { cache } } : CacheRun).survives missOfUnknown = true ↔
      now + cache.ttl ≤ lastMoment := by
  change (!(true && cache.isBeyondClock now) && true) = true ↔ _
  rw [Bool.true_and, Bool.and_true, Bool.not_eq_true', ConfigCache.isBeyondClock,
    decide_eq_false_iff_not, Nat.not_lt]

end CacheRun

end GuildModeration
