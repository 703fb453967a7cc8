import GuildModeration.Proofs.Cache.Run

/-!
# Lookups that fail

A cache that one caller has to itself, over a store that answers on the spot. What is asked of it is
carried out in order: policies are looked up, taken out and reaped, the cache is asked what it has,
time passes, and the store is written to.

A lookup that fails leaves something behind, the lock of its guild, but nothing that anybody can see:
when nobody is under way it makes no difference which locks are there. So a course of actions goes
the same way when the lookups that fail in it are left out, and what the cache holds after each of
the others is the same to the last use of every entry. The two courses are held together by
`CacheSession.Alike`.
-/

namespace GuildModeration

namespace SharedCache

/-- A lookup that nobody comes between, with the answer that the store would give. It starts, goes
on once it has been granted its lock, and ends; there is no answer if it has to wait for somebody
else. The list has the guilds that the store was asked for. -/
def lookUp (s : SharedCache) (now : Nat) (guild : GuildId) (answer : StoreAnswer) :
    Option (Except StoreError GuildConfig) × List GuildId × SharedCache :=
  match s.start now guild with
  | (some config, t) => (some (.ok config), [], t)
  | (none, t) =>
    match t.inPhase? s.nextLookup .granted with
    | none => (none, [], t)
    | some l =>
      match t.resume now l with
      | (some config, t) => (some (.ok config), [], t)
      | (none, t) =>
        let (result, t) := t.finish now { l with phase := .loading } answer
        (some result, [guild], t)

end SharedCache

/-! ## One caller -/

/-- What a caller can do with a cache, and with the store behind it. -/
inductive SessionAction where
  | get (guild : GuildId)
  | contains (guild : GuildId)
  | size
  | invalidate (guild : GuildId)
  | invalidateAll
  | reap
  | wait (ms : Nat)
  /-- The store answers in another way from now on. -/
  | write (store : GuildId → StoreAnswer)

/-- What a caller is told. -/
inductive SessionAnswer where
  /-- The end of a lookup, if it came to one. -/
  | got (result : Option (Except StoreError GuildConfig))
  | told (flag : Bool)
  | counted (n : Nat)
  | done
  deriving DecidableEq

/-- The caller got the failure of the store. -/
def SessionAnswer.isFailure : SessionAnswer → Bool
  | got (some (.error _)) => true
  | _ => false

/-- A cache that one caller has to itself, at one moment. -/
structure CacheSession where
  now : Nat
  shared : SharedCache
  /-- What the store has for each guild, or how it fails. -/
  store : GuildId → StoreAnswer

/-- What was seen of one action: what the caller was told, what the store was asked for, and what
the cache holds afterwards. -/
structure SessionRecord where
  action : SessionAction
  answer : SessionAnswer
  asked : List GuildId
  cache : ConfigCache

namespace CacheSession

/-- A new cache over a store, with any limits. -/
def new (ttl limit now : Nat) (store : GuildId → StoreAnswer) : CacheSession :=
  { now, store, shared := { cache := { ttl, limit } } }

/-- Carries an action out. The list has the guilds that the store was asked for. -/
def carryOut (c : CacheSession) : SessionAction → SessionAnswer × List GuildId × CacheSession
  | .get guild =>
    let (result, asked, shared) := c.shared.lookUp c.now guild (c.store guild)
    (.got result, asked, { c with shared })
  | .contains guild => (.told (c.shared.cache.contains c.now guild), [], c)
  | .size => (.counted c.shared.cache.size, [], c)
  | .invalidate guild => (.done, [], { c with shared := c.shared.invalidate guild })
  | .invalidateAll => (.done, [], { c with shared := c.shared.invalidateAll })
  | .reap =>
    let (removed, shared) := c.shared.reap c.now
    (.counted removed, [], { c with shared })
  | .wait ms => (.done, [], { c with now := c.now + ms })
  | .write store => (.done, [], { c with store })

/-- What the caller is told. -/
def answerTo (c : CacheSession) (a : SessionAction) : SessionAnswer :=
  (c.carryOut a).1

/-- What comes after an action. -/
def after (c : CacheSession) (a : SessionAction) : CacheSession :=
  (c.carryOut a).2.2

/-- What is seen of an action. -/
def recordOf (c : CacheSession) (a : SessionAction) : SessionRecord :=
  { action := a, answer := c.answerTo a, asked := (c.carryOut a).2.1
    cache := (c.after a).shared.cache }

/-- Carries actions out one after the other. -/
def run (c : CacheSession) (actions : List SessionAction) : CacheSession :=
  actions.foldl after c

/-- What is seen of actions that are carried out one after the other. -/
def trace : CacheSession → List SessionAction → List SessionRecord
  | _, [] => []
  | c, a :: actions => c.recordOf a :: (c.after a).trace actions

/-- The actions without the lookups that fail. -/
def withoutFailures : CacheSession → List SessionAction → List SessionAction
  | _, [] => []
  | c, a :: actions =>
    if (c.answerTo a).isFailure then (c.after a).withoutFailures actions
    else a :: (c.after a).withoutFailures actions

end CacheSession

/-! ## A lookup that is alone -/

/-- A lookup fails exactly if there is nothing to serve and the store fails. The cache stays as it
is. -/
theorem ConfigCache.get_eq_error_iff {c : ConfigCache} {load : GuildId → StoreAnswer} {now : Nat}
    {guild : GuildId} {e : StoreError} :
    (c.get load now guild).1 = .error e ↔
      c.fresh? now guild = none ∧ load guild = .error e ∧ c.get load now guild = (.error e, c) := by
  cases hfresh : c.fresh? now guild with
  | some config => simp [get, look_of_fresh hfresh]
  | none => cases hload : load guild <;> simp [get, look_of_not_fresh hfresh, receive, hload]

namespace SharedCache

variable {s : SharedCache} {now : Nat} {guild : GuildId}

/-- A lookup that misses while nobody is under way gets its lock at once. -/
theorem start_of_idle (hidle : s.lookups = []) (hmissing : s.cache.fresh? now guild = none) :
    s.start now guild = (none,
      { (s.lockFor guild).2 with
        lookups := [⟨s.nextLookup, guild, (s.lockFor guild).1, .granted⟩]
        nextLookup := s.nextLookup + 1 }) := by
  have hlookups : (s.lockFor guild).2.lookups = [] := (lockFor_lookups s guild).trans hidle
  rw [start_of_not_fresh hmissing, enqueue, isLockUsed, hlookups, lockFor_nextLookup]
  rfl

theorem release_of_alone {l : Lookup} {phase : LookupPhase} (h : s.lookups = [l]) :
    (s.release { l with phase }).lookups = [] := by
  rw [release, h, List.filter_cons_of_neg (by simp)]
  rfl

/-- While nobody is under way a lookup is what it is when loads take no time. -/
theorem lookUp_of_idle (hidle : s.lookups = []) (now : Nat) (guild : GuildId)
    (answer : StoreAnswer) :
    (s.lookUp now guild answer).1 = some (s.cache.get (fun _ ↦ answer) now guild).1 ∧
      (s.lookUp now guild answer).2.1 =
        (if (s.cache.fresh? now guild).isSome then [] else [guild]) ∧
      (s.lookUp now guild answer).2.2.cache = (s.cache.get (fun _ ↦ answer) now guild).2 ∧
      (s.lookUp now guild answer).2.2.lookups = [] := by
  cases hfresh : s.cache.fresh? now guild with
  | some config =>
    rw [lookUp, start_of_fresh hfresh, ConfigCache.get, ConfigCache.look_of_fresh hfresh]
    exact ⟨rfl, rfl, rfl, hidle⟩
  | none =>
    have hcache := lockFor_cache s guild
    rw [lookUp, start_of_idle hidle hfresh, ConfigCache.get, ConfigCache.look_of_not_fresh hfresh]
    generalize (s.lockFor guild).1 = lock
    generalize (s.lockFor guild).2 = t at hcache
    -- the lookup that has just begun is the only one, and what it misses is still missing
    have hgranted : inPhase? { t with
        lookups := [⟨s.nextLookup, guild, lock, .granted⟩], nextLookup := s.nextLookup + 1 }
        s.nextLookup .granted = some ⟨s.nextLookup, guild, lock, .granted⟩ := by
      simp [inPhase?]
    dsimp only
    rw [hgranted]
    dsimp only
    rw [resume_of_not_fresh (by rw [hcache]; exact hfresh)]
    refine ⟨?_, rfl, ?_, ?_⟩
    · rw [← hcache]
      rfl
    · rw [← hcache]
      exact (release_cache _ _).trans rfl
    · exact release_of_alone (l := ⟨s.nextLookup, guild, lock, .loading⟩) (by simp [setPhase])

end SharedCache

namespace CacheSession

variable {c d : CacheSession}

/-- Two sessions between two actions that differ only in what cannot be seen: the locks, and the
numbers that are still to be handed out. -/
structure Alike (c d : CacheSession) : Prop where
  now_eq : c.now = d.now
  store_eq : c.store = d.store
  cache_eq : c.shared.cache = d.shared.cache
  idle : c.shared.lookups = []
  idle' : d.shared.lookups = []

theorem alike_new (ttl limit now : Nat) (store : GuildId → StoreAnswer) :
    (new ttl limit now store).Alike (new ttl limit now store) :=
  ⟨rfl, rfl, rfl, rfl, rfl⟩

/-- What a lookup with the cache to itself comes to. -/
theorem carryOut_get (hidle : c.shared.lookups = []) (guild : GuildId) :
    c.answerTo (.get guild) = .got (some (c.shared.cache.get c.store c.now guild).1) ∧
      (c.recordOf (.get guild)).asked =
        (if (c.shared.cache.fresh? c.now guild).isSome then [] else [guild]) ∧
      (c.after (.get guild)).shared.cache = (c.shared.cache.get c.store c.now guild).2 ∧
      (c.after (.get guild)).shared.lookups = [] := by
  have hload : c.shared.cache.get (fun _ ↦ c.store guild) c.now guild =
      c.shared.cache.get c.store c.now guild := rfl
  obtain ⟨hresult, hasked, hcache, hlookups⟩ :=
    SharedCache.lookUp_of_idle hidle c.now guild (c.store guild)
  rw [hload] at hresult hcache
  exact ⟨congrArg SessionAnswer.got hresult, hasked, hcache, hlookups⟩

/-- What is seen of a lookup is the same in both. -/
theorem Alike.get (h : c.Alike d) (guild : GuildId) :
    c.recordOf (.get guild) = d.recordOf (.get guild) ∧
      (c.after (.get guild)).Alike (d.after (.get guild)) := by
  obtain ⟨hanswer, hasked, hcache, hidle⟩ := carryOut_get h.idle guild
  obtain ⟨hanswer', hasked', hcache', hidle'⟩ := carryOut_get h.idle' guild
  rw [h.now_eq, h.store_eq, h.cache_eq] at hanswer hcache
  rw [h.now_eq, h.cache_eq] at hasked
  have hsame := hcache.trans hcache'.symm
  refine ⟨?_, h.now_eq, h.store_eq, hsame, hidle, hidle'⟩
  have hrecord : ∀ c : CacheSession, c.recordOf (.get guild) =
      ⟨.get guild, c.answerTo (.get guild), (c.recordOf (.get guild)).asked,
        (c.after (.get guild)).shared.cache⟩ := fun _ ↦ rfl
  rw [hrecord c, hrecord d, hanswer, hanswer', hasked, hasked', hsame]

/-- What is seen of an action is the same in both, and they stay alike. -/
theorem Alike.step (h : c.Alike d) (a : SessionAction) :
    c.recordOf a = d.recordOf a ∧ (c.after a).Alike (d.after a) := by
  cases a with
  | get guild => exact h.get guild
  | _ =>
    -- nothing else looks at the locks or at the lookups under way
    obtain ⟨now, ⟨cache, locks, lookups, nextLock, nextLookup⟩, store⟩ := c
    obtain ⟨now', ⟨cache', locks', lookups', nextLock', nextLookup'⟩, store'⟩ := d
    obtain ⟨rfl, rfl, rfl, hidle, hidle'⟩ := h
    exact ⟨rfl, rfl, rfl, rfl, hidle, hidle'⟩

/-- A lookup that fails leaves the session as it was, as far as that can be seen. -/
theorem Alike.fail (h : c.Alike d) {a : SessionAction} (hfailure : (c.answerTo a).isFailure) :
    (c.after a).Alike d := by
  cases a with
  | get guild =>
    obtain ⟨hanswer, -, hcache, hidle⟩ := carryOut_get h.idle guild
    rw [hanswer] at hfailure
    cases hresult : (c.shared.cache.get c.store c.now guild).1 with
    | ok config =>
      rw [hresult] at hfailure
      cases hfailure
    | error e =>
      have hkept := (ConfigCache.get_eq_error_iff.mp hresult).2.2
      rw [hkept] at hcache
      exact ⟨h.now_eq, h.store_eq, hcache.trans h.cache_eq, hidle, h.idle'⟩
  | _ => cases hfailure

theorem Alike.trace (h : c.Alike d) (actions : List SessionAction) :
    d.trace (c.withoutFailures actions) = (c.trace actions).filter (!·.answer.isFailure) := by
  induction actions generalizing c d with
  | nil => rfl
  | cons a actions ih =>
    obtain ⟨hrecord, hafter⟩ := h.step a
    rw [withoutFailures, CacheSession.trace, List.filter_cons]
    by_cases hfailure : (c.answerTo a).isFailure
    · rw [if_pos hfailure, if_neg (by simp [recordOf, hfailure])]
      exact ih (h.fail hfailure)
    · rw [if_neg hfailure, if_pos (by simp [recordOf, hfailure]), CacheSession.trace, hrecord]
      exact congrArg _ (ih hafter)

theorem Alike.run (h : c.Alike d) (actions : List SessionAction) :
    (c.run actions).Alike (d.run actions) := by
  induction actions generalizing c d with
  | nil => exact h
  | cons a actions ih => exact ih (h.step a).2

/-- A lookup that fails leaves no trace. Whatever a caller has done with a cache before, every lookup
comes to an end, and one that is given a failure asked the store once, which failed so, and leaves
every entry as it was, also an expired one of the same guild, to the moments at which it expires and
was last used. And when the lookups that fail are left out of a whole course of actions, the others
are seen to go the same way: the caller is told the same, the store is asked for the same guilds, and
what the cache holds after each of them is the same, so that the same entries are evicted. -/
theorem trace_withoutFailures (ttl limit now : Nat) (store : GuildId → StoreAnswer)
    (actions : List SessionAction) :
    (∀ guild, let c := (new ttl limit now store).run actions
      ∃ result, c.answerTo (.get guild) = .got (some result) ∧
        ∀ e, result = .error e →
          c.store guild = .error e ∧ (c.recordOf (.get guild)).asked = [guild] ∧
            (c.after (.get guild)).shared.cache = c.shared.cache) ∧
    (new ttl limit now store).trace ((new ttl limit now store).withoutFailures actions) =
      ((new ttl limit now store).trace actions).filter (!·.answer.isFailure) := by
  refine ⟨fun guild ↦ ?_, (alike_new ttl limit now store).trace actions⟩
  intro c
  have hidle := ((alike_new ttl limit now store).run actions).idle
  obtain ⟨hanswer, hasked, hcache, -⟩ := carryOut_get hidle guild
  refine ⟨_, hanswer, fun e hfailure ↦ ?_⟩
  obtain ⟨hmissing, hload, hkept⟩ := ConfigCache.get_eq_error_iff.mp hfailure
  rw [hkept] at hcache
  rw [hmissing] at hasked
  exact ⟨hload, hasked, hcache⟩

/-- There is room for two guilds. The entry of the first has expired when the store goes down. -/
def outage : List SessionAction :=
  [.get 1, .wait 60, .get 2, .wait 50, .write fun _ ↦ .error (.unavailable "down")]

/-- The expired entry outlasts a lookup in vain. -/
theorem trace_withoutFailures_of_outage :
    let c := (new 100 2 0 fun _ ↦ .ok none).run outage
    c.answerTo (.get 1) = .got (some (.error (.unavailable "down"))) ∧
      (c.after (.get 1)).shared.cache.entries.find? 1 = some ⟨.served 1 none, 100, 0⟩ := by
  intro c
  have hfailure : c.answerTo (.get 1) = .got (some (.error (.unavailable "down"))) := rfl
  obtain ⟨result, hanswer, hcase⟩ :=
    (trace_withoutFailures 100 2 0 (fun _ ↦ .ok none) outage).1 1
  rw [hfailure, SessionAnswer.got.injEq, Option.some.injEq] at hanswer
  obtain ⟨-, -, hcache⟩ := hcase (.unavailable "down") hanswer.symm
  refine ⟨hfailure, ?_⟩
  rw [hcache]
  rfl

end CacheSession

end GuildModeration
