import GuildModeration.Cache.Entries

/-!
# Lookups that run side by side

Many callers look up policies at the same time, and a load takes time. So that a guild is not loaded
twice at once, a lookup that misses takes the lock of its guild, in the order of arrival, and looks
again before it asks the store. A lookup passes through at most three phases: it waits for the lock,
it has been granted the lock, it waits for the store. Each of the functions below is one step of one
lookup, or of the maintenance that runs beside them; between two steps anything else may happen.

A lock is created by the first lookup that needs it. Reaping forgets the locks that no lookup holds
or waits for, and a later lookup then creates another one.
-/

namespace GuildModeration

/-- The identity of a lock. -/
abbrev LockId := Nat

/-- The identity of a lookup. -/
abbrev LookupId := Nat

/-- What a lookup that missed is doing. -/
inductive LookupPhase where
  /-- It waits for the lock. -/
  | waiting
  /-- It holds the lock and has not looked again yet. -/
  | granted
  /-- It holds the lock and waits for the store. -/
  | loading
  deriving DecidableEq, Repr

/-- A lookup that missed and has not been answered yet. -/
structure Lookup where
  id : LookupId
  guild : GuildId
  lock : LockId
  phase : LookupPhase
  deriving DecidableEq, Repr

/-- The cache together with the lookups under way, in the order in which they asked for their
locks. -/
structure SharedCache where
  cache : ConfigCache := {}
  locks : Table GuildId LockId := .empty
  lookups : List Lookup := []
  nextLock : LockId := 0
  nextLookup : LookupId := 0

namespace SharedCache

variable (s : SharedCache)

/-- The lookup of an identity. -/
def lookup? (id : LookupId) : Option Lookup :=
  s.lookups.find? (·.id == id)

/-- Some lookup holds the lock or waits for it. -/
def isLockUsed (lock : LockId) : Bool :=
  s.lookups.any (·.lock == lock)

/-- The store has been asked for the guild and has not answered yet. -/
def isLoading (guild : GuildId) : Bool :=
  s.lookups.any fun l ↦ l.guild == guild && l.phase == .loading

/-- The cache with another phase for one lookup. -/
def setPhase (id : LookupId) (phase : LookupPhase) : SharedCache :=
  { s with lookups := s.lookups.map fun l ↦ if l.id = id then { l with phase } else l }

/-- The lock of a guild, created if there is none. -/
def lockFor (guild : GuildId) : LockId × SharedCache :=
  match s.locks.find? guild with
  | some lock => (lock, s)
  | none =>
    (s.nextLock,
      { s with locks := s.locks.insert guild s.nextLock, nextLock := s.nextLock + 1 })

/-! ## Steps of a lookup -/

/-- Starts a lookup. It is answered at once if the cache serves the guild; otherwise it gets the
lock, or a place in the queue for it. -/
def start (now : Nat) (guild : GuildId) : Option GuildConfig × SharedCache :=
  match s.cache.look now guild with
  | (some config, cache) => (some config, { s with cache, nextLookup := s.nextLookup + 1 })
  | (none, cache) =>
    let (lock, t) := { s with cache }.lockFor guild
    let phase := if t.isLockUsed lock then .waiting else .granted
    (none,
      { t with
        lookups := t.lookups ++ [⟨s.nextLookup, guild, lock, phase⟩]
        nextLookup := s.nextLookup + 1 })

/-- Grants a lock to the first lookup that waits for it. -/
def grantNext (lock : LockId) : SharedCache :=
  match s.lookups.find? fun l ↦ l.lock == lock && l.phase == .waiting with
  | some l => s.setPhase l.id .granted
  | none => s

/-- Ends a lookup: it lets go of its lock, and the next in the queue gets it. -/
def release (l : Lookup) : SharedCache :=
  { s with lookups := s.lookups.filter (·.id != l.id) }.grantNext l.lock

/-- A lookup that was granted the lock looks again. It is answered if the cache serves the guild by
now; otherwise the store is asked. -/
def resume (now : Nat) (l : Lookup) : Option GuildConfig × SharedCache :=
  match s.cache.look now l.guild with
  | (some config, cache) => (some config, { s with cache }.release l)
  | (none, cache) => (none, { s with cache }.setPhase l.id .loading)

/-- The store answers a lookup. -/
def finish (now : Nat) (l : Lookup) (answer : StoreAnswer) :
    Except StoreError GuildConfig × SharedCache :=
  let (result, cache) := s.cache.receive now l.guild answer
  (result, { s with cache }.release l)

/-! ## Steps beside the lookups -/

/-- Takes the policy of a guild out of the cache. -/
def invalidate (guild : GuildId) : SharedCache :=
  { s with cache := s.cache.invalidate guild }

/-- Takes all policies out of the cache. -/
def invalidateAll : SharedCache :=
  { s with cache := s.cache.invalidateAll }

/-- Takes out what is no longer served, and forgets the locks that nobody uses. -/
def reap (now : Nat) : Nat × SharedCache :=
  let (removed, cache) := s.cache.reap now
  (removed, { s with cache, locks := s.locks.filter fun _ lock ↦ s.isLockUsed lock })

end SharedCache

end GuildModeration
