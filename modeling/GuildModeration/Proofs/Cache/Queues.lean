import Mathlib.Data.List.Find
import GuildModeration.Proofs.Cache.Run

/-!
# Lookups without their locks

Locks are forgotten and created anew, so that the lock that a guild has is a matter of chance. Which
lookups wait is not: lookups of one guild share a lock and no others do, so that a lock says no more
than the guild. The lookups under way, each without its lock, are the queue of a cache, and every
step of a lookup does to the queue what can be said without the locks.
-/

namespace GuildModeration

/-- A lookup without its lock. -/
structure QueuedLookup where
  id : LookupId
  guild : GuildId
  phase : LookupPhase
  deriving DecidableEq, Repr

namespace QueuedLookup

/-- The queue with another phase for one lookup. -/
def setPhase (queue : List QueuedLookup) (id : LookupId) (phase : LookupPhase) :
    List QueuedLookup :=
  queue.map fun q ↦ if q.id = id then { q with phase } else q

/-- The queue once the first lookup of a guild that waits has been granted the lock. -/
def grantNext (queue : List QueuedLookup) (guild : GuildId) : List QueuedLookup :=
  match queue.find? fun q ↦ q.guild == guild && q.phase == .waiting with
  | some q => setPhase queue q.id .granted
  | none => queue

end QueuedLookup

/-- All of a lookup but its lock. -/
def Lookup.queued (l : Lookup) : QueuedLookup :=
  ⟨l.id, l.guild, l.phase⟩

namespace SharedCache

variable {s : SharedCache}

/-- The lookups under way without their locks. -/
def queue (s : SharedCache) : List QueuedLookup :=
  s.lookups.map Lookup.queued

theorem queued_inPhase? (s : SharedCache) (id : LookupId) (phase : LookupPhase) :
    (s.inPhase? id phase).map Lookup.queued =
      s.queue.find? fun q ↦ q.id == id && q.phase == phase := by
  rw [queue, List.find?_map]
  rfl

theorem queue_setPhase (s : SharedCache) (id : LookupId) (phase : LookupPhase) :
    (s.setPhase id phase).queue = QueuedLookup.setPhase s.queue id phase := by
  rw [queue, queue, setPhase, QueuedLookup.setPhase, List.map_map, List.map_map]
  refine List.map_congr_left fun l _ ↦ ?_
  exact apply_ite Lookup.queued (l.id = id) _ _

/-- Whoever comes has to wait exactly if a lookup of its guild is under way. -/
theorem Orderly.queue_enqueue (h : s.Orderly) (guild : GuildId) :
    ((s.lockFor guild).2.enqueue guild (s.lockFor guild).1).queue =
      s.queue ++ [⟨s.nextLookup, guild,
        if s.queue.any (·.guild == guild) then .waiting else .granted⟩] := by
  have hused : (s.lockFor guild).2.isLockUsed (s.lockFor guild).1 =
      s.queue.any (·.guild == guild) := by
    rw [Bool.eq_iff_iff, isLockUsed_iff, queue, List.any_map, List.any_eq_true]
    have hlocks := (h.lockFor guild).lock_eq
    rw [lockFor_lookups] at hlocks ⊢
    refine exists_congr fun l ↦ and_congr_right fun hl ↦ ?_
    rw [Function.comp_apply, beq_iff_eq, Lookup.queued]
    constructor
    · intro hlock
      have hfind := hlocks l hl
      rw [hlock] at hfind
      exact (h.lockFor guild).lock_injective hfind (find?_lockFor s guild)
    · intro hguild
      have hfind := hlocks l hl
      rw [show l.guild = guild from hguild, find?_lockFor, Option.some.injEq] at hfind
      exact hfind.symm
  rw [queue, SharedCache.enqueue, hused, List.map_append, lockFor_lookups, lockFor_nextLookup]
  rfl

/-- The lock of a lookup that ends goes to the first of its guild that waits. -/
theorem Orderly.queue_release (h : s.Orderly) {l : Lookup} (hl : l ∈ s.lookups) :
    (s.release l).queue = QueuedLookup.grantNext (s.queue.filter (·.id != l.id)) l.guild := by
  have hothers : (s.others l).queue = s.queue.filter (·.id != l.id) := by
    rw [queue, queue, List.filter_map]
    rfl
  -- whoever uses the lock is of the guild, and the other way round
  have hwaiting : ((s.others l).lookups.find? fun a ↦ a.lock == l.lock && a.phase == .waiting) =
      (s.others l).lookups.find? fun a ↦ a.guild == l.guild && a.phase == .waiting := by
    refine List.find?_congr fun a ha ↦ ?_
    have hmem := (mem_others_iff.mp ha).1
    refine congrArg (· && a.phase == .waiting) (Bool.eq_iff_iff.mpr ?_)
    rw [beq_iff_eq, beq_iff_eq]
    exact ⟨h.guild_eq hmem hl, h.lock_eq_lock hmem hl⟩
  have hfind : ((s.others l).lookups.find? fun a ↦ a.lock == l.lock && a.phase == .waiting).map
      Lookup.queued = (s.others l).queue.find? fun q ↦ q.guild == l.guild && q.phase == .waiting := by
    rw [hwaiting, queue, List.find?_map]
    rfl
  have hrelease : s.release l = (s.others l).grantNext l.lock := rfl
  rw [← hothers, QueuedLookup.grantNext, ← hfind, hrelease, grantNext]
  cases (s.others l).lookups.find? fun a ↦ a.lock == l.lock && a.phase == .waiting with
  | none => rfl
  | some w => exact queue_setPhase _ _ _

end SharedCache

end GuildModeration
