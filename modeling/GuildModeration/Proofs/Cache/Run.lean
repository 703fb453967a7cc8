import GuildModeration.Proofs.Cache.History
import GuildModeration.Proofs.Cache.Locks

/-!
# Runs of a cache

All that can happen to a cache that many callers share, in any order. A lookup takes up to three
actions: it starts, it goes on once it has been granted its lock, and it ends when the store answers.
Whoever preloads policies is one more caller, and making room is part of putting in. What is not
possible at the moment changes nothing, so that every list of actions is a run.

The store is not part of a run: it may answer any load in any way. This covers every store, whatever
is written to it and whenever it fails.

## What a move can do

`CacheRun.Move` lists what one action does, each case with the condition under which it happens.
Properties of runs are shown by cases on it, and little else takes the actions apart.
-/

namespace GuildModeration

/-- Something that can happen to a cache. -/
inductive CacheAction where
  /-- Time passes. -/
  | wait (ms : Nat)
  /-- Somebody asks for the policy of a guild. -/
  | start (guild : GuildId)
  /-- A lookup that was granted its lock goes on. -/
  | resume (id : LookupId)
  /-- The store answers a lookup. -/
  | finish (id : LookupId) (answer : StoreAnswer)
  | invalidate (guild : GuildId)
  | invalidateAll
  | reap

/-- The lookup of an identity, if it is in a phase. -/
def SharedCache.inPhase? (s : SharedCache) (id : LookupId) (phase : LookupPhase) : Option Lookup :=
  s.lookups.find? fun l ↦ l.id == id && l.phase == phase

theorem SharedCache.mem_of_inPhase? {s : SharedCache} {id : LookupId} {phase : LookupPhase}
    {l : Lookup} (h : s.inPhase? id phase = some l) : l ∈ s.lookups ∧ l.phase = phase := by
  have hp := List.find?_some h
  rw [Bool.and_eq_true, beq_iff_eq, beq_iff_eq] at hp
  exact ⟨List.mem_of_find?_eq_some h, hp.2⟩

theorem SharedCache.inPhase?_eq {s : SharedCache} (h : (s.lookups.map (·.id)).Nodup) {l : Lookup}
    (hl : l ∈ s.lookups) : s.inPhase? l.id l.phase = some l := by
  cases hfind : s.inPhase? l.id l.phase with
  | none =>
    have hp := List.find?_eq_none.mp hfind l hl
    simp at hp
  | some a =>
    have hp := List.find?_some hfind
    rw [Bool.and_eq_true, beq_iff_eq] at hp
    rw [SharedCache.eq_of_id_eq h (List.mem_of_find?_eq_some hfind) hl hp.1]

/-- A cache at one moment, and what was seen of it so far. -/
structure CacheRun where
  now : Nat
  shared : SharedCache
  history : History := []

namespace CacheRun

/-- A new cache at some moment, with any limits. -/
def new (ttl limit now : Nat) : CacheRun :=
  { now, shared := { cache := { ttl, limit } } }

/-- The run with another cache and some more events, all of them now and the newest first. -/
def record (r : CacheRun) (shared : SharedCache) (events : List CacheEvent) : CacheRun :=
  { r with shared, history := events.map (r.now, ·) ++ r.history }

/-- Lets an action happen; one that is not possible changes nothing. -/
def step (r : CacheRun) : CacheAction → CacheRun
  | .wait ms => { r with now := r.now + ms }
  | .start guild =>
    let id := r.shared.nextLookup
    match r.shared.start r.now guild with
    | (some config, s) => r.record s [.answered id guild (.ok config), .started id guild]
    | (none, s) => r.record s [.started id guild]
  | .resume id =>
    match r.shared.inPhase? id .granted with
    | some l =>
      match r.shared.resume r.now l with
      | (some config, s) => r.record s [.answered l.id l.guild (.ok config)]
      | (none, s) => r.record s [.asked l.id l.guild]
    | none => r
  | .finish id answer =>
    match r.shared.inPhase? id .loading with
    | some l =>
      let (result, s) := r.shared.finish r.now l answer
      r.record s [.answered l.id l.guild result, .loaded l.id l.guild answer]
    | none => r
  | .invalidate guild => r.record (r.shared.invalidate guild) [.dropped guild]
  | .invalidateAll => r.record r.shared.invalidateAll [.droppedAll]
  | .reap =>
    let (n, s) := r.shared.reap r.now
    r.record s [.reaped n]

/-- Lets actions happen one after the other. -/
def run (r : CacheRun) (actions : List CacheAction) : CacheRun :=
  actions.foldl step r

theorem run_append (r : CacheRun) (actions more : List CacheAction) :
    r.run (actions ++ more) = (r.run actions).run more :=
  List.foldl_append

/-! ## Moves -/

/-- What one action does. -/
inductive Move (r : CacheRun) : CacheRun → Prop where
  /-- The action was not possible. -/
  | stay : Move r r
  | wait (ms : Nat) : Move r { r with now := r.now + ms }
  /-- A lookup is answered at once. -/
  | hit {guild : GuildId} {config : GuildConfig}
      (fresh : r.shared.cache.fresh? r.now guild = some config) :
      Move r (r.record
        { r.shared with
          cache := r.shared.cache.touch r.now guild, nextLookup := r.shared.nextLookup + 1 }
        [.answered r.shared.nextLookup guild (.ok config), .started r.shared.nextLookup guild])
  /-- A lookup gets its lock or queues for it. -/
  | miss {guild : GuildId} (missing : r.shared.cache.fresh? r.now guild = none) :
      Move r (r.record ((r.shared.lockFor guild).2.enqueue guild (r.shared.lockFor guild).1)
        [.started r.shared.nextLookup guild])
  /-- A lookup that had to wait is answered without a load. -/
  | lateHit {l : Lookup} {config : GuildConfig} (mem : l ∈ r.shared.lookups)
      (phase : l.phase = .granted) (fresh : r.shared.cache.fresh? r.now l.guild = some config) :
      Move r (r.record ((r.shared.withCache (r.shared.cache.touch r.now l.guild)).release l)
        [.answered l.id l.guild (.ok config)])
  /-- A lookup asks the store. -/
  | ask {l : Lookup} (mem : l ∈ r.shared.lookups) (phase : l.phase = .granted)
      (missing : r.shared.cache.fresh? r.now l.guild = none) :
      Move r (r.record (r.shared.setPhase l.id .loading) [.asked l.id l.guild])
  /-- A load succeeds. -/
  | load {l : Lookup} (document : Option GuildConfig) (mem : l ∈ r.shared.lookups)
      (phase : l.phase = .loading) :
      Move r (r.record
        ((r.shared.withCache
          (r.shared.cache.insert r.now l.guild (.served l.guild document))).release l)
        [.answered l.id l.guild (.ok (.served l.guild document)),
          .loaded l.id l.guild (.ok document)])
  /-- A load fails. -/
  | fail {l : Lookup} (e : StoreError) (mem : l ∈ r.shared.lookups) (phase : l.phase = .loading) :
      Move r (r.record (r.shared.release l)
        [.answered l.id l.guild (.error e), .loaded l.id l.guild (.error e)])
  | invalidate (guild : GuildId) : Move r (r.record (r.shared.invalidate guild) [.dropped guild])
  | invalidateAll : Move r (r.record r.shared.invalidateAll [.droppedAll])
  | reap : Move r (r.record (r.shared.reap r.now).2 [.reaped (r.shared.reap r.now).1])

theorem step_start_of_fresh {r : CacheRun} {guild : GuildId} {config : GuildConfig}
    (h : r.shared.cache.fresh? r.now guild = some config) :
    r.step (.start guild) = r.record
      { r.shared with
        cache := r.shared.cache.touch r.now guild, nextLookup := r.shared.nextLookup + 1 }
      [.answered r.shared.nextLookup guild (.ok config), .started r.shared.nextLookup guild] := by
  rw [step, SharedCache.start_of_fresh h]

theorem step_start_of_not_fresh {r : CacheRun} {guild : GuildId}
    (h : r.shared.cache.fresh? r.now guild = none) :
    r.step (.start guild) = r.record
      ((r.shared.lockFor guild).2.enqueue guild (r.shared.lockFor guild).1)
      [.started r.shared.nextLookup guild] := by
  rw [step, SharedCache.start_of_not_fresh h]

theorem move_start (r : CacheRun) (guild : GuildId) : r.Move (r.step (.start guild)) := by
  cases h : r.shared.cache.fresh? r.now guild with
  | some config =>
    rw [step_start_of_fresh h]
    exact .hit h
  | none =>
    rw [step_start_of_not_fresh h]
    exact .miss h

theorem step_resume_of_fresh {r : CacheRun} (h : (r.shared.lookups.map (·.id)).Nodup)
    {l : Lookup} (hl : l ∈ r.shared.lookups) (hphase : l.phase = .granted) {config : GuildConfig}
    (hfresh : r.shared.cache.fresh? r.now l.guild = some config) :
    r.step (.resume l.id) = r.record
      ((r.shared.withCache (r.shared.cache.touch r.now l.guild)).release l)
      [.answered l.id l.guild (.ok config)] := by
  have hfind := SharedCache.inPhase?_eq h hl
  rw [hphase] at hfind
  rw [step, hfind]
  dsimp only
  rw [SharedCache.resume_of_fresh hfresh]

theorem step_resume_of_not_fresh {r : CacheRun} (h : (r.shared.lookups.map (·.id)).Nodup)
    {l : Lookup} (hl : l ∈ r.shared.lookups) (hphase : l.phase = .granted)
    (hmissing : r.shared.cache.fresh? r.now l.guild = none) :
    r.step (.resume l.id) =
      r.record (r.shared.setPhase l.id .loading) [.asked l.id l.guild] := by
  have hfind := SharedCache.inPhase?_eq h hl
  rw [hphase] at hfind
  rw [step, hfind]
  dsimp only
  rw [SharedCache.resume_of_not_fresh hmissing]

theorem step_finish {r : CacheRun} (h : (r.shared.lookups.map (·.id)).Nodup) {l : Lookup}
    (hl : l ∈ r.shared.lookups) (hphase : l.phase = .loading) (answer : StoreAnswer) :
    r.step (.finish l.id answer) = r.record (r.shared.finish r.now l answer).2
      [.answered l.id l.guild (r.shared.finish r.now l answer).1,
        .loaded l.id l.guild answer] := by
  have hfind := SharedCache.inPhase?_eq h hl
  rw [hphase] at hfind
  rw [step, hfind]

theorem move_resume (r : CacheRun) (id : LookupId) : r.Move (r.step (.resume id)) := by
  rw [step]
  split
  · next l hl =>
    obtain ⟨mem, phase⟩ := SharedCache.mem_of_inPhase? hl
    cases h : r.shared.cache.fresh? r.now l.guild with
    | some config =>
      rw [SharedCache.resume_of_fresh h]
      exact .lateHit mem phase h
    | none =>
      rw [SharedCache.resume_of_not_fresh h]
      exact .ask mem phase h
  · exact .stay

theorem move_finish (r : CacheRun) (id : LookupId) (answer : StoreAnswer) :
    r.Move (r.step (.finish id answer)) := by
  rw [step]
  split
  · next l hl =>
    obtain ⟨mem, phase⟩ := SharedCache.mem_of_inPhase? hl
    cases answer with
    | ok document => exact .load document mem phase
    | error e => exact .fail e mem phase
  · exact .stay

theorem move_step (r : CacheRun) (a : CacheAction) : r.Move (r.step a) := by
  cases a with
  | wait ms => exact .wait ms
  | start guild => exact move_start r guild
  | resume id => exact move_resume r id
  | finish id answer => exact move_finish r id answer
  | invalidate guild => exact .invalidate guild
  | invalidateAll => exact .invalidateAll
  | reap => exact .reap

/-- What every move keeps, every run keeps. -/
theorem run_induction {P : CacheRun → Prop} (hmove : ∀ r r', P r → r.Move r' → P r')
    {r : CacheRun} (h : P r) (actions : List CacheAction) : P (r.run actions) := by
  induction actions generalizing r with
  | nil => exact h
  | cons a actions ih => exact ih (hmove r _ h (move_step r a))

/-- What was seen once stays seen. -/
theorem Move.suffix {r r' : CacheRun} (m : r.Move r') : r.history <:+ r'.history := by
  cases m
  case stay => exact List.suffix_refl _
  case wait => exact List.suffix_refl _
  all_goals exact List.suffix_append _ _

theorem suffix_run (r : CacheRun) (actions : List CacheAction) :
    r.history <:+ (r.run actions).history :=
  run_induction (P := fun r' ↦ r.history <:+ r'.history) (fun _ _ h m ↦ h.trans m.suffix)
    (List.suffix_refl _) actions

end CacheRun

end GuildModeration
