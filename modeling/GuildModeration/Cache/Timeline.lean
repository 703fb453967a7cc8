import GuildModeration.Cache.Maintenance

/-!
# The cache over time

A run of the cache over a store in memory, on a clock that moves only when it is told to, or while
somebody waits for a load that takes time. Everything that can happen at a moment has happened
before the next thing is asked for: lookups go as far as they can, and the maintenance task answers
its queue and makes up for missed passes.

The store answers at the end of a load. The store's answer is whatever it holds then, not when it
was asked.
-/

namespace GuildModeration

/-- A load under way. -/
structure PendingLoad where
  lookup : Lookup
  due : Nat
  deriving Repr

/-- The cache, its store and its clock at one moment. -/
structure Timeline where
  now : Nat := 0
  cache : MaintainedCache
  store : MemoryStore := {}
  /-- How long a load takes. -/
  delay : Nat := 0
  loads : List PendingLoad := []
  /-- The guilds that the store was asked for since this was last looked at, in order. -/
  asked : List GuildId := []
  /-- The answers that nobody has taken yet. -/
  answers : List (LookupId × Except StoreError GuildConfig) := []

namespace Timeline

/-- The cache that lookups share. -/
def shared (t : Timeline) : SharedCache :=
  t.cache.shared

/-- The timeline with the shared cache replaced. -/
def withShared (t : Timeline) (shared : SharedCache) : Timeline :=
  { t with cache := { t.cache with shared } }

/-- The timeline with the store replaced. -/
def withStore (t : Timeline) (store : MemoryStore) : Timeline :=
  { t with store }

/-- The moment is kept, the rest of the cache is changed. -/
def changeShared (t : Timeline) (f : SharedCache → SharedCache) : Timeline :=
  t.withShared (f t.shared)

/-- The end of the queue that the maintenance task was to have is gone; a task that was started
keeps it. -/
def dropReceiver (t : Timeline) : Timeline :=
  { t with cache := t.cache.dropReceiver }

/-- The answer of a lookup becomes known. -/
def answer (t : Timeline) (id : LookupId) (a : Except StoreError GuildConfig) : Timeline :=
  { t with answers := t.answers ++ [(id, a)] }

/-- The store answers a lookup. -/
def finishLoad (t : Timeline) (l : Lookup) : Timeline :=
  let (result, shared) := t.shared.finish t.now l (t.store.load l.guild)
  (t.withShared shared).answer l.id result

/-- A lookup that was granted its lock goes on: it is answered, or the store is asked, which answers
on the spot when loads take no time. -/
def goOn (t : Timeline) (l : Lookup) : Timeline :=
  match t.shared.resume t.now l with
  | (some config, shared) => (t.withShared shared).answer l.id (.ok config)
  | (none, shared) =>
    let t := { t.withShared shared with asked := t.asked ++ [l.guild] }
    if t.delay = 0 then t.finishLoad { l with phase := .loading }
    else { t with loads := t.loads ++ [⟨{ l with phase := .loading }, t.now + t.delay⟩] }

/-- The lookups that were granted their locks go on, at most `fuel` of them. -/
def runGranted : (fuel : Nat) → Timeline → Timeline
  | 0, t => t
  | fuel + 1, t =>
    match t.shared.lookups.find? (·.phase == .granted) with
    | some l => runGranted fuel (t.goOn l)
    | none => t

/-- All lookups go as far as they can; each goes on at most once. -/
def runLookups (t : Timeline) : Timeline :=
  t.runGranted t.shared.lookups.length

/-- Starts a lookup, which goes as far as it can. -/
def startGet (t : Timeline) (guild : GuildId) : LookupId × Timeline :=
  let id := t.shared.nextLookup
  match t.shared.start t.now guild with
  | (some config, shared) => (id, (t.withShared shared).answer id (.ok config))
  | (none, shared) => (id, (t.withShared shared).runLookups)

/-- The loads that are due at this moment end, in the order in which they are due; then the lookups
that they held up go on. -/
def endLoads (t : Timeline) : Timeline :=
  let due := (t.loads.filter fun p ↦ decide (p.due ≤ t.now)).mergeSort fun a b ↦
    decide (a.due ≤ b.due)
  let rest : Timeline := { t with loads := t.loads.filter fun p ↦ decide (t.now < p.due) }
  (due.foldl (fun t p ↦ t.finishLoad p.lookup) rest).runLookups

/-- The maintenance task answers its queue and makes the passes that are due. -/
def maintain (t : Timeline) : Timeline :=
  { t with cache := t.cache.serve.catchUp t.now }

/-- Everything that can happen at this moment happens. -/
def settle (t : Timeline) : Timeline :=
  t.endLoads.maintain

/-- The clock jumps ahead, and then everything that is due happens. -/
def advance (t : Timeline) (ms : Nat) : Timeline :=
  { t with now := t.now + ms }.settle

/-! ## Waiting -/

/-- The clock moves on to a moment, and the maintenance task makes its passes on the way there, each
at the moment when it is due, but not those of the moment itself. -/
def moveTo (t : Timeline) (moment : Nat) : Timeline :=
  let passes := if moment = 0 then 0 else t.cache.duePasses (moment - 1)
  let cache := (List.range passes).foldl (fun c _ ↦ c.pass (c.nextPass?.getD 0)) t.cache
  { t with cache, now := max t.now moment }

/-- Waits for the next load to end. -/
def awaitLoad (t : Timeline) : Timeline :=
  match (t.loads.map (·.due)).min? with
  | some due => (t.moveTo due).settle
  | none => t

/-- The answer of a lookup, if it is known. -/
def answer? (t : Timeline) (id : LookupId) : Option (Except StoreError GuildConfig) :=
  t.answers.lookup id

/-- Waits until a lookup is answered, over at most `fuel` loads. -/
def awaitWithin (id : LookupId) : (fuel : Nat) → Timeline → Timeline
  | 0, t => t
  | fuel + 1, t => if (t.answer? id).isSome then t else awaitWithin id fuel t.awaitLoad

/-- Waits for a lookup and takes its answer. Every wait ends a load of its own for some lookup, so
there are no more of them than lookups. -/
def await (t : Timeline) (id : LookupId) : Except StoreError GuildConfig × Timeline :=
  let t := awaitWithin id (t.shared.lookups.length + 1) t
  ((t.answer? id).getD (.error (.other "")),
    { t with answers := t.answers.filter (·.1 != id) })

/-- Gets the policy of a guild. -/
def get (t : Timeline) (guild : GuildId) : Except StoreError GuildConfig × Timeline :=
  let (id, t) := t.startGet guild
  t.await id

/-- Gets the policies of some guilds at the same time; the answers come in the order of the
guilds. -/
def getAll (t : Timeline) (guilds : List GuildId) :
    List (Except StoreError GuildConfig) × Timeline :=
  let (ids, t) := guilds.foldl (fun (ids, t) guild ↦
    let (id, t) := t.startGet guild
    (ids ++ [id], t)) (([] : List LookupId), t)
  ids.foldl (fun (answers, t) id ↦
    let (a, t) := t.await id
    (answers ++ [a], t)) ([], t)

/-- Gets the policies of some guilds one after the other, and counts those that could be had. -/
def warm (t : Timeline) (guilds : List GuildId) : Nat × Timeline :=
  guilds.foldl (fun (n, t) guild ↦
    match t.get guild with
    | (.ok _, t) => (n + 1, t)
    | (.error _, t) => (n, t)) (0, t)

end Timeline

end GuildModeration
