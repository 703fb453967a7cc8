import GuildModeration.Store.Memory

/-!
# The configuration cache

Policies that were loaded a short while ago. An entry is served until its time is up, and stays in
place after that until it is replaced, reaped or evicted. When there are more entries than the
capacity allows, those that were not asked for the longest go first, but never the one that was put
in last. How many entries there may be changes how often policies are loaded, never what is served.

Times are milliseconds.
-/

namespace GuildModeration

/-- A policy in the cache. -/
structure CacheEntry where
  config : GuildConfig
  /-- The first moment at which the entry is no longer served. -/
  expiresAt : Nat
  /-- When the entry was last asked for. -/
  lastUse : Nat
  deriving Repr

/-- The cache with its limits. -/
structure ConfigCache where
  ttl : Nat := 300000
  /-- The capacity that was asked for; none at all counts as one. -/
  limit : Nat := 1000
  entries : Table GuildId CacheEntry := .empty
  deriving Repr

namespace ConfigCache

/-- The number of entries that the cache may hold. -/
def capacity (c : ConfigCache) : Nat :=
  max c.limit 1

/-- The number of entries, those that are no longer served included. -/
def size (c : ConfigCache) : Nat :=
  c.entries.size

/-- The policy that is served for a guild. -/
def fresh? (c : ConfigCache) (now : Nat) (guild : GuildId) : Option GuildConfig :=
  (c.entries.find? guild).bind fun e ↦ if now < e.expiresAt then some e.config else none

/-- A policy is served for the guild. -/
def contains (c : ConfigCache) (now : Nat) (guild : GuildId) : Bool :=
  (c.fresh? now guild).isSome

/-- The cache once the entry of a guild has been asked for. -/
def touch (c : ConfigCache) (now : Nat) (guild : GuildId) : ConfigCache :=
  match c.entries.find? guild with
  | some e => { c with entries := c.entries.insert guild { e with lastUse := now } }
  | none => c

/-- Asks for the policy of a guild. -/
def look (c : ConfigCache) (now : Nat) (guild : GuildId) : Option GuildConfig × ConfigCache :=
  match c.fresh? now guild with
  | some config => (some config, c.touch now guild)
  | none => (none, c)

/-! ## Eviction -/

/-- The earlier used of two entries; of two used at the same time the first. -/
def lessRecent (a b : GuildId × CacheEntry) : GuildId × CacheEntry :=
  if b.2.lastUse < a.2.lastUse then b else a

/-- The guild that was not asked for the longest, apart from `keep`. -/
def leastRecent? (entries : List (GuildId × CacheEntry)) (keep : GuildId) : Option GuildId :=
  match entries.filter fun e ↦ e.1 != keep with
  | [] => none
  | e :: es => some (es.foldl lessRecent e).1

/-- The entries without the `n` least recently used, `keep` apart. -/
def shrink (keep : GuildId) : (n : Nat) → Table GuildId CacheEntry → Table GuildId CacheEntry
  | 0, t => t
  | n + 1, t =>
    match leastRecent? t.entries keep with
    | some guild => shrink keep n (t.erase guild)
    | none => t

/-- Puts in a policy, and makes room if there are too many. -/
def insert (c : ConfigCache) (now : Nat) (guild : GuildId) (config : GuildConfig) : ConfigCache :=
  let entries := c.entries.insert guild ⟨config, now + c.ttl, now⟩
  { c with entries := shrink guild (entries.size - c.capacity) entries }

/-! ## Taking out -/

/-- Takes the policy of a guild out. -/
def invalidate (c : ConfigCache) (guild : GuildId) : ConfigCache :=
  { c with entries := c.entries.erase guild }

/-- Takes all policies out. -/
def invalidateAll (c : ConfigCache) : ConfigCache :=
  { c with entries := .empty }

/-- Takes out what is no longer served, and counts it. -/
def reap (c : ConfigCache) (now : Nat) : Nat × ConfigCache :=
  let kept := c.entries.filter fun _ e ↦ decide (now < e.expiresAt)
  (c.entries.size - kept.size, { c with entries := kept })

/-! ## One caller at a time -/

/-- Takes in what the store answered for a guild. A failure leaves nothing behind. -/
def receive (c : ConfigCache) (now : Nat) (guild : GuildId) (answer : StoreAnswer) :
    Except StoreError GuildConfig × ConfigCache :=
  match answer with
  | .error e => (.error e, c)
  | .ok document =>
    let config := GuildConfig.served guild document
    (.ok config, c.insert now guild config)

/-- Gets the policy of a guild when loads take no time: from the cache, or else from the store. -/
def get (c : ConfigCache) (load : GuildId → StoreAnswer) (now : Nat) (guild : GuildId) :
    Except StoreError GuildConfig × ConfigCache :=
  match c.look now guild with
  | (some config, c) => (.ok config, c)
  | (none, c) => c.receive now guild (load guild)

/-- Gets the policies of some guilds one after the other, and counts those that could be had. -/
def warm (c : ConfigCache) (load : GuildId → StoreAnswer) (now : Nat) (guilds : List GuildId) :
    Nat × ConfigCache :=
  guilds.foldl (fun (n, c) guild ↦
    match c.get load now guild with
    | (.ok _, c) => (n + 1, c)
    | (.error _, c) => (n, c)) (0, c)

end ConfigCache

end GuildModeration
