import GuildModeration.Proofs.Cache.SingleFlight

/-!
# What is seen of one guild

Many guilds share a cache, and most of what happens to it is of no concern to the lookups of one of
them. `CacheRun.Seen` lists what can be seen of one guild when something happens: nothing, or one
event in the life of one lookup. Each case says what becomes of the events about the guild, of its
lookups under way, of those among them that wait for the store, and of its entry.

Lookups are counted by their identities, and up to their order: which of them is next is of no
concern here.
-/

namespace GuildModeration

open List (Perm)

/-! ## Lookups under way -/

namespace SharedCache

variable {s : SharedCache} {l : Lookup} {p : Lookup → Bool}

/-- The identities of the lookups of some kind. -/
def idsWhere (s : SharedCache) (p : Lookup → Bool) : List LookupId :=
  (s.lookups.filter p).map (·.id)

/-- The lookup is one of a guild. -/
def isOf (guild : GuildId) (l : Lookup) : Bool :=
  l.guild == guild

/-- The lookup is one of a guild and waits for the store. -/
def isLoadOf (guild : GuildId) (l : Lookup) : Bool :=
  l.guild == guild && l.phase == .loading

/-- Of a guild that nobody looks up there is nothing to count. -/
theorem idsWhere_eq_nil {guild : GuildId} (h : ∀ l ∈ s.lookups, l.guild ≠ guild) :
    s.idsWhere (isOf guild) = [] ∧ s.idsWhere (isLoadOf guild) = [] := by
  constructor
  · rw [idsWhere, List.map_eq_nil_iff, List.filter_eq_nil_iff]
    exact fun l hl hof ↦ h l hl (beq_iff_eq.mp hof)
  · rw [idsWhere, List.map_eq_nil_iff, List.filter_eq_nil_iff]
    exact fun l hl hload ↦ h l hl (beq_iff_eq.mp (Bool.and_eq_true_iff.mp hload).1)

theorem perm_others (h : (s.lookups.map (·.id)).Nodup) (hl : l ∈ s.lookups) :
    s.lookups.Perm (l :: (s.others l).lookups) := by
  have hrest : (s.others l).lookups = s.lookups.erase l := by
    rw [(List.Nodup.of_map _ h).erase_eq_filter, others]
    refine List.filter_congr fun a ha ↦ ?_
    by_cases heq : a = l
    · rw [heq, bne_self_eq_false, bne_self_eq_false]
    · have hid : a.id ≠ l.id := fun hid ↦ heq (eq_of_id_eq h ha hl hid)
      rw [bne_iff_ne.mpr hid, bne_iff_ne.mpr heq]
  rw [hrest]
  exact List.perm_cons_erase hl

theorem idsWhere_perm_of_pos (h : (s.lookups.map (·.id)).Nodup) (hl : l ∈ s.lookups)
    (hp : p l = true) : (s.idsWhere p).Perm (l.id :: (s.others l).idsWhere p) := by
  have hperm := ((perm_others h hl).filter p).map (·.id)
  rwa [List.filter_cons_of_pos hp, List.map_cons] at hperm

theorem idsWhere_perm_of_neg (h : (s.lookups.map (·.id)).Nodup) (hl : l ∈ s.lookups)
    (hp : p l = false) : (s.idsWhere p).Perm ((s.others l).idsWhere p) := by
  have hperm := ((perm_others h hl).filter p).map (·.id)
  rwa [List.filter_cons_of_neg (by simp [hp])] at hperm

/-- A change of phase that makes no difference to what is counted. -/
theorem idsWhere_setPhase {id : LookupId} {phase : LookupPhase}
    (hp : ∀ a ∈ s.lookups, a.id = id → p { a with phase } = p a) :
    (s.setPhase id phase).idsWhere p = s.idsWhere p := by
  rw [idsWhere, idsWhere, setPhase, List.filter_map, List.map_map]
  have hfilter : s.lookups.filter (p ∘ fun a ↦ if a.id = id then { a with phase } else a) =
      s.lookups.filter p := by
    refine List.filter_congr fun a ha ↦ ?_
    rw [Function.comp_apply]
    split
    · next hid => exact hp a ha hid
    · rfl
  rw [hfilter]
  refine List.map_congr_left fun a _ ↦ ?_
  rw [Function.comp_apply]
  split <;> rfl

/-- The end of a lookup takes it away, and being granted a lock is not counted. -/
theorem idsWhere_release (h : (s.lookups.map (·.id)).Nodup) (l : Lookup)
    (hp : ∀ a : Lookup, a.phase = .waiting → p { a with phase := .granted } = p a) :
    (s.release l).idsWhere p = (s.others l).idsWhere p := by
  rcases release_cases s l with ⟨w, hw, -, hphase, hrel⟩ | ⟨-, hrel⟩
  · rw [hrel]
    refine idsWhere_setPhase fun a ha hid ↦ hp a ?_
    rw [eq_of_id_eq (others_ids_nodup h l) ha hw hid, hphase]
  · rw [hrel]

theorem isLoadOf_of_waiting (guild : GuildId) {a : Lookup} (h : a.phase = .waiting) :
    isLoadOf guild { a with phase := .granted } = isLoadOf guild a := by
  rw [isLoadOf, isLoadOf, h]
  rfl

theorem perm_setPhase (h : (s.lookups.map (·.id)).Nodup) (hl : l ∈ s.lookups)
    (phase : LookupPhase) :
    (s.setPhase l.id phase).lookups.Perm ({ l with phase } :: (s.others l).lookups) := by
  have hperm := (perm_others h hl).map fun a ↦ if a.id = l.id then { a with phase } else a
  have hrest : (s.others l).lookups.map (fun a ↦ if a.id = l.id then { a with phase } else a) =
      (s.others l).lookups := by
    refine (List.map_congr_left fun a ha ↦ ?_).trans (List.map_id _)
    exact if_neg (mem_others_iff.mp ha).2
  rwa [List.map_cons, if_pos rfl, hrest] at hperm

/-- A lookup that asks the store is one more that waits for it. -/
theorem idsWhere_ask (h : (s.lookups.map (·.id)).Nodup) (hl : l ∈ s.lookups)
    (hphase : l.phase ≠ .loading) :
    ((s.setPhase l.id .loading).idsWhere (isLoadOf l.guild)).Perm
      (l.id :: s.idsWhere (isLoadOf l.guild)) := by
  have hnot : isLoadOf l.guild l = false := by simp [isLoadOf, hphase]
  have hload : isLoadOf l.guild { l with phase := .loading } = true := by simp [isLoadOf]
  have hperm := ((perm_setPhase h hl .loading).filter (isLoadOf l.guild)).map (·.id)
  rw [List.filter_cons_of_pos hload, List.map_cons] at hperm
  exact hperm.trans ((idsWhere_perm_of_neg h hl hnot).symm.cons l.id)

/-- A lookup that begins is one more of its guild. -/
theorem idsWhere_enqueue (s : SharedCache) (g guild : GuildId) (lock : LockId) :
    (s.enqueue g lock).idsWhere (isOf guild) =
      s.idsWhere (isOf guild) ++ if g = guild then [s.nextLookup] else [] := by
  rw [idsWhere, enqueue, List.filter_append, List.map_append]
  by_cases hg : g = guild <;> simp [isOf, hg, idsWhere]

/-- A lookup that begins does not wait for the store. -/
theorem idsWhere_enqueue_loads (s : SharedCache) (g guild : GuildId) (lock : LockId) :
    (s.enqueue g lock).idsWhere (isLoadOf guild) = s.idsWhere (isLoadOf guild) := by
  have hnew : (if s.isLockUsed lock then LookupPhase.waiting else .granted) ≠ .loading := by
    split <;> simp
  rw [idsWhere, enqueue, List.filter_append, List.map_append]
  simp [isLoadOf, hnew, idsWhere]

variable (hgranted : ∀ a : Lookup, a.phase = .waiting → p { a with phase := .granted } = p a)

include hgranted

/-- A lookup that ends is one less, if it was counted. -/
theorem idsWhere_end (h : (s.lookups.map (·.id)).Nodup) (hl : l ∈ s.lookups) (hp : p l = true) :
    (s.idsWhere p).Perm (l.id :: (s.release l).idsWhere p) := by
  rw [idsWhere_release h l hgranted]
  exact idsWhere_perm_of_pos h hl hp

theorem idsWhere_end_of_neg (h : (s.lookups.map (·.id)).Nodup) (hl : l ∈ s.lookups)
    (hp : p l = false) : ((s.release l).idsWhere p).Perm (s.idsWhere p) := by
  rw [idsWhere_release h l hgranted]
  exact (idsWhere_perm_of_neg h hl hp).symm

end SharedCache

/-! ## Events about a guild -/

namespace CacheEvent

/-- The guild whose lookup an event is about. -/
def guild? : CacheEvent → Option GuildId
  | started _ guild => some guild
  | asked _ guild => some guild
  | loaded _ guild _ => some guild
  | answered _ guild _ => some guild
  | _ => none

/-- The lookup that begins. -/
def begun? : CacheEvent → Option LookupId
  | started id _ => some id
  | _ => none

/-- The lookup that asks the store. -/
def asked? : CacheEvent → Option LookupId
  | asked id _ => some id
  | _ => none

/-- The lookup whose load ends, and what the store answers. -/
def loaded? : CacheEvent → Option (LookupId × StoreAnswer)
  | loaded id _ answer => some (id, answer)
  | _ => none

/-- The lookup that ends, and what it is given. -/
def answered? : CacheEvent → Option (LookupId × Except StoreError GuildConfig)
  | answered id _ result => some (id, result)
  | _ => none

end CacheEvent

namespace History

/-- The events about lookups of a guild, the newest first. -/
def eventsOf (h : History) (guild : GuildId) : List CacheEvent :=
  (h.map (·.2)).filter (·.guild? == some guild)

/-- The lookups of a guild that began. -/
def begun (h : History) (guild : GuildId) : List LookupId :=
  (h.eventsOf guild).filterMap CacheEvent.begun?

/-- The lookups of a guild that asked the store. -/
def asks (h : History) (guild : GuildId) : List LookupId :=
  (h.eventsOf guild).filterMap CacheEvent.asked?

/-- The loads of a guild that ended. -/
def loads (h : History) (guild : GuildId) : List (LookupId × StoreAnswer) :=
  (h.eventsOf guild).filterMap CacheEvent.loaded?

/-- The lookups of a guild that ended, with what they were given. -/
def answers (h : History) (guild : GuildId) : List (LookupId × Except StoreError GuildConfig) :=
  (h.eventsOf guild).filterMap CacheEvent.answered?

section Later

variable {h h' : History} {guild : GuildId} (later : List CacheEvent)
  (hevents : h'.eventsOf guild = later ++ h.eventsOf guild)

include hevents

theorem loads_of_later : h'.loads guild = later.filterMap CacheEvent.loaded? ++ h.loads guild := by
  rw [loads, hevents, List.filterMap_append, ← loads]

theorem answers_of_later :
    h'.answers guild = later.filterMap CacheEvent.answered? ++ h.answers guild := by
  rw [answers, hevents, List.filterMap_append, ← answers]

end Later

end History

/-! ## Moves, seen by a guild -/

namespace CacheRun

open SharedCache (isOf isLoadOf)

theorem eventsOf_record (r : CacheRun) (s : SharedCache) (events : List CacheEvent)
    (guild : GuildId) :
    (r.record s events).history.eventsOf guild =
      events.filter (·.guild? == some guild) ++ r.history.eventsOf guild := by
  rw [History.eventsOf, record, List.map_append, List.filter_append, List.map_map]
  congr 2
  exact List.map_id _

/-- Time does not go back, and if a guild has an entry then it had it before. -/
structure Inherits (guild : GuildId) (r r' : CacheRun) : Prop where
  now_le : r.now ≤ r'.now
  entry : ∀ e, r'.shared.cache.entries.find? guild = some e →
    ∃ old, r.shared.cache.entries.find? guild = some old ∧ e.config = old.config ∧
      e.expiresAt = old.expiresAt

/-- What is seen of a guild when something happens. -/
inductive Seen (guild : GuildId) (r r' : CacheRun) : Prop where
  | nothing (events : r'.history.eventsOf guild = r.history.eventsOf guild)
      (under : (r'.shared.idsWhere (isOf guild)).Perm (r.shared.idsWhere (isOf guild)))
      (loads : (r'.shared.idsWhere (isLoadOf guild)).Perm (r.shared.idsWhere (isLoadOf guild)))
      (inherits : Inherits guild r r')
  /-- A lookup is answered at once. -/
  | hit (id : LookupId) {config : GuildConfig}
      (fresh : r.shared.cache.fresh? r.now guild = some config)
      (events : r'.history.eventsOf guild =
        .answered id guild (.ok config) :: .started id guild :: r.history.eventsOf guild)
      (under : (r'.shared.idsWhere (isOf guild)).Perm (r.shared.idsWhere (isOf guild)))
      (loads : (r'.shared.idsWhere (isLoadOf guild)).Perm (r.shared.idsWhere (isLoadOf guild)))
      (inherits : Inherits guild r r')
  /-- A lookup gets its lock or queues for it. -/
  | miss (id : LookupId) (missing : r.shared.cache.fresh? r.now guild = none)
      (events : r'.history.eventsOf guild = .started id guild :: r.history.eventsOf guild)
      (under : (r'.shared.idsWhere (isOf guild)).Perm (id :: r.shared.idsWhere (isOf guild)))
      (loads : (r'.shared.idsWhere (isLoadOf guild)).Perm (r.shared.idsWhere (isLoadOf guild)))
      (inherits : Inherits guild r r')
  /-- A lookup that had to wait is answered without a load. -/
  | lateHit (id : LookupId) {config : GuildConfig}
      (fresh : r.shared.cache.fresh? r.now guild = some config)
      (events : r'.history.eventsOf guild =
        .answered id guild (.ok config) :: r.history.eventsOf guild)
      (under : (r.shared.idsWhere (isOf guild)).Perm (id :: r'.shared.idsWhere (isOf guild)))
      (loads : (r'.shared.idsWhere (isLoadOf guild)).Perm (r.shared.idsWhere (isLoadOf guild)))
      (inherits : Inherits guild r r')
  /-- A lookup asks the store. -/
  | ask (id : LookupId) (missing : r.shared.cache.fresh? r.now guild = none)
      (events : r'.history.eventsOf guild = .asked id guild :: r.history.eventsOf guild)
      (under : (r'.shared.idsWhere (isOf guild)).Perm (r.shared.idsWhere (isOf guild)))
      (loads : (r'.shared.idsWhere (isLoadOf guild)).Perm
        (id :: r.shared.idsWhere (isLoadOf guild)))
      (inherits : Inherits guild r r')
  /-- A load succeeds. -/
  | load (id : LookupId) (document : Option GuildConfig)
      (events : r'.history.eventsOf guild =
        .answered id guild (.ok (.served guild document)) :: .loaded id guild (.ok document) ::
          r.history.eventsOf guild)
      (under : (r.shared.idsWhere (isOf guild)).Perm (id :: r'.shared.idsWhere (isOf guild)))
      (loads : (r.shared.idsWhere (isLoadOf guild)).Perm
        (id :: r'.shared.idsWhere (isLoadOf guild)))
      (entry : ∀ e, r'.shared.cache.entries.find? guild = some e →
        e.config = .served guild document)
  /-- A load fails. -/
  | fail (id : LookupId) (e : StoreError)
      (events : r'.history.eventsOf guild =
        .answered id guild (.error e) :: .loaded id guild (.error e) :: r.history.eventsOf guild)
      (under : (r.shared.idsWhere (isOf guild)).Perm (id :: r'.shared.idsWhere (isOf guild)))
      (loads : (r.shared.idsWhere (isLoadOf guild)).Perm
        (id :: r'.shared.idsWhere (isLoadOf guild)))
      (inherits : Inherits guild r r')

variable {r r' : CacheRun} {guild : GuildId}

theorem inherits_refl (r : CacheRun) (guild : GuildId) : Inherits guild r r :=
  ⟨Nat.le_refl _, fun e h ↦ ⟨e, h, rfl, rfl⟩⟩

/-- Recording takes no time, so a new cache has to be compared with the old one only. -/
theorem inherits_record {s : SharedCache} {events : List CacheEvent}
    (hentry : ∀ e, s.cache.entries.find? guild = some e →
      ∃ old, r.shared.cache.entries.find? guild = some old ∧ e.config = old.config ∧
        e.expiresAt = old.expiresAt) : Inherits guild r (r.record s events) :=
  ⟨Nat.le_refl _, hentry⟩

theorem inherits_of_cache_eq {s : SharedCache} {events : List CacheEvent}
    (h : s.cache = r.shared.cache) : Inherits guild r (r.record s events) :=
  inherits_record fun e he ↦ ⟨e, h ▸ he, rfl, rfl⟩

/-- Nothing is seen by a guild of what is about other guilds. -/
theorem seen_nothing {s : SharedCache} {events : List CacheEvent}
    (hevents : ∀ e ∈ events, e.guild? ≠ some guild)
    (hunder : (s.idsWhere (isOf guild)).Perm (r.shared.idsWhere (isOf guild)))
    (hloads : (s.idsWhere (isLoadOf guild)).Perm (r.shared.idsWhere (isLoadOf guild)))
    (hinherits : Inherits guild r (r.record s events)) : Seen guild r (r.record s events) := by
  refine .nothing ?_ hunder hloads hinherits
  have hnone : events.filter (·.guild? == some guild) = [] :=
    List.filter_eq_nil_iff.mpr fun e he ↦ by simp [hevents e he]
  rw [eventsOf_record, hnone, List.nil_append]

/-- The events of one lookup are all seen by its guild. -/
theorem eventsOf_record_self {s : SharedCache} {events : List CacheEvent}
    (hevents : ∀ e ∈ events, e.guild? = some guild) :
    (r.record s events).history.eventsOf guild = events ++ r.history.eventsOf guild := by
  have hall : events.filter (·.guild? == some guild) = events :=
    List.filter_eq_self.mpr fun e he ↦ by simp [hevents e he]
  rw [eventsOf_record, hall]

theorem seen_hit {g : GuildId} {config : GuildConfig}
    (hfresh : r.shared.cache.fresh? r.now g = some config) :
    Seen guild r (r.record
      { r.shared with cache := r.shared.cache.touch r.now g, nextLookup := r.shared.nextLookup + 1 }
      [.answered r.shared.nextLookup g (.ok config), .started r.shared.nextLookup g]) := by
  have hinherits : Inherits guild r (r.record
      { r.shared with cache := r.shared.cache.touch r.now g, nextLookup := r.shared.nextLookup + 1 }
      [.answered r.shared.nextLookup g (.ok config), .started r.shared.nextLookup g]) :=
    inherits_record fun e he ↦ ConfigCache.find?_touch he
  by_cases hg : g = guild
  · subst hg
    exact .hit r.shared.nextLookup hfresh (eventsOf_record_self (by simp [CacheEvent.guild?]))
      (.refl _) (.refl _) hinherits
  · exact seen_nothing (by simp [CacheEvent.guild?, hg]) (.refl _) (.refl _) hinherits

theorem seen_miss {g : GuildId} (hmissing : r.shared.cache.fresh? r.now g = none) :
    Seen guild r (r.record ((r.shared.lockFor g).2.enqueue g (r.shared.lockFor g).1)
      [.started r.shared.nextLookup g]) := by
  have hinherits : Inherits guild r (r.record
      ((r.shared.lockFor g).2.enqueue g (r.shared.lockFor g).1) [.started r.shared.nextLookup g]) :=
    inherits_of_cache_eq (SharedCache.lockFor_cache r.shared g)
  have hlookups : ∀ p, (r.shared.lockFor g).2.idsWhere p = r.shared.idsWhere p := by
    intro p
    rw [SharedCache.idsWhere, SharedCache.lockFor_lookups]
    rfl
  have hunder := SharedCache.idsWhere_enqueue (r.shared.lockFor g).2 g guild (r.shared.lockFor g).1
  have hloads :=
    SharedCache.idsWhere_enqueue_loads (r.shared.lockFor g).2 g guild (r.shared.lockFor g).1
  rw [hlookups, SharedCache.lockFor_nextLookup] at hunder
  rw [hlookups] at hloads
  by_cases hg : g = guild
  · subst hg
    rw [if_pos rfl] at hunder
    refine .miss r.shared.nextLookup hmissing (eventsOf_record_self (by simp [CacheEvent.guild?]))
      ?_ (.of_eq hloads) hinherits
    exact (Perm.of_eq hunder).trans (List.perm_append_singleton _ _)
  · rw [if_neg hg, List.append_nil] at hunder
    exact seen_nothing (by simp [CacheEvent.guild?, hg]) (.of_eq hunder) (.of_eq hloads) hinherits

/-- What is seen of the end of a lookup by the guilds other than its own. -/
theorem seen_end_of_ne (h : r.shared.Orderly) {l : Lookup} (hl : l ∈ r.shared.lookups)
    (hg : l.guild ≠ guild) (cache : ConfigCache) {events : List CacheEvent}
    (hevents : ∀ e ∈ events, e.guild? = some l.guild)
    (hentry : ∀ e, cache.entries.find? guild = some e →
      ∃ old, r.shared.cache.entries.find? guild = some old ∧ e.config = old.config ∧
        e.expiresAt = old.expiresAt) :
    Seen guild r (r.record ((r.shared.withCache cache).release l) events) := by
  have hnot : isOf guild l = false := beq_false_of_ne hg
  have hnotLoad : isLoadOf guild l = false := by simp [isLoadOf, hg]
  refine seen_nothing (fun e he ↦ ?_) ?_ ?_ (inherits_record fun e he ↦ ?_)
  · rw [hevents e he]
    exact fun heq ↦ hg (Option.some.inj heq)
  · exact SharedCache.idsWhere_end_of_neg (s := r.shared.withCache cache) (fun _ _ ↦ rfl)
      h.ids_nodup hl hnot
  · exact SharedCache.idsWhere_end_of_neg (s := r.shared.withCache cache)
      (fun _ ↦ SharedCache.isLoadOf_of_waiting guild) h.ids_nodup hl hnotLoad
  · rw [SharedCache.release_cache] at he
    exact hentry e he

/-- A lookup that ends is one less of its guild. -/
theorem perm_end (h : r.shared.Orderly) {l : Lookup} (hl : l ∈ r.shared.lookups)
    (cache : ConfigCache) :
    (r.shared.idsWhere (isOf l.guild)).Perm
      (l.id :: ((r.shared.withCache cache).release l).idsWhere (isOf l.guild)) :=
  SharedCache.idsWhere_end (s := r.shared.withCache cache) (fun _ _ ↦ rfl) h.ids_nodup hl
    (beq_self_eq_true l.guild)

/-- A lookup that waited for the store and ends waits for it no longer. -/
theorem perm_end_load (h : r.shared.Orderly) {l : Lookup} (hl : l ∈ r.shared.lookups)
    (hphase : l.phase = .loading) (cache : ConfigCache) :
    (r.shared.idsWhere (isLoadOf l.guild)).Perm
      (l.id :: ((r.shared.withCache cache).release l).idsWhere (isLoadOf l.guild)) :=
  SharedCache.idsWhere_end (s := r.shared.withCache cache)
    (fun _ ↦ SharedCache.isLoadOf_of_waiting l.guild) h.ids_nodup hl (by simp [isLoadOf, hphase])

/-- A guild has one load at a time, so that none is left when one ends. -/
theorem eq_nil_of_perm_loads (h : r.shared.Orderly) {id : LookupId} {left : List LookupId}
    (hperm : (r.shared.idsWhere (isLoadOf guild)).Perm (id :: left)) : left = [] := by
  have hle : (r.shared.idsWhere (isLoadOf guild)).length ≤ 1 := by
    rw [SharedCache.idsWhere, List.length_map]
    exact h.loads_length_le guild
  rw [hperm.length_eq, List.length_cons] at hle
  exact List.eq_nil_of_length_eq_zero (Nat.le_zero.mp (Nat.le_of_succ_le_succ hle))

theorem seen_lateHit (h : r.shared.Orderly) {l : Lookup} (hl : l ∈ r.shared.lookups)
    (hphase : l.phase = .granted) {config : GuildConfig}
    (hfresh : r.shared.cache.fresh? r.now l.guild = some config) :
    Seen guild r (r.record ((r.shared.withCache (r.shared.cache.touch r.now l.guild)).release l)
      [.answered l.id l.guild (.ok config)]) := by
  by_cases hg : l.guild = guild
  · subst hg
    have hnot : isLoadOf l.guild l = false := by simp [isLoadOf, hphase]
    refine .lateHit l.id hfresh (eventsOf_record_self (by simp [CacheEvent.guild?]))
      (perm_end h hl _) ?_ (inherits_record fun e he ↦ ?_)
    · exact SharedCache.idsWhere_end_of_neg (s := r.shared.withCache _)
        (fun _ ↦ SharedCache.isLoadOf_of_waiting l.guild) h.ids_nodup hl hnot
    · rw [SharedCache.release_cache] at he
      exact ConfigCache.find?_touch he
  · exact seen_end_of_ne h hl hg _ (by simp [CacheEvent.guild?]) fun e he ↦
      ConfigCache.find?_touch he

theorem seen_ask (h : r.shared.Orderly) {l : Lookup} (hl : l ∈ r.shared.lookups)
    (hphase : l.phase = .granted) (hmissing : r.shared.cache.fresh? r.now l.guild = none) :
    Seen guild r (r.record (r.shared.setPhase l.id .loading) [.asked l.id l.guild]) := by
  have hinherits : Inherits guild r
      (r.record (r.shared.setPhase l.id .loading) [.asked l.id l.guild]) :=
    inherits_of_cache_eq rfl
  have hunder : (r.shared.setPhase l.id .loading).idsWhere (isOf guild) =
      r.shared.idsWhere (isOf guild) := SharedCache.idsWhere_setPhase fun _ _ _ ↦ rfl
  by_cases hg : l.guild = guild
  · subst hg
    exact .ask l.id hmissing (eventsOf_record_self (by simp [CacheEvent.guild?])) (.of_eq hunder)
      (SharedCache.idsWhere_ask h.ids_nodup hl (by simp [hphase])) hinherits
  · refine seen_nothing (by simp [CacheEvent.guild?, hg]) (.of_eq hunder) (.of_eq ?_) hinherits
    refine SharedCache.idsWhere_setPhase fun a ha hid ↦ ?_
    rw [SharedCache.eq_of_id_eq h.ids_nodup ha hl hid]
    simp [isLoadOf, hg]

theorem seen_load (h : r.shared.Orderly) {l : Lookup} (hl : l ∈ r.shared.lookups)
    (hphase : l.phase = .loading) (document : Option GuildConfig) :
    Seen guild r (r.record
      ((r.shared.withCache
        (r.shared.cache.insert r.now l.guild (.served l.guild document))).release l)
      [.answered l.id l.guild (.ok (.served l.guild document)),
        .loaded l.id l.guild (.ok document)]) := by
  by_cases hg : l.guild = guild
  · subst hg
    refine .load l.id document (eventsOf_record_self (by simp [CacheEvent.guild?]))
      (perm_end h hl _) (perm_end_load h hl hphase _) fun e he ↦ ?_
    rw [CacheRun.record, SharedCache.release_cache, SharedCache.withCache_cache,
      ConfigCache.find?_insert_self, Option.some.injEq] at he
    exact he ▸ rfl
  · exact seen_end_of_ne h hl hg _ (by simp [CacheEvent.guild?]) fun e he ↦
      ⟨e, ConfigCache.find?_of_insert he hg, rfl, rfl⟩

theorem seen_fail (h : r.shared.Orderly) {l : Lookup} (hl : l ∈ r.shared.lookups)
    (hphase : l.phase = .loading) (e : StoreError) :
    Seen guild r (r.record (r.shared.release l)
      [.answered l.id l.guild (.error e), .loaded l.id l.guild (.error e)]) := by
  by_cases hg : l.guild = guild
  · subst hg
    exact .fail l.id e (eventsOf_record_self (by simp [CacheEvent.guild?]))
      (perm_end h hl r.shared.cache) (perm_end_load h hl hphase r.shared.cache)
      (inherits_of_cache_eq (SharedCache.release_cache r.shared l))
  · exact seen_end_of_ne h hl hg r.shared.cache (by simp [CacheEvent.guild?]) fun e he ↦
      ⟨e, he, rfl, rfl⟩

/-- Whatever happens is one of the cases. -/
theorem Move.seen (m : r.Move r') (h : r.shared.Orderly) (guild : GuildId) : Seen guild r r' := by
  cases m with
  | stay => exact .nothing rfl (.refl _) (.refl _) (inherits_refl r guild)
  | wait ms =>
    refine .nothing rfl (.refl _) (.refl _) ⟨Nat.le_add_right _ _, ?_⟩
    exact (inherits_refl r guild).entry
  | hit fresh => exact seen_hit fresh
  | miss missing => exact seen_miss missing
  | lateHit mem phase fresh => exact seen_lateHit h mem phase fresh
  | ask mem phase missing => exact seen_ask h mem phase missing
  | load document mem phase => exact seen_load h mem phase document
  | fail e mem phase => exact seen_fail h mem phase e
  | invalidate g =>
    refine seen_nothing (by simp [CacheEvent.guild?]) (.refl _) (.refl _) ?_
    exact inherits_record fun e he ↦ ⟨e, (ConfigCache.find?_of_invalidate he).2, rfl, rfl⟩
  | invalidateAll =>
    refine seen_nothing (by simp [CacheEvent.guild?]) (.refl _) (.refl _) ?_
    refine inherits_record fun e he ↦ ?_
    rw [SharedCache.invalidateAll, ConfigCache.invalidateAll, Table.find?_empty] at he
    cases he
  | reap =>
    refine seen_nothing (by simp [CacheEvent.guild?]) (.refl _) (.refl _) ?_
    exact inherits_record fun e he ↦ ⟨e, ConfigCache.find?_of_reap he, rfl, rfl⟩

/-! ## Accounts -/

/-- Every lookup of a guild that began is under way or was answered once, and every load that was
asked for is in flight or has ended once. -/
structure Accounts (guild : GuildId) (r : CacheRun) : Prop where
  begun : (r.history.begun guild).Perm
    ((r.history.answers guild).map (·.1) ++ r.shared.idsWhere (isOf guild))
  asks : (r.history.asks guild).Perm
    ((r.history.loads guild).map (·.1) ++ r.shared.idsWhere (isLoadOf guild))

section Counting

variable {α : Type} {all done left left' : List α} {x : α}

theorem perm_stay (h : all.Perm (done ++ left)) (hleft : left'.Perm left) :
    all.Perm (done ++ left') :=
  h.trans (hleft.symm.append_left done)

theorem perm_enter (h : all.Perm (done ++ left)) (hleft : left'.Perm (x :: left)) :
    (x :: all).Perm (done ++ left') :=
  perm_stay ((h.cons x).trans List.perm_middle.symm) hleft

theorem perm_leave (h : all.Perm (done ++ left)) (hleft : left.Perm (x :: left')) :
    all.Perm (x :: done ++ left') :=
  (perm_stay h hleft.symm).trans List.perm_middle

end Counting

theorem Seen.accounts (seen : Seen guild r r') (h : Accounts guild r) : Accounts guild r' := by
  obtain ⟨hbegun, hasks⟩ := h
  constructor
  · rw [History.begun, History.answers] at hbegun ⊢
    cases seen with
    | nothing events under => exact events ▸ perm_stay hbegun under
    | hit id _ events under => exact events ▸ (perm_stay hbegun under).cons id
    | miss id _ events under => exact events ▸ perm_enter hbegun under
    | lateHit id _ events under => exact events ▸ perm_leave hbegun under
    | ask id _ events under => exact events ▸ perm_stay hbegun under
    | load id _ events under => exact events ▸ perm_leave hbegun under
    | fail id _ events under => exact events ▸ perm_leave hbegun under
  · rw [History.asks, History.loads] at hasks ⊢
    cases seen with
    | nothing events _ loads => exact events ▸ perm_stay hasks loads
    | hit id _ events _ loads => exact events ▸ perm_stay hasks loads
    | miss id _ events _ loads => exact events ▸ perm_stay hasks loads
    | lateHit id _ events _ loads => exact events ▸ perm_stay hasks loads
    | ask id _ events _ loads => exact events ▸ perm_enter hasks loads
    | load id _ events _ loads => exact events ▸ perm_leave hasks loads
    | fail id _ events _ loads => exact events ▸ perm_leave hasks loads

end CacheRun

end GuildModeration
