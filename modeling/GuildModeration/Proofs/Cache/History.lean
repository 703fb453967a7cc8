import GuildModeration.Cache.Lookup

/-!
# Histories of a cache

What can be seen of a cache that many callers share, each event with its time, the newest first. A
load of the store is known by the lookup that asked for it, as no lookup asks twice.

Read backwards, a history decides by its first entry that speaks about a guild what a lookup of that
guild may be given: a load that succeeded leaves its answer in the cache, and taking the guild out
takes it away again. `CacheEvent.replaces` singles out these two, and `find?` on a history finds the
last of them.

A property of events in the light of what came before them is `History.Holds`. It is defined along
the list, so that adding an event leaves the events before it alone.
-/

namespace GuildModeration

/-- Something that was seen of a cache. -/
inductive CacheEvent where
  /-- A lookup began. -/
  | started (id : LookupId) (guild : GuildId)
  /-- A lookup asked the store, which has not answered yet. -/
  | asked (id : LookupId) (guild : GuildId)
  /-- The store answered a lookup. -/
  | loaded (id : LookupId) (guild : GuildId) (answer : StoreAnswer)
  /-- A lookup ended. -/
  | answered (id : LookupId) (guild : GuildId) (result : Except StoreError GuildConfig)
  /-- A guild was taken out. -/
  | dropped (guild : GuildId)
  /-- All guilds were taken out. -/
  | droppedAll
  /-- So many entries were reaped. -/
  | reaped (n : Nat)

/-- The events so far with their times, the newest first. -/
abbrev History := List (Nat × CacheEvent)

namespace CacheEvent

/-- The lookup that an event is about. -/
def lookup? : CacheEvent → Option LookupId
  | started id _ => some id
  | asked id _ => some id
  | loaded id _ _ => some id
  | answered id _ _ => some id
  | _ => none

/-- The event ends the lookup, or its load. -/
def ends (id : LookupId) : CacheEvent → Bool
  | loaded i _ _ => i == id
  | answered i _ _ => i == id
  | _ => false

/-- The guild is taken out. -/
def drops (guild : GuildId) : CacheEvent → Bool
  | dropped g => g == guild
  | droppedAll => true
  | _ => false

/-- The event puts in a policy of the guild, or takes it out. -/
def replaces (guild : GuildId) : CacheEvent → Bool
  | loaded _ g (.ok _) => g == guild
  | e => e.drops guild

theorem lookup?_of_ends {id : LookupId} {e : CacheEvent} (h : e.ends id = true) :
    e.lookup? = some id := by
  cases e <;> simp_all [ends, lookup?]

theorem replaces_of_drops {guild : GuildId} {e : CacheEvent} (h : e.drops guild = true) :
    e.replaces guild = true := by
  cases e <;> simp_all [drops, replaces]

end CacheEvent

namespace History

/-- The lookup has begun and has not ended. -/
def UnderWay (h : History) (id : LookupId) (guild : GuildId) : Prop :=
  (∃ t, (t, .started id guild) ∈ h) ∧ ∀ t result, (t, .answered id guild result) ∉ h

/-- The lookup has asked the store, which has not answered. -/
def InFlight (h : History) (id : LookupId) (guild : GuildId) : Prop :=
  (∃ t, (t, .asked id guild) ∈ h) ∧ ∀ t answer, (t, .loaded id guild answer) ∉ h

/-- The last that the history says about what the cache has for a guild: a load put in what it
found, and nobody has taken it out since. -/
def LastLoad (h : History) (guild : GuildId) (source : LookupId) (finished : Nat)
    (document : Option GuildConfig) : Prop :=
  h.find? (·.2.replaces guild) = some (finished, .loaded source guild (.ok document))

/-- Events that do not speak of a guild leave its last load the last. -/
theorem LastLoad.append {h : History} {guild : GuildId} {source : LookupId} {finished : Nat}
    {document : Option GuildConfig} (hlast : h.LastLoad guild source finished document)
    {events : History} (hquiet : ∀ x ∈ events, x.2.replaces guild = false) :
    LastLoad (events ++ h) guild source finished document := by
  have hnone : events.find? (·.2.replaces guild) = none :=
    List.find?_eq_none.mpr fun x hx ↦ by simp [hquiet x hx]
  rw [LastLoad, List.find?_append, hnone, Option.none_or]
  exact hlast

/-- A lookup that begins leaves the last load the last. -/
theorem LastLoad.started {h : History} {guild : GuildId} {source : LookupId} {finished : Nat}
    {document : Option GuildConfig} (hlast : h.LastLoad guild source finished document)
    (t : Nat) (id : LookupId) (g : GuildId) :
    LastLoad ((t, .started id g) :: h) guild source finished document :=
  hlast

/-- A load that has just answered is the last of its guild. -/
theorem lastLoad_of_loaded (h : History) (guild : GuildId) (source : LookupId) (now : Nat)
    (document : Option GuildConfig) (result : Except StoreError GuildConfig) :
    LastLoad ((now, .answered source guild result) :: (now, .loaded source guild (.ok document)) :: h)
      guild source now document := by
  simp [LastLoad, CacheEvent.replaces, CacheEvent.drops]

theorem LastLoad.split {h : History} {guild : GuildId} {source : LookupId} {finished : Nat}
    {document : Option GuildConfig} (hlast : h.LastLoad guild source finished document) :
    ∃ newer older, h = newer ++ (finished, .loaded source guild (.ok document)) :: older ∧
      ∀ x ∈ newer, x.2.replaces guild = false := by
  obtain ⟨-, newer, older, heq, hnewer⟩ := List.find?_eq_some_iff_append.mp hlast
  exact ⟨newer, older, heq, fun x hx ↦ by simpa using hnewer x hx⟩

/-- What was loaded last before a guild was taken out is not what was loaded last afterwards. -/
theorem LastLoad.after_drop {h pre : History} {guild : GuildId} {source : LookupId}
    {finished t : Nat} {document : Option GuildConfig} {e : CacheEvent}
    (hlast : LastLoad (pre ++ (t, e) :: h) guild source finished document)
    (hdrop : e.drops guild = true) :
    ∃ newer older, pre = newer ++ (finished, .loaded source guild (.ok document)) :: older := by
  rw [LastLoad, List.find?_append] at hlast
  -- without a later word about the guild the last one would be that it was taken out
  cases hpre : pre.find? (·.2.replaces guild) with
  | none =>
    rw [hpre, Option.none_or, List.find?_cons, CacheEvent.replaces_of_drops hdrop,
      Option.some.injEq, Prod.mk.injEq] at hlast
    rw [hlast.2] at hdrop
    cases hdrop
  | some x =>
    rw [hpre, Option.some_or, Option.some.injEq] at hlast
    obtain ⟨-, newer, older, heq, -⟩ := List.find?_eq_some_iff_append.mp hpre
    exact ⟨newer, older, hlast ▸ heq⟩

/-- A lookup was given what the load of a lookup found, or the failure that it ended with. -/
def AnsweredBy (h : History) (source : LookupId) (finished : Nat) (guild : GuildId) :
    Except StoreError GuildConfig → Prop
  | .ok config =>
    ∃ document, h.LastLoad guild source finished document ∧ config = .served guild document
  | .error e => h.head? = some (finished, .loaded source guild (.error e))

/-- What an event at the head of a later history saw first came after the events it did not see. -/
theorem suffix_of_append_eq {h new later earlier : History} {x : Nat × CacheEvent}
    (heq : new ++ h = later ++ x :: earlier) (hx : x ∉ h) : h <:+ earlier := by
  -- `x` stands in one of the two parts of the longer history, and `hx` rules out the older one
  rcases List.append_eq_append_iff.mp heq with ⟨rest, -, rfl⟩ | ⟨rest, -, hrest⟩
  · exact absurd (List.mem_append_right _ List.mem_cons_self) hx
  · cases rest with
    | nil =>
      rw [List.nil_append] at hrest
      exact absurd (hrest ▸ List.mem_cons_self) hx
    | cons y rest => exact ⟨rest, (List.cons.inj hrest).2.symm⟩

/-- Every event has the property in the light of the events before it. -/
def Holds (P : Nat × CacheEvent → History → Prop) : History → Prop
  | [] => True
  | x :: past => P x past ∧ Holds P past

theorem Holds.append {P : Nat × CacheEvent → History → Prop} {later past : History}
    (h : Holds P (later ++ past)) : Holds P past := by
  induction later with
  | nil => exact h
  | cons x later ih => exact ih h.2

/-- Wherever an event stands, it has the property. -/
theorem Holds.at {P : Nat × CacheEvent → History → Prop} {later past : History}
    {x : Nat × CacheEvent} (h : Holds P (later ++ x :: past)) : P x past :=
  h.append.1

end History

end GuildModeration
