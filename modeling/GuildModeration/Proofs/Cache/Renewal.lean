import GuildModeration.Proofs.Cache.Staleness
import GuildModeration.Proofs.Cache.Views

/-!
# One load per lifetime

An entry of the cache is served from the moment when it is put in until the moment when it expires.
As long as nobody takes it out, no lookup of its guild asks the store in the meantime: one that
begins is answered at once, and one that had missed before and waited for its lock looks again
before it asks. Reaping takes out what is no longer served, and so not this entry.

`CacheRun.Lasting` is what a load of a guild that has succeeded leaves behind, and it lasts over
everything that can happen before the entry expires, other than that somebody takes it out.
-/

namespace GuildModeration

namespace ConfigCache

/-- An entry that was asked for stays, and so do the others. -/
theorem find?_touch_isSome (c : ConfigCache) (now : Nat) (guild other : GuildId) :
    ((c.touch now guild).entries.find? other).isSome = (c.entries.find? other).isSome := by
  rw [touch]
  split
  · next e h =>
    rw [Table.find?_insert]
    split
    · next hg => rw [← hg, h, Option.isSome_some, Option.isSome_some]
    · rfl
  · rfl

/-- Reaping leaves what is still served. -/
theorem find?_reap_of_lt {c : ConfigCache} {now : Nat} {guild : GuildId} {e : CacheEntry}
    (h : c.entries.find? guild = some e) (hlt : now < e.expiresAt) :
    (c.reap now).2.entries.find? guild = some e := by
  rw [reap, Table.find?_filter, h, Option.filter_some, if_pos (decide_eq_true hlt)]

end ConfigCache

namespace History

theorem asks_append (newer h : History) (guild : GuildId) :
    asks (newer ++ h) guild = asks newer guild ++ asks h guild := by
  rw [asks, eventsOf, List.map_append, List.filter_append, List.filterMap_append]
  rfl

theorem mem_asks {h : History} {guild : GuildId} {time : Nat} {id : LookupId}
    (hmem : (time, .asked id guild) ∈ h) : id ∈ h.asks guild := by
  refine List.mem_filterMap.mpr ⟨.asked id guild, List.mem_filter.mpr ⟨?_, ?_⟩, rfl⟩
  · exact List.mem_map.mpr ⟨_, hmem, rfl⟩
  · exact beq_self_eq_true _

end History

namespace CacheRun

open SharedCache (isLoadOf)

variable {r r' : CacheRun} {guild : GuildId} {config : GuildConfig} {moment : Nat}

/-- A guild has an entry, which may have expired. -/
def has (r : CacheRun) (guild : GuildId) : Bool :=
  (r.shared.cache.entries.find? guild).isSome

/-- The action takes out the entry of a guild: somebody invalidates it, or room is made for the
entry of another guild. -/
def takesOut (r : CacheRun) (guild : GuildId) : CacheAction → Bool
  | .invalidate g => g == guild
  | .invalidateAll => true
  | .finish id answer => r.has guild && !(r.step (.finish id answer)).has guild
  | _ => false

/-- Before a moment no action takes out the entry of a guild. -/
def keepsUntil (guild : GuildId) (moment : Nat) : CacheRun → List CacheAction → Bool
  | _, [] => true
  | r, a :: actions =>
    (decide (moment ≤ r.now) || !r.takesOut guild a) && keepsUntil guild moment (r.step a) actions

/-- A load of a guild has left behind a policy that expires at a moment, and no other load is under
way. -/
structure Lasting (guild : GuildId) (config : GuildConfig) (moment : Nat) (r : CacheRun) :
    Prop where
  entry : ∃ e, r.shared.cache.entries.find? guild = some e ∧ e.config = config ∧
    e.expiresAt = moment
  unasked : r.shared.idsWhere (isLoadOf guild) = []

/-! ## What an action does to the entry -/

theorem has_resume (h : r.has guild = true) (id : LookupId) :
    (r.step (.resume id)).has guild = true := by
  rw [step]
  split
  · next l _ =>
    cases hfresh : r.shared.cache.fresh? r.now l.guild with
    | some config =>
      rw [SharedCache.resume_of_fresh hfresh]
      dsimp only
      rw [has, record, SharedCache.release_cache, SharedCache.withCache_cache,
        ConfigCache.find?_touch_isSome]
      exact h
    | none =>
      rw [SharedCache.resume_of_not_fresh hfresh]
      exact h
  · exact h

/-- An entry that is still served stays unless it is taken out. -/
theorem Lasting.has_step (h : Lasting guild config moment r) (hlt : r.now < moment)
    {a : CacheAction} (hkept : r.takesOut guild a = false) : (r.step a).has guild = true := by
  obtain ⟨e, hfind, -, hexpires⟩ := h.entry
  have hhas : r.has guild = true := by rw [has, hfind, Option.isSome_some]
  cases a with
  | wait ms => exact hhas
  | start g =>
    cases hfresh : r.shared.cache.fresh? r.now g with
    | some config =>
      rw [step_start_of_fresh hfresh, has, record, ConfigCache.find?_touch_isSome]
      exact hhas
    | none =>
      rw [step_start_of_not_fresh hfresh, has, record, SharedCache.enqueue,
        SharedCache.lockFor_cache]
      exact hhas
  | resume id => exact has_resume hhas id
  | finish id answer =>
    rw [takesOut, hhas, Bool.true_and, Bool.not_eq_false'] at hkept
    exact hkept
  | invalidate g =>
    have hne : g ≠ guild := beq_eq_false_iff_ne.mp hkept
    rw [has, step, record, SharedCache.invalidate, ConfigCache.invalidate, Table.find?_erase,
      if_neg hne]
    exact hhas
  | invalidateAll => cases hkept
  | reap =>
    have hserved := ConfigCache.find?_reap_of_lt hfind (hexpires ▸ hlt)
    rw [has, step]
    exact Option.isSome_iff_exists.mpr ⟨e, hserved⟩

/-! ## What a load leaves behind -/

theorem Lasting.fresh? (h : Lasting guild config moment r) (hlt : r.now < moment) :
    r.shared.cache.fresh? r.now guild = some config := by
  obtain ⟨e, hfind, hconfig, hexpires⟩ := h.entry
  exact ConfigCache.fresh?_eq_some_iff.mpr ⟨e, hfind, hexpires ▸ hlt, hconfig⟩

/-- What a load has left behind lasts until it expires, unless it is taken out, and nobody asks the
store again. -/
theorem Lasting.step (h : Lasting guild config moment r) (ho : r.shared.Orderly)
    (hlt : r.now < moment) {a : CacheAction} (hkept : r.takesOut guild a = false) :
    Lasting guild config moment (r.step a) ∧
      (r.step a).history.asks guild = r.history.asks guild := by
  have hentry : Inherits guild r (r.step a) → ∃ e,
      (r.step a).shared.cache.entries.find? guild = some e ∧ e.config = config ∧
        e.expiresAt = moment := by
    intro hinherits
    obtain ⟨e, hfind⟩ := Option.isSome_iff_exists.mp (h.has_step hlt hkept)
    obtain ⟨old, hold, hconfig, hexpires⟩ := hinherits.entry e hfind
    obtain ⟨e', hfind', hconfig', hexpires'⟩ := h.entry
    obtain rfl : old = e' := Option.some.inj (hold.symm.trans hfind')
    exact ⟨e, hfind, hconfig.trans hconfig', hexpires.trans hexpires'⟩
  have hfresh := h.fresh? hlt
  have hunasked := h.unasked
  cases (move_step r a).seen ho guild with
  | nothing events _ loads inherits =>
    rw [hunasked] at loads
    exact ⟨⟨hentry inherits, loads.eq_nil⟩, by rw [History.asks, events, History.asks]⟩
  | hit id _ events _ loads inherits =>
    rw [hunasked] at loads
    exact ⟨⟨hentry inherits, loads.eq_nil⟩, by rw [History.asks, events]; rfl⟩
  | lateHit id _ events _ loads inherits =>
    rw [hunasked] at loads
    exact ⟨⟨hentry inherits, loads.eq_nil⟩, by rw [History.asks, events]; rfl⟩
  | miss id missing =>
    rw [hfresh] at missing
    cases missing
  | ask id missing =>
    rw [hfresh] at missing
    cases missing
  | load id _ _ _ loads =>
    rw [hunasked] at loads
    exact absurd loads.symm.eq_nil (List.cons_ne_nil _ _)
  | fail id _ _ _ loads =>
    rw [hunasked] at loads
    exact absurd loads.symm.eq_nil (List.cons_ne_nil _ _)

/-- A load that succeeds leaves behind what it has found. -/
theorem lasting_of_load (ho : r.shared.Orderly) {l : Lookup} (hl : l ∈ r.shared.lookups)
    (hphase : l.phase = .loading) (document : Option GuildConfig) :
    Lasting l.guild (.served l.guild document) (r.now + r.shared.cache.ttl)
      (r.step (.finish l.id (.ok document))) := by
  rw [step_finish ho.ids_nodup hl hphase]
  refine ⟨⟨⟨.served l.guild document, r.now + r.shared.cache.ttl, r.now⟩, ?_, rfl, rfl⟩,
    eq_nil_of_perm_loads ho (perm_end_load ho hl hphase _)⟩
  rw [record, SharedCache.finish_snd, SharedCache.release_cache, SharedCache.withCache_cache]
  exact ConfigCache.find?_insert_self _ _ _ _

/-! ## Until it expires -/

/-- What an action adds to the history is seen at its moment, and the clock does not go back. -/
theorem Move.later (m : r.Move r') :
    r.now ≤ r'.now ∧
      ∃ events : List CacheEvent, r'.history = events.map (r.now, ·) ++ r.history := by
  cases m
  case stay => exact ⟨Nat.le_refl _, [], rfl⟩
  case wait ms => exact ⟨Nat.le_add_right _ _, [], rfl⟩
  all_goals exact ⟨Nat.le_refl _, _, rfl⟩

/-- An action asks the store for the guild only once the entry has expired. -/
theorem asked_of_step (ho : r.shared.Orderly) (h : r.now < moment → Lasting guild config moment r)
    {a : CacheAction} (hkept : moment ≤ r.now ∨ r.takesOut guild a = false) :
    (∃ newer : History, (r.step a).history = newer ++ r.history ∧
      ∀ time id, (time, .asked id guild) ∈ newer → moment ≤ time) ∧
    ((r.step a).now < moment → Lasting guild config moment (r.step a)) := by
  obtain ⟨hle, events, hevents⟩ := (move_step r a).later
  have hnow : ∀ time id, (time, CacheEvent.asked id guild) ∈ events.map (r.now, ·) →
      time = r.now := by
    intro time id hmem
    obtain ⟨event, -, heq⟩ := List.mem_map.mp hmem
    exact (Prod.mk.inj heq).1.symm
  rcases Nat.lt_or_ge r.now moment with hlt | hge
  · obtain ⟨hlasting, hasks⟩ := (h hlt).step ho hlt (hkept.resolve_left (Nat.not_le_of_lt hlt))
    refine ⟨⟨_, hevents, fun time id hmem ↦ ?_⟩, fun _ ↦ hlasting⟩
    rw [hevents, History.asks_append, List.append_left_eq_self] at hasks
    have hasked := History.mem_asks hmem
    rw [hasks] at hasked
    cases hasked
  · refine ⟨⟨_, hevents, fun time id hmem ↦ ?_⟩, fun hlt ↦ ?_⟩
    · rw [hnow time id hmem]
      exact hge
    · exact absurd (Nat.lt_of_le_of_lt hle hlt) (Nat.not_lt_of_le hge)

/-- Nothing that happens asks the store for the guild before the entry has expired. -/
theorem asked_of_run (ho : r.shared.Orderly) (h : r.now < moment → Lasting guild config moment r)
    {actions : List CacheAction} (hkept : keepsUntil guild moment r actions = true) :
    (∃ newer : History, (r.run actions).history = newer ++ r.history ∧
      ∀ time id, (time, .asked id guild) ∈ newer → moment ≤ time) ∧
    ((r.run actions).now < moment → Lasting guild config moment (r.run actions)) := by
  induction actions generalizing r with
  | nil => exact ⟨⟨[], rfl, fun _ _ hmem ↦ absurd hmem List.not_mem_nil⟩, h⟩
  | cons a actions ih =>
    obtain ⟨hfirst, hrest⟩ := Bool.and_eq_true_iff.mp hkept
    rw [Bool.or_eq_true, decide_eq_true_iff, Bool.not_eq_true'] at hfirst
    obtain ⟨⟨first, hfirst, hasked⟩, hlasting⟩ := asked_of_step ho h hfirst
    obtain ⟨⟨rest, hrest, hasked'⟩, hlasting'⟩ := ih ((move_step r a).orderly ho) hlasting hrest
    refine ⟨⟨rest ++ first, ?_, fun time id hmem ↦ ?_⟩, hlasting'⟩
    · rw [List.append_assoc, ← hfirst, ← hrest]
      rfl
    · exact (List.mem_append.mp hmem).elim (hasked' time id) (hasked time id)

/-- The load of a lookup succeeds and what it has found is put in. Unless that is taken out before
it expires, the store is not asked for the guild again until then, whoever looks it up or had missed
before, and what was found is served. -/
theorem asked_after_load (ttl limit now : Nat) (before after : List CacheAction) (l : Lookup)
    (document : Option GuildConfig) (r loaded : CacheRun)
    (hr : r = (new ttl limit now).run before) (hl : l ∈ r.shared.lookups)
    (hphase : l.phase = .loading) (hloaded : loaded = r.step (.finish l.id (.ok document)))
    (hkept : keepsUntil l.guild (r.now + ttl) loaded after = true) :
    (∃ newer : History, (loaded.run after).history = newer ++ loaded.history ∧
      ∀ time id, (time, .asked id l.guild) ∈ newer → r.now + ttl ≤ time) ∧
    ((loaded.run after).now < r.now + ttl →
      (loaded.run after).shared.cache.fresh? (loaded.run after).now l.guild =
        some (.served l.guild document)) := by
  subst hr hloaded
  have ho := orderly_run (orderly_new ttl limit now) before
  have hlasting := lasting_of_load ho hl hphase document
  rw [(backed_run (backed_new ttl limit now) before).ttl_eq] at hlasting
  obtain ⟨hasked, hlasts⟩ := asked_of_run ((move_step _ _).orderly ho) (fun _ ↦ hlasting) hkept
  exact ⟨hasked, fun hlt ↦ (hlasts hlt).fresh? hlt⟩

/-- Two lookups, the first of which has asked the store while the second waits for its lock. -/
def oneAsking : List CacheAction :=
  [.start 1, .start 1, .wait 5, .resume 0]

/-- What comes after the load: the second goes on, others come, and the cache is reaped when the
entry has half a second left, and once more when it has a millisecond left. -/
def almostExpired : List CacheAction :=
  [.resume 1, .wait 500, .reap, .start 1, .start 2, .resume 3, .finish 3 (.ok none), .wait 499,
    .reap, .start 1]

/-- A millisecond before it expires what was loaded is still served, and nobody has asked for it
again. -/
theorem asked_after_load_of_one :
    let r := (new 1000 2 0).run oneAsking
    let loaded := r.step (.finish 0 (.ok none))
    keepsUntil 1 (r.now + 1000) loaded almostExpired = true ∧
      (loaded.run almostExpired).shared.cache.fresh? (loaded.run almostExpired).now 1 =
        some (.served 1 none) := by
  intro r loaded
  have hmem : (⟨0, 1, 0, .loading⟩ : Lookup) ∈ r.shared.lookups := by decide +kernel
  have hkept : keepsUntil 1 (r.now + 1000) loaded almostExpired = true := by decide +kernel
  have hlt : (loaded.run almostExpired).now < r.now + 1000 := by decide +kernel
  exact ⟨hkept, (asked_after_load 1000 2 0 oneAsking almostExpired ⟨0, 1, 0, .loading⟩ none r loaded
    rfl hmem rfl rfl hkept).2 hlt⟩

end CacheRun

end GuildModeration
