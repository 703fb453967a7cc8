import GuildModeration.Proofs.Cache.Views
import Mathlib.Data.List.Induction
import Mathlib.Data.List.Infix

/-!
# Many lookups of a guild at once

Lookups of a guild that is not in the cache, all of which begin before any load of it has ended, are
meant to share one load. They do if it succeeds: whoever goes on afterwards finds what it has left
behind. A load that fails leaves nothing behind, so the next in the queue asks the store again, and
the one after it, until a load succeeds or everybody has been given a failure of its own. With more
than one lookup it is thus the first load that decides.

A burst is in one of two states. As long as no load has succeeded, every lookup that has ended was
given what its own load came to, `Trying`. After a load has succeeded no other is made, and all that
were still under way are given what it has found, `Served`.
-/

namespace GuildModeration

open List (Perm)

/-- What a lookup is given if its load ends with an answer. -/
def GuildConfig.resultOf (guild : GuildId) (answer : StoreAnswer) : Except StoreError GuildConfig :=
  answer.map (served guild)

namespace History

/-- The lookups of a guild that began share one load: the store was asked once, and each of them was
given, once, what the store answered. -/
def Coalesced (h : History) (guild : GuildId) : Prop :=
  ∃ source answer, h.asks guild = [source] ∧ h.loads guild = [(source, answer)] ∧
    (h.answers guild).Perm ((h.begun guild).map fun id ↦ (id, GuildConfig.resultOf guild answer))

/-- No lookup begins after a load has ended. The events are those about one guild. -/
def beginTogether : List CacheEvent → Bool
  | [] => true
  | e :: past =>
    (e.begun?.isNone || (past.filterMap CacheEvent.loaded?).isEmpty) && beginTogether past

theorem beginTogether_of_append {later past : List CacheEvent}
    (h : beginTogether (later ++ past) = true) : beginTogether past = true := by
  induction later with
  | nil => exact h
  | cons e later ih => exact ih (Bool.and_eq_true_iff.mp h).2

theorem loaded_eq_nil_of_started {guild : GuildId} {id : LookupId} {past : List CacheEvent}
    (htogether : beginTogether (.started id guild :: past) = true) :
    past.filterMap CacheEvent.loaded? = [] := by
  have hempty := (Bool.and_eq_true_iff.mp htogether).1
  simpa [CacheEvent.begun?] using hempty

end History

namespace CacheRun

open SharedCache (isOf isLoadOf)

/-- The run as it goes on from here, with nothing seen yet. -/
def forget (r : CacheRun) : CacheRun :=
  { r with history := [] }

/-- What a load of a guild has found is still served. -/
def Keeps (guild : GuildId) (r : CacheRun) : Prop :=
  (∃ x ∈ r.history.loads guild, x.2.isOk = true) → r.shared.cache.contains r.now guild = true

/-- Lookups of a guild that nobody looked up, and that is not served, begin before any load of it
has ended; and what a load finds stays in the cache as long as this goes on. -/
structure Burst (guild : GuildId) (r : CacheRun) (actions : List CacheAction) : Prop where
  idle : ∀ l ∈ r.shared.lookups, l.guild ≠ guild
  missing : r.shared.cache.fresh? r.now guild = none
  unseen : r.history = []
  together : History.beginTogether ((r.run actions).history.eventsOf guild) = true
  kept : ∀ first, first <+: actions → (r.run first).Keeps guild

instance (guild : GuildId) (r : CacheRun) : Decidable (r.Keeps guild) :=
  inferInstanceAs (Decidable (_ → _))

instance (guild : GuildId) (r : CacheRun) (actions : List CacheAction) :
    Decidable (Burst guild r actions) :=
  decidable_of_iff ((∀ l ∈ r.shared.lookups, l.guild ≠ guild) ∧
      (r.shared.cache.fresh? r.now guild).isNone = true ∧ r.history.isEmpty = true ∧
      History.beginTogether ((r.run actions).history.eventsOf guild) = true ∧
      ∀ first ∈ actions.inits, (r.run first).Keeps guild)
    ⟨fun ⟨idle, missing, unseen, together, kept⟩ ↦
      { idle, missing := Option.isNone_iff_eq_none.mp missing, unseen := List.isEmpty_iff.mp unseen
        together, kept := fun first h ↦ kept first ((List.mem_inits first actions).mpr h) },
    fun h ↦ ⟨h.idle, Option.isNone_iff_eq_none.mpr h.missing, List.isEmpty_iff.mpr h.unseen,
      h.together, fun first hfirst ↦ h.kept first ((List.mem_inits first actions).mp hfirst)⟩⟩

/-- No load of a guild has succeeded, and every lookup that has ended was given a failure of its
own. -/
structure Trying (guild : GuildId) (r : CacheRun) : Prop where
  failed : ∀ x ∈ r.history.loads guild, x.2.isOk = false
  answers : r.history.answers guild =
    (r.history.loads guild).map fun x ↦ (x.1, GuildConfig.resultOf guild x.2)
  stale : ∀ e, r.shared.cache.entries.find? guild = some e → e.expiresAt ≤ r.now

/-- The last load of a guild has succeeded, after some that failed; no load is in flight, and
whoever has ended since then was given what it has found. -/
structure Served (guild : GuildId) (r : CacheRun) (source : LookupId)
    (document : Option GuildConfig) (failures : List (LookupId × StoreAnswer))
    (late : List LookupId) : Prop where
  loads : r.history.loads guild = (source, .ok document) :: failures
  failed : ∀ x ∈ failures, x.2.isOk = false
  answers : r.history.answers guild =
    (late.map fun id ↦ (id, .ok (.served guild document))) ++
      (r.history.loads guild).map fun x ↦ (x.1, GuildConfig.resultOf guild x.2)
  entry : ∀ e, r.shared.cache.entries.find? guild = some e → e.config = .served guild document
  unasked : r.shared.idsWhere (isLoadOf guild) = []

variable {guild : GuildId} {r r' : CacheRun}

/-! ## One move of a burst -/

/-- As long as no load has succeeded nothing is served. -/
theorem Trying.fresh?_eq_none (h : Trying guild r) : r.shared.cache.fresh? r.now guild = none := by
  rw [Option.eq_none_iff_forall_ne_some]
  intro config hfresh
  obtain ⟨e, hfind, hlt, -⟩ := ConfigCache.fresh?_eq_some_iff.mp hfresh
  exact absurd (h.stale e hfind) (Nat.not_le_of_lt hlt)

/-- An entry that has expired stays so. -/
theorem Inherits.stale (hinherits : Inherits guild r r')
    (h : ∀ e, r.shared.cache.entries.find? guild = some e → e.expiresAt ≤ r.now) :
    ∀ e, r'.shared.cache.entries.find? guild = some e → e.expiresAt ≤ r'.now := by
  intro e hfind
  obtain ⟨old, hold, -, hexpires⟩ := hinherits.entry e hfind
  rw [hexpires]
  exact Nat.le_trans (h old hold) hinherits.now_le

/-- Events that tell of no load and no answer leave a burst as it is. -/
theorem Trying.of_quiet (h : Trying guild r)
    (hloads : r'.history.loads guild = r.history.loads guild)
    (hanswers : r'.history.answers guild = r.history.answers guild)
    (hinherits : Inherits guild r r') : Trying guild r' where
  failed := by
    rw [hloads]
    exact h.failed
  answers := by
    rw [hloads, hanswers]
    exact h.answers
  stale := hinherits.stale h.stale

/-- As long as no load has succeeded, the only things that can happen in a burst are that lookups
begin, ask the store, and are given failures; or a load succeeds. -/
theorem Trying.step (h : Trying guild r) (ho : r.shared.Orderly) (seen : Seen guild r r') :
    Trying guild r' ∨ ∃ source document failures, Served guild r' source document failures [] := by
  cases seen with
  | nothing events _ _ inherits =>
    exact Or.inl (h.of_quiet (History.loads_of_later [] events)
      (History.answers_of_later [] events) inherits)
  | hit _ fresh =>
    rw [h.fresh?_eq_none] at fresh
    cases fresh
  | miss id _ events _ _ inherits =>
    exact Or.inl (h.of_quiet (History.loads_of_later [_] events)
      (History.answers_of_later [_] events) inherits)
  | lateHit _ fresh =>
    rw [h.fresh?_eq_none] at fresh
    cases fresh
  | ask id _ events _ _ inherits =>
    exact Or.inl (h.of_quiet (History.loads_of_later [_] events)
      (History.answers_of_later [_] events) inherits)
  | load id document events _ loads entry =>
    have hloads : r'.history.loads guild = (id, .ok document) :: r.history.loads guild :=
      History.loads_of_later [_, _] events
    have hanswers : r'.history.answers guild =
        (id, .ok (.served guild document)) :: r.history.answers guild :=
      History.answers_of_later [_, _] events
    -- the load that has ended was the only one in flight
    have hunasked : r'.shared.idsWhere (isLoadOf guild) = [] := eq_nil_of_perm_loads ho loads
    refine Or.inr ⟨id, document, r.history.loads guild, hloads, h.failed, ?_, entry, hunasked⟩
    rw [hloads, hanswers, h.answers]
    rfl
  | fail id e events _ _ inherits =>
    have hloads : r'.history.loads guild = (id, .error e) :: r.history.loads guild :=
      History.loads_of_later [_, _] events
    have hanswers : r'.history.answers guild = (id, .error e) :: r.history.answers guild :=
      History.answers_of_later [_, _] events
    refine Or.inl ⟨?_, ?_, inherits.stale h.stale⟩
    · rw [hloads]
      exact List.forall_mem_cons.mpr ⟨rfl, h.failed⟩
    · rw [hloads, hanswers, h.answers]
      rfl

variable {source : LookupId} {document : Option GuildConfig}
  {failures : List (LookupId × StoreAnswer)} {late : List LookupId}

theorem Served.of_inherits (h : Served guild r source document failures late)
    (hinherits : Inherits guild r r') :
    ∀ e, r'.shared.cache.entries.find? guild = some e → e.config = .served guild document := by
  intro e hfind
  obtain ⟨old, hold, hconfig, -⟩ := hinherits.entry e hfind
  rw [hconfig]
  exact h.entry old hold

/-- Nobody begins once a load has ended. -/
theorem Served.not_started (h : Served guild r source document failures late) {id : LookupId}
    (htogether : History.beginTogether (.started id guild :: r.history.eventsOf guild) = true) :
    False := by
  have hnone : r.history.loads guild = [] := History.loaded_eq_nil_of_started htogether
  rw [h.loads] at hnone
  cases hnone

/-- What is served is what the load has found. -/
theorem Served.config_eq (h : Served guild r source document failures late) {config : GuildConfig}
    (hfresh : r.shared.cache.fresh? r.now guild = some config) :
    config = .served guild document := by
  obtain ⟨e, hfind, -, rfl⟩ := ConfigCache.fresh?_eq_some_iff.mp hfresh
  exact h.entry e hfind

/-- After a load has succeeded, the only thing that can happen in a burst is that one more lookup is
given what it has found. -/
theorem Served.step (h : Served guild r source document failures late) (seen : Seen guild r r')
    (htogether : History.beginTogether (r'.history.eventsOf guild) = true) (hkept : r.Keeps guild) :
    ∃ late, Served guild r' source document failures late := by
  cases seen with
  | nothing events _ loads inherits =>
    have hloads : r'.history.loads guild = r.history.loads guild :=
      History.loads_of_later [] events
    have hanswers : r'.history.answers guild = r.history.answers guild :=
      History.answers_of_later [] events
    refine ⟨late, ?_, h.failed, ?_, h.of_inherits inherits, ?_⟩
    · rw [hloads, h.loads]
    · rw [hloads, hanswers, h.answers]
    · rw [h.unasked] at loads
      exact loads.eq_nil
  | hit id _ events =>
    rw [events] at htogether
    exact absurd (Bool.and_eq_true_iff.mp htogether).2 h.not_started
  | miss id _ events =>
    rw [events] at htogether
    exact absurd htogether h.not_started
  | @lateHit id config fresh events _ loads inherits =>
    have hloads : r'.history.loads guild = r.history.loads guild :=
      History.loads_of_later [_] events
    have hanswers : r'.history.answers guild = (id, .ok config) :: r.history.answers guild :=
      History.answers_of_later [_] events
    refine ⟨id :: late, ?_, h.failed, ?_, h.of_inherits inherits, ?_⟩
    · rw [hloads, h.loads]
    · rw [hloads, hanswers, h.answers, h.config_eq fresh]
      rfl
    · rw [h.unasked] at loads
      exact loads.eq_nil
  | ask _ missing =>
    -- what has been loaded is still there
    have hcontains := hkept ⟨_, h.loads ▸ List.mem_cons_self, rfl⟩
    rw [ConfigCache.contains, missing] at hcontains
    cases hcontains
  | load id _ _ _ loads =>
    rw [h.unasked] at loads
    exact absurd loads.symm.eq_nil (List.cons_ne_nil _ _)
  | fail id _ _ _ loads =>
    rw [h.unasked] at loads
    exact absurd loads.symm.eq_nil (List.cons_ne_nil _ _)

/-! ## A burst as a whole -/

variable {actions more : List CacheAction}

/-- What has happened of a burst so far is a burst. -/
theorem Burst.of_append (h : Burst guild r (actions ++ more)) : Burst guild r actions where
  idle := h.idle
  missing := h.missing
  unseen := h.unseen
  together := by
    have htogether := h.together
    obtain ⟨new, hnew⟩ := suffix_run (r.run actions) more
    rw [run_append, ← hnew, History.eventsOf, List.map_append, List.filter_append] at htogether
    exact History.beginTogether_of_append htogether
  kept first hfirst := h.kept first (hfirst.trans (List.prefix_append _ _))

/-- A burst begins with nothing seen of the guild, and with an entry that has expired if there is
one. -/
theorem Burst.trying (h : Burst guild r []) : Trying guild r where
  failed := by simp [History.loads, History.eventsOf, h.unseen]
  answers := by simp [History.loads, History.answers, History.eventsOf, h.unseen]
  stale e hfind := by
    by_contra hlt
    have hfresh := ConfigCache.fresh?_eq_some_iff.mpr ⟨e, hfind, Nat.lt_of_not_le hlt, rfl⟩
    rw [h.missing] at hfresh
    cases hfresh

theorem Burst.accounts (h : Burst guild r []) : Accounts guild r := by
  obtain ⟨hunder, hloads⟩ := SharedCache.idsWhere_eq_nil h.idle
  constructor
  · rw [hunder]
    simp [History.begun, History.answers, History.eventsOf, h.unseen]
  · rw [hloads]
    simp [History.asks, History.loads, History.eventsOf, h.unseen]

/-- A burst is trying until a load succeeds, and from then on it is served. -/
theorem Burst.cases (ho : r.shared.Orderly) (h : Burst guild r actions) :
    Accounts guild (r.run actions) ∧ (Trying guild (r.run actions) ∨
      ∃ source document failures late,
        Served guild (r.run actions) source document failures late) := by
  induction actions using List.reverseRecOn with
  | nil => exact ⟨h.accounts, Or.inl h.trying⟩
  | append_singleton actions a ih =>
    obtain ⟨haccounts, hphase⟩ := ih h.of_append
    have htogether := h.together
    rw [run_append] at htogether ⊢
    have hkept := h.kept actions (List.prefix_append _ _)
    have seen := (move_step (r.run actions) a).seen (orderly_run ho actions) guild
    refine ⟨seen.accounts haccounts, ?_⟩
    rcases hphase with htrying | ⟨source, document, failures, late, hserved⟩
    · rcases htrying.step (orderly_run ho actions) seen with h | ⟨source, document, failures, h⟩
      · exact Or.inl h
      · exact Or.inr ⟨source, document, failures, [], h⟩
    · obtain ⟨late, h⟩ := hserved.step seen htogether hkept
      exact Or.inr ⟨source, document, failures, late, h⟩

/-! ## Nobody is stuck -/

/-- A lookup that goes on, or one whose load ends as `respond` says. -/
def GoesOn (respond : LookupId → StoreAnswer) (a : CacheAction) : Prop :=
  ∃ id, a = .resume id ∨ a = .finish id (respond id)

variable {respond : LookupId → StoreAnswer}

/-- A lookup that waits for the store is at its end when the store answers. -/
theorem perm_of_finish (ho : r.shared.Orderly) {l : Lookup} (hl : l ∈ r.shared.lookups)
    (hphase : l.phase = .loading) (answer : StoreAnswer) :
    (r.shared.idsWhere (isOf l.guild)).Perm
      (l.id :: (r.step (.finish l.id answer)).shared.idsWhere (isOf l.guild)) := by
  rw [step_finish ho.ids_nodup hl hphase answer]
  exact perm_end ho hl _

/-- A lookup that holds its lock is at its end after at most two actions. -/
theorem exists_end (ho : r.shared.Orderly) {l : Lookup} (hl : l ∈ r.shared.lookups)
    (hphase : l.phase ≠ .waiting) (respond : LookupId → StoreAnswer) :
    ∃ actions, (∀ a ∈ actions, GoesOn respond a) ∧
      (r.shared.idsWhere (isOf l.guild)).Perm
        (l.id :: (r.run actions).shared.idsWhere (isOf l.guild)) := by
  cases hcase : l.phase with
  | waiting => exact absurd hcase hphase
  | loading =>
    refine ⟨[.finish l.id (respond l.id)], ?_, perm_of_finish ho hl hcase _⟩
    exact List.forall_mem_singleton.mpr ⟨l.id, Or.inr rfl⟩
  | granted =>
    cases hfresh : r.shared.cache.fresh? r.now l.guild with
    | some config =>
      refine ⟨[.resume l.id], List.forall_mem_singleton.mpr ⟨l.id, Or.inl rfl⟩, ?_⟩
      rw [run, List.foldl_cons, List.foldl_nil, step_resume_of_fresh ho.ids_nodup hl hcase hfresh]
      exact perm_end ho hl _
    | none =>
      -- the lookup asks the store first
      have hstep := step_resume_of_not_fresh ho.ids_nodup hl hcase hfresh
      have ho' : (r.step (.resume l.id)).shared.Orderly := (move_resume r l.id).orderly ho
      have hl' : { l with phase := .loading } ∈ (r.step (.resume l.id)).shared.lookups := by
        rw [hstep]
        exact (SharedCache.mem_setPhase_iff ho.ids_nodup hl).mpr (Or.inl rfl)
      have hsame : (r.step (.resume l.id)).shared.idsWhere (isOf l.guild) =
          r.shared.idsWhere (isOf l.guild) := by
        rw [hstep]
        exact SharedCache.idsWhere_setPhase fun _ _ _ ↦ rfl
      refine ⟨[.resume l.id, .finish l.id (respond l.id)], ?_, ?_⟩
      · exact List.forall_mem_cons.mpr ⟨⟨l.id, Or.inl rfl⟩,
          List.forall_mem_singleton.mpr ⟨l.id, Or.inr rfl⟩⟩
      · rw [← hsame]
        exact perm_of_finish ho' hl' rfl (respond l.id)

/-- However the store answers, all lookups of a guild that are under way can be brought to their
ends, one after the other. -/
theorem exists_run_ended (ho : r.shared.Orderly) (guild : GuildId)
    (respond : LookupId → StoreAnswer) :
    ∃ actions, (∀ a ∈ actions, GoesOn respond a) ∧
      ∀ l ∈ (r.run actions).shared.lookups, l.guild ≠ guild := by
  -- by the number of lookups under way, of which the holder of the lock is the next to end
  induction hn : (r.shared.idsWhere (isOf guild)).length generalizing r with
  | zero =>
    refine ⟨[], by simp, fun l hl hguild ↦ ?_⟩
    rw [SharedCache.idsWhere, List.length_map, List.length_eq_zero_iff,
      List.filter_eq_nil_iff] at hn
    exact hn l hl (beq_iff_eq.mpr hguild)
  | succ n ih =>
    have hsome : 0 < ((r.shared.lookups.filter (isOf guild)).map (·.id)).length := by
      rw [← SharedCache.idsWhere, hn]
      exact Nat.succ_pos n
    rw [List.length_map, List.length_pos_iff_exists_mem] at hsome
    obtain ⟨l, hl⟩ := hsome
    obtain ⟨hmem, hof⟩ := List.mem_filter.mp hl
    obtain ⟨holder, hholder, hlock, hphase⟩ := ho.holder_exists l hmem
    obtain rfl : l.guild = guild := beq_iff_eq.mp hof
    obtain ⟨first, hfirst, hperm⟩ := exists_end ho hholder hphase respond
    rw [ho.guild_eq hholder hmem hlock] at hperm
    have hless : ((r.run first).shared.idsWhere (isOf l.guild)).length = n := by
      have hlength := hperm.length_eq
      rw [hn, List.length_cons] at hlength
      omega
    obtain ⟨rest, hrest, hended⟩ := ih (orderly_run ho first) hless
    refine ⟨first ++ rest, fun a ha ↦ ?_, ?_⟩
    · exact (List.mem_append.mp ha).elim (hfirst a) (hrest a)
    · rw [run_append]
      exact hended

/-! ## Who shares a load -/

/-- The loads of a burst that is over, and what its lookups were given: some failed, each given to
the lookup that had asked; and one that succeeded, given to all others, unless all have failed. -/
theorem Burst.over (ho : r.shared.Orderly) (h : Burst guild r actions)
    (hended : ∀ l ∈ (r.run actions).shared.lookups, l.guild ≠ guild) :
    let history := (r.run actions).history
    (history.begun guild).Perm ((history.answers guild).map (·.1)) ∧
      (history.asks guild).Perm ((history.loads guild).map (·.1)) ∧
      (Trying guild (r.run actions) ∨ ∃ source document failures late,
        Served guild (r.run actions) source document failures late) := by
  obtain ⟨⟨hbegun, hasks⟩, hphase⟩ := h.cases ho
  obtain ⟨hunder, hloads⟩ := SharedCache.idsWhere_eq_nil hended
  rw [hunder, List.append_nil] at hbegun
  rw [hloads, List.append_nil] at hasks
  exact ⟨hbegun, hasks, hphase⟩

/-- If no load of a burst succeeded, its lookups shared one exactly if there was but one of them. -/
theorem Trying.coalesced_iff (h : Trying guild r)
    (hbegun : (r.history.begun guild).Perm ((r.history.answers guild).map (·.1)))
    (hasks : (r.history.asks guild).Perm ((r.history.loads guild).map (·.1))) :
    r.history.Coalesced guild ↔ (r.history.begun guild).length = 1 := by
  have hanswers : (r.history.answers guild).map (·.1) = (r.history.loads guild).map (·.1) := by
    rw [h.answers, List.map_map]
    rfl
  rw [hanswers] at hbegun
  constructor
  · rintro ⟨source, answer, -, hloads, -⟩
    rw [hbegun.length_eq, hloads]
    rfl
  · intro hone
    rw [hbegun.length_eq, List.length_map, List.length_eq_one_iff] at hone
    obtain ⟨⟨source, answer⟩, hloads⟩ := hone
    rw [hloads] at hasks hbegun
    refine ⟨source, answer, hasks.eq_singleton, hloads, ?_⟩
    rw [h.answers, hloads, hbegun.eq_singleton]
    exact .refl _

/-- If a load of a burst succeeded, its lookups shared one exactly if no load before it had
failed. -/
theorem Served.coalesced_iff (h : Served guild r source document failures late)
    (hbegun : (r.history.begun guild).Perm ((r.history.answers guild).map (·.1)))
    (hasks : (r.history.asks guild).Perm ((r.history.loads guild).map (·.1))) :
    r.history.Coalesced guild ↔ failures = [] := by
  constructor
  · rintro ⟨_, _, -, hloads, -⟩
    rw [h.loads] at hloads
    exact (List.cons.inj hloads).2
  · rintro rfl
    rw [h.loads] at hasks
    refine ⟨source, .ok document, hasks.eq_singleton, h.loads, ?_⟩
    have hsame : ∀ a ∈ r.history.answers guild, a.2 = .ok (.served guild document) := by
      rw [h.answers, h.loads]
      intro a ha
      rcases List.mem_append.mp ha with ha | ha
      · obtain ⟨id, -, rfl⟩ := List.mem_map.mp ha
        rfl
      · rw [List.map_singleton, List.mem_singleton] at ha
        rw [ha]
        rfl
    have hanswers : ((r.history.answers guild).map (·.1)).map
        (fun id ↦ (id, GuildConfig.resultOf guild (.ok document))) = r.history.answers guild := by
      rw [List.map_map]
      refine (List.map_congr_left fun a ha ↦ ?_).trans (List.map_id _)
      exact Prod.ext rfl (hsame a ha).symm
    rw [← hanswers]
    exact (hbegun.map _).symm

/-- Lookups of a guild that is not in the cache, all of which begin before a load of it has ended,
are each answered once. They share one load exactly if there is only one of them or if the first
load succeeds. -/
theorem coalesced_burst_iff (ttl limit now : Nat) (before actions : List CacheAction)
    (guild : GuildId) (hburst : Burst guild ((new ttl limit now).run before).forget actions)
    (hended : ∀ l ∈ (((new ttl limit now).run before).forget.run actions).shared.lookups,
      l.guild ≠ guild) :
    let h := (((new ttl limit now).run before).forget.run actions).history
    (h.begun guild).Perm ((h.answers guild).map (·.1)) ∧
      (h.Coalesced guild ↔ (h.begun guild).length = 1 ∨
        ∃ source document, (h.loads guild).getLast? = some (source, .ok document)) := by
  intro h
  have ho : ((new ttl limit now).run before).forget.shared.Orderly :=
    orderly_run (orderly_new ttl limit now) before
  obtain ⟨hbegun, hasks, hphase⟩ := hburst.over ho hended
  refine ⟨hbegun, ?_⟩
  rcases hphase with htrying | ⟨source, document, failures, late, hserved⟩
  · rw [htrying.coalesced_iff hbegun hasks]
    refine (or_iff_left ?_).symm
    rintro ⟨source, document, hlast⟩
    -- the first load has failed like all others
    have hfailed := htrying.failed _ (List.mem_of_getLast? hlast)
    cases hfailed
  · rw [hserved.coalesced_iff hbegun hasks]
    constructor
    · rintro rfl
      exact Or.inr ⟨source, document, by rw [hserved.loads]; rfl⟩
    · intro hshared
      cases hfailures : failures with
      | nil => rfl
      | cons x rest =>
        exfalso
        rcases hshared with hone | ⟨source', document', hlast⟩
        · -- two loads are those of two lookups
          rw [hbegun.length_eq, List.length_map, hserved.answers, List.length_append,
            List.length_map, List.length_map, hserved.loads, hfailures, List.length_cons,
            List.length_cons] at hone
          omega
        · rw [hserved.loads, hfailures, List.getLast?_cons_cons, ← hfailures] at hlast
          have hfailed := hserved.failed _ (List.mem_of_getLast? hlast)
          cases hfailed

/-- Three lookups, the last of which comes while the load is in flight. -/
def threeLookups : List CacheAction :=
  [.start 1, .start 1, .resume 1, .wait 5, .start 1, .finish 1 (.ok none), .resume 2, .wait 5,
    .resume 3]

/-- Lookups that come while the first load is in flight are given what it finds. -/
theorem coalesced_of_first_load :
    Burst 1 ((new 1000 10 0).run [.start 2]).forget threeLookups ∧
      (∀ l ∈ (((new 1000 10 0).run [.start 2]).forget.run threeLookups).shared.lookups,
        l.guild ≠ 1) ∧
      (((new 1000 10 0).run [.start 2]).forget.run threeLookups).history.Coalesced 1 := by
  have hburst : Burst 1 ((new 1000 10 0).run [.start 2]).forget threeLookups := by decide +kernel
  have hended : ∀ l ∈ (((new 1000 10 0).run [.start 2]).forget.run threeLookups).shared.lookups,
      l.guild ≠ 1 := by decide +kernel
  have hshared := (coalesced_burst_iff 1000 10 0 [.start 2] threeLookups 1 hburst hended).2
  refine ⟨hburst, hended, hshared.mpr (Or.inr ⟨1, none, ?_⟩)⟩
  rfl

/-- Two lookups, each of which is given a failure. -/
def twoFailures : List CacheAction :=
  [.start 1, .start 1, .resume 0, .finish 0 (.error (.unavailable "down")), .resume 1,
    .finish 1 (.error (.unavailable "down"))]

/-- When the load of the first of two lookups has failed, the second asks the store again. -/
theorem not_coalesced_after_failure :
    Burst 1 (new 300000 10 0).forget twoFailures ∧
      (∀ l ∈ ((new 300000 10 0).forget.run twoFailures).shared.lookups, l.guild ≠ 1) ∧
      ¬ ((new 300000 10 0).forget.run twoFailures).history.Coalesced 1 := by
  have htwice : ((new 300000 10 0).forget.run twoFailures).history.asks 1 = [1, 0] := by rfl
  refine ⟨by decide +kernel, by decide +kernel, ?_⟩
  rintro ⟨source, answer, hasks, -⟩
  rw [htwice] at hasks
  cases hasks

end CacheRun

end GuildModeration
