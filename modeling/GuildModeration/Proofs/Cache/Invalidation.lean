import GuildModeration.Proofs.Cache.SingleFlight
import GuildModeration.Proofs.Cache.Staleness

/-!
# What taking out a guild achieves

Taking a guild out of the cache is meant to make the next lookup load it again. It does so for what
is in the cache at that moment, but a load in flight knows nothing of it: when it ends, what it found
goes into the cache, and later lookups are given the old policy until it expires. So taking out does
what it is meant to do exactly if no load of the guild is in flight, or if entries expire at once.

The positive half rests on the history. After the guild was taken out, the last word about it is a
load that ended later; a load that ended later and was not in flight began later.
-/

namespace GuildModeration

namespace CacheRun

/-- Whoever looks up the guild after it was taken out, and after the loads of it that were in flight
have ended, is answered by a load that began afterwards. -/
def ReloadsAfter (r : CacheRun) (drop : CacheAction) (guild : GuildId) : Prop :=
  ∀ between after,
    let r₁ := (r.step drop).run between
    (∀ id, r.history.InFlight id guild → ¬ r₁.history.InFlight id guild) →
    ∀ (later : History) t result (earlier : History),
      ((r₁.step (.start guild)).run after).history =
        later ++ (t, .answered r₁.shared.nextLookup guild result) :: earlier →
      ∃ source finished, earlier.AnsweredBy source finished guild result ∧
        (∃ began, (began, .asked source guild) ∈ earlier) ∧
        ∀ began, (began, .asked source guild) ∉ r.history

/-- The two ways to take a guild out. -/
def Drops (drop : CacheAction) (guild : GuildId) : Prop :=
  drop = .invalidate guild ∨ drop = .invalidateAll

variable {ttl : Nat} {r : CacheRun} {drop : CacheAction} {guild : GuildId}

theorem Drops.exists_record (h : Drops drop guild) (r : CacheRun) :
    ∃ c e, r.step drop = r.record (r.shared.withCache c) [e] ∧ c.ttl = r.shared.cache.ttl ∧
      e.drops guild = true := by
  rcases h with rfl | rfl
  · exact ⟨r.shared.cache.invalidate guild, .dropped guild, rfl, rfl, beq_self_eq_true guild⟩
  · exact ⟨r.shared.cache.invalidateAll, .droppedAll, rfl, rfl, rfl⟩

theorem isLoading_iff {s : SharedCache} :
    s.isLoading guild = true ↔ ∃ l ∈ s.lookups, l.guild = guild ∧ l.phase = .loading := by
  simp [SharedCache.isLoading]

/-! ## Loads that began afterwards -/

/-- Whatever answered a lookup was asked for before. -/
theorem exists_asked_of_answeredBy {h : History} (hordered : h.Holds LoadInOrder)
    {source : LookupId} {finished : Nat} {result : Except StoreError GuildConfig}
    (hby : h.AnsweredBy source finished guild result) :
    ∃ began, (began, .asked source guild) ∈ h := by
  cases result with
  | ok config =>
    obtain ⟨document, hlast, -⟩ := hby
    obtain ⟨newer, older, rfl, -⟩ := hlast.split
    obtain ⟨⟨began, hmem⟩, -⟩ := hordered.at
    exact ⟨began, List.mem_append_right _ (List.mem_cons_of_mem _ hmem)⟩
  | error e =>
    obtain ⟨older, rfl⟩ := List.head?_eq_some_iff.mp hby
    obtain ⟨⟨began, hmem⟩, -⟩ := hordered.1
    exact ⟨began, List.mem_cons_of_mem _ hmem⟩

/-- If no load of the guild was in flight, a load that ended after the guild was taken out began
after that. -/
theorem Recorded.not_asked_of_lastLoad (h : r.Recorded) (hidle : r.shared.isLoading guild = false)
    {pre : History} {t : Nat} {e : CacheEvent} (hdrop : e.drops guild = true)
    (hordered : History.Holds LoadInOrder (pre ++ (t, e) :: r.history)) {source : LookupId}
    {finished : Nat} {document : Option GuildConfig}
    (hlast : History.LastLoad (pre ++ (t, e) :: r.history) guild source finished document) :
    ∀ began, (began, .asked source guild) ∉ r.history := by
  intro began hasked
  rcases h.asked_cases began source guild hasked with ⟨l, hl, -, hguild, hphase⟩ | ⟨t', answer, hend⟩
  · -- the load would still be in flight
    have hloading := isLoading_iff.mpr ⟨l, hl, hguild, hphase⟩
    rw [hidle] at hloading
    cases hloading
  · -- the load would have ended twice
    obtain ⟨newer, older, rfl⟩ := hlast.after_drop hdrop
    rw [List.append_assoc, List.cons_append] at hordered
    have honce := hordered.at.2 _ (List.mem_append_right _ (List.mem_cons_of_mem _ hend))
    simp [CacheEvent.ends] at honce

/-- A lookup that has begun later has not asked before. -/
theorem Recorded.not_asked_of_suffix {r₁ : CacheRun} (h : r₁.Recorded)
    (hsuffix : r.history <:+ r₁.history) :
    ∀ began, (began, .asked r₁.shared.nextLookup guild) ∉ r.history := by
  intro began hasked
  exact absurd (h.id_lt _ (hsuffix.subset hasked) _ rfl) (Nat.lt_irrefl _)

/-- A cache that is taken as it was at some moment of a run from its beginning. -/
structure Reached (ttl : Nat) (r : CacheRun) : Prop where
  orderly : r.shared.Orderly
  recorded : r.Recorded
  backed : r.Backed ttl

theorem reached_new (ttl limit now : Nat) : (new ttl limit now).Reached ttl :=
  ⟨orderly_new ttl limit now, recorded_new ttl limit now, backed_new ttl limit now⟩

theorem Reached.run (h : r.Reached ttl) (actions : List CacheAction) :
    (r.run actions).Reached ttl := by
  obtain ⟨ho, hr⟩ := orderly_recorded_run h.orderly h.recorded actions
  exact ⟨ho, hr, backed_run h.backed actions⟩

theorem Reached.reloadsAfter (h : r.Reached ttl) (hdrop : Drops drop guild)
    (hidle : r.shared.isLoading guild = false ∨ ttl = 0) : r.ReloadsAfter drop guild := by
  intro between after r₁ _ later t result earlier heq
  have h₁ : r₁.Reached ttl := h.run (drop :: between)
  have h₂ : ((r₁.step (.start guild)).run after).Reached ttl := h₁.run (.start guild :: after)
  have hsuffix : r.history <:+ r₁.history := suffix_run r (drop :: between)
  -- what the answer saw first came after the guild was taken out
  have hsaw : (r.step drop).history <:+ earlier := by
    obtain ⟨new, hnew⟩ := suffix_run r₁ (.start guild :: after)
    refine (suffix_run (r.step drop) between).trans
      (History.suffix_of_append_eq (hnew.trans heq) fun hmem ↦ ?_)
    exact absurd (h₁.recorded.id_lt _ hmem _ rfl) (Nat.lt_irrefl _)
  have hordered := h₂.recorded.ordered
  have hanswers := h₂.backed.answers
  rw [heq] at hordered hanswers
  cases result with
  | error e =>
    have hby : earlier.AnsweredBy r₁.shared.nextLookup t guild (.error e) := hanswers.at
    exact ⟨_, t, hby, exists_asked_of_answeredBy hordered.append.2 hby,
      h₁.recorded.not_asked_of_suffix hsuffix⟩
  | ok config =>
    obtain ⟨source, finished, hby, hage⟩ := hanswers.at
    refine ⟨source, finished, hby, exists_asked_of_answeredBy hordered.append.2 hby, ?_⟩
    rcases hidle with hidle | rfl
    · obtain ⟨c, e, hstep, -, hdrops⟩ := hdrop.exists_record r
      obtain ⟨document, hlast, -⟩ := hby
      obtain ⟨pre, rfl⟩ := hsaw
      rw [hstep] at hlast hordered
      exact h.recorded.not_asked_of_lastLoad hidle hdrops hordered.append.2 hlast
    · rcases hage with ⟨rfl, -⟩ | ⟨hle, hlt⟩
      · exact h₁.recorded.not_asked_of_suffix hsuffix
      · exact absurd hle (Nat.not_le_of_lt hlt)

/-! ## Loads that were in flight -/

/-- A load that was in flight goes into the cache, and answers the next lookup. -/
theorem Reached.not_reloadsAfter (h : r.Reached ttl) (hdrop : Drops drop guild)
    (hloading : r.shared.isLoading guild = true) (httl : ttl ≠ 0) :
    ¬ r.ReloadsAfter drop guild := by
  intro hreloads
  obtain ⟨l, hl, rfl, hphase⟩ := isLoading_iff.mp hloading
  obtain ⟨c, e, hstep, hc, -⟩ := hdrop.exists_record r
  have hl₀ : l ∈ (r.step drop).shared.lookups := by
    rw [hstep]
    exact hl
  have h₀ : (r.step drop).Reached ttl := h.run [drop]
  have hreload := hreloads [.finish l.id (.ok none)] []
  have hfinish := step_finish h₀.orderly.ids_nodup hl₀ hphase (.ok none)
  rw [CacheRun.run, List.foldl_cons, List.foldl_nil] at hreload
  generalize (r.step drop).step (.finish l.id (.ok none)) = r₁ at hfinish hreload
  have hlast : r₁.history.LastLoad l.guild l.id (r.step drop).now none := by
    rw [hfinish]
    exact History.lastLoad_of_loaded _ _ _ _ _ _
  have hfresh : r₁.shared.cache.fresh? r₁.now l.guild = some (.served l.guild none) := by
    rw [hfinish, CacheRun.record, SharedCache.finish_snd, SharedCache.release_cache]
    exact ConfigCache.fresh?_insert_self (h₀.backed.ttl_eq ▸ httl) _ _ _
  have hended : ∀ id, r.history.InFlight id l.guild → ¬ r₁.history.InFlight id l.guild := by
    intro id hbefore hafter
    -- the only load that was in flight is the one that has ended
    obtain ⟨a, ha, rfl, hguild, hphase'⟩ := h.recorded.exists_loading hbefore
    obtain rfl := h.orderly.eq_of_guild_eq ha hl hguild (by simp [hphase']) (by simp [hphase])
    exact hafter.2 _ _ (List.mem_of_find?_eq_some hlast)
  obtain ⟨source, finished, ⟨document, hlast', -⟩, -, hnew⟩ :=
    hreload hended [] r₁.now (.ok (.served l.guild none))
      ((r₁.now, .started r₁.shared.nextLookup l.guild) :: r₁.history)
      (congrArg CacheRun.history (step_start_of_fresh hfresh))
  have hsame := hlast.started r₁.now r₁.shared.nextLookup l.guild
  obtain ⟨-, hloaded⟩ := Prod.mk.inj (Option.some.inj (hlast'.symm.trans hsame))
  obtain ⟨rfl, -⟩ := CacheEvent.loaded.inj hloaded
  obtain ⟨began, hasked⟩ := h.recorded.asked l hl hphase
  exact hnew began hasked

/-- Taking a guild out makes later lookups load it again exactly if no load of it is in flight, or
if entries expire at once. -/
theorem reloadsAfter_iff (ttl limit now : Nat) (actions : List CacheAction) (guild : GuildId) :
    let r := (new ttl limit now).run actions
    (r.ReloadsAfter (.invalidate guild) guild ↔ r.shared.isLoading guild = false ∨ ttl = 0) ∧
      (r.ReloadsAfter .invalidateAll guild ↔ r.shared.isLoading guild = false ∨ ttl = 0) := by
  intro r
  have h : r.Reached ttl := (reached_new ttl limit now).run actions
  have hiff : ∀ {drop}, Drops drop guild →
      (r.ReloadsAfter drop guild ↔ r.shared.isLoading guild = false ∨ ttl = 0) := by
    intro drop hdrop
    refine ⟨fun hreloads ↦ ?_, h.reloadsAfter hdrop⟩
    by_contra hnot
    rw [not_or, Bool.not_eq_false] at hnot
    exact h.not_reloadsAfter hdrop hnot.1 hnot.2 hreloads
  exact ⟨hiff (Or.inl rfl), hiff (Or.inr rfl)⟩

/-- A guild that is taken out while it is being loaded: the next lookup is given what that load has
found, and loads nothing. -/
theorem not_reloadsAfter_while_loading :
    ¬ ((new 300000 10 0).run [.start 1, .resume 0]).ReloadsAfter (.invalidate 1) 1 :=
  ((reached_new 300000 10 0).run _).not_reloadsAfter (Or.inl rfl) rfl (by decide)

end CacheRun

end GuildModeration
