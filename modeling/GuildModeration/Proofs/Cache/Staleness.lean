import GuildModeration.Proofs.Cache.Run

/-!
# How old an answer may be

An entry of the cache is what the last load of its guild left behind, and expires `ttl` after that
load has finished: of all that can happen to a cache, only a load makes entries, and being asked for
prolongs none. So every answer can be traced to one load. It is the load of the lookup itself, or
one that finished less than `ttl` ago.

The capacity does not occur in any of this. An entry that had to go is an entry less, and the
invariant speaks only of entries that are there.
-/

namespace GuildModeration

namespace CacheRun

/-- A policy is what the last load of its guild found, and that load is the lookup's own or finished
less than `ttl` ago. A failure is that of the lookup's own load. -/
def FromLoad (ttl : Nat) : Nat × CacheEvent → History → Prop
  | (t, .answered id guild (.ok config)), past => ∃ source finished,
    past.AnsweredBy source finished guild (.ok config) ∧
      (source = id ∧ finished = t ∨ finished ≤ t ∧ t < finished + ttl)
  | (t, .answered id guild (.error e)), past => past.AnsweredBy id t guild (.error e)
  | _, _ => True

/-- The entries and the answers so far go back to loads. -/
structure Backed (ttl : Nat) (r : CacheRun) : Prop where
  ttl_eq : r.shared.cache.ttl = ttl
  entries : ∀ guild e, r.shared.cache.entries.find? guild = some e →
    ∃ source finished document, r.history.LastLoad guild source finished document ∧
      e.config = .served guild document ∧ e.expiresAt = finished + ttl ∧ finished ≤ r.now
  answers : r.history.Holds (FromLoad ttl)

theorem backed_new (ttl limit now : Nat) : (new ttl limit now).Backed ttl where
  ttl_eq := rfl
  entries guild e h := by
    rw [new, Table.find?_empty] at h
    cases h
  answers := trivial

variable {ttl : Nat} {r r' : CacheRun}

/-- What the cache serves was loaded less than `ttl` ago. -/
theorem Backed.exists_load (h : r.Backed ttl) {guild : GuildId} {config : GuildConfig}
    (hfresh : r.shared.cache.fresh? r.now guild = some config) :
    ∃ source finished, r.history.AnsweredBy source finished guild (.ok config) ∧
      finished ≤ r.now ∧ r.now < finished + ttl := by
  obtain ⟨e, hfind, hlt, rfl⟩ := ConfigCache.fresh?_eq_some_iff.mp hfresh
  obtain ⟨source, finished, document, hlast, hconfig, hexpires, hle⟩ := h.entries guild e hfind
  exact ⟨source, finished, ⟨document, hlast, hconfig⟩, hle, hexpires ▸ hlt⟩

/-- Nothing has to be shown of entries that stay and that no new event speaks of. -/
theorem Backed.record (h : r.Backed ttl) {s : SharedCache} {events : List CacheEvent}
    (httl : s.cache.ttl = r.shared.cache.ttl)
    (hentries : ∀ guild e, s.cache.entries.find? guild = some e →
      (∃ old, r.shared.cache.entries.find? guild = some old ∧ e.config = old.config ∧
        e.expiresAt = old.expiresAt) ∧ ∀ event ∈ events, event.replaces guild = false)
    (hanswers : History.Holds (FromLoad ttl) (events.map (r.now, ·) ++ r.history)) :
    (r.record s events).Backed ttl where
  ttl_eq := httl.trans h.ttl_eq
  entries guild e hfind := by
    obtain ⟨⟨old, hold, hconfig, hexpires⟩, hquiet⟩ := hentries guild e hfind
    obtain ⟨source, finished, document, hlast, hload, hend, hle⟩ := h.entries guild old hold
    refine ⟨source, finished, document, hlast.append ?_, hconfig.trans hload,
      hexpires.trans hend, hle⟩
    intro x hx
    obtain ⟨event, hevent, rfl⟩ := List.mem_map.mp hx
    exact hquiet event hevent
  answers := hanswers

/-- The end of a load leaves an entry behind, and the others as they are or less. -/
theorem Backed.load (h : r.Backed ttl) (l : Lookup) (document : Option GuildConfig) :
    (r.record
      ((r.shared.withCache
        (r.shared.cache.insert r.now l.guild (.served l.guild document))).release l)
      [.answered l.id l.guild (.ok (.served l.guild document)),
        .loaded l.id l.guild (.ok document)]).Backed ttl where
  ttl_eq := by
    rw [CacheRun.record, SharedCache.release_cache]
    exact h.ttl_eq
  entries guild e hfind := by
    rw [CacheRun.record, SharedCache.release_cache, SharedCache.withCache_cache] at hfind
    -- making room may take out other guilds, but not the one that was just loaded
    by_cases hguild : l.guild = guild
    · subst hguild
      rw [ConfigCache.find?_insert_self, Option.some.injEq] at hfind
      subst hfind
      refine ⟨l.id, r.now, document, ?_, rfl, ?_, Nat.le_refl _⟩
      · exact History.lastLoad_of_loaded r.history l.guild l.id r.now document _
      · rw [h.ttl_eq]
    · have hold := ConfigCache.find?_of_insert hfind hguild
      obtain ⟨source, finished, found, hlast, hload, hend, hle⟩ := h.entries guild e hold
      refine ⟨source, finished, found, hlast.append ?_, hload, hend, hle⟩
      simp [CacheEvent.replaces, CacheEvent.drops, hguild]
  answers := by
    refine ⟨⟨l.id, r.now, ⟨document, ?_, rfl⟩, Or.inl ⟨rfl, rfl⟩⟩, trivial, h.answers⟩
    simp [History.LastLoad, CacheEvent.replaces]

theorem Move.backed (m : r.Move r') (h : r.Backed ttl) : r'.Backed ttl := by
  -- an entry that is as it was, while the events are about other things
  have hsame : ∀ {e : CacheEntry} {guild : GuildId},
      r.shared.cache.entries.find? guild = some e →
      ∃ old, r.shared.cache.entries.find? guild = some old ∧ e.config = old.config ∧
        e.expiresAt = old.expiresAt := fun hfind ↦ ⟨_, hfind, rfl, rfl⟩
  cases m with
  | stay => exact h
  | wait ms =>
    refine ⟨h.ttl_eq, fun guild e hfind ↦ ?_, h.answers⟩
    obtain ⟨source, finished, document, hlast, hload, hend, hle⟩ := h.entries guild e hfind
    exact ⟨source, finished, document, hlast, hload, hend, Nat.le_add_right_of_le hle⟩
  | @hit guild config fresh =>
    obtain ⟨source, finished, ⟨document, hlast, hload⟩, hage⟩ := h.exists_load fresh
    refine h.record (ConfigCache.touch_ttl _ _ _) (fun g e hfind ↦ ?_)
      ⟨⟨source, finished, ⟨document, hlast.started _ _ _, hload⟩, Or.inr hage⟩, trivial, h.answers⟩
    exact ⟨ConfigCache.find?_touch hfind, by simp [CacheEvent.replaces, CacheEvent.drops]⟩
  | @miss guild _ =>
    refine h.record ?_ (fun g e hfind ↦ ?_) ⟨trivial, h.answers⟩
    · rw [SharedCache.enqueue, SharedCache.lockFor_cache]
    · rw [SharedCache.enqueue, SharedCache.lockFor_cache] at hfind
      exact ⟨hsame hfind, by simp [CacheEvent.replaces, CacheEvent.drops]⟩
  | @lateHit l config mem _ fresh =>
    obtain ⟨source, finished, hload, hage⟩ := h.exists_load fresh
    refine h.record ?_ (fun g e hfind ↦ ?_)
      ⟨⟨source, finished, hload, Or.inr hage⟩, h.answers⟩
    · rw [SharedCache.release_cache]
      exact ConfigCache.touch_ttl _ _ _
    · rw [SharedCache.release_cache] at hfind
      exact ⟨ConfigCache.find?_touch hfind, by simp [CacheEvent.replaces, CacheEvent.drops]⟩
  | ask _ _ _ =>
    exact h.record rfl (fun g e hfind ↦
      ⟨hsame hfind, by simp [CacheEvent.replaces, CacheEvent.drops]⟩) ⟨trivial, h.answers⟩
  | @load l document _ _ => exact h.load l document
  | @fail l e _ _ =>
    refine h.record ?_ (fun g entry hfind ↦ ?_) ⟨rfl, trivial, h.answers⟩
    · rw [SharedCache.release_cache]
    · rw [SharedCache.release_cache] at hfind
      exact ⟨hsame hfind, by simp [CacheEvent.replaces, CacheEvent.drops]⟩
  | invalidate guild =>
    refine h.record rfl (fun g e hfind ↦ ?_) ⟨trivial, h.answers⟩
    obtain ⟨hne, hold⟩ := ConfigCache.find?_of_invalidate hfind
    exact ⟨hsame hold, by simp [CacheEvent.replaces, CacheEvent.drops, hne]⟩
  | invalidateAll =>
    refine h.record rfl (fun g e hfind ↦ ?_) ⟨trivial, h.answers⟩
    rw [SharedCache.invalidateAll, ConfigCache.invalidateAll, Table.find?_empty] at hfind
    cases hfind
  | reap =>
    exact h.record rfl (fun g e hfind ↦ ⟨hsame (ConfigCache.find?_of_reap hfind),
      by simp [CacheEvent.replaces, CacheEvent.drops]⟩) ⟨trivial, h.answers⟩

/-- Entries and answers go back to loads all along every run. -/
theorem backed_run (h : r.Backed ttl) (actions : List CacheAction) : (r.run actions).Backed ttl :=
  run_induction (fun _ _ h m ↦ m.backed h) h actions

/-- A policy that a lookup is given is the whole of what one load of its guild found, as it is
served: under the number of the guild, and with the lexicon and the banned hosts made of the lists
of that same document. The load is the lookup's own and has just finished, or it finished less than
`ttl` ago. So if the loads of that time found one document, every answer is that document. -/
theorem answered_from_load (ttl limit now : Nat) (actions : List CacheAction)
    {later earlier : History} {t : Nat} {id : LookupId} {guild : GuildId} {config : GuildConfig}
    (h : ((new ttl limit now).run actions).history =
      later ++ (t, .answered id guild (.ok config)) :: earlier) :
    (∃ source finished document, (finished, .loaded source guild (.ok document)) ∈ earlier ∧
      config = .served guild document ∧ config.guild = guild ∧
      config.words = (document.getD (.disabled guild)).words.compile ∧
      config.sites = (document.getD (.disabled guild)).sites.compile ∧
      (source = id ∧ finished = t ∨ finished ≤ t ∧ t < finished + ttl)) ∧
    ∀ document, (∀ finished source found, (finished, .loaded source guild (.ok found)) ∈ earlier →
        finished = t ∨ t < finished + ttl → found = document) →
      config = .served guild document := by
  have hanswers := (backed_run (backed_new ttl limit now) actions).answers
  rw [h] at hanswers
  obtain ⟨source, finished, ⟨document, hlast, hconfig⟩, hage⟩ := hanswers.at
  have hmem : (finished, .loaded source guild (.ok document)) ∈ earlier :=
    List.mem_of_find?_eq_some hlast
  refine ⟨⟨source, finished, document, hmem, hconfig, ?_, ?_, ?_, hage⟩, fun other hother ↦ ?_⟩
  · rw [hconfig, GuildConfig.served_guild]
  · rw [hconfig, GuildConfig.served_words]
  · rw [hconfig, GuildConfig.served_sites]
  · have hsame := hother finished source document hmem
      (hage.imp (fun hown ↦ hown.2) (fun hyoung ↦ hyoung.2))
    rw [hconfig, hsame]

/-- What a lookup is given five moments after the load of another one was found by a load before
it, and less than ten moments ago. -/
theorem answered_from_load_of_hit :
    ∃ source finished document,
      (finished, .loaded source 7 (.ok document)) ∈
        ((new 10 1 0).run [.start 7, .resume 0, .finish 0 (.ok none)]).history ∧
      GuildConfig.served 7 none = .served 7 document ∧ 5 < finished + 10 := by
  have hrun : ((new 10 1 0).run
      [.start 7, .resume 0, .finish 0 (.ok none), .wait 5, .start 7]).history =
      [] ++ (5, .answered 1 7 (.ok (.served 7 none))) :: (5, .started 1 7) ::
        ((new 10 1 0).run [.start 7, .resume 0, .finish 0 (.ok none)]).history := rfl
  obtain ⟨⟨source, finished, document, hmem, hconfig, -, -, -, hage⟩, -⟩ :=
    answered_from_load 10 1 0 _ hrun
  refine ⟨source, finished, document, ?_, hconfig, by omega⟩
  rcases List.mem_cons.mp hmem with heq | hmem
  · cases heq
  · exact hmem

end CacheRun

end GuildModeration
