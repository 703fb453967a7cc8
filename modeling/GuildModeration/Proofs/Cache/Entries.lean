import GuildModeration.Cache.Entries

/-!
# What the operations of the cache do to its entries

Every operation is described by what it does to the entry of one guild. Looking something up only
moves the time of the last use. Putting in a policy gives its guild a new entry, which is never the
one that has to go, and may cost other guilds theirs; taking out and reaping only lose entries.
Nothing but putting in makes an entry or moves the moment at which it expires.
-/

namespace GuildModeration

/-! ## The policy that is served -/

namespace GuildConfig

@[simp] theorem served_guild (guild : GuildId) (document : Option GuildConfig) :
    (served guild document).guild = guild := rfl

/-- The words and their lexicon are those of one document. -/
theorem served_words (guild : GuildId) (document : Option GuildConfig) :
    (served guild document).words = (document.getD (disabled guild)).words.compile := rfl

/-- The websites and the banned hosts are those of one document. -/
theorem served_sites (guild : GuildId) (document : Option GuildConfig) :
    (served guild document).sites = (document.getD (disabled guild)).sites.compile := rfl

end GuildConfig

namespace ConfigCache

/-! ## Looking up -/

theorem fresh?_eq_some_iff {c : ConfigCache} {now : Nat} {guild : GuildId} {config : GuildConfig} :
    c.fresh? now guild = some config ↔
      ∃ e, c.entries.find? guild = some e ∧ now < e.expiresAt ∧ e.config = config := by
  rw [fresh?, Option.bind_eq_some_iff]
  refine exists_congr fun e ↦ and_congr_right fun _ ↦ ?_
  split
  · next h => simp [h]
  · next h => simp [h]

/-- What is no longer served is not served again. -/
theorem fresh?_eq_none_of_le {c : ConfigCache} {now later : Nat} {guild : GuildId}
    (h : c.fresh? now guild = none) (hle : now ≤ later) : c.fresh? later guild = none := by
  rw [Option.eq_none_iff_forall_ne_some] at h ⊢
  intro config hfresh
  obtain ⟨e, hfind, hlt, hconfig⟩ := fresh?_eq_some_iff.mp hfresh
  exact h config (fresh?_eq_some_iff.mpr ⟨e, hfind, Nat.lt_of_le_of_lt hle hlt, hconfig⟩)

theorem look_of_fresh {c : ConfigCache} {now : Nat} {guild : GuildId} {config : GuildConfig}
    (h : c.fresh? now guild = some config) :
    c.look now guild = (some config, c.touch now guild) := by
  rw [look, h]

theorem look_of_not_fresh {c : ConfigCache} {now : Nat} {guild : GuildId}
    (h : c.fresh? now guild = none) : c.look now guild = (none, c) := by
  rw [look, h]

@[simp] theorem touch_ttl (c : ConfigCache) (now : Nat) (guild : GuildId) :
    (c.touch now guild).ttl = c.ttl := by
  rw [touch]
  split <;> rfl

/-- An entry that was asked for keeps its policy and the moment at which it expires. -/
theorem find?_touch {c : ConfigCache} {now : Nat} {guild other : GuildId} {e : CacheEntry}
    (h : (c.touch now guild).entries.find? other = some e) :
    ∃ old, c.entries.find? other = some old ∧ e.config = old.config ∧
      e.expiresAt = old.expiresAt := by
  rw [touch] at h
  split at h
  · next old hold =>
    rw [Table.find?_insert] at h
    -- of the entry that was asked for only the last use has changed
    by_cases hg : guild = other
    · rw [if_pos hg, Option.some.injEq] at h
      exact ⟨old, hg ▸ hold, h ▸ rfl, h ▸ rfl⟩
    · rw [if_neg hg] at h
      exact ⟨e, h, rfl, rfl⟩
  · exact ⟨e, h, rfl, rfl⟩

/-! ## Eviction -/

theorem foldl_lessRecent_mem (es : List (GuildId × CacheEntry)) (e : GuildId × CacheEntry) :
    es.foldl lessRecent e ∈ e :: es := by
  -- the candidate changes on the way, so it has to be general
  induction es generalizing e with
  | nil => simp
  | cons a es ih =>
    rw [List.foldl_cons]
    rcases List.mem_cons.mp (ih (lessRecent e a)) with heq | hmem
    · rw [heq, lessRecent]
      split <;> simp
    · exact List.mem_cons_of_mem _ (List.mem_cons_of_mem _ hmem)

/-- The guild that has to go is never the one to keep. -/
theorem ne_of_leastRecent? {entries : List (GuildId × CacheEntry)} {keep guild : GuildId}
    (h : leastRecent? entries keep = some guild) : guild ≠ keep := by
  rw [leastRecent?] at h
  split at h
  · cases h
  · next e es hes =>
    rw [Option.some.injEq] at h
    have hmem := foldl_lessRecent_mem es e
    rw [← hes, List.mem_filter, h] at hmem
    simpa using hmem.2

/-- Making room leaves the guild to keep alone. -/
theorem find?_shrink_keep (keep : GuildId) (n : Nat) (t : Table GuildId CacheEntry) :
    (shrink keep n t).find? keep = t.find? keep := by
  induction n generalizing t with
  | zero => rfl
  | succ n ih =>
    rw [shrink]
    split
    · next guild h => rw [ih, Table.find?_erase, if_neg (ne_of_leastRecent? h)]
    · rfl

/-- Making room makes no entry. -/
theorem find?_of_shrink {keep guild : GuildId} {n : Nat} {t : Table GuildId CacheEntry}
    {e : CacheEntry} (h : (shrink keep n t).find? guild = some e) : t.find? guild = some e := by
  induction n generalizing t with
  | zero => exact h
  | succ n ih =>
    rw [shrink] at h
    split at h
    · have h := ih h
      rw [Table.find?_erase] at h
      split at h
      · cases h
      · exact h
    · exact h

/-! ## Putting in -/

theorem find?_insert_self (c : ConfigCache) (now : Nat) (guild : GuildId) (config : GuildConfig) :
    (c.insert now guild config).entries.find? guild = some ⟨config, now + c.ttl, now⟩ := by
  rw [insert, find?_shrink_keep, Table.find?_insert, if_pos rfl]

/-- What has just been put in is served, unless it expires at once. -/
theorem fresh?_insert_self {c : ConfigCache} (h : c.ttl ≠ 0) (now : Nat) (guild : GuildId)
    (config : GuildConfig) : (c.insert now guild config).fresh? now guild = some config := by
  refine fresh?_eq_some_iff.mpr ⟨_, find?_insert_self c now guild config, ?_, rfl⟩
  exact Nat.lt_add_of_pos_right (Nat.pos_of_ne_zero h)

theorem find?_of_insert {c : ConfigCache} {now : Nat} {guild other : GuildId}
    {config : GuildConfig} {e : CacheEntry}
    (h : (c.insert now guild config).entries.find? other = some e) (hne : guild ≠ other) :
    c.entries.find? other = some e := by
  have h := find?_of_shrink h
  rwa [Table.find?_insert, if_neg hne] at h

/-! ## Taking out -/

theorem find?_of_invalidate {c : ConfigCache} {guild other : GuildId} {e : CacheEntry}
    (h : (c.invalidate guild).entries.find? other = some e) :
    guild ≠ other ∧ c.entries.find? other = some e := by
  rw [invalidate, Table.find?_erase] at h
  split at h
  · cases h
  · next hne => exact ⟨hne, h⟩

theorem find?_of_reap {c : ConfigCache} {now : Nat} {guild : GuildId} {e : CacheEntry}
    (h : (c.reap now).2.entries.find? guild = some e) : c.entries.find? guild = some e := by
  rw [reap, Table.find?_filter, Option.filter_eq_some_iff] at h
  exact h.1

end ConfigCache

end GuildModeration
