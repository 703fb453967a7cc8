import Mathlib.Data.List.Perm.Basic
import GuildModeration.Proofs.Cache.Entries

/-!
# Making room

Putting in a policy may leave the cache with too many entries, and the least recently used then have
to go. How many are left does not depend on when they were used. Which are left does: as long as no
two were used at the same time, those that stay are the ones used last, and among them always the
one that was just put in.

Entries are compared as lists up to their order, as a table keeps them in the order in which they
came, and making room goes by the order of their use.
-/

namespace GuildModeration

open List (Perm)

/-! ## One entry of a table -/

namespace Table

variable {κ α : Type} [DecidableEq κ]

theorem erase_entries (t : Table κ α) (k : κ) :
    (t.erase k).entries = t.entries.filter (·.1 != k) := rfl

/-- The entry of a key and the others. -/
theorem perm_erase {t : Table κ α} {k : κ} {a : α} (h : t.find? k = some a) :
    t.entries.Perm ((k, a) :: (t.erase k).entries) := by
  obtain ⟨pre, post, heq⟩ := List.append_of_mem (mem_entries_iff.mpr h)
  have hnodup := t.nodup
  rw [heq, List.map_append, List.map_cons, List.nodup_append, List.nodup_cons] at hnodup
  obtain ⟨-, ⟨hpost, -⟩, hpre⟩ := hnodup
  have hothers : t.entries.filter (·.1 != k) = pre ++ post := by
    rw [heq, List.filter_append, List.filter_cons_of_neg (by simp)]
    congr 1
    · exact List.filter_eq_self.mpr fun e he ↦ bne_iff_ne.mpr
        (hpre e.1 (List.mem_map_of_mem he) k List.mem_cons_self)
    · refine List.filter_eq_self.mpr fun e he ↦ bne_iff_ne.mpr fun hek ↦ hpost ?_
      exact List.mem_map.mpr ⟨e, he, hek⟩
  rw [erase_entries, hothers, heq]
  exact List.perm_middle

theorem filter_insertIn (k : κ) (a : α) (es : List (κ × α)) :
    (insertIn k a es).filter (·.1 != k) = es.filter (·.1 != k) := by
  induction es with
  | nil => simp [insertIn]
  | cons e es ih =>
    rw [insertIn]
    split
    · next hek => simp [hek]
    · rw [List.filter_cons, List.filter_cons, ih]

/-- What is put in joins the entries of the other keys. -/
theorem perm_insert (t : Table κ α) (k : κ) (a : α) :
    (t.insert k a).entries.Perm ((k, a) :: (t.erase k).entries) := by
  have hself : (t.insert k a).find? k = some a := by rw [find?_insert, if_pos rfl]
  have hperm := perm_erase hself
  rwa [erase_entries, insert, filter_insertIn, ← erase_entries] at hperm

theorem size_of_find? {t : Table κ α} {k : κ} {a : α} (h : t.find? k = some a) :
    t.size = (t.erase k).size + 1 :=
  (perm_erase h).length_eq

theorem size_insert (t : Table κ α) (k : κ) (a : α) :
    (t.insert k a).size = (t.erase k).size + 1 :=
  (perm_insert t k a).length_eq

end Table

namespace ConfigCache

/-! ## The entry that has to go -/

/-- The candidate is never used later than an entry it was compared with. -/
theorem foldl_lessRecent_le (es : List (GuildId × CacheEntry)) (e : GuildId × CacheEntry) :
    ∀ a ∈ e :: es, (es.foldl lessRecent e).2.lastUse ≤ a.2.lastUse := by
  induction es generalizing e with
  | nil => simp
  | cons b es ih =>
    have hbest := ih (lessRecent e b) (lessRecent e b) List.mem_cons_self
    have hle : (lessRecent e b).2.lastUse ≤ e.2.lastUse ∧
        (lessRecent e b).2.lastUse ≤ b.2.lastUse := by
      rw [lessRecent]
      split <;> omega
    intro a ha
    rw [List.foldl_cons]
    rcases List.mem_cons.mp ha with rfl | ha
    · exact Nat.le_trans hbest hle.1
    rcases List.mem_cons.mp ha with rfl | ha
    · exact Nat.le_trans hbest hle.2
    · exact ih (lessRecent e b) a (List.mem_cons_of_mem _ ha)

/-- The entry that has to go is the least recently used, the one to keep apart. -/
theorem exists_of_leastRecent? {es : List (GuildId × CacheEntry)} {keep guild : GuildId}
    (h : leastRecent? es keep = some guild) :
    ∃ e ∈ es, e.1 = guild ∧ e.1 ≠ keep ∧
      ∀ a ∈ es, a.1 ≠ keep → e.2.lastUse ≤ a.2.lastUse := by
  rw [leastRecent?] at h
  split at h
  · cases h
  · next e rest hrest =>
    have hmem := foldl_lessRecent_mem rest e
    rw [← hrest, List.mem_filter, bne_iff_ne] at hmem
    refine ⟨_, hmem.1, Option.some.inj h, hmem.2, fun a ha hne ↦ ?_⟩
    refine foldl_lessRecent_le rest e a ?_
    rw [← hrest, List.mem_filter]
    exact ⟨ha, bne_iff_ne.mpr hne⟩

theorem eq_of_leastRecent?_eq_none {es : List (GuildId × CacheEntry)} {keep : GuildId}
    (h : leastRecent? es keep = none) : ∀ e ∈ es, e.1 = keep := by
  rw [leastRecent?] at h
  split at h
  · next hnone =>
    intro e he
    by_contra hne
    exact List.filter_eq_nil_iff.mp hnone e he (bne_iff_ne.mpr hne)
  · cases h

/-! ## How many are left -/

theorem capacity_pos (c : ConfigCache) : 0 < c.capacity :=
  Nat.le_max_right _ _

theorem touch_limit (c : ConfigCache) (now : Nat) (guild : GuildId) :
    (c.touch now guild).limit = c.limit := by
  rw [touch]
  split <;> rfl

theorem touch_capacity (c : ConfigCache) (now : Nat) (guild : GuildId) :
    (c.touch now guild).capacity = c.capacity := by
  rw [capacity, touch_limit, capacity]

theorem insert_capacity (c : ConfigCache) (now : Nat) (guild : GuildId) (config : GuildConfig) :
    (c.insert now guild config).capacity = c.capacity := rfl

/-- A table in which nothing has to go has the entry to keep at most. -/
theorem size_le_one {t : Table GuildId CacheEntry} {keep : GuildId}
    (h : leastRecent? t.entries keep = none) : t.size ≤ 1 := by
  have hkeys : ∀ k ∈ t.entries.map (·.1), k = keep :=
    List.forall_mem_map.mpr (eq_of_leastRecent?_eq_none h)
  have hsub : t.entries.map (·.1) ⊆ [keep] := fun k hk ↦ List.mem_singleton.mpr (hkeys k hk)
  simpa [Table.size] using t.nodup.length_le_of_subset hsub

theorem size_shrink_le (keep : GuildId) (n : Nat) (t : Table GuildId CacheEntry) :
    (shrink keep n t).size ≤ max (t.size - n) 1 := by
  induction n generalizing t with
  | zero => exact Nat.le_max_left _ _
  | succ n ih =>
    rw [shrink]
    split
    · next guild h =>
      obtain ⟨e, he, rfl, -, -⟩ := exists_of_leastRecent? h
      have hsize := Table.size_of_find? (Table.mem_entries_iff.mp he)
      have hle := ih (t.erase e.1)
      omega
    · next h => exact Nat.le_trans (size_le_one h) (Nat.le_max_right _ _)

/-- After a policy was put in there are no more entries than allowed. -/
theorem size_insert_le (c : ConfigCache) (now : Nat) (guild : GuildId) (config : GuildConfig) :
    (c.insert now guild config).size ≤ c.capacity := by
  have hpos := c.capacity_pos
  have hle := size_shrink_le guild
    ((c.entries.insert guild ⟨config, now + c.ttl, now⟩).size - c.capacity)
    (c.entries.insert guild ⟨config, now + c.ttl, now⟩)
  rw [size, insert]
  dsimp only
  omega

theorem size_touch (c : ConfigCache) (now : Nat) (guild : GuildId) :
    (c.touch now guild).size = c.size := by
  rw [touch]
  split
  · next e h => rw [size, Table.size_insert, ← Table.size_of_find? h, size]
  · rfl

theorem size_invalidate_le (c : ConfigCache) (guild : GuildId) :
    (c.invalidate guild).size ≤ c.size :=
  List.length_filter_le _ _

theorem size_reap_le (c : ConfigCache) (now : Nat) : (c.reap now).2.size ≤ c.size :=
  List.length_filter_le _ _

/-! ## Which are left -/

/-- The entries in the order of their last use, the latest first, no two used at the same time. -/
def ByUse (es : List (GuildId × CacheEntry)) : Prop :=
  es.Pairwise fun a b ↦ b.2.lastUse < a.2.lastUse

/-- The entry to keep does not go when it is alone. -/
theorem leastRecent?_eq_none {t : Table GuildId CacheEntry} {keep : GuildId × CacheEntry}
    (hperm : t.entries.Perm [keep]) : leastRecent? t.entries keep.1 = none := by
  rw [leastRecent?, List.perm_singleton.mp hperm, List.filter_cons_of_neg (by simp)]
  rfl

/-- Of entries in the order of their use the last has to go. -/
theorem leastRecent?_of_perm {t : Table GuildId CacheEntry} {keep last : GuildId × CacheEntry}
    {es : List (GuildId × CacheEntry)} (hperm : t.entries.Perm (keep :: (es ++ [last])))
    (huse : ByUse (es ++ [last])) : leastRecent? t.entries keep.1 = some last.1 := by
  have hne : last.1 ≠ keep.1 := by
    have hnodup := (hperm.map (·.1)).nodup_iff.mp t.nodup
    rw [List.map_cons, List.nodup_cons] at hnodup
    exact fun heq ↦ hnodup.1 (heq ▸ List.mem_map_of_mem (by simp))
  have hlast : last ∈ t.entries := hperm.mem_iff.mpr (by simp)
  cases hleast : leastRecent? t.entries keep.1 with
  | none => exact absurd (eq_of_leastRecent?_eq_none hleast last hlast) hne
  | some guild =>
    obtain ⟨e, he, rfl, hekeep, hmin⟩ := exists_of_leastRecent? hleast
    have hmem : e ∈ es ++ [last] := by
      rcases List.mem_cons.mp (hperm.mem_iff.mp he) with rfl | hmem
      · exact absurd rfl hekeep
      · exact hmem
    -- all others were used after the last
    rcases List.mem_append.mp hmem with hes | hes
    · have hlt := (List.pairwise_append.mp huse).2.2 e hes last List.mem_cons_self
      exact absurd (hmin last hlast hne) (Nat.not_le_of_lt hlt)
    · rw [List.mem_singleton.mp hes]

/-- Making room leaves the entries used last, and the one to keep. -/
theorem shrink_perm {keep : GuildId × CacheEntry} {es : List (GuildId × CacheEntry)} (n : Nat)
    {t : Table GuildId CacheEntry} (hperm : t.entries.Perm (keep :: es)) (huse : ByUse es) :
    (shrink keep.1 n t).entries.Perm (keep :: es.take (es.length - n)) := by
  induction n generalizing t es with
  | zero =>
    rw [Nat.sub_zero, List.take_length]
    exact hperm
  | succ n ih =>
    rcases List.eq_nil_or_concat es with rfl | ⟨es, last, rfl⟩
    · rw [shrink, leastRecent?_eq_none hperm, List.take_nil]
      exact hperm
    · rw [List.concat_eq_append] at hperm huse ⊢
      have hothers : (t.erase last.1).entries.Perm (keep :: es) := by
        have hmem : last ∈ t.entries := hperm.mem_iff.mpr (by simp)
        have hlast := (Table.perm_erase (Table.mem_entries_iff.mp hmem)).symm.trans hperm
        exact (hlast.trans (List.perm_append_singleton last (keep :: es))).cons_inv
      rw [shrink, leastRecent?_of_perm hperm huse]
      have hrest := ih hothers (List.pairwise_append.mp huse).1
      rw [List.length_append, List.length_singleton, Nat.add_sub_add_right,
        List.take_append_of_le_length (Nat.sub_le _ _)]
      exact hrest

/-- Putting in a policy keeps the entries used last, the new one first. -/
theorem perm_of_insert {c : ConfigCache} {es : List (GuildId × CacheEntry)}
    (hperm : c.entries.entries.Perm es) (huse : ByUse es) (now : Nat) (guild : GuildId)
    (config : GuildConfig) :
    (c.insert now guild config).entries.entries.Perm
      (((guild, ⟨config, now + c.ttl, now⟩) :: es.filter (·.1 != guild)).take c.capacity) := by
  obtain ⟨m, hm⟩ : ∃ m, c.capacity = m + 1 := Nat.exists_eq_add_of_le' c.capacity_pos
  have hinsert := (Table.perm_insert c.entries guild ⟨config, now + c.ttl, now⟩).trans
    ((hperm.filter (·.1 != guild)).cons _)
  have hleft := shrink_perm
    ((c.entries.insert guild ⟨config, now + c.ttl, now⟩).size - c.capacity) hinsert
    (huse.sublist List.filter_sublist)
  -- the new entry is one of those that stay, so the others share the rest of the capacity
  have hlength : ∀ others : List (GuildId × CacheEntry),
      others.take (others.length - (others.length + 1 - (m + 1))) = others.take m :=
    fun _ ↦ List.take_eq_take_iff.mpr (by omega)
  rw [Table.size, hinsert.length_eq, List.length_cons, hm, hlength] at hleft
  rw [hm, List.take_succ_cons]
  simpa only [insert, Table.size, hinsert.length_eq, List.length_cons, hm] using hleft

/-! ## The order of use -/

/-- The entries by when they were last used and the guilds that they are of, the latest first. -/
def UsedAs (c : ConfigCache) (uses : List (Nat × GuildId)) : Prop :=
  ∃ es, c.entries.entries.Perm es ∧ es.map (fun e ↦ (e.2.lastUse, e.1)) = uses

variable {c : ConfigCache} {uses : List (Nat × GuildId)}

theorem UsedAs.keys_perm (h : c.UsedAs uses) : c.entries.keys.Perm (uses.map (·.2)) := by
  obtain ⟨es, hperm, rfl⟩ := h
  rw [List.map_map]
  exact hperm.map _

/-- An entry that was asked for becomes the latest. -/
theorem UsedAs.touch (h : c.UsedAs uses) {guild : GuildId} {e : CacheEntry}
    (hfind : c.entries.find? guild = some e) (now : Nat) :
    (c.touch now guild).UsedAs ((now, guild) :: uses.filter (·.2 != guild)) := by
  obtain ⟨es, hperm, rfl⟩ := h
  refine ⟨(guild, { e with lastUse := now }) :: es.filter (·.1 != guild), ?_, ?_⟩
  · rw [ConfigCache.touch, hfind]
    exact (Table.perm_insert c.entries guild _).trans ((hperm.filter _).cons _)
  · rw [List.map_cons, List.filter_map]
    rfl

/-- An entry that is put in becomes the latest, and those behind the capacity go. -/
theorem UsedAs.insert (h : c.UsedAs uses) (huse : uses.Pairwise fun a b ↦ b.1 < a.1) (now : Nat)
    (guild : GuildId) (config : GuildConfig) :
    (c.insert now guild config).UsedAs
      (((now, guild) :: uses.filter (·.2 != guild)).take c.capacity) := by
  obtain ⟨es, hperm, rfl⟩ := h
  refine ⟨_, perm_of_insert hperm (List.pairwise_map.mp huse) now guild config, ?_⟩
  rw [List.map_take, List.map_cons, List.filter_map]
  rfl

end ConfigCache

end GuildModeration
