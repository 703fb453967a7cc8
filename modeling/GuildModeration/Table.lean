/-!
# Finite tables

A finite map as the list of its entries, in the order in which the keys were first inserted, no key
twice. Tables are read through `find?`, and each operation says what it does to that view.
-/

namespace GuildModeration

/-- A finite map with an order on its entries. -/
structure Table (κ α : Type) where
  entries : List (κ × α) := []
  /-- No key has two entries. -/
  nodup : (entries.map (·.1)).Nodup := by simp
  deriving Repr

namespace Table

variable {κ α β : Type}

theorem nodup_filter (p : κ × α → Bool) {es : List (κ × α)} (h : (es.map (·.1)).Nodup) :
    ((es.filter p).map (·.1)).Nodup :=
  List.Pairwise.sublist (List.filter_sublist.map _) h

variable [DecidableEq κ]

/-- The table without entries. -/
def empty : Table κ α := {}

/-- The value of a key. -/
def find? (t : Table κ α) (k : κ) : Option α :=
  (t.entries.find? fun e ↦ e.1 == k).map (·.2)

/-- The key has a value. -/
def contains (t : Table κ α) (k : κ) : Bool :=
  t.entries.any fun e ↦ e.1 == k

/-- The entries with the value of one key replaced, or put behind if the key is new. -/
def insertIn (k : κ) (a : α) : List (κ × α) → List (κ × α)
  | [] => [(k, a)]
  | e :: es => if e.1 = k then (k, a) :: es else e :: insertIn k a es

theorem mem_keys_insertIn {k l : κ} {a : α} {es : List (κ × α)} :
    l ∈ (insertIn k a es).map (·.1) ↔ l = k ∨ l ∈ es.map (·.1) := by
  induction es with
  | nil => simp [insertIn]
  | cons e es ih =>
    rw [insertIn]
    split
    · next h => simp [h]
    · next h =>
      rw [List.map_cons, List.mem_cons, ih, List.map_cons, List.mem_cons]
      exact or_left_comm

theorem nodup_insertIn (k : κ) (a : α) {es : List (κ × α)} (h : (es.map (·.1)).Nodup) :
    ((insertIn k a es).map (·.1)).Nodup := by
  induction es with
  | nil => simp [insertIn]
  | cons e es ih =>
    rw [List.map_cons, List.nodup_cons] at h
    rw [insertIn]
    split
    · next hk =>
      rw [List.map_cons, List.nodup_cons]
      exact ⟨hk ▸ h.1, h.2⟩
    · next hk =>
      rw [List.map_cons, List.nodup_cons, mem_keys_insertIn]
      exact ⟨fun hc ↦ hc.elim hk h.1, ih h.2⟩

/-- The table with `a` as the value of `k`. -/
def insert (t : Table κ α) (k : κ) (a : α) : Table κ α :=
  ⟨insertIn k a t.entries, nodup_insertIn k a t.nodup⟩

/-- The table without the key. -/
def erase (t : Table κ α) (k : κ) : Table κ α :=
  ⟨t.entries.filter fun e ↦ e.1 != k, nodup_filter _ t.nodup⟩

/-- The table with the entries that satisfy `p`. -/
def filter (t : Table κ α) (p : κ → α → Bool) : Table κ α :=
  ⟨t.entries.filter fun e ↦ p e.1 e.2, nodup_filter _ t.nodup⟩

/-- The table with every value changed by `f`. -/
def map (t : Table κ α) (f : κ → α → β) : Table κ β :=
  ⟨t.entries.map fun e ↦ (e.1, f e.1 e.2), by
    rw [List.map_map]
    exact t.nodup⟩

/-- The keys in order. -/
def keys (t : Table κ α) : List κ :=
  t.entries.map (·.1)

/-- The values in order. -/
def values (t : Table κ α) : List α :=
  t.entries.map (·.2)

/-- The number of entries. -/
def size (t : Table κ α) : Nat :=
  t.entries.length

/-- The table has no entries. -/
def isEmpty (t : Table κ α) : Bool :=
  t.entries.isEmpty

/-- The table of some entries; of two with one key the later counts. -/
def ofList (entries : List (κ × α)) : Table κ α :=
  entries.foldl (fun t e ↦ t.insert e.1 e.2) empty

/-! ## The view -/

@[simp]
theorem find?_empty (k : κ) : (empty : Table κ α).find? k = none := rfl

theorem find?_insert (t : Table κ α) (k l : κ) (a : α) :
    (t.insert k a).find? l = if k = l then some a else t.find? l := by
  simp only [insert, find?]
  generalize t.entries = es
  induction es with
  | nil => by_cases h : k = l <;> simp [insertIn, h]
  | cons e es ih =>
    rw [insertIn]
    by_cases hek : e.1 = k
    · subst hek
      by_cases h : e.1 = l <;> simp [h]
    · rw [if_neg hek, List.find?_cons, List.find?_cons]
      by_cases hel : e.1 = l
      · have hkl : k ≠ l := fun h ↦ hek (hel.trans h.symm)
        simp [hel, hkl]
      · have hb : (e.1 == l) = false := by simp [hel]
        simpa only [hb] using ih

theorem find?_erase (t : Table κ α) (k l : κ) :
    (t.erase k).find? l = if k = l then none else t.find? l := by
  simp only [erase, find?]
  generalize t.entries = es
  induction es with
  | nil => simp
  | cons e es ih =>
    rw [List.filter_cons]
    by_cases hek : e.1 = k
    · have hb : (e.1 != k) = false := by simp [hek]
      rw [hb, if_neg Bool.false_ne_true, ih, List.find?_cons]
      by_cases h : k = l
      · simp [h]
      · have hel : (e.1 == l) = false := by simp [hek, h]
        simp [h, hel]
    · have hb : (e.1 != k) = true := by simp [hek]
      rw [if_pos hb, List.find?_cons, List.find?_cons]
      by_cases hel : e.1 = l
      · have hkl : k ≠ l := fun h ↦ hek (hel.trans h.symm)
        simp [hel, hkl]
      · have hb : (e.1 == l) = false := by simp [hel]
        simpa only [hb] using ih

/-- The entries and the view say the same. -/
theorem mem_entries_iff {t : Table κ α} {k : κ} {a : α} :
    (k, a) ∈ t.entries ↔ t.find? k = some a := by
  obtain ⟨es, h⟩ := t
  simp only [find?]
  induction es with
  | nil => simp
  | cons e es ih =>
    rw [List.map_cons, List.nodup_cons] at h
    rw [List.find?_cons, List.mem_cons]
    by_cases hk : e.1 = k
    · have hn : (k, a) ∉ es := fun hm ↦ h.1 (hk ▸ List.mem_map_of_mem hm)
      have hb : (e.1 == k) = true := by simp [hk]
      simp only [hn, hb, or_false, Option.map_some, Option.some.injEq]
      exact ⟨fun he ↦ he ▸ rfl, fun he ↦ Prod.ext hk.symm he.symm⟩
    · have hb : (e.1 == k) = false := by simp [hk]
      simp only [hb, ← ih h.2]
      exact or_iff_right fun he ↦ hk (he ▸ rfl)

theorem find?_filter (t : Table κ α) (p : κ → α → Bool) (k : κ) :
    (t.filter p).find? k = (t.find? k).filter (p k) := by
  refine Option.ext fun a ↦ ?_
  rw [← mem_entries_iff, Option.filter_eq_some_iff, ← mem_entries_iff, filter, List.mem_filter]

end Table

end GuildModeration
