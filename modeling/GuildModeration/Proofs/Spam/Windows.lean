import GuildModeration.Spam.Tracker
import Mathlib.Data.List.Dedup
import Mathlib.Data.List.Induction
import Mathlib.Data.List.MinMax
import Mathlib.Data.List.TakeWhile

/-!
# What a window remembers

Messages arrive in any order, and a message may come again after its window has moved past it. The
window copes with both. It keeps the messages in the order of their send times, so that trimming and
the test for activity need to look at one end only, and what it holds is a matter of the messages
that were seen, not of the order in which they came: exactly those that are less than the width
older than the newest.

`Window.Recalls` states this law for the sightings so far, and `Recalls.record` carries it over one
message more. The one thing asked of the messages is that a number stands for one message, with one
send time.
-/

namespace GuildModeration.Spam.Window

variable {w : Window} {width time : Int} {s t : Sighting}

/-! ## Order -/

/-- The messages stand in the order of their send times. -/
def Ordered (w : Window) : Prop :=
  w.Pairwise fun s t ↦ s.sentAt ≤ t.sentAt

theorem ordered_nil : Ordered [] :=
  List.Pairwise.nil

theorem Ordered.sublist {w' : Window} (h : w.Ordered) (hsub : w'.Sublist w) : w'.Ordered :=
  List.Pairwise.sublist hsub h

/-- Dropping old messages from the front drops all of them. -/
theorem Ordered.mem_dropWhile_iff (h : w.Ordered) (time : Int) :
    s ∈ w.dropWhile (fun t ↦ decide (t.sentAt ≤ time)) ↔ s ∈ w ∧ time < s.sentAt := by
  induction w with
  | nil => simp
  | cons a w ih =>
    obtain ⟨ha, hw⟩ := List.pairwise_cons.mp h
    by_cases hold : a.sentAt ≤ time
    · rw [List.dropWhile_cons, if_pos (decide_eq_true hold), ih hw, List.mem_cons]
      constructor
      · rintro ⟨hs, hlt⟩
        exact ⟨Or.inr hs, hlt⟩
      · rintro ⟨rfl | hs, hlt⟩
        · omega
        · exact ⟨hs, hlt⟩
    · -- the first that stays keeps all that are behind it
      rw [List.dropWhile_cons, if_neg (by simpa using hold)]
      refine ⟨fun hs ↦ ⟨hs, ?_⟩, fun hs ↦ hs.1⟩
      rcases List.mem_cons.mp hs with rfl | hs
      · omega
      · have hle := ha s hs
        omega

theorem Ordered.le_getLast (h : w.Ordered) {newest : Sighting} (hlast : w.getLast? = some newest)
    (hs : s ∈ w) : s.sentAt ≤ newest.sentAt := by
  obtain ⟨front, rfl⟩ := List.getLast?_eq_some_iff.mp hlast
  rcases List.mem_append.mp hs with hs | hs
  · exact (List.pairwise_append.mp h).2.2 s hs newest (List.mem_singleton_self _)
  · rw [List.mem_singleton.mp hs]

/-- The last message decides whether some message is new enough. -/
theorem Ordered.isActive_iff (h : w.Ordered) (time : Int) :
    w.isActive time = true ↔ ∃ s ∈ w, time < s.sentAt := by
  rw [isActive]
  cases hlast : w.getLast? with
  | none =>
    rw [List.getLast?_eq_none_iff.mp hlast]
    simp
  | some newest =>
    rw [Option.map_some, Option.getD_some, decide_eq_true_eq]
    constructor
    · exact fun hlt ↦ ⟨newest, List.mem_of_getLast? hlast, hlt⟩
    · rintro ⟨s, hs, hlt⟩
      have hle := h.le_getLast hlast hs
      omega

/-! ## Placing -/

theorem place_perm (w : Window) (s : Sighting) : (w.place s).Perm (s :: w) := by
  rw [place]
  refine List.perm_middle.trans ?_
  rw [List.takeWhile_append_dropWhile]

theorem Ordered.place (h : w.Ordered) (s : Sighting) : (w.place s).Ordered := by
  have hbehind : ∀ t ∈ w.dropWhile (fun t ↦ decide (t.sentAt ≤ s.sentAt)),
      s.sentAt ≤ t.sentAt := fun t ht ↦ Int.le_of_lt ((h.mem_dropWhile_iff s.sentAt).mp ht).2
  refine List.pairwise_append.mpr ⟨h.sublist (List.takeWhile_sublist _), ?_, ?_⟩
  · exact List.pairwise_cons.mpr ⟨hbehind, h.sublist (List.dropWhile_sublist _)⟩
  · intro t ht u hu
    have hle : t.sentAt ≤ s.sentAt := by simpa using List.mem_takeWhile_imp ht
    rcases List.mem_cons.mp hu with rfl | hu
    · exact hle
    · exact Int.le_trans hle (hbehind u hu)

theorem holds_iff {id : MessageId} : w.holds id = true ↔ ∃ t ∈ w, t.message = id := by
  simp [holds]

/-! ## Trimming -/

theorem trim_sublist (w : Window) (width : Int) : (w.trim width).Sublist w := by
  rw [trim]
  split
  · exact List.Sublist.refl _
  · exact List.dropWhile_sublist _

/-- Trimming keeps what no message of the window is too much newer than. -/
theorem Ordered.mem_trim_iff (h : w.Ordered) (width : Int) :
    s ∈ w.trim width ↔ s ∈ w ∧ ∀ t ∈ w, t.sentAt - width < s.sentAt := by
  rw [trim]
  cases hlast : w.getLast? with
  | none =>
    rw [List.getLast?_eq_none_iff.mp hlast]
    simp
  | some newest =>
    dsimp only
    rw [h.mem_dropWhile_iff]
    refine and_congr_right fun _ ↦ ⟨fun hlt t ht ↦ ?_, fun hall ↦ ?_⟩
    · have hle := h.le_getLast hlast ht
      omega
    · exact hall newest (List.mem_of_getLast? hlast)

/-- In a window that is in order something is left. -/
theorem Ordered.trim_ne_nil (h : w.Ordered) (hne : w ≠ []) (hwidth : 0 < width) :
    w.trim width ≠ [] := by
  have hnewest : ∀ t ∈ w, t.sentAt - width < (w.getLast hne).sentAt := by
    intro t ht
    have hle := h.le_getLast (List.getLast?_eq_some_getLast hne) ht
    omega
  exact List.ne_nil_of_mem ((h.mem_trim_iff width).mpr ⟨List.getLast_mem hne, hnewest⟩)

/-! ## Recording -/

/-- The window with a message in it, before it is trimmed. -/
def addNew (w : Window) (s : Sighting) : Window :=
  if w.holds s.message then w else w.place s

theorem record_eq (w : Window) (s : Sighting) (width : Int) :
    w.record s width = (w.addNew s).trim width := rfl

theorem Ordered.addNew (h : w.Ordered) (s : Sighting) : (w.addNew s).Ordered := by
  rw [Window.addNew]
  split
  · exact h
  · exact h.place s

theorem ids_nodup_addNew (h : (w.map (·.message)).Nodup) (s : Sighting) :
    ((w.addNew s).map (·.message)).Nodup := by
  rw [addNew]
  split
  · exact h
  · next hnew =>
    rw [((place_perm w s).map _).nodup_iff, List.map_cons, List.nodup_cons]
    refine ⟨fun hmem ↦ hnew (holds_iff.mpr ?_), h⟩
    simpa using hmem

theorem addNew_ne_nil (w : Window) (s : Sighting) : w.addNew s ≠ [] := by
  rw [addNew]
  split
  · next hold =>
    obtain ⟨t, ht, -⟩ := holds_iff.mp hold
    exact List.ne_nil_of_mem ht
  · exact List.ne_nil_of_mem ((place_perm w s).mem_iff.mpr List.mem_cons_self)

/-- A message of the window was just admitted, or it was there before. -/
theorem of_mem_addNew (h : t ∈ w.addNew s) : t = s ∨ t ∈ w := by
  rw [addNew] at h
  split at h
  · exact Or.inr h
  · exact List.mem_cons.mp ((place_perm w s).mem_iff.mp h)

theorem Ordered.record (h : w.Ordered) (s : Sighting) (width : Int) :
    (w.record s width).Ordered :=
  (h.addNew s).sublist (trim_sublist _ _)

theorem ids_nodup_record (h : (w.map (·.message)).Nodup) (s : Sighting) (width : Int) :
    ((w.record s width).map (·.message)).Nodup :=
  (ids_nodup_addNew h s).sublist ((trim_sublist _ _).map _)

theorem of_mem_record (h : t ∈ w.record s width) : t = s ∨ t ∈ w :=
  of_mem_addNew ((trim_sublist _ _).subset h)

/-! ## The law -/

/-- No sighting is `width` or more newer than `s`. -/
def IsRecent (width : Int) (seen : List Sighting) (s : Sighting) : Prop :=
  ∀ t ∈ seen, t.sentAt - width < s.sentAt

/-- The window holds the recent ones of the sightings so far, each message once and in order. -/
structure Recalls (width : Int) (seen : List Sighting) (w : Window) : Prop where
  ordered : w.Ordered
  ids_nodup : (w.map (·.message)).Nodup
  mem_iff : ∀ s, s ∈ w ↔ s ∈ seen ∧ IsRecent width seen s

theorem recalls_nil (width : Int) : Recalls width [] [] where
  ordered := ordered_nil
  ids_nodup := List.nodup_nil
  mem_iff s := by simp

variable {seen : List Sighting}

/-- The newest sighting is never forgotten. -/
theorem Recalls.exists_ge (h : Recalls width seen w) (hwidth : 0 < width) (hs : s ∈ seen) :
    ∃ t ∈ w, s.sentAt ≤ t.sentAt := by
  cases hmax : seen.argmax (·.sentAt) with
  | none =>
    rw [List.argmax_eq_none.mp hmax] at hs
    cases hs
  | some newest =>
    have hle : ∀ t ∈ seen, t.sentAt ≤ newest.sentAt := fun t ht ↦ List.le_of_mem_argmax ht hmax
    refine ⟨newest, (h.mem_iff newest).mpr ⟨List.argmax_mem hmax, fun t ht ↦ ?_⟩, hle s hs⟩
    have hle' := hle t ht
    omega

/-- The law lasts over one message more, whether it is new or comes again. -/
theorem Recalls.record (h : Recalls width seen w) (hwidth : 0 < width)
    (hsame : ∀ t ∈ seen, t.message = s.message → t = s) :
    Recalls width (seen ++ [s]) (w.record s width) := by
  have hmem : ∀ t, t ∈ w.addNew s ↔ t = s ∨ t ∈ w := by
    refine fun t ↦ ⟨of_mem_addNew, fun ht ↦ ?_⟩
    rw [addNew]
    split
    · next hold =>
      -- what the window holds under this number is this very message
      obtain ⟨u, hu, hid⟩ := holds_iff.mp hold
      obtain rfl := hsame u ((h.mem_iff u).mp hu).1 hid
      exact ht.elim (fun heq ↦ heq ▸ hu) id
    · rw [(place_perm w s).mem_iff, List.mem_cons]
      exact ht
  refine ⟨h.ordered.record s width, ids_nodup_record h.ids_nodup s width, fun t ↦ ?_⟩
  rw [record_eq, (h.ordered.addNew s).mem_trim_iff, hmem, List.mem_append, List.mem_singleton]
  constructor
  · rintro ⟨ht, hrecent⟩
    refine ⟨ht.symm.imp_left fun ht ↦ ((h.mem_iff t).mp ht).1, fun u hu ↦ ?_⟩
    rcases List.mem_append.mp hu with hu | hu
    · -- the newest of the window stands for all sightings, those it has lost included
      obtain ⟨v, hv, hle⟩ := h.exists_ge hwidth hu
      have hlt := hrecent v ((hmem v).mpr (Or.inr hv))
      omega
    · exact hrecent u ((hmem u).mpr (Or.inl (List.mem_singleton.mp hu)))
  · rintro ⟨ht, hrecent⟩
    constructor
    · refine ht.symm.imp_right fun ht ↦ (h.mem_iff t).mpr ⟨ht, fun u hu ↦ ?_⟩
      exact hrecent u (List.mem_append_left _ hu)
    · intro u hu
      refine hrecent u ?_
      rcases (hmem u).mp hu with rfl | hu
      · exact List.mem_concat_self
      · exact List.mem_append_left _ ((h.mem_iff u).mp hu).1

/-- A number stands for one message, with one send time. -/
def IsConsistent (seen : List Sighting) : Prop :=
  ∀ s ∈ seen, ∀ t ∈ seen, s.message = t.message → s = t

instance (seen : List Sighting) : Decidable (IsConsistent seen) :=
  inferInstanceAs (Decidable (∀ s ∈ seen, ∀ t ∈ seen, s.message = t.message → s = t))

theorem IsConsistent.of_subset {part : List Sighting} (h : IsConsistent seen) (hsub : part ⊆ seen) :
    IsConsistent part :=
  fun s hs t ht hid ↦ h s (hsub hs) t (hsub ht) hid

/-- A window that was empty recalls all that was recorded in it. -/
theorem recalls_foldl (hwidth : 0 < width) (hsame : IsConsistent seen) :
    Recalls width seen (seen.foldl (fun w s ↦ w.record s width) []) := by
  induction seen using List.reverseRecOn with
  | nil => exact recalls_nil width
  | append_singleton seen s ih =>
    rw [List.foldl_append]
    refine (ih (hsame.of_subset (List.subset_append_left _ _))).record hwidth fun t ht hid ↦ ?_
    exact hsame t (List.mem_append_left _ ht) s List.mem_concat_self hid

instance (width : Int) (seen : List Sighting) (s : Sighting) : Decidable (IsRecent width seen s) :=
  inferInstanceAs (Decidable (∀ t ∈ seen, t.sentAt - width < s.sentAt))

/-- How many messages a window that recalls some sightings counts up to a moment: of the different
ones that are recent, those that were sent in the `width` up to then. -/
def remembered (width time : Int) (seen : List Sighting) : Nat :=
  seen.dedup.countP fun s ↦ decide (IsRecent width seen s) &&
    (decide (time - width < s.sentAt) && decide (s.sentAt ≤ time))

theorem Recalls.perm (h : Recalls width seen w) :
    w.Perm (seen.dedup.filter fun s ↦ decide (IsRecent width seen s)) := by
  have hnodup : w.Nodup := List.Nodup.of_map _ h.ids_nodup
  refine (List.perm_ext_iff_of_nodup hnodup (seen.nodup_dedup.filter _)).mpr fun s ↦ ?_
  rw [h.mem_iff, List.mem_filter, List.mem_dedup, decide_eq_true_eq]

theorem Recalls.countUpTo_eq (h : Recalls width seen w) (time : Int) :
    w.countUpTo time width = remembered width time seen := by
  rw [countUpTo, h.perm.countP_eq, List.countP_filter, remembered]
  exact List.countP_congr fun s _ ↦ by rw [Bool.and_comm]

/-- If nothing newer was seen, all that was sent in the width up to a moment is counted. -/
theorem remembered_of_le (hle : ∀ s ∈ seen, s.sentAt ≤ time) :
    remembered width time seen = seen.dedup.countP fun s ↦ decide (time - width < s.sentAt) := by
  refine List.countP_congr fun s hs ↦ ?_
  rw [List.mem_dedup] at hs
  have hrecent : time - width < s.sentAt → IsRecent width seen s := by
    intro hlt t ht
    have htime := hle t ht
    omega
  simpa [hle s hs] using hrecent

/-- If all that was seen lies within the width, all that was sent up to one of the messages is
counted. -/
theorem remembered_of_close (hnodup : seen.Nodup)
    (hclose : ∀ s ∈ seen, ∀ t ∈ seen, s.sentAt - width < t.sentAt) (hs : s ∈ seen) :
    remembered width s.sentAt seen = seen.countP fun t ↦ decide (t.sentAt ≤ s.sentAt) := by
  rw [remembered, hnodup.dedup]
  refine List.countP_congr fun t ht ↦ ?_
  have hrecent : IsRecent width seen t := fun u hu ↦ hclose u hu t ht
  simp [hrecent, hclose s hs t ht]

end GuildModeration.Spam.Window
