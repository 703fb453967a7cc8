import GuildModeration.Proofs.Spam.Checks

/-!
# Windows of a tracker

Messages of all keys are recorded in any order, each with a width of its own, and idle windows are
dropped between them. Whatever was done to a tracker, each of its windows is in order and holds
every message once, and none is empty. This is what the tracker relies on when it looks at one end
of a window only: recording trims at the front, and a pass asks the last message whether a window is
idle.
-/

namespace GuildModeration.Spam

/-- What makes a window one that a tracker can hold. -/
structure Window.IsTracked (w : Window) : Prop where
  ne_nil : w ≠ []
  ordered : w.Ordered
  ids_nodup : (w.map (·.message)).Nodup

/-- What can be done to a tracker. -/
inductive TrackerCall where
  | record (key : WindowKey) (id : MessageId) (time width : Int) (width_pos : 0 < width)
  | prune (now maxAge : Int)

namespace Tracker

/-- The tracker after a call. -/
def call (t : Tracker) : TrackerCall → Tracker
  | .record key id time width _ => (t.record key id time width).2
  | .prune now maxAge => (t.prune now maxAge).2

/-- The tracker after some calls. -/
def callAll (t : Tracker) (calls : List TrackerCall) : Tracker :=
  calls.foldl call t

variable {t : Tracker} {key : WindowKey} {w : Window}

/-- All windows of the tracker are in order, hold every message once and are not empty. -/
def IsSound (t : Tracker) : Prop :=
  ∀ key w, t.windows.find? key = some w → w.IsTracked

theorem find?_prune (t : Tracker) (now maxAge : Int) (key : WindowKey) :
    (t.prune now maxAge).2.windows.find? key =
      (t.windows.find? key).filter (·.isActive (now - maxAge)) :=
  Table.find?_filter _ _ _

/-- A window that is made of a new key, or one that is tracked, is tracked with a message more. -/
theorem IsSound.isTracked_record (h : t.IsSound) (s : Sighting) {width : Int} (hwidth : 0 < width) :
    ((t.windowOf key).record s width).IsTracked := by
  have hwindow : (t.windowOf key).Ordered ∧ ((t.windowOf key).map (·.message)).Nodup := by
    rw [windowOf]
    cases hfind : t.windows.find? key with
    | none => exact ⟨Window.ordered_nil, List.nodup_nil⟩
    | some w => exact ⟨(h key w hfind).ordered, (h key w hfind).ids_nodup⟩
  obtain ⟨hordered, hids⟩ := hwindow
  exact
    { ne_nil := (hordered.addNew s).trim_ne_nil (Window.addNew_ne_nil _ s) hwidth
      ordered := hordered.record s width
      ids_nodup := Window.ids_nodup_record hids s width }

theorem IsSound.call (h : t.IsSound) (c : TrackerCall) : (t.call c).IsSound := by
  intro other w hfind
  cases c with
  | record key id time width width_pos =>
    rw [Tracker.call, find?_record] at hfind
    split at hfind
    · rw [Option.some.injEq] at hfind
      exact hfind ▸ h.isTracked_record ⟨time, id⟩ width_pos
    · exact h other w hfind
  | prune now maxAge =>
    rw [Tracker.call, find?_prune, Option.filter_eq_some_iff] at hfind
    exact h other w hfind.1

theorem IsSound.callAll (h : t.IsSound) (calls : List TrackerCall) : (t.callAll calls).IsSound := by
  induction calls generalizing t with
  | nil => exact h
  | cons c calls ih => exact ih (h.call c)

/-- A pass keeps the windows with a message that is new enough, as they are. -/
theorem IsSound.find?_prune_iff (h : t.IsSound) (now maxAge : Int) :
    (t.prune now maxAge).2.windows.find? key = some w ↔
      t.windows.find? key = some w ∧ ∃ s ∈ w, now - maxAge < s.sentAt := by
  rw [find?_prune, Option.filter_eq_some_iff]
  exact and_congr_right fun hfind ↦ (h key w hfind).ordered.isActive_iff _

/-- A pass counts the windows without such a message. -/
theorem IsSound.prune_fst (h : t.IsSound) (now maxAge : Int) :
    (t.prune now maxAge).1 =
      t.windows.entries.countP fun e ↦ decide (∀ s ∈ e.2, s.sentAt ≤ now - maxAge) := by
  let keeps : WindowKey × Window → Bool := fun e ↦ e.2.isActive (now - maxAge)
  have hidle : t.windows.entries.countP (fun e ↦ decide (∀ s ∈ e.2, s.sentAt ≤ now - maxAge)) =
      t.windows.entries.countP fun e ↦ decide ¬ keeps e = true := by
    refine List.countP_congr fun e he ↦ ?_
    have hactive := (h e.1 e.2 (Table.mem_entries_iff.mp he)).ordered.isActive_iff (now - maxAge)
    simp [keeps, hactive]
  have hsplit := List.length_eq_countP_add_countP (l := t.windows.entries) keeps
  have hkept : (t.prune now maxAge).2.size = t.windows.entries.countP keeps :=
    List.countP_eq_length_filter.symm
  have hcount : (t.prune now maxAge).1 = t.windows.entries.length - (t.prune now maxAge).2.size :=
    rfl
  rw [hidle, hcount, hkept]
  omega

/-- Whatever was recorded and dropped before, every window of a tracker holds something, in the
order of the send times and every message once. Recording a message changes no other window. A pass
takes away exactly the windows none of whose messages is newer than the age it is given, counts
them, and leaves the others as they are. -/
theorem windows_callAll (calls : List TrackerCall) :
    let t := ({} : Tracker).callAll calls
    (∀ key w, t.windows.find? key = some w →
      w ≠ [] ∧ w.Ordered ∧ (w.map (·.message)).Nodup) ∧
    (∀ key id time width other, other ≠ key →
      (t.record key id time width).2.windows.find? other = t.windows.find? other) ∧
    ∀ now maxAge,
      (∀ key w, (t.prune now maxAge).2.windows.find? key = some w ↔
        t.windows.find? key = some w ∧ ∃ s ∈ w, now - maxAge < s.sentAt) ∧
      (t.prune now maxAge).1 =
        t.windows.entries.countP fun e ↦ decide (∀ s ∈ e.2, s.sentAt ≤ now - maxAge) := by
  intro t
  have hempty : ({} : Tracker).IsSound := by
    intro key w hfind
    cases hfind
  have hsound : t.IsSound := hempty.callAll calls
  refine ⟨fun key w hfind ↦ ?_, ?_, fun now maxAge ↦ ⟨?_, hsound.prune_fst now maxAge⟩⟩
  · obtain ⟨hne, hordered, hids⟩ := hsound key w hfind
    exact ⟨hne, hordered, hids⟩
  · intro key id time width other hne
    rw [find?_record, if_neg hne.symm]
  · exact fun key w ↦ hsound.find?_prune_iff now maxAge

end Tracker

end GuildModeration.Spam
