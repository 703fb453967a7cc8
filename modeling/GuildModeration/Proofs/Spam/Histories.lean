import GuildModeration.Proofs.Spam.Checks
import Mathlib.Data.List.Sort

/-!
# Windows in any order of delivery

Messages of one key are recorded in any order, and some of them more than once. After each of them
the window and the count are given by the messages recorded so far, as `Window.Recalls` has it: the
newest send time decides which of them still stand there, and the order in which they came decides
nothing but the order of those that were sent at the same time.

A message that comes again may be known to the window or forgotten by it. A forgotten one is placed
as if it were new. It is older than all that stand in the window, so it is placed in front, and the
trimming that follows takes it away and stops there (`Window.Recalls.record_again`).
-/

namespace GuildModeration.Spam

/-- The newest send time of some messages, and zero if there are none. -/
def newestTime (seen : List Sighting) : Int :=
  (seen.map (·.sentAt)).max?.getD 0

theorem newestTime_spec {seen : List Sighting} (h : seen ≠ []) :
    (∃ t ∈ seen, t.sentAt = newestTime seen) ∧ ∀ t ∈ seen, t.sentAt ≤ newestTime seen := by
  cases hmax : (seen.map (·.sentAt)).max? with
  | none => exact absurd (List.map_eq_nil_iff.mp (List.max?_eq_none_iff.mp hmax)) h
  | some newest =>
    obtain ⟨hmem, hle⟩ := List.max?_eq_some_iff.mp hmax
    rw [newestTime, hmax, Option.getD_some]
    exact ⟨List.mem_map.mp hmem, fun t ht ↦ hle _ (List.mem_map_of_mem ht)⟩

namespace Window

variable {w w' : Window} {width : Int} {s v : Sighting} {seen seen' : List Sighting}

/-- It is enough to compare a message with the newest one. -/
theorem isRecent_iff (h : seen ≠ []) :
    IsRecent width seen s ↔ newestTime seen - width < s.sentAt := by
  obtain ⟨⟨newest, hmem, htime⟩, hle⟩ := newestTime_spec h
  constructor
  · intro hrecent
    rw [← htime]
    exact hrecent newest hmem
  · intro hlt t ht
    have hle' := hle t ht
    omega

/-! ## Messages that come again -/

theorem trim_eq_self (h : ∀ s ∈ w, IsRecent width w s) : w.trim width = w := by
  rw [trim]
  cases hlast : w.getLast? with
  | none => rfl
  | some newest =>
    cases w with
    | nil => rfl
    | cons first rest =>
      have hlt := h first List.mem_cons_self newest (List.mem_of_getLast? hlast)
      exact List.dropWhile_cons_of_neg (by simpa using hlt)

/-- A message in front that is too old for one of the others is trimmed away with what is too old
among them. -/
theorem Ordered.trim_cons_of_old (h : w.Ordered) (hv : v ∈ w) (hold : s.sentAt ≤ v.sentAt - width) :
    trim (s :: w) width = w.trim width := by
  rw [trim, trim, List.getLast?_cons]
  cases hlast : w.getLast? with
  | none =>
    rw [List.getLast?_eq_none_iff.mp hlast] at hv
    cases hv
  | some newest =>
    have hle := h.le_getLast hlast hv
    rw [Option.getD_some]
    exact List.dropWhile_cons_of_pos (decide_eq_true (by omega))

theorem Recalls.isRecent (h : Recalls width seen w) (hs : s ∈ w) : IsRecent width w s :=
  fun t ht ↦ ((h.mem_iff s).mp hs).2 t ((h.mem_iff t).mp ht).1

/-- A message that was seen before leaves its window as it is, whether it is still in it or not. -/
theorem Recalls.record_again (h : Recalls width seen w) (hwidth : 0 < width) (hs : s ∈ seen) :
    w.record s width = w := by
  rw [Window.record]
  split
  · exact trim_eq_self fun t ht ↦ h.isRecent ht
  · next hunknown =>
    have hnot : ¬ IsRecent width seen s := fun hrecent ↦
      hunknown (holds_iff.mpr ⟨s, (h.mem_iff s).mpr ⟨hs, hrecent⟩, rfl⟩)
    obtain ⟨u, hu, hlate⟩ : ∃ u ∈ seen, s.sentAt ≤ u.sentAt - width := by
      simpa [IsRecent] using hnot
    obtain ⟨v, hv, hle⟩ := h.exists_ge hwidth hu
    -- what is still in the window is newer than what has left it
    have hfront : w.place s = s :: w := by
      rw [place]
      cases w with
      | nil => rfl
      | cons first rest =>
        have hlt := ((h.mem_iff first).mp List.mem_cons_self).2 u hu
        have hnewer : ¬ decide (first.sentAt ≤ s.sentAt) = true := by
          rw [decide_eq_true_eq]
          omega
        rw [List.takeWhile_cons, List.dropWhile_cons, if_neg hnewer, if_neg hnewer, List.nil_append]
    rw [hfront, h.ordered.trim_cons_of_old hv (by omega)]
    exact trim_eq_self fun t ht ↦ h.isRecent ht

/-! ## The order of delivery -/

/-- Windows that recall the same messages differ in no more than the order of those that were sent
at the same time. -/
theorem Recalls.same_times (h : Recalls width seen w) (h' : Recalls width seen' w')
    (hseen : ∀ s, s ∈ seen ↔ s ∈ seen') :
    w.Perm w' ∧ w.map (·.sentAt) = w'.map (·.sentAt) := by
  have hrecent : ∀ s, IsRecent width seen s ↔ IsRecent width seen' s := by
    intro s
    rw [IsRecent, IsRecent]
    exact forall_congr' fun t ↦ by rw [hseen]
  have hperm : w.Perm w' := by
    have hnodup : w.Nodup := List.Nodup.of_map _ h.ids_nodup
    have hnodup' : w'.Nodup := List.Nodup.of_map _ h'.ids_nodup
    refine (List.perm_ext_iff_of_nodup hnodup hnodup').mpr fun s ↦ ?_
    rw [h.mem_iff, h'.mem_iff, hseen, hrecent]
  refine ⟨hperm, ?_⟩
  have hsorted : (w.map (·.sentAt)).Pairwise (· ≤ ·) := List.pairwise_map.mpr h.ordered
  have hsorted' : (w'.map (·.sentAt)).Pairwise (· ≤ ·) := List.pairwise_map.mpr h'.ordered
  exact (hperm.map _).eq_of_pairwise' hsorted hsorted'

end Window

/-! ## Histories -/

namespace Tracker

variable {t : Tracker} {key : WindowKey} {width : Int} {history : List Sighting}

/-- The tracker after some messages of a key, recorded one after the other. -/
def recordAll (t : Tracker) (key : WindowKey) (width : Int) (history : List Sighting) : Tracker :=
  history.foldl (fun t s ↦ (t.record key s.message s.sentAt width).2) t

theorem windowOf_recordAll_eq (t : Tracker) (key : WindowKey) (width : Int)
    (history : List Sighting) : (t.recordAll key width history).windowOf key =
      history.foldl (fun w s ↦ w.record s width) (t.windowOf key) := by
  induction history generalizing t with
  | nil => rfl
  | cons s history ih =>
    rw [recordAll, List.foldl_cons, ← recordAll, ih, windowOf_record, if_pos rfl, List.foldl_cons]

theorem recordAll_concat (t : Tracker) (key : WindowKey) (width : Int) (history : List Sighting)
    (s : Sighting) : t.recordAll key width (history ++ [s]) =
      ((t.recordAll key width history).record key s.message s.sentAt width).2 := by
  rw [recordAll, List.foldl_append]
  rfl

/-- A window that was empty recalls the whole history. -/
theorem recalls_recordAll (hwidth : 0 < width) (hnew : t.windowOf key = [])
    (hsame : Window.IsConsistent history) :
    Window.Recalls width history ((t.recordAll key width history).windowOf key) := by
  rw [windowOf_recordAll_eq, hnew]
  exact Window.recalls_foldl hwidth hsame

/-- However the messages of a key are delivered, and however often. After each of them the window
holds, in the order of their send times, the different messages so far that are less than the width
older than the newest of them, and those of them that were not sent later than the message are
counted. Another order of delivery leads to the same window but for the order of messages that were
sent at the same time, and a message that comes again leaves the window as it is. -/
theorem windowOf_recordAll (hwidth : 0 < width) (hnew : t.windowOf key = [])
    (hsame : Window.IsConsistent history) :
    (∀ before s after, history = before ++ s :: after →
      let seen := before ++ [s]
      let recorded := (t.recordAll key width before).record key s.message s.sentAt width
      (recorded.2.windowOf key).Ordered ∧
      (recorded.2.windowOf key).Perm
        (seen.dedup.filter fun m ↦ decide (newestTime seen - width < m.sentAt)) ∧
      recorded.1 = seen.dedup.countP fun m ↦
        decide (newestTime seen - width < m.sentAt ∧ m.sentAt ≤ s.sentAt)) ∧
    (∀ t' history', windowOf t' key = [] → (∀ s, s ∈ history' ↔ s ∈ history) →
      ((t'.recordAll key width history').windowOf key).Perm
        ((t.recordAll key width history).windowOf key) ∧
      ((t'.recordAll key width history').windowOf key).map (·.sentAt) =
        ((t.recordAll key width history).windowOf key).map (·.sentAt)) ∧
    (∀ s ∈ history,
      ((t.recordAll key width history).record key s.message s.sentAt width).2.windowOf key =
        (t.recordAll key width history).windowOf key) := by
  refine ⟨?_, ?_, ?_⟩
  · rintro before s after rfl seen recorded
    have hsub : seen ⊆ before ++ s :: after := by
      rw [List.append_cons]
      exact List.subset_append_left _ _
    have hrecalls : Window.Recalls width seen (recorded.2.windowOf key) := by
      have h := recalls_recordAll hwidth hnew (hsame.of_subset hsub)
      rwa [recordAll_concat] at h
    have hrecent : ∀ m, Window.IsRecent width seen m ↔ newestTime seen - width < m.sentAt :=
      fun m ↦ Window.isRecent_iff (List.concat_ne_nil s before)
    refine ⟨hrecalls.ordered, ?_, ?_⟩
    · refine hrecalls.perm.trans (List.Perm.of_eq (List.filter_congr fun m _ ↦ ?_))
      rw [decide_eq_decide, hrecent]
    · have hcount : recorded.1 = (recorded.2.windowOf key).countUpTo s.sentAt width := by
        rw [record_fst, windowOf_record, if_pos rfl]
      rw [hcount, hrecalls.countUpTo_eq, Window.remembered]
      refine List.countP_congr fun m _ ↦ ?_
      -- a message that is recent lies within the width before any moment up to the newest
      have hle : s.sentAt ≤ newestTime seen :=
        (newestTime_spec (List.concat_ne_nil s before)).2 s List.mem_concat_self
      simp only [Bool.and_eq_true, decide_eq_true_eq, hrecent]
      omega
  · intro t' history' hnew' hmem
    have hsame' := hsame.of_subset fun s hs ↦ (hmem s).mp hs
    exact (recalls_recordAll hwidth hnew' hsame').same_times (recalls_recordAll hwidth hnew hsame)
      hmem
  · intro s hs
    rw [windowOf_record, if_pos rfl]
    exact (recalls_recordAll hwidth hnew hsame).record_again hwidth hs

/-- With a width of five the second message makes the window forget the first, which comes again
after the third; the last is late by two and not counted with those that were sent after it. -/
theorem windowOf_recordAll_late :
    let key : WindowKey := ⟨1, 2, 4⟩
    let history : List Sighting := [⟨0, 1⟩, ⟨10, 2⟩, ⟨10, 3⟩, ⟨0, 1⟩, ⟨8, 4⟩]
    let t := ({} : Tracker).recordAll key 5 history
    (0 : Int) < 5 ∧ ({} : Tracker).windowOf key = [] ∧ Window.IsConsistent history ∧
      (t.windowOf key).Perm [⟨10, 2⟩, ⟨10, 3⟩, ⟨8, 4⟩] ∧
      (({} : Tracker).recordAll key 5 (history.take 4)).record key 4 8 5 = (1, t) ∧
      (t.record key 1 0 5).2.windowOf key = t.windowOf key := by
  intro key history t
  have hwidth : (0 : Int) < 5 := by decide
  have hnew : ({} : Tracker).windowOf key = [] := rfl
  have hsame : Window.IsConsistent history := by decide
  obtain ⟨hlaw, -, hagain⟩ := windowOf_recordAll hwidth hnew hsame
  obtain ⟨-, hperm, hcount⟩ := hlaw (history.take 4) ⟨8, 4⟩ [] rfl
  have hlast : (({} : Tracker).recordAll key 5 (history.take 4)).record key 4 8 5 = (1, t) :=
    Prod.ext (hcount.trans (by decide)) rfl
  refine ⟨hwidth, hnew, hsame, ?_, hlast, hagain ⟨0, 1⟩ (by decide)⟩
  exact hperm.trans (List.Perm.of_eq (by decide))

end Tracker

end GuildModeration.Spam
