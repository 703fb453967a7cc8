import GuildModeration.Proofs.Spam.Bursts
import GuildModeration.Proofs.Spam.Histories

/-!
# Messages that are checked again

An edit has its message checked again, with the send time it always had. Two things are asked of
this. The checks of other messages must not notice it, and the message itself must not be found to
be spam for what its author wrote later.

The first holds because a message that comes again leaves its window as it is, also when the window
has forgotten it (`Window.Recalls.record_again`). So a run and the same run without the repetitions
go through the same windows, and no order of the messages is needed for that. The second is where
the order comes in. If messages are delivered in the order of their send times, then all that a
later check of a message can count was there at its first check; what has been trimmed away since
then makes it only less.
-/

namespace GuildModeration

namespace SpamCheck

open Spam

/-- The message was checked before. -/
def ComesAgain (key : WindowKey) (before : List SpamCheck) (c : SpamCheck) : Prop :=
  c.key = key ∧ c.sighting ∈ sightings key before

instance (key : WindowKey) (before : List SpamCheck) (c : SpamCheck) :
    Decidable (ComesAgain key before c) :=
  inferInstanceAs (Decidable (_ ∧ _))

/-- The checks without those of messages of a key that come again. -/
def firsts (key : WindowKey) (checks : List SpamCheck) : List SpamCheck :=
  checks.foldl (fun kept c ↦ if ComesAgain key kept c then kept else kept ++ [c]) []

/-- The messages of a key are delivered in the order of their send times, repetitions apart. -/
def IsChronological (key : WindowKey) (checks : List SpamCheck) : Prop :=
  (sightings key (firsts key checks)).Pairwise fun s t ↦ s.sentAt < t.sentAt

instance (key : WindowKey) (checks : List SpamCheck) : Decidable (IsChronological key checks) :=
  inferInstanceAs (Decidable (List.Pairwise _ _))

variable {r : SpamRule} {key : WindowKey} {state state' : RuleState} {c : SpamCheck}
  {checks before : List SpamCheck}

/-! ## Runs without repetitions -/

theorem firsts_concat (key : WindowKey) (checks : List SpamCheck) (c : SpamCheck) :
    firsts key (checks ++ [c]) =
      if ComesAgain key (firsts key checks) c then firsts key checks
      else firsts key checks ++ [c] := by
  rw [firsts, List.foldl_append]
  rfl

/-- Every message is in the run without repetitions, too. -/
theorem mem_sightings_firsts {s : Sighting} :
    s ∈ sightings key (firsts key checks) ↔ s ∈ sightings key checks := by
  induction checks using List.reverseRecOn with
  | nil => rfl
  | append_singleton checks c ih =>
    rw [firsts_concat, sightings_append, List.mem_append]
    by_cases hagain : ComesAgain key (firsts key checks) c
    · rw [if_pos hagain, ih, sightings_singleton hagain.1, List.mem_singleton]
      refine (or_iff_left_of_imp ?_).symm
      rintro rfl
      exact ih.mp hagain.2
    · rw [if_neg hagain, sightings_append, List.mem_append, ih]

theorem comesAgain_firsts_iff : ComesAgain key (firsts key before) c ↔ ComesAgain key before c :=
  and_congr_right fun _ ↦ mem_sightings_firsts

theorem firsts_concat_of_again (h : ComesAgain key before c) :
    firsts key (before ++ [c]) = firsts key before := by
  rw [firsts_concat, if_pos (comesAgain_firsts_iff.mpr h)]

theorem firsts_concat_of_first (h : ¬ ComesAgain key before c) :
    firsts key (before ++ [c]) = firsts key before ++ [c] := by
  rw [firsts_concat, if_neg (mt comesAgain_firsts_iff.mp h)]

/-- What comes later stands behind what came before, also without repetitions. -/
theorem prefix_firsts (key : WindowKey) (before after : List SpamCheck) :
    firsts key before <+: firsts key (before ++ after) := by
  induction after using List.reverseRecOn with
  | nil => simp
  | append_singleton after c ih =>
    rw [← List.append_assoc, firsts_concat]
    split
    · exact ih
    · exact ih.trans (List.prefix_append _ _)

/-- A message that comes for the first time is delivered in the run without repetitions, after those
that are delivered before it there. -/
theorem prefix_firsts_of_first (h : ¬ ComesAgain key before c) (after : List SpamCheck) :
    firsts key before ++ [c] <+: firsts key (before ++ c :: after) := by
  rw [← firsts_concat_of_first h, List.append_cons before c after]
  exact prefix_firsts key (before ++ [c]) after

/-! ## Nobody notices a repetition -/

/-- Two states hold the same windows. -/
def SameWindows (state state' : RuleState) : Prop :=
  ∀ key, state'.spam.windowOf key = state.spam.windowOf key

theorem SameWindows.answer_eq (h : SameWindows state state') (c : SpamCheck) :
    c.answer state' = c.answer state := by
  by_cases hon : c.rule.IsOn
  · rw [answer_of_isOn hon, answer_of_isOn hon, h]
  · rw [answer_of_not_isOn hon, answer_of_not_isOn hon]

theorem SameWindows.after (h : SameWindows state state') (c : SpamCheck) :
    SameWindows (c.after state) (c.after state') := by
  intro key
  by_cases hon : c.rule.IsOn
  · rw [windowOf_after_of_isOn hon, windowOf_after_of_isOn hon, h, h]
  · rw [windowOf_after_of_not_isOn hon, windowOf_after_of_not_isOn hon, h]

/-- The check of a message that comes again leaves all windows as they are. -/
theorem sameWindows_of_comesAgain (hon : r.IsOn) (hnew : state.spam.windowOf key = [])
    (hsteady : IsSteady r key (before ++ [c])) (hagain : ComesAgain key before c) :
    SameWindows (run state before) (run state (before ++ [c])) := by
  intro other
  rw [run_concat]
  by_cases hkey : c.key = other
  · obtain rfl := hagain.1
    obtain rfl := hkey
    obtain rfl := hsteady.rule_eq c List.mem_concat_self rfl
    have hbefore := hsteady.of_append
    have hrecalls := recalls_run hon hnew hbefore.rule_eq hbefore.eq_of_id_eq
    rw [windowOf_after_of_isOn hon, if_pos rfl]
    exact hrecalls.record_again hon.width_pos hagain.2
  · exact windowOf_after_of_ne hkey _

/-- A run goes through the same windows as the run without repetitions. -/
theorem sameWindows_firsts (hon : r.IsOn) (hnew : state.spam.windowOf key = [])
    (hsteady : IsSteady r key checks) :
    SameWindows (run state checks) (run state (firsts key checks)) := by
  induction checks using List.reverseRecOn with
  | nil => exact fun _ ↦ rfl
  | append_singleton checks c ih =>
    have hsame := ih hsteady.of_append
    by_cases hagain : ComesAgain key checks c
    · rw [firsts_concat_of_again hagain]
      intro other
      rw [hsame, sameWindows_of_comesAgain hon hnew hsteady hagain]
    · rw [firsts_concat_of_first hagain, run_concat, run_concat]
      exact hsame.after c

/-! ## A message is not held to what was written later -/

/-- What was not sent after a message was checked no later than the message itself. -/
theorem IsChronological.mem_of_le {after : List SpamCheck}
    (h : IsChronological key (before ++ c :: after)) (hkey : c.key = key)
    (hfirst : ¬ ComesAgain key before c) {s : Sighting}
    (hs : s ∈ sightings key (before ++ c :: after)) (hle : s.sentAt ≤ c.message.sentAt) :
    s ∈ sightings key (before ++ [c]) := by
  obtain ⟨later, hlater⟩ := prefix_firsts_of_first hfirst after
  rw [IsChronological, ← hlater, sightings_append, List.pairwise_append] at h
  rw [← mem_sightings_firsts, ← hlater, sightings_append, List.mem_append] at hs
  rcases hs with hs | hs
  · rw [sightings_append, List.mem_append, mem_sightings_firsts] at hs
    rw [sightings_append, List.mem_append]
    exact hs
  · have hmem : c.sighting ∈ sightings key (firsts key before ++ [c]) := by
      rw [sightings_concat hkey]
      exact List.mem_concat_self
    have hlt : c.message.sentAt < s.sentAt := h.2.2 c.sighting hmem s hs
    omega

/-- The first check of a message counts all that was sent in the width up to it. -/
theorem IsChronological.remembered_eq {width : Int} (h : IsChronological key (before ++ [c]))
    (hkey : c.key = key) (hfirst : ¬ ComesAgain key before c) :
    Window.remembered width c.message.sentAt (sightings key (before ++ [c])) =
      (sightings key (before ++ [c])).dedup.countP fun s ↦
        decide (c.message.sentAt - width < s.sentAt) := by
  refine Window.remembered_of_le fun s hs ↦ ?_
  rw [IsChronological, firsts_concat_of_first hfirst, sightings_concat hkey,
    List.pairwise_append] at h
  rw [sightings_concat hkey, List.mem_append, List.mem_singleton] at hs
  rcases hs with hs | rfl
  · have hlt := h.2.2 s (mem_sightings_firsts.mpr hs) c.sighting (List.mem_singleton_self _)
    exact Int.le_of_lt hlt
  · exact Int.le_refl _

theorem IsChronological.of_append {more : List SpamCheck}
    (h : IsChronological key (checks ++ more)) : IsChronological key checks := by
  obtain ⟨later, hlater⟩ := prefix_firsts key checks more
  rw [IsChronological, ← hlater, sightings_append, List.pairwise_append] at h
  exact h.1

/-- A later check of a message counts no more than its first check. -/
theorem IsChronological.remembered_le {width : Int} {between : List SpamCheck}
    (h : IsChronological key (before ++ c :: between)) (hkey : c.key = key)
    (hfirst : ¬ ComesAgain key before c) :
    Window.remembered width c.message.sentAt (sightings key (before ++ c :: between)) ≤
      Window.remembered width c.message.sentAt (sightings key (before ++ [c])) := by
  have hsofar : IsChronological key (before ++ [c]) := by
    rw [List.append_cons] at h
    exact h.of_append
  rw [hsofar.remembered_eq hkey hfirst, Window.remembered, List.countP_eq_length_filter,
    List.countP_eq_length_filter]
  refine (List.subperm_of_subset ((List.nodup_dedup _).filter _) fun s hs ↦ ?_).length_le
  rw [List.mem_filter, List.mem_dedup] at hs ⊢
  simp only [Bool.and_eq_true, decide_eq_true_eq] at hs ⊢
  obtain ⟨hmem, -, hlt, hle⟩ := hs
  exact ⟨h.mem_of_le hkey hfirst hmem hle, hlt⟩

/-- Messages of one author in one channel are checked in the order of their send times, and then
again any number of times, at any moments, with checks of any other messages between them. Every
check but those of messages that come again answers what it answers in the run without them, and a
message that comes again is found to be a violation only if it was at its first check. -/
theorem answer_despite_repetitions (hon : r.IsOn) (hnew : state.spam.windowOf key = [])
    (hsteady : IsSteady r key checks) (hchronological : IsChronological key checks) :
    (∀ before c after, checks = before ++ c :: after → ¬ ComesAgain key before c →
      firsts key before ++ [c] <+: firsts key checks ∧
        c.answer (run state before) = c.answer (run state (firsts key before))) ∧
    (∀ before first between again after,
      checks = before ++ first :: (between ++ again :: after) →
      first.key = key → ¬ ComesAgain key before first →
      again.key = key → again.message.id = first.message.id →
      again.flags (run state (before ++ first :: between)) = true →
        first.flags (run state before) = true) := by
  constructor
  · rintro before c after rfl hfirst
    refine ⟨prefix_firsts_of_first hfirst after, ?_⟩
    exact ((sameWindows_firsts hon hnew hsteady.of_append).answer_eq c).symm
  · rintro before first between again after rfl hkey hfirst hagainKey hid hflags
    have hsplit : before ++ first :: (between ++ again :: after) =
        before ++ first :: (between ++ [again]) ++ after := by simp
    rw [hsplit] at hsteady hchronological
    have hsteady := hsteady.of_append
    have hchronological := hchronological.of_append
    -- a number stands for one message, so both checks are of the same
    have hsame : again.sighting = first.sighting := by
      refine hsteady.eq_of_id_eq _ (mem_sightings_iff.mpr ?_) _ (mem_sightings_iff.mpr ?_) hid
      · exact ⟨again, by simp, hagainKey, rfl⟩
      · exact ⟨first, by simp, hkey, rfl⟩
    have htime : again.message.sentAt = first.message.sentAt := congrArg Sighting.sentAt hsame
    have hfewer : Window.remembered r.width again.message.sentAt
          (sightings key (before ++ first :: between ++ [again])) ≤
        Window.remembered r.width first.message.sentAt (sightings key (before ++ [first])) := by
      rw [htime, List.append_assoc, List.cons_append]
      exact hchronological.remembered_le hkey hfirst
    have hsteadyFirst : IsSteady r key (before ++ [first]) := by
      rw [List.append_cons] at hsteady
      exact hsteady.of_append
    rw [← List.cons_append, ← List.append_assoc] at hsteady
    rw [flags_iff (answer_of_run hon hnew hsteady hagainKey)] at hflags
    rw [flags_iff (answer_of_run hon hnew hsteadyFirst hkey)]
    exact Nat.lt_of_lt_of_le hflags hfewer

/-- Of three messages under a limit of one in five seconds the third is one too many. The first is
checked again when the window has forgotten it, the second when another one has followed. -/
theorem answer_despite_repetitions_of_edits :
    let r : SpamRule := { settings := .enabledWith .mute 10, maxMessages := 1 }
    let checks := [sent r 1 0, sent r 2 10000000, sent r 1 0, sent r 3 11000000, sent r 2 10000000]
    r.IsOn ∧ ({} : RuleState).spam.windowOf ⟨1, 2, 4⟩ = [] ∧ IsSteady r ⟨1, 2, 4⟩ checks ∧
      IsChronological ⟨1, 2, 4⟩ checks ∧
      firsts ⟨1, 2, 4⟩ (checks.take 3) = checks.take 2 ∧
      (sent r 3 11000000).answer (run {} (checks.take 3)) =
        (sent r 3 11000000).answer (run {} (checks.take 2)) ∧
      ¬ (sent r 2 10000000).flags (run {} (checks.take 4)) = true := by
  intro r checks
  have hon : r.IsOn := by decide
  have hnew : ({} : RuleState).spam.windowOf ⟨1, 2, 4⟩ = [] := rfl
  have hsteady : IsSteady r ⟨1, 2, 4⟩ checks := ⟨by decide, by decide⟩
  have hchronological : IsChronological ⟨1, 2, 4⟩ checks := by decide
  have hfirsts : firsts ⟨1, 2, 4⟩ (checks.take 3) = checks.take 2 := rfl
  obtain ⟨hsame, honce⟩ := answer_despite_repetitions hon hnew hsteady hchronological
  refine ⟨hon, hnew, hsteady, hchronological, hfirsts, ?_, fun hflags ↦ ?_⟩
  · have hthird := (hsame (checks.take 3) (sent r 3 11000000) [sent r 2 10000000] rfl
      (by decide)).2
    rwa [hfirsts] at hthird
  · have hfirst := honce [sent r 1 0] (sent r 2 10000000) [sent r 1 0, sent r 3 11000000]
      (sent r 2 10000000) [] rfl rfl (by decide) rfl rfl hflags
    exact absurd hfirst (by decide)

end SpamCheck

end GuildModeration
