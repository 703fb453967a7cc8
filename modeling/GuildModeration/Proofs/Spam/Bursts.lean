import GuildModeration.Proofs.Spam.Checks

/-!
# Bursts in any order of delivery

A check looks back from the send time of its own message and counts what was sent up to then, so
that a message checked again is never held against what its author wrote later. All messages of a
burst are in the window from the moment they are checked, whatever their order; but it takes a
message that comes after enough older ones to count them. A burst whose newest message comes last is
found, and one that is delivered the other way round is not.

The count of a check is a matter of what was checked before it (`SpamCheck.answer_of_run`). What is
said of bursts is this count for messages that were all sent within the width of the rule.
-/

namespace GuildModeration

namespace SpamCheck

open Spam

/-- The check finds a violation. -/
def flags (c : SpamCheck) (state : RuleState) : Bool :=
  match c.answer state with
  | .ok (some _) => true
  | _ => false

/-- The check of some message of a key finds a violation. -/
def detects (key : WindowKey) : RuleState → List SpamCheck → Bool
  | _, [] => false
  | state, c :: checks => (c.key == key && c.flags state) || detects key (c.after state) checks

/-- How many checks were of messages of a key that were sent up to a moment. -/
def sentBy (key : WindowKey) (time : Int) (checks : List SpamCheck) : Nat :=
  (sightings key checks).countP fun s ↦ decide (s.sentAt ≤ time)

/-- The checks of a key are by one rule, and a number stands for one message there. -/
structure IsSteady (r : SpamRule) (key : WindowKey) (checks : List SpamCheck) : Prop where
  rule_eq : ∀ c ∈ checks, c.key = key → c.rule = r
  eq_of_id_eq : ∀ s ∈ sightings key checks, ∀ t ∈ sightings key checks,
    s.message = t.message → s = t

/-- Different messages that were all sent within a width. -/
structure IsBurst (width : Int) (burst : List Sighting) : Prop where
  nodup : burst.Nodup
  close : ∀ s ∈ burst, ∀ t ∈ burst, s.sentAt - width < t.sentAt

variable {r : SpamRule} {key : WindowKey} {state : RuleState}

theorem detects_iff {checks : List SpamCheck} : detects key state checks = true ↔
    ∃ before c after, checks = before ++ c :: after ∧ c.key = key ∧
      c.flags (run state before) = true := by
  induction checks generalizing state with
  | nil => simp [detects]
  | cons c checks ih =>
    rw [detects, Bool.or_eq_true, Bool.and_eq_true, beq_iff_eq, ih]
    constructor
    · rintro (⟨hkey, hflags⟩ | ⟨before, d, after, rfl, hkey, hflags⟩)
      · exact ⟨[], c, checks, rfl, hkey, hflags⟩
      · exact ⟨c :: before, d, after, rfl, hkey, hflags⟩
    · rintro ⟨before, d, after, heq, hkey, hflags⟩
      cases before with
      | nil =>
        obtain ⟨rfl, -⟩ := List.cons.inj heq
        exact Or.inl ⟨hkey, hflags⟩
      | cons e before =>
        obtain ⟨rfl, rfl⟩ := List.cons.inj heq
        exact Or.inr ⟨before, d, after, rfl, hkey, hflags⟩

theorem IsSteady.of_append {checks more : List SpamCheck} (h : IsSteady r key (checks ++ more)) :
    IsSteady r key checks where
  rule_eq c hc := h.rule_eq c (List.mem_append_left _ hc)
  eq_of_id_eq s hs t ht := by
    apply h.eq_of_id_eq
    · exact sightings_append key checks more ▸ List.mem_append_left _ hs
    · exact sightings_append key checks more ▸ List.mem_append_left _ ht

theorem IsBurst.of_append {width : Int} {burst more : List Sighting}
    (h : IsBurst width (burst ++ more)) : IsBurst width burst where
  nodup := (List.nodup_append.mp h.nodup).1
  close s hs t ht := h.close s (List.mem_append_left _ hs) t (List.mem_append_left _ ht)

/-! ## One check of a run -/

section Answer

variable {before : List SpamCheck} {c : SpamCheck}

/-- The answer of a check is a matter of the messages of its key that were checked so far. -/
theorem answer_of_run (hon : r.IsOn) (hnew : state.spam.windowOf key = [])
    (hsteady : IsSteady r key (before ++ [c])) (hkey : c.key = key) :
    c.answer (run state before) =
      r.verdict (Window.remembered r.width c.message.sentAt (sightings key (before ++ [c]))) := by
  obtain rfl := hsteady.rule_eq c List.mem_concat_self hkey
  have hrecalls := recalls_run hon hnew hsteady.rule_eq hsteady.eq_of_id_eq
  rw [run_concat, windowOf_after_of_isOn hon, if_pos hkey] at hrecalls
  rw [answer_of_isOn hon, hrecalls.countUpTo_eq]

theorem flags_iff {count : Nat} (h : c.answer state = r.verdict count) :
    c.flags state = true ↔ r.maxMessages.toNat < count := by
  rw [flags, h, SpamRule.verdict]
  by_cases hlt : r.maxMessages.toNat < count
  · simp [hlt]
  · simp [hlt]

theorem sightings_concat (hkey : c.key = key) :
    sightings key (before ++ [c]) = sightings key before ++ [c.sighting] := by
  rw [sightings_append, sightings_singleton hkey]

/-- In a burst a check counts its own message and those before it that were not sent later. -/
theorem IsBurst.remembered_eq (hkey : c.key = key)
    (h : IsBurst r.width (sightings key (before ++ [c]))) :
    Window.remembered r.width c.message.sentAt (sightings key (before ++ [c])) =
      sentBy key c.message.sentAt before + 1 := by
  have hmem : c.sighting ∈ sightings key (before ++ [c]) := by
    rw [sightings_concat hkey]
    exact List.mem_concat_self
  have hcount := Window.remembered_of_close h.nodup h.close hmem
  have hself : [c.sighting].countP (fun s ↦ decide (s.sentAt ≤ c.sighting.sentAt)) = 1 := by simp
  rw [sightings_concat hkey, List.countP_append, hself] at hcount
  rw [sightings_concat hkey]
  exact hcount

end Answer

/-! ## Whole runs -/

/-- However the messages of an author are delivered, and whatever is checked between them. The
answer of a check is given by the messages of its author in its channel that were checked so far: it
counts the different ones that were sent in the width up to its own and are less than the width
older than the newest. So a message that is not older than those before it is a violation exactly if
more than the limit were sent in the width up to it. And if all were sent within the width, some
message is found to be a violation exactly if one comes after the limit of those that are not
newer. -/
theorem detects_burst_iff (hon : r.IsOn) (hnew : state.spam.windowOf key = [])
    {checks : List SpamCheck} (hsteady : IsSteady r key checks) :
    (∀ before c after, checks = before ++ c :: after → c.key = key →
      c.answer (run state before) = r.verdict
        (Window.remembered r.width c.message.sentAt (sightings key (before ++ [c])))) ∧
    (∀ before c after, checks = before ++ c :: after → c.key = key →
      (∀ s ∈ sightings key before, s.sentAt ≤ c.message.sentAt) →
      (c.flags (run state before) = true ↔
        r.maxMessages.toNat < (sightings key (before ++ [c])).dedup.countP fun s ↦
          decide (c.message.sentAt - r.width < s.sentAt))) ∧
    (IsBurst r.width (sightings key checks) →
      (detects key state checks = true ↔ ∃ before c after, checks = before ++ c :: after ∧
        c.key = key ∧ r.maxMessages.toNat ≤ sentBy key c.message.sentAt before)) := by
  have hanswer : ∀ before c after, checks = before ++ c :: after → c.key = key →
      c.answer (run state before) = r.verdict
        (Window.remembered r.width c.message.sentAt (sightings key (before ++ [c]))) := by
    rintro before c after rfl hkey
    rw [List.append_cons] at hsteady
    exact answer_of_run hon hnew hsteady.of_append hkey
  refine ⟨hanswer, ?_, ?_⟩
  · intro before c after heq hkey hnewest
    have hle : ∀ s ∈ sightings key (before ++ [c]), s.sentAt ≤ c.message.sentAt := by
      rw [sightings_concat hkey, List.forall_mem_append]
      refine ⟨hnewest, ?_⟩
      simp [sighting]
    rw [flags_iff (hanswer before c after heq hkey), Window.remembered_of_le hle]
  · intro hburst
    rw [detects_iff]
    refine exists_congr fun before ↦ exists_congr fun c ↦ exists_congr fun after ↦ ?_
    refine and_congr_right fun heq ↦ and_congr_right fun hkey ↦ ?_
    have hsofar : IsBurst r.width (sightings key (before ++ [c])) := by
      rw [heq, List.append_cons, sightings_append] at hburst
      exact hburst.of_append
    rw [flags_iff (hanswer before c after heq hkey), hsofar.remembered_eq hkey]
    exact Nat.lt_succ_iff

/-- Three messages within five seconds under a limit of two, the middle one first: the second check
finds one message that is not newer, its own, and the third finds all. -/
theorem detects_newest_last :
    let r : SpamRule := { settings := .enabledWith .mute 10, maxMessages := 2 }
    let checks := [sent r 2 1000000, sent r 1 0, sent r 3 2000000]
    r.IsOn ∧ ({} : RuleState).spam.windowOf ⟨1, 2, 4⟩ = [] ∧ IsSteady r ⟨1, 2, 4⟩ checks ∧
      IsBurst r.width (sightings ⟨1, 2, 4⟩ checks) ∧
      (sent r 1 0).answer (run {} [sent r 2 1000000]) = .ok none ∧
      detects ⟨1, 2, 4⟩ {} checks = true := by
  intro r checks
  have hon : r.IsOn := by decide
  have hnew : ({} : RuleState).spam.windowOf ⟨1, 2, 4⟩ = [] := rfl
  have hsteady : IsSteady r ⟨1, 2, 4⟩ checks := ⟨by decide, by decide⟩
  have hburst : IsBurst r.width (sightings ⟨1, 2, 4⟩ checks) := ⟨by decide, by decide⟩
  obtain ⟨hanswer, -, hdetects⟩ := detects_burst_iff hon hnew hsteady
  refine ⟨hon, hnew, hsteady, hburst, ?_, ?_⟩
  · have hcount : Window.remembered r.width 0
        (sightings ⟨1, 2, 4⟩ ([sent r 2 1000000] ++ [sent r 1 0])) = 1 := by decide
    have hsecond := hanswer [sent r 2 1000000] (sent r 1 0) [sent r 3 2000000] rfl rfl
    exact hsecond.trans (congrArg r.verdict hcount)
  · refine (hdetects hburst).mpr ?_
    exact ⟨[sent r 2 1000000, sent r 1 0], sent r 3 2000000, [], rfl, rfl, by decide⟩

/-- Two messages within one second under a limit of one message in five, the newer first: neither
check finds more than one message that is not newer. -/
theorem not_detects_newest_first :
    let r : SpamRule := { settings := .enabledWith .mute 10, maxMessages := 1 }
    let checks := [sent r 2 1000000, sent r 1 0]
    r.IsOn ∧ ({} : RuleState).spam.windowOf ⟨1, 2, 4⟩ = [] ∧ IsSteady r ⟨1, 2, 4⟩ checks ∧
      IsBurst r.width (sightings ⟨1, 2, 4⟩ checks) ∧
      r.maxMessages.toNat < (sightings ⟨1, 2, 4⟩ checks).length ∧
      ¬ detects ⟨1, 2, 4⟩ {} checks = true := by
  exact ⟨by decide, rfl, ⟨by decide, by decide⟩, ⟨by decide, by decide⟩, by decide, by decide⟩

end SpamCheck

end GuildModeration
