import GuildModeration.Proofs.Spam.Windows
import GuildModeration.Rule.Spam
import Mathlib.Data.List.Induction

/-!
# Runs of the spam rule

Messages are checked one after the other, by the spam rules of any guilds. A check by a rule that is
switched on records its message in one window, that of the author in the channel, and answers by
what this window holds then; a rule that is switched off does neither. So a window is made by the
checks of its key alone, and if these are all by one rule the law of `Window.Recalls` tells what is
in it.
-/

namespace GuildModeration

namespace Spam.Tracker

/-- The window of a key; there is nothing in it until something is recorded. -/
def windowOf (t : Tracker) (key : WindowKey) : Window :=
  (t.windows.find? key).getD []

theorem find?_record (t : Tracker) (key other : WindowKey) (id : MessageId) (time width : Int) :
    (t.record key id time width).2.windows.find? other =
      if key = other then some ((t.windowOf key).record ⟨time, id⟩ width)
      else t.windows.find? other :=
  Table.find?_insert _ _ _ _

theorem windowOf_record (t : Tracker) (key other : WindowKey) (id : MessageId)
    (time width : Int) :
    (t.record key id time width).2.windowOf other =
      if key = other then (t.windowOf key).record ⟨time, id⟩ width else t.windowOf other := by
  rw [windowOf, find?_record]
  split <;> rfl

theorem record_fst (t : Tracker) (key : WindowKey) (id : MessageId) (time width : Int) :
    (t.record key id time width).1 =
      ((t.windowOf key).record ⟨time, id⟩ width).countUpTo time width := rfl

end Spam.Tracker

namespace SpamRule

variable {r : SpamRule}

/-- Neither limit of the rule is zero. -/
def IsOn (r : SpamRule) : Prop :=
  r.maxMessages ≠ 0 ∧ r.withinSeconds ≠ 0

instance (r : SpamRule) : Decidable r.IsOn :=
  inferInstanceAs (Decidable (_ ∧ _))

theorem IsOn.width_pos (h : r.IsOn) : 0 < r.width := by
  have hne : r.withinSeconds.toNat ≠ 0 := fun h0 ↦ h.2 (UInt32.toNat_inj.mp h0)
  rw [width]
  omega

theorem IsOn.maxMessages_pos (h : r.IsOn) : 0 < r.maxMessages.toNat :=
  Nat.pos_of_ne_zero fun h0 ↦ h.1 (UInt32.toNat_inj.mp h0)

/-- The violation of sending too many messages. -/
def excess (r : SpamRule) : Violation :=
  r.settings.violation s!"Sent more than {r.maxMessages} messages in {r.withinSeconds} seconds"

/-- The answer when so many messages are counted. -/
def verdict (r : SpamRule) (count : Nat) : RuleAnswer :=
  .ok (if r.maxMessages.toNat < count then some r.excess else none)

theorem check_of_not_isOn (h : ¬ r.IsOn) (m : Message) (c : Channel) (state : RuleState) :
    r.check m c state = (.ok none, state) := by
  rw [IsOn, ← not_or, not_not] at h
  rw [check, if_pos h]

theorem check_of_isOn (h : r.IsOn) (m : Message) (c : Channel) (state : RuleState) :
    r.check m c state =
      (r.verdict (state.spam.record (keyOf m c) m.id m.sentAt r.width).1,
        { state with spam := (state.spam.record (keyOf m c) m.id m.sentAt r.width).2 }) := by
  rw [IsOn, ← not_or] at h
  rw [check, if_neg h]
  rfl

end SpamRule

/-- A check of a message in a channel by a spam rule. -/
structure SpamCheck where
  rule : SpamRule
  message : Message
  channel : Channel

namespace SpamCheck

open Spam

/-- The window of the message. -/
def key (c : SpamCheck) : WindowKey :=
  SpamRule.keyOf c.message c.channel

/-- The message as its window holds it. -/
def sighting (c : SpamCheck) : Sighting :=
  ⟨c.message.sentAt, c.message.id⟩

/-- The check of a message in one certain channel by one certain author. -/
def sent (rule : SpamRule) (id : MessageId) (sentAt : Int) : SpamCheck where
  rule
  message := { id, sentAt, guild := some 1, channel := 2, author := { id := 4 } }
  channel := { id := 2, guild := 1 }

/-- What the rule answers in a state. -/
def answer (c : SpamCheck) (state : RuleState) : RuleAnswer :=
  (c.rule.check c.message c.channel state).1

/-- The state after the check. -/
def after (c : SpamCheck) (state : RuleState) : RuleState :=
  (c.rule.check c.message c.channel state).2

/-- The state after some checks. -/
def run (state : RuleState) (checks : List SpamCheck) : RuleState :=
  checks.foldl (fun state c ↦ c.after state) state

/-- The answers of some checks, one after the other. -/
def answers (state : RuleState) : List SpamCheck → List RuleAnswer
  | [] => []
  | c :: checks => c.answer state :: answers (c.after state) checks

theorem run_concat (state : RuleState) (checks : List SpamCheck) (c : SpamCheck) :
    run state (checks ++ [c]) = c.after (run state checks) := by
  rw [run, List.foldl_append]
  rfl

/-! ## One check -/

variable {c : SpamCheck} {key : WindowKey}

theorem answer_of_not_isOn (h : ¬ c.rule.IsOn) (state : RuleState) : c.answer state = .ok none := by
  rw [answer, SpamRule.check_of_not_isOn h]

/-- The answer is made of what the window holds with the message in it. -/
theorem answer_of_isOn (h : c.rule.IsOn) (state : RuleState) :
    c.answer state = c.rule.verdict
      (((state.spam.windowOf c.key).record c.sighting c.rule.width).countUpTo c.message.sentAt
        c.rule.width) := by
  rw [answer, SpamRule.check_of_isOn h]
  exact congrArg c.rule.verdict (Tracker.record_fst _ _ _ _ _)

theorem windowOf_after_of_not_isOn (h : ¬ c.rule.IsOn) (state : RuleState) (key : WindowKey) :
    (c.after state).spam.windowOf key = state.spam.windowOf key := by
  rw [after, SpamRule.check_of_not_isOn h]

theorem windowOf_after_of_isOn (h : c.rule.IsOn) (state : RuleState) (key : WindowKey) :
    (c.after state).spam.windowOf key =
      if c.key = key then (state.spam.windowOf c.key).record c.sighting c.rule.width
      else state.spam.windowOf key := by
  rw [after, SpamRule.check_of_isOn h]
  exact Tracker.windowOf_record _ _ _ _ _ _

/-- A check leaves the windows of other keys alone. -/
theorem windowOf_after_of_ne (h : c.key ≠ key) (state : RuleState) :
    (c.after state).spam.windowOf key = state.spam.windowOf key := by
  by_cases hon : c.rule.IsOn
  · rw [windowOf_after_of_isOn hon, if_neg h]
  · exact windowOf_after_of_not_isOn hon state key

/-! ## Runs -/

/-- The sightings of one key in the order of the checks. -/
def sightings (key : WindowKey) (checks : List SpamCheck) : List Sighting :=
  (checks.filter (·.key == key)).map sighting

theorem mem_sightings_iff {checks : List SpamCheck} {s : Sighting} :
    s ∈ sightings key checks ↔ ∃ c ∈ checks, c.key = key ∧ c.sighting = s := by
  simp [sightings, and_assoc]

theorem sightings_append (key : WindowKey) (checks more : List SpamCheck) :
    sightings key (checks ++ more) = sightings key checks ++ sightings key more := by
  rw [sightings, List.filter_append, List.map_append]
  rfl

theorem sightings_singleton (h : c.key = key) : sightings key [c] = [c.sighting] := by
  simp [sightings, h]

theorem sightings_of_ne (h : c.key ≠ key) : sightings key [c] = [] := by
  simp [sightings, h]

/-- Whatever the rules and the order of the messages, a window stays in order. -/
theorem ordered_run {state : RuleState} (h : (state.spam.windowOf key).Ordered)
    (checks : List SpamCheck) : ((run state checks).spam.windowOf key).Ordered := by
  induction checks generalizing state with
  | nil => exact h
  | cons c checks ih =>
    refine ih ?_
    by_cases hkey : c.key = key
    · subst hkey
      by_cases hon : c.rule.IsOn
      · rw [windowOf_after_of_isOn hon, if_pos rfl]
        exact h.record _ _
      · rwa [windowOf_after_of_not_isOn hon]
    · rwa [windowOf_after_of_ne hkey]

/-- What a window holds was recorded by some check, or was there before. -/
theorem of_mem_run {state : RuleState} {checks : List SpamCheck} {s : Sighting}
    (h : s ∈ (run state checks).spam.windowOf key) :
    s ∈ sightings key checks ∨ s ∈ state.spam.windowOf key := by
  induction checks using List.reverseRecOn with
  | nil => exact Or.inr h
  | append_singleton checks c ih =>
    rw [run_concat] at h
    rw [sightings_append, List.mem_append]
    by_cases hkey : c.key = key
    · subst hkey
      by_cases hon : c.rule.IsOn
      · rw [windowOf_after_of_isOn hon, if_pos rfl] at h
        rcases Window.of_mem_record h with rfl | h
        · exact Or.inl (Or.inr (by rw [sightings_singleton rfl]; exact List.mem_singleton_self _))
        · exact (ih h).imp_left Or.inl
      · rw [windowOf_after_of_not_isOn hon] at h
        exact (ih h).imp_left Or.inl
    · rw [windowOf_after_of_ne hkey] at h
      exact (ih h).imp_left Or.inl

/-- The checks of a key by one rule record their sightings one after the other, whatever is checked
between them. -/
theorem windowOf_run {r : SpamRule} (hon : r.IsOn) {checks : List SpamCheck}
    (hrule : ∀ c ∈ checks, c.key = key → c.rule = r) (state : RuleState) :
    (run state checks).spam.windowOf key =
      (sightings key checks).foldl (fun w s ↦ w.record s r.width) (state.spam.windowOf key) := by
  induction checks generalizing state with
  | nil => rfl
  | cons c checks ih =>
    obtain ⟨hc, hchecks⟩ := List.forall_mem_cons.mp hrule
    rw [← List.singleton_append, sightings_append, List.foldl_append]
    refine (ih hchecks (c.after state)).trans (congrArg (List.foldl _ · _) ?_)
    by_cases hkey : c.key = key
    · obtain rfl := hc hkey
      rw [windowOf_after_of_isOn hon, if_pos hkey, sightings_singleton hkey, hkey]
      rfl
    · rw [windowOf_after_of_ne hkey, sightings_of_ne hkey]
      rfl

/-- So they fill a window that was empty as the law says. -/
theorem recalls_run {r : SpamRule} (hon : r.IsOn) {state : RuleState}
    (hnew : state.spam.windowOf key = []) {checks : List SpamCheck}
    (hrule : ∀ c ∈ checks, c.key = key → c.rule = r)
    (hsame : Window.IsConsistent (sightings key checks)) :
    Window.Recalls r.width (sightings key checks) ((run state checks).spam.windowOf key) := by
  rw [windowOf_run hon hrule, hnew]
  exact Window.recalls_foldl hon.width_pos hsame

end SpamCheck

end GuildModeration
