import GuildModeration.Engine
import GuildModeration.Proofs.Spam.Bursts

/-!
# Windows that a pass drops

A pass of the maintenance drops the windows that have been idle for `Engine.idleLimit`, whatever the
widths of the rules that fill them. A rule that looks back no further than that cannot tell: by the
time its next message comes, all that the window held is too old to be counted, and recording the
message would have trimmed it away (`Window.Forgets.record_eq`). A rule that looks back further can
tell, as it would still have counted what was dropped.

So the idle limit is right for the rules up to its own width, and `SpamCheck.passInvisible_iff` says
for which sets of rules passes go unnoticed.
-/

namespace GuildModeration

namespace Spam

/-- A pruned window is there as before or is gone as a whole. -/
theorem Tracker.windowOf_prune (t : Tracker) (now maxAge : Int) (key : WindowKey) :
    (t.prune now maxAge).2.windowOf key =
      if (t.windowOf key).isActive (now - maxAge) then t.windowOf key else [] := by
  rw [windowOf, windowOf, prune, Table.find?_filter]
  cases t.windows.find? key with
  | none => rfl
  | some w =>
    rw [Option.getD_some, Option.filter]
    split <;> rfl

namespace Window

variable {w w' : Window} {time width : Int} {s : Sighting}

/-- A new message that comes when all others are too old is left alone in its window. -/
theorem record_of_old (hwidth : 0 < width) (hold : ∀ t ∈ w, t.sentAt ≤ s.sentAt - width)
    (hnew : ∀ t ∈ w, t.message ≠ s.message) : w.record s width = [s] := by
  have hholds : w.holds s.message ≠ true := by
    rw [Ne, holds_iff]
    rintro ⟨t, ht, hid⟩
    exact hnew t ht hid
  have hbehind : ∀ t ∈ w, decide (t.sentAt ≤ s.sentAt) = true := by
    intro t ht
    have hle := hold t ht
    exact decide_eq_true (by omega)
  have hplace : w.place s = w ++ [s] := by
    rw [place, List.takeWhile_eq_self_iff.mpr hbehind, List.dropWhile_eq_nil_iff.mpr hbehind]
  have hself : s.sentAt - width < s.sentAt := by omega
  rw [record, if_neg hholds, hplace, trim, List.getLast?_concat]
  dsimp only
  rw [List.dropWhile_append_of_pos (by simpa using hold), List.dropWhile_cons_of_neg (by simpa)]

/-- Two windows are the same, or the second is empty where the first has nothing but messages sent
up to a moment, with numbers that do not come again. -/
def Forgets (time : Int) (numbers : List MessageId) (w w' : Window) : Prop :=
  w' = w ∨ w' = [] ∧ ∀ s ∈ w, s.sentAt ≤ time ∧ s.message ∉ numbers

/-- Recording a message makes up for what was forgotten, if all of it is too old by then. -/
theorem Forgets.record_eq {numbers : List MessageId} (h : Forgets time numbers w w')
    (hwidth : 0 < width) (htime : time ≤ s.sentAt - width) (hs : s.message ∈ numbers) :
    w'.record s width = w.record s width := by
  rcases h with rfl | ⟨rfl, hold⟩
  · rfl
  · rw [record_of_old (w := w) hwidth, record_of_old (w := []) hwidth]
    · simp
    · simp
    · exact fun t ht ↦ Int.le_trans (hold t ht).1 htime
    · rintro t ht hid
      exact (hold t ht).2 (hid ▸ hs)

end Window

end Spam

namespace SpamCheck

open Spam

/-- The state of the rules after a pass. -/
def passed (now : Int) (state : RuleState) : RuleState :=
  (({ state } : Engine).pass now).2.state

/-- The second state has forgotten no more than messages sent up to a moment, and none of them is
checked again. -/
def Forgets (time : Int) (later : List SpamCheck) (state state' : RuleState) : Prop :=
  ∀ key, Window.Forgets time (later.map (·.message.id)) (state.spam.windowOf key)
    (state'.spam.windowOf key)

variable {time now : Int} {state state' : RuleState} {later : List SpamCheck}

theorem windowOf_passed (now : Int) (state : RuleState) (key : WindowKey) :
    (passed now state).spam.windowOf key =
      if (state.spam.windowOf key).isActive (now - Engine.idleLimit) then state.spam.windowOf key
      else [] :=
  Tracker.windowOf_prune state.spam now Engine.idleLimit key

/-- A pass forgets what is older than the idle limit. -/
theorem forgets_passed (hordered : ∀ key, (state.spam.windowOf key).Ordered)
    (hnumbers : ∀ key, ∀ s ∈ state.spam.windowOf key, s.sentAt ≤ now - Engine.idleLimit →
      ∀ c ∈ later, c.message.id ≠ s.message) :
    Forgets (now - Engine.idleLimit) later state (passed now state) := by
  intro key
  rw [windowOf_passed]
  split
  · exact Or.inl rfl
  · next hidle =>
    rw [(hordered key).isActive_iff, not_exists] at hidle
    refine Or.inr ⟨rfl, fun s hs ↦ ?_⟩
    have hold : s.sentAt ≤ now - Engine.idleLimit := Int.not_lt.mp fun hlt ↦ hidle s ⟨hs, hlt⟩
    refine ⟨hold, fun hmem ↦ ?_⟩
    obtain ⟨c, hc, hid⟩ := List.mem_map.mp hmem
    exact hnumbers key s hs hold c hc hid

/-- Rules that do not look back to what was forgotten answer the same from then on. -/
theorem Forgets.answers_eq (h : Forgets time later state state')
    (hblind : ∀ c ∈ later, c.rule.IsOn → time ≤ c.message.sentAt - c.rule.width) :
    answers state' later = answers state later := by
  induction later generalizing state state' with
  | nil => rfl
  | cons c later ih =>
    have hlater : ∀ d ∈ later, d.rule.IsOn → time ≤ d.message.sentAt - d.rule.width :=
      fun d hd ↦ hblind d (List.mem_cons_of_mem c hd)
    have hforgets : Forgets time later state state' := by
      intro key
      refine (h key).imp_right fun hold ↦ ⟨hold.1, fun s hs ↦ ?_⟩
      exact ⟨(hold.2 s hs).1, fun hmem ↦ (hold.2 s hs).2 (List.mem_cons_of_mem _ hmem)⟩
    by_cases hon : c.rule.IsOn
    · have hrecord := (h c.key).record_eq hon.width_pos (s := c.sighting)
        (hblind c List.mem_cons_self hon) List.mem_cons_self
      rw [answers, answers, answer_of_isOn hon, answer_of_isOn hon, hrecord]
      refine congrArg _ (ih (fun key ↦ ?_) hlater)
      rw [windowOf_after_of_isOn hon, windowOf_after_of_isOn hon]
      split
      · exact Or.inl hrecord
      · exact hforgets key
    · rw [answers, answers, answer_of_not_isOn hon, answer_of_not_isOn hon]
      refine congrArg _ (ih (fun key ↦ ?_) hlater)
      rw [windowOf_after_of_not_isOn hon, windowOf_after_of_not_isOn hon]
      exact hforgets key

/-! ## Runs from the start -/

/-- What a window holds after a run from the start is a message of the run. -/
theorem of_mem_windowOf_run {history : List SpamCheck} {key : WindowKey} {s : Sighting}
    (h : s ∈ (run {} history).spam.windowOf key) :
    ∃ c ∈ history, c.key = key ∧ c.sighting = s :=
  (of_mem_run h).elim mem_sightings_iff.mp fun h ↦ absurd h List.not_mem_nil

theorem ordered_windowOf_run (history : List SpamCheck) (key : WindowKey) :
    ((run {} history).spam.windowOf key).Ordered := by
  apply ordered_run
  exact Window.ordered_nil

/-! ## A rule that looks back further -/

/-- A message that is alone in its window is counted as one. -/
theorem answer_of_windowOf_eq_nil {c : SpamCheck} (hon : c.rule.IsOn)
    (h : state.spam.windowOf c.key = []) : c.answer state = c.rule.verdict 1 := by
  have hpos := hon.width_pos
  have hself : c.message.sentAt - c.rule.width < c.message.sentAt := by omega
  rw [answer_of_isOn hon, h, Window.record_of_old hon.width_pos (by simp) (by simp)]
  refine congrArg _ ?_
  simp [Window.countUpTo, sighting, hself]

/-- So many different messages of one author in one channel, all sent at the time zero. -/
def volley (r : SpamRule) (n : Nat) : List SpamCheck :=
  (List.range n).map fun i ↦ sent r (UInt64.ofNat i) 0

variable {r : SpamRule} {n : Nat}

theorem key_sent (r : SpamRule) (id : MessageId) (time : Int) :
    (sent r id time).key = ⟨1, 2, 4⟩ := rfl

theorem sightings_volley (r : SpamRule) (n : Nat) :
    sightings ⟨1, 2, 4⟩ (volley r n) = (List.range n).map fun i ↦ ⟨0, UInt64.ofNat i⟩ := by
  have hfilter : (volley r n).filter (·.key == ⟨1, 2, 4⟩) = volley r n := by
    rw [List.filter_eq_self]
    intro c hc
    obtain ⟨i, -, rfl⟩ := List.mem_map.mp hc
    rfl
  rw [sightings, hfilter, volley, List.map_map]
  rfl

theorem rule_eq_of_mem_volley {c : SpamCheck} (h : c ∈ volley r n) : c.rule = r := by
  obtain ⟨i, -, rfl⟩ := List.mem_map.mp h
  rfl

theorem sentAt_of_mem_volley {c : SpamCheck} (h : c ∈ volley r n) : c.message.sentAt = 0 := by
  obtain ⟨i, -, rfl⟩ := List.mem_map.mp h
  rfl

theorem nodup_range_ofNat (hn : n ≤ UInt64.size) : ((List.range n).map UInt64.ofNat).Nodup := by
  refine (List.nodup_map_iff_inj_on List.nodup_range).mpr fun i hi j hj heq ↦ ?_
  rw [List.mem_range] at hi hj
  have htoNat := congrArg UInt64.toNat heq
  rwa [UInt64.toNat_ofNat_of_lt' (hi.trans_le hn), UInt64.toNat_ofNat_of_lt' (hj.trans_le hn)]
    at htoNat

/-- The number of the message after a volley is a new one. -/
theorem id_ne_of_mem_volley (hn : n < UInt64.size) {c : SpamCheck} (h : c ∈ volley r n) :
    c.message.id ≠ UInt64.ofNat n := by
  obtain ⟨i, hi, rfl⟩ := List.mem_map.mp h
  rw [List.mem_range] at hi
  intro hid
  have heq : i = n := List.inj_on_of_nodup_map (nodup_range_ofNat hn)
    (List.mem_range.mpr (hi.trans n.lt_succ_self)) (List.mem_range.mpr n.lt_succ_self) hid
  omega

section Next

variable {now : Int}

/-- The sightings of a volley and of the message after it. -/
theorem sightings_next (r : SpamRule) (n : Nat) (now : Int) :
    sightings ⟨1, 2, 4⟩ (volley r n ++ [sent r (UInt64.ofNat n) now]) =
      ((List.range n).map fun i ↦ ⟨0, UInt64.ofNat i⟩) ++ [⟨now, UInt64.ofNat n⟩] := by
  rw [sightings_append, sightings_volley, sightings_singleton (key_sent _ _ _)]
  rfl

theorem nodup_next (r : SpamRule) (now : Int) (hn : n < UInt64.size) :
    ((sightings ⟨1, 2, 4⟩ (volley r n ++ [sent r (UInt64.ofNat n) now])).map
      (·.message)).Nodup := by
  have hmap : (sightings ⟨1, 2, 4⟩ (volley r n ++ [sent r (UInt64.ofNat n) now])).map
      (·.message) = (List.range (n + 1)).map UInt64.ofNat := by
    rw [sightings_next, List.map_append, List.map_map, List.range_succ, List.map_append]
    rfl
  rw [hmap]
  exact nodup_range_ofNat hn

/-- A message within the width of the rule after a volley is counted with all of it. -/
theorem answer_next (hon : r.IsOn) (hn : n < UInt64.size) (hnow : 0 ≤ now)
    (hwidth : now < r.width) :
    (sent r (UInt64.ofNat n) now).answer (run {} (volley r n)) = r.verdict (n + 1) := by
  have hnodup := nodup_next r now hn
  have hsteady : IsSteady r ⟨1, 2, 4⟩ (volley r n ++ [sent r (UInt64.ofNat n) now]) := by
    refine ⟨fun c hc _ ↦ ?_, fun s hs t ht hid ↦ List.inj_on_of_nodup_map hnodup hs ht hid⟩
    rcases List.mem_append.mp hc with hc | hc
    · exact rule_eq_of_mem_volley hc
    · rw [List.mem_singleton.mp hc]
      rfl
  have hspan : ∀ s ∈ sightings ⟨1, 2, 4⟩ (volley r n ++ [sent r (UInt64.ofNat n) now]),
      0 ≤ s.sentAt ∧ s.sentAt ≤ now := by
    rw [sightings_next, List.forall_mem_append]
    simp [hnow]
  have hburst : IsBurst r.width
      (sightings ⟨1, 2, 4⟩ (volley r n ++ [sent r (UInt64.ofNat n) now])) := by
    refine ⟨List.Nodup.of_map _ hnodup, fun s hs t ht ↦ ?_⟩
    have hle := (hspan s hs).2
    have hge := (hspan t ht).1
    omega
  have hcount : sentBy ⟨1, 2, 4⟩ now (volley r n) = n := by
    rw [sentBy, sightings_volley, List.countP_map, List.countP_eq_length.mpr]
    · exact List.length_range
    · simpa using fun _ _ ↦ hnow
  rw [answer_of_run hon rfl hsteady (key_sent _ _ _), hburst.remembered_eq (key_sent _ _ _)]
  exact congrArg (fun count ↦ r.verdict (count + 1)) hcount

end Next

/-! ## When passes go unnoticed -/

/-- Rules of a kind do not notice passes: whatever was checked before, by any rules, a pass that
runs when no message is from the future does not change what these rules answer to messages sent
from then on, where a number stands for one message. -/
def PassInvisible (P : SpamRule → Prop) : Prop :=
  ∀ (history later : List SpamCheck) (now : Int),
    (∀ c ∈ history, c.message.sentAt ≤ now) → (∀ c ∈ later, now ≤ c.message.sentAt) →
    (∀ c ∈ history, ∀ d ∈ later, c.message.id = d.message.id →
      c.message.sentAt = d.message.sentAt) →
    (∀ c ∈ later, P c.rule) →
    answers (passed now (run {} history)) later = answers (run {} history) later

/-- A rule that is on and looks back further than the idle limit notices a pass: the pass comes when
a volley is as old as the limit, and the next message is one too many. -/
theorem not_passInvisible_of_lt (hon : r.IsOn) (hwidth : Engine.idleLimit < r.width)
    {P : SpamRule → Prop} (hP : P r) : ¬ PassInvisible P := by
  intro hinvisible
  let n := r.maxMessages.toNat
  let next := sent r (UInt64.ofNat n) Engine.idleLimit
  have hn : n < UInt64.size := r.maxMessages.toNat_lt.trans (by decide)
  have hdropped : (passed Engine.idleLimit (run {} (volley r n))).spam.windowOf next.key = [] := by
    rw [windowOf_passed, if_neg]
    rw [(ordered_windowOf_run _ _).isActive_iff]
    rintro ⟨s, hs, hlt⟩
    obtain ⟨c, hc, -, rfl⟩ := of_mem_windowOf_run hs
    have hzero : c.sighting.sentAt = 0 := sentAt_of_mem_volley hc
    omega
  have hsame : answers (passed Engine.idleLimit (run {} (volley r n))) [next] =
      answers (run {} (volley r n)) [next] := by
    apply hinvisible
    · intro c hc
      rw [sentAt_of_mem_volley hc]
      decide
    · simp [next, sent]
    · intro c hc d hd hid
      rw [List.mem_singleton.mp hd] at hid
      exact absurd hid (id_ne_of_mem_volley hn hc)
    · simpa [next, sent] using hP
  have hanswer : next.answer (passed Engine.idleLimit (run {} (volley r n))) =
      next.answer (run {} (volley r n)) := (List.cons.inj hsame).1
  rw [answer_of_windowOf_eq_nil hon hdropped, answer_next hon hn (by decide) hwidth] at hanswer
  have hpos := hon.maxMessages_pos
  have hfirst : ¬ n < 1 := by omega
  have hnext : n < n + 1 := by omega
  simp [SpamRule.verdict, next, sent, n, hfirst, hnext] at hanswer

/-- Passes go unnoticed by exactly those kinds of rules that, when they are on, look back no further
than the idle limit. -/
theorem passInvisible_iff (P : SpamRule → Prop) :
    PassInvisible P ↔ ∀ r, P r → r.IsOn → r.width ≤ Engine.idleLimit := by
  constructor
  · intro hinvisible r hP hon
    by_contra hwidth
    exact not_passInvisible_of_lt hon (Int.not_le.mp hwidth) hP hinvisible
  · intro hwidth history later now _ hlater hsame hP
    refine Forgets.answers_eq (forgets_passed (ordered_windowOf_run history) ?_) ?_
    · intro key s hs hold c hc hid
      obtain ⟨d, hd, -, rfl⟩ := of_mem_windowOf_run hs
      have htime := hsame d hd c hc hid.symm
      have hge := hlater c hc
      have hlimit : 0 < Engine.idleLimit := by decide
      have hold : d.message.sentAt ≤ now - Engine.idleLimit := hold
      omega
    · intro c hc hon
      have hle := hwidth c.rule (hP c hc) hon
      have hge := hlater c hc
      omega

/-- A rule that allows one message in an hour. -/
def hourly : SpamRule :=
  { settings := .enabledWith .mute 10, maxMessages := 1, withinSeconds := 3600 }

/-- Of two messages eleven minutes apart the second is one too many for an hour, unless a pass has
dropped the first. -/
theorem hourly_notices_pass :
    answers (run {} [sent hourly 1 0]) [sent hourly 2 660000000] = [.ok (some hourly.excess)] ∧
      answers (passed 660000000 (run {} [sent hourly 1 0])) [sent hourly 2 660000000] =
        [.ok none] ∧
      ¬ PassInvisible fun _ ↦ True := by
  have hwithout : answers (run {} [sent hourly 1 0]) [sent hourly 2 660000000] =
      [.ok (some hourly.excess)] := rfl
  have hwith : answers (passed 660000000 (run {} [sent hourly 1 0])) [sent hourly 2 660000000] =
      [.ok none] := rfl
  refine ⟨hwithout, hwith, fun hinvisible ↦ ?_⟩
  have hsame := hinvisible [sent hourly 1 0] [sent hourly 2 660000000] 660000000 (by simp [sent])
    (by simp [sent]) (by simp [sent]) (by simp)
  rw [hwithout, hwith] at hsame
  simp at hsame

end SpamCheck

end GuildModeration
