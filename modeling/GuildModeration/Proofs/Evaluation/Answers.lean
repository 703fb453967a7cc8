import GuildModeration.Proofs.Evaluation
import Mathlib.Data.List.Induction

/-!
# What the rules answer

An evaluation carries four things along while it asks the rules. Here the asking is taken apart from
what is made of the answers. The rules that apply are asked in order, each once and each about the
state that the ones before it have left; this gives a list of answers (`MessageContext.answers`).
The objections among them, and nothing else, make the decision (`Decision.ofObjections`).

What the decision says about its objections is shown by adding one more at the end, since the first
objection that reaches the highest severity is known only once all before it are.
-/

namespace GuildModeration

/-- A rule that was asked about a message, and its answer. -/
structure Answered where
  rule : Rule
  answer : RuleAnswer

/-- A rule that objected to a message, and why. -/
structure Objection where
  rule : Rule
  violation : Violation

namespace Answered

/-- The objection of a rule, if it has one. -/
def objection? (a : Answered) : Option Objection :=
  match a.answer with
  | .ok (some v) => some ⟨a.rule, v⟩
  | _ => none

theorem objection?_eq_some_iff {a : Answered} {o : Objection} :
    a.objection? = some o ↔ a.rule = o.rule ∧ a.answer = .ok (some o.violation) := by
  obtain ⟨rule, answer⟩ := a
  obtain ⟨rule', v⟩ := o
  rcases answer with e | _ | u
  · simp [objection?]
  · simp [objection?]
  · simp [objection?]

/-- The report on a rule whose check failed. -/
def failureEvent? (c : MessageContext) (a : Answered) : Option Log.Event :=
  match a.answer with
  | .error e => some (EvaluationRun.failureEvent c a.rule e)
  | .ok _ => none

end Answered

namespace MessageContext

variable (c : MessageContext)

/-- The rules that do not ignore the message. -/
def applying (rules : List Rule) : List Rule :=
  rules.filter fun rule ↦ !rule.ignores c.channel c.message c.member

/-- What the rules answer that are asked in order, each about the state that the ones before it have
left. -/
def answers : List Rule → RuleState → List Answered
  | [], _ => []
  | rule :: rules, state =>
    ⟨rule, (rule.check c.message c.channel state).1⟩ ::
      answers rules (rule.check c.message c.channel state).2

/-- The state that the rules leave. -/
def stateAfter (rules : List Rule) (state : RuleState) : RuleState :=
  rules.foldl (fun state rule ↦ (rule.check c.message c.channel state).2) state

/-- The objections of the rules that apply, in order. -/
def objections (rules : List Rule) (state : RuleState) : List Objection :=
  (c.answers (c.applying rules) state).filterMap Answered.objection?

theorem applying_cons_of_ignores {rule : Rule}
    (h : rule.ignores c.channel c.message c.member = true) (rules : List Rule) :
    c.applying (rule :: rules) = c.applying rules :=
  List.filter_cons_of_neg (by simp [h])

theorem applying_cons_of_not_ignores {rule : Rule}
    (h : rule.ignores c.channel c.message c.member = false) (rules : List Rule) :
    c.applying (rule :: rules) = rule :: c.applying rules :=
  List.filter_cons_of_pos (by simp [h])

theorem exists_of_mem_objections {rules : List Rule} {state : RuleState} {o : Objection}
    (h : o ∈ c.objections rules state) :
    o.rule ∈ rules ∧ ∃ before,
      (o.rule.check c.message c.channel before).1 = .ok (some o.violation) := by
  -- the state that a rule is asked about depends on the rules before it
  have hanswer : ∀ (rules : List Rule) (state : RuleState), ∀ a ∈ c.answers rules state,
      a.rule ∈ rules ∧ ∃ before, (a.rule.check c.message c.channel before).1 = a.answer := by
    intro rules
    induction rules with
    | nil => exact fun _ a ha ↦ absurd ha List.not_mem_nil
    | cons rule rules ih =>
      intro state a ha
      rcases List.mem_cons.mp ha with rfl | ha
      · exact ⟨List.mem_cons_self, state, rfl⟩
      · obtain ⟨hmem, before, hbefore⟩ := ih _ a ha
        exact ⟨List.mem_cons_of_mem _ hmem, before, hbefore⟩
  obtain ⟨a, ha, hobjection⟩ := List.mem_filterMap.mp h
  obtain ⟨hmem, before, hbefore⟩ := hanswer _ _ a ha
  obtain ⟨hrule, hviolation⟩ := Answered.objection?_eq_some_iff.mp hobjection
  rw [hrule] at hmem hbefore
  exact ⟨(List.mem_filter.mp hmem).1, before, hbefore.trans hviolation⟩

end MessageContext

/-! ## Decisions from objections -/

theorem Severity.le_of_not_lt {a b : Severity} (h : ¬ a < b) : b ≤ a :=
  Nat.le_of_not_lt h

namespace Decision

/-- The decision with one more objection. -/
def addObjection (d : Decision) (o : Objection) : Decision :=
  d.add o.violation o.rule.muteMinutes

/-- The decision that is made from objections, up to the end of its last line. -/
def ofObjections (objections : List Objection) : Decision :=
  objections.foldl addObjection {}

variable {d : Decision} {o : Objection} {objections : List Objection}

theorem ofObjections_concat (objections : List Objection) (o : Objection) :
    ofObjections (objections ++ [o]) = (ofObjections objections).addObjection o := by
  rw [ofObjections, List.foldl_append]
  rfl

theorem addObjection_of_lt (h : d.severity < o.violation.severity) :
    (d.addObjection o).severity = o.violation.severity ∧
      (d.addObjection o).muteMinutes = o.rule.muteMinutes := by
  simp [addObjection, add, h]

theorem addObjection_of_not_lt (h : ¬ d.severity < o.violation.severity) :
    (d.addObjection o).severity = d.severity ∧
      (d.addObjection o).muteMinutes = d.muteMinutes := by
  simp [addObjection, add, h]

theorem shouldDelete_ofObjections (objections : List Objection) :
    (ofObjections objections).shouldDelete = true ↔ objections ≠ [] := by
  induction objections using List.reverseRecOn with
  | nil => simp [ofObjections]
  | append_singleton os o _ =>
    rw [ofObjections_concat]
    simp [addObjection, add]

/-- No objection is more severe than the decision. -/
theorem severity_le_ofObjections (h : o ∈ objections) :
    o.violation.severity ≤ (ofObjections objections).severity := by
  induction objections using List.reverseRecOn with
  | nil => cases h
  | append_singleton os last ih =>
    rw [ofObjections_concat]
    by_cases hlt : (ofObjections os).severity < last.violation.severity
    · rw [(addObjection_of_lt hlt).1]
      rcases List.mem_append.mp h with h | h
      · exact Nat.le_trans (ih h) (Nat.le_of_lt hlt)
      · rw [List.mem_singleton.mp h]
        exact Nat.le_refl _
    · rw [(addObjection_of_not_lt hlt).1]
      rcases List.mem_append.mp h with h | h
      · exact ih h
      · rw [List.mem_singleton.mp h]
        exact Severity.le_of_not_lt hlt

/-- Some objection is as severe as the decision, unless the decision is as mild as can be. -/
theorem severity_ofObjections_cases (objections : List Objection) :
    (ofObjections objections).severity = .none ∨
      ∃ o ∈ objections, o.violation.severity = (ofObjections objections).severity := by
  induction objections using List.reverseRecOn with
  | nil => exact Or.inl rfl
  | append_singleton os last ih =>
    rw [ofObjections_concat]
    by_cases hlt : (ofObjections os).severity < last.violation.severity
    · rw [(addObjection_of_lt hlt).1]
      exact Or.inr ⟨last, List.mem_append_right _ List.mem_cons_self, rfl⟩
    · rw [(addObjection_of_not_lt hlt).1]
      rcases ih with hnone | ⟨o, ho, heq⟩
      · exact Or.inl hnone
      · exact Or.inr ⟨o, List.mem_append_left _ ho, heq⟩

/-- The first objection of a severity. -/
def firstOf? (severity : Severity) (objections : List Objection) : Option Objection :=
  objections.find? fun o ↦ o.violation.severity = severity

/-- The length of a mute comes from the first objection that is as severe as the decision. -/
theorem muteMinutes_ofObjections (h : .none < (ofObjections objections).severity) :
    ∃ o, firstOf? (ofObjections objections).severity objections = some o ∧
      (ofObjections objections).muteMinutes = o.rule.muteMinutes := by
  induction objections using List.reverseRecOn with
  | nil => exact absurd h (Nat.lt_irrefl _)
  | append_singleton os last ih =>
    rw [ofObjections_concat] at h ⊢
    by_cases hlt : (ofObjections os).severity < last.violation.severity
    · rw [(addObjection_of_lt hlt).1, (addObjection_of_lt hlt).2]
      -- no objection before the last one is as severe
      have hnone : firstOf? last.violation.severity os = none := by
        apply List.find?_eq_none.mpr
        intro o ho hsame
        have hle : o.violation.severity.rank ≤ (ofObjections os).severity.rank :=
          severity_le_ofObjections ho
        rw [of_decide_eq_true hsame] at hle
        exact Nat.not_lt_of_le hle hlt
      refine ⟨last, ?_, rfl⟩
      rw [firstOf?] at hnone
      rw [firstOf?, List.find?_append, hnone, Option.none_or]
      exact List.find?_cons_of_pos (decide_eq_true rfl)
    · -- an objection before the last one is as severe already
      rw [(addObjection_of_not_lt hlt).1] at h ⊢
      rw [(addObjection_of_not_lt hlt).2]
      obtain ⟨o, hfirst, hminutes⟩ := ih h
      refine ⟨o, ?_, hminutes⟩
      rw [firstOf?] at hfirst ⊢
      rw [List.find?_append, hfirst, Option.some_or]

theorem muteMinutes_ofObjections_of_not_lt (h : ¬ .none < (ofObjections objections).severity) :
    (ofObjections objections).muteMinutes = 0 := by
  induction objections using List.reverseRecOn with
  | nil => rfl
  | append_singleton os last ih =>
    rw [ofObjections_concat] at h ⊢
    by_cases hlt : (ofObjections os).severity < last.violation.severity
    · rw [(addObjection_of_lt hlt).1] at h
      exact absurd (Nat.lt_of_le_of_lt (Nat.zero_le _) hlt) h
    · rw [(addObjection_of_not_lt hlt).1] at h
      rw [(addObjection_of_not_lt hlt).2]
      exact ih h

theorem reason_ofObjections (objections : List Objection) :
    (ofObjections objections).reason.toList =
      (objections.map fun o ↦ o.violation.reason.toList ++ ['\n']).flatten := by
  induction objections using List.reverseRecOn with
  | nil => rfl
  | append_singleton os o ih =>
    rw [ofObjections_concat, List.map_append, List.map_singleton, List.flatten_concat, ← ih]
    simp [addObjection, add]

/-! ## The end of the last line -/

/-- Lines that end in a mark are lines between marks, and one mark more. -/
theorem flatten_map_concat {α : Type} (mark : α) {lines : List (List α)} (h : lines ≠ []) :
    (lines.map (· ++ [mark])).flatten = [mark].intercalate lines ++ [mark] := by
  induction lines with
  | nil => exact absurd rfl h
  | cons line lines ih =>
    cases lines with
    | nil => simp [List.intercalate_singleton]
    | cons next lines =>
      rw [List.map_cons, List.flatten_cons, ih (by simp), List.intercalate_cons_cons]
      simp only [List.append_assoc]

theorem endsWith_newline_iff (s : String) :
    s.endsWith "\n" = true ↔ ['\n'] <:+ s.toList := by
  simp [← String.endsWith_toSlice, String.Slice.endsWith_string_iff]

theorem finish_of_empty (h : d.reason = "") : d.finish = d := by
  have hends : ¬ d.reason.endsWith "\n" = true := by
    rw [endsWith_newline_iff, h]
    exact fun hsuffix ↦ absurd hsuffix.length_le (by decide)
  rw [finish, if_neg hends]

theorem reason_finish {body : List Char} (h : d.reason.toList = body ++ ['\n']) :
    d.finish.reason = String.ofList body := by
  have hends : d.reason.endsWith "\n" = true := by
    rw [endsWith_newline_iff, h]
    exact List.suffix_append ..
  rw [finish, if_pos hends, h, List.dropLast_concat]

/-- The reasons of the objections stand one a line. -/
theorem reason_finish_ofObjections (objections : List Objection) :
    (ofObjections objections).finish.reason =
      "\n".intercalate (objections.map (·.violation.reason)) := by
  by_cases hnil : objections = []
  · subst hnil
    rw [finish_of_empty rfl]
    rfl
  · have hlines : objections.map (·.violation.reason.toList) ≠ [] := by simpa using hnil
    have hreason := reason_ofObjections objections
    have hmap : (objections.map fun o ↦ o.violation.reason.toList ++ ['\n']) =
        (objections.map (·.violation.reason.toList)).map (· ++ ['\n']) := by
      rw [List.map_map]
      rfl
    rw [hmap, flatten_map_concat '\n' hlines] at hreason
    rw [reason_finish hreason, ← String.toList_inj, String.toList_intercalate, String.toList_ofList,
      List.map_map]
    rfl

end Decision

end GuildModeration
