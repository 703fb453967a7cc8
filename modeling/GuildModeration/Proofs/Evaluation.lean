import GuildModeration.Evaluation

/-!
# What asking the rules amounts to

Two flags come out of an evaluation and are set independently: that some rule applied, and that some
rule objected. The first depends on nothing but which rules ignore the message, whatever the checks
answer and whether they fail.

Both facts below are carried from one rule to the next by what `EvaluationRun.ask` does, and then
along the list.
-/

namespace GuildModeration

namespace EvaluationRun

variable (c : MessageContext)

theorem ask_didCheck (r : EvaluationRun) (rule : Rule) :
    (ask c r rule).evaluation.didCheck =
      (r.evaluation.didCheck || !rule.ignores c.channel c.message c.member) := by
  rw [ask]
  cases rule.ignores c.channel c.message c.member with
  | true => simp
  | false =>
    -- the rule has applied, whatever its check answers
    rw [if_neg Bool.false_ne_true, Bool.not_false, Bool.or_true]
    rcases rule.check c.message c.channel r.state with ⟨e | _ | v, state⟩ <;> rfl

/-- Asking a rule adds at most the report that its check failed. -/
theorem mem_ask_log {r : EvaluationRun} {rule : Rule} {event : Log.Event}
    (h : event ∈ (ask c r rule).log) :
    event ∈ r.log ∨ ∃ e, event = failureEvent c rule e := by
  rw [ask] at h
  split at h
  · exact Or.inl h
  · generalize rule.check c.message c.channel r.state = checked at h
    rcases checked with ⟨e | _ | v, state⟩
    · rcases List.mem_append.mp h with h | h
      · exact Or.inl h
      · exact Or.inr ⟨e, List.mem_singleton.mp h⟩
    · exact Or.inl h
    · exact Or.inl h

theorem foldl_ask_didCheck (rules : List Rule) (r : EvaluationRun) :
    (rules.foldl (ask c) r).evaluation.didCheck =
      (r.evaluation.didCheck ||
        rules.any fun rule ↦ !rule.ignores c.channel c.message c.member) := by
  -- the flag that has come so far is the first of the disjunction
  induction rules generalizing r with
  | nil => simp
  | cons rule rules ih => rw [List.foldl_cons, ih, ask_didCheck, List.any_cons, Bool.or_assoc]

theorem mem_foldl_ask_log {rules : List Rule} {r : EvaluationRun} {event : Log.Event}
    (h : event ∈ (rules.foldl (ask c) r).log) :
    event ∈ r.log ∨ ∃ rule ∈ rules, ∃ e, event = failureEvent c rule e := by
  induction rules generalizing r with
  | nil => exact Or.inl h
  | cons rule rules ih =>
    rcases ih h with h | ⟨other, hmem, e, rfl⟩
    · rcases mem_ask_log c h with h | ⟨e, rfl⟩
      · exact Or.inl h
      · exact Or.inr ⟨rule, List.mem_cons_self, e, rfl⟩
    · exact Or.inr ⟨other, List.mem_cons_of_mem _ hmem, e, rfl⟩

end EvaluationRun

/-- Some rule applied exactly if one of them does not ignore the message. -/
theorem evaluateRules_didCheck (rules : List Rule) (c : MessageContext) (state : RuleState) :
    (evaluateRules rules c state).evaluation.didCheck =
      rules.any fun rule ↦ !rule.ignores c.channel c.message c.member := by
  rw [evaluateRules, EvaluationRun.foldl_ask_didCheck, Bool.false_or]

/-- All that is reported while the rules are asked is that some of their checks failed. -/
theorem mem_evaluateRules_log {rules : List Rule} {c : MessageContext} {state : RuleState}
    {event : Log.Event} (h : event ∈ (evaluateRules rules c state).log) :
    ∃ rule ∈ rules, ∃ e, event = EvaluationRun.failureEvent c rule e := by
  rcases EvaluationRun.mem_foldl_ask_log c h with h | h
  · cases h
  · exact h

end GuildModeration
