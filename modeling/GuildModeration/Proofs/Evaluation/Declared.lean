import GuildModeration.Proofs.Evaluation.Answers
import GuildModeration.Proofs.Evaluation.Padding

/-!
# An evaluation, declared

An evaluation is determined by what the rules answer: by which of them apply, which objections they
have, and which of their checks fail. `EvaluationRun.IsDeclared` says all of it without saying how
it is found out, and exactly one evaluation is as declared.

A check that fails is reported and leaves no other trace. So if it changes nothing either, the
decision is the one that is made without the rule.
-/

namespace GuildModeration

variable {c : MessageContext}

/-! ## From one rule to all -/

theorem filterMap_cons_toList {α β : Type} (f : α → Option β) (a : α) (l : List α) :
    (a :: l).filterMap f = (f a).toList ++ l.filterMap f := by
  cases h : f a with
  | none => simp [h]
  | some b => simp [h]

namespace EvaluationRun

theorem ask_eq_of_not_ignores {rule : Rule}
    (h : rule.ignores c.channel c.message c.member = false) (r : EvaluationRun) :
    ask c r rule =
      { evaluation :=
          { didCheck := true
            decision := (Answered.objection?
              ⟨rule, (rule.check c.message c.channel r.state).1⟩).toList.foldl
                Decision.addObjection r.evaluation.decision }
        state := (rule.check c.message c.channel r.state).2
        log := r.log ++
          (Answered.failureEvent? c
            ⟨rule, (rule.check c.message c.channel r.state).1⟩).toList } := by
  rw [ask, if_neg (by simp [h])]
  rcases rule.check c.message c.channel r.state with ⟨e | _ | v, state⟩
  · rfl
  · simp [Answered.objection?, Answered.failureEvent?]
  · simp [Answered.objection?, Answered.failureEvent?, Decision.addObjection]

/-- What asking the rules comes to, from where an evaluation has got to. -/
theorem foldl_ask (rules : List Rule) (r : EvaluationRun) :
    rules.foldl (ask c) r =
      { evaluation :=
          { didCheck := r.evaluation.didCheck || !(c.applying rules).isEmpty
            decision :=
              (c.objections rules r.state).foldl Decision.addObjection r.evaluation.decision }
        state := c.stateAfter (c.applying rules) r.state
        log := r.log ++
          (c.answers (c.applying rules) r.state).filterMap (Answered.failureEvent? c) } := by
  induction rules generalizing r with
  | nil =>
    simp [MessageContext.objections, MessageContext.answers, MessageContext.stateAfter,
      MessageContext.applying]
  | cons rule rules ih =>
    rw [List.foldl_cons, ih]
    cases h : rule.ignores c.channel c.message c.member with
    | true =>
      rw [ask_of_ignores h, MessageContext.objections, MessageContext.objections,
        c.applying_cons_of_ignores h]
    | false =>
      rw [ask_eq_of_not_ignores h, MessageContext.objections, MessageContext.objections,
        c.applying_cons_of_not_ignores h, MessageContext.answers, filterMap_cons_toList,
        filterMap_cons_toList, List.foldl_append, List.append_assoc]
      simp [MessageContext.stateAfter]

end EvaluationRun

theorem evaluateRules_eq (rules : List Rule) (c : MessageContext) (state : RuleState) :
    evaluateRules rules c state =
      { evaluation :=
          { didCheck := !(c.applying rules).isEmpty
            decision := (Decision.ofObjections (c.objections rules state)).finish }
        state := c.stateAfter (c.applying rules) state
        log := (c.answers (c.applying rules) state).filterMap (Answered.failureEvent? c) } := by
  rw [evaluateRules, EvaluationRun.foldl_ask]
  simp [Decision.ofObjections]

/-! ## The declaration -/

/-- The evaluation that the answers of the rules call for. Here `asked` are the rules that apply with
their answers, and `objections` what is found among them. -/
structure EvaluationRun.IsDeclared (rules : List Rule) (c : MessageContext) (state : RuleState)
    (run : EvaluationRun) : Prop where
  didCheck_iff : run.evaluation.didCheck = true ↔
    ∃ rule ∈ rules, rule.ignores c.channel c.message c.member = false
  shouldDelete_iff : run.evaluation.decision.shouldDelete = true ↔
    ∃ asked ∈ c.answers (c.applying rules) state, ∃ v, asked.answer = .ok (some v)
  /-- The reasons stand in order with the end of a line between, whatever is in them. -/
  reason_eq : run.evaluation.decision.reason =
    "\n".intercalate ((c.objections rules state).map (·.violation.reason))
  /-- The severity is the highest of all, or the mildest if there is none. -/
  severity_le : ∀ o ∈ c.objections rules state,
    o.violation.severity ≤ run.evaluation.decision.severity
  severity_eq : run.evaluation.decision.severity = .none ∨
    ∃ o ∈ c.objections rules state, o.violation.severity = run.evaluation.decision.severity
  /-- The length of a mute comes from the first rule that asks for the severity. -/
  muteMinutes_eq : .none < run.evaluation.decision.severity →
    ∃ o, Decision.firstOf? run.evaluation.decision.severity (c.objections rules state) = some o ∧
      run.evaluation.decision.muteMinutes = o.rule.muteMinutes
  muteMinutes_eq_zero : ¬ .none < run.evaluation.decision.severity →
    run.evaluation.decision.muteMinutes = 0
  /-- Every rule that applies has been asked once, and no other. -/
  state_eq : run.state = c.stateAfter (c.applying rules) state
  /-- There is one warning for each check that failed. -/
  log_eq : run.log = (c.answers (c.applying rules) state).filterMap (Answered.failureEvent? c)

namespace EvaluationRun

variable {rules : List Rule} {state : RuleState} {run run' : EvaluationRun}

theorem isDeclared_evaluateRules (rules : List Rule) (c : MessageContext) (state : RuleState) :
    (evaluateRules rules c state).IsDeclared rules c state := by
  rw [evaluateRules_eq]
  constructor
  · simp [MessageContext.applying]
  · rw [Decision.finish, Decision.shouldDelete_ofObjections]
    constructor
    · intro hne
      obtain ⟨o, ho⟩ := List.exists_mem_of_ne_nil _ hne
      obtain ⟨asked, hasked, hobjection⟩ := List.mem_filterMap.mp ho
      exact ⟨asked, hasked, o.violation, (Answered.objection?_eq_some_iff.mp hobjection).2⟩
    · rintro ⟨asked, hasked, v, hv⟩
      have hobjection : asked.objection? = some ⟨asked.rule, v⟩ :=
        Answered.objection?_eq_some_iff.mpr ⟨rfl, hv⟩
      exact List.ne_nil_of_mem (List.mem_filterMap.mpr ⟨asked, hasked, hobjection⟩)
  · exact Decision.reason_finish_ofObjections _
  · exact fun o ↦ Decision.severity_le_ofObjections
  · exact Decision.severity_ofObjections_cases _
  · exact Decision.muteMinutes_ofObjections
  · exact Decision.muteMinutes_ofObjections_of_not_lt
  · rfl
  · rfl

theorem IsDeclared.severity_le_severity (h : run.IsDeclared rules c state)
    (h' : run'.IsDeclared rules c state) :
    run.evaluation.decision.severity ≤ run'.evaluation.decision.severity := by
  rcases h.severity_eq with hnone | ⟨o, ho, heq⟩
  · rw [hnone]
    exact Nat.zero_le _
  · rw [← heq]
    exact h'.severity_le o ho

/-- No two evaluations are as declared. -/
theorem IsDeclared.unique (h : run.IsDeclared rules c state)
    (h' : run'.IsDeclared rules c state) : run = run' := by
  have hdidCheck : run.evaluation.didCheck = run'.evaluation.didCheck :=
    Bool.eq_iff_iff.mpr (h.didCheck_iff.trans h'.didCheck_iff.symm)
  have hshouldDelete :
      run.evaluation.decision.shouldDelete = run'.evaluation.decision.shouldDelete :=
    Bool.eq_iff_iff.mpr (h.shouldDelete_iff.trans h'.shouldDelete_iff.symm)
  have hseverity : run.evaluation.decision.severity = run'.evaluation.decision.severity :=
    Severity.rank_injective
      (Nat.le_antisymm (h.severity_le_severity h') (h'.severity_le_severity h))
  have hminutes :
      run.evaluation.decision.muteMinutes = run'.evaluation.decision.muteMinutes := by
    by_cases hpos : .none < run.evaluation.decision.severity
    · obtain ⟨o, hfirst, hminutes⟩ := h.muteMinutes_eq hpos
      rw [hseverity] at hfirst hpos
      obtain ⟨o', hfirst', hminutes'⟩ := h'.muteMinutes_eq hpos
      obtain rfl := Option.some.inj (hfirst.symm.trans hfirst')
      exact hminutes.trans hminutes'.symm
    · rw [h.muteMinutes_eq_zero hpos]
      rw [hseverity] at hpos
      rw [h'.muteMinutes_eq_zero hpos]
  have hreason := h.reason_eq.trans h'.reason_eq.symm
  have hstate := h.state_eq.trans h'.state_eq.symm
  have hlog := h.log_eq.trans h'.log_eq.symm
  obtain ⟨⟨_, _, _, _, _⟩, _, _⟩ := run
  obtain ⟨⟨_, _, _, _, _⟩, _, _⟩ := run'
  simp_all

end EvaluationRun

/-! ## Rules whose checks fail -/

/-- A check that fails changes nothing. -/
def Rule.KeepsStateOnFailure (rule : Rule) : Prop :=
  ∀ m channel state, (rule.check m channel state).1.isOk = false →
    (rule.check m channel state).2 = state

theorem RuleSettings.keepsStateOnFailure_ruleOf (s : RuleSettings) (name : String)
    (check : Message → RuleState → RuleAnswer) : (s.ruleOf name check).KeepsStateOnFailure :=
  fun _ _ _ _ ↦ rfl

/-- The check of the spam rule cannot fail. -/
theorem SpamRule.keepsStateOnFailure_rule (r : SpamRule) : r.rule.KeepsStateOnFailure := by
  intro m channel state h
  change (r.check m channel state).1.isOk = false at h
  change (r.check m channel state).2 = state
  by_cases hon : r.IsOn
  · rw [SpamRule.check_of_isOn hon] at h
    cases h
  · rw [SpamRule.check_of_not_isOn hon]

theorem GuildConfig.keepsStateOnFailure_of_mem_rules {config : GuildConfig} {rule : Rule}
    (h : rule ∈ config.rules) : rule.KeepsStateOnFailure := by
  refine forall_mem_rules_iff.mpr ⟨config.spam.keepsStateOnFailure_rule, ?_, ?_, ?_, ?_, ?_⟩ rule h
  all_goals exact RuleSettings.keepsStateOnFailure_ruleOf _ _ _

namespace MessageContext

/-- The rules without those whose check fails. -/
def passing (c : MessageContext) : List Rule → RuleState → List Rule
  | [], _ => []
  | rule :: rules, state =>
    if rule.ignores c.channel c.message c.member then rule :: c.passing rules state
    else
      let rest := c.passing rules (rule.check c.message c.channel state).2
      if (rule.check c.message c.channel state).1.isOk then rule :: rest else rest

variable {rules : List Rule} {state : RuleState}

/-- Without the rules whose check fails, the others are asked about the same states. -/
theorem answers_passing (hkeeps : ∀ rule ∈ rules, rule.KeepsStateOnFailure) :
    c.answers (c.applying (c.passing rules state)) state =
        (c.answers (c.applying rules) state).filter (·.answer.isOk) ∧
      c.stateAfter (c.applying (c.passing rules state)) state =
        c.stateAfter (c.applying rules) state := by
  induction rules generalizing state with
  | nil => exact ⟨rfl, rfl⟩
  | cons rule rules ih =>
    have hrest : ∀ rule ∈ rules, rule.KeepsStateOnFailure :=
      fun rule hmem ↦ hkeeps rule (List.mem_cons_of_mem _ hmem)
    cases hrule : rule.ignores c.channel c.message c.member with
    | true =>
      rw [passing, if_pos hrule, c.applying_cons_of_ignores hrule, c.applying_cons_of_ignores hrule]
      exact ih hrest
    | false =>
      have hnot : ¬ rule.ignores c.channel c.message c.member = true := by simp [hrule]
      rw [passing, if_neg hnot, c.applying_cons_of_not_ignores hrule, answers]
      obtain ⟨hanswers, hafter⟩ := @ih (rule.check c.message c.channel state).2 hrest
      cases hok : (rule.check c.message c.channel state).1.isOk with
      | true =>
        rw [if_pos rfl, c.applying_cons_of_not_ignores hrule, answers,
          List.filter_cons_of_pos (p := fun a : Answered ↦ a.answer.isOk) hok, hanswers]
        exact ⟨rfl, hafter⟩
      | false =>
        have hkept := hkeeps rule List.mem_cons_self c.message c.channel state hok
        rw [if_neg Bool.false_ne_true, List.filter_cons_of_neg (by simp [hok])]
        rw [hkept] at hanswers hafter ⊢
        refine ⟨hanswers, ?_⟩
        rw [hafter, stateAfter, stateAfter, List.foldl_cons, hkept]

theorem objections_passing (hkeeps : ∀ rule ∈ rules, rule.KeepsStateOnFailure) :
    c.objections (c.passing rules state) state = c.objections rules state := by
  rw [objections, objections, (answers_passing hkeeps).1, List.filterMap_filter]
  apply List.filterMap_congr
  rintro ⟨rule, e | found⟩ -
  · rfl
  · rfl

theorem failures_passing (hkeeps : ∀ rule ∈ rules, rule.KeepsStateOnFailure) :
    (c.answers (c.applying (c.passing rules state)) state).filterMap
      (Answered.failureEvent? c) = [] := by
  rw [(answers_passing hkeeps).1, List.filterMap_filter, List.filterMap_eq_nil_iff]
  rintro ⟨rule, e | found⟩ -
  · rfl
  · rfl

end MessageContext

/-- Whatever the rules, the message and the state they are asked about: one evaluation is as
declared, and it is the one that asking the rules in order comes to. Rules whose check fails and
changes nothing might as well not be there, and all kinds of rules are such. -/
theorem evaluateRules_declared (rules : List Rule) (c : MessageContext) (state : RuleState) :
    (∀ run, run = evaluateRules rules c state ↔ run.IsDeclared rules c state) ∧
      ((∀ rule ∈ rules, rule.KeepsStateOnFailure) →
        (evaluateRules (c.passing rules state) c state).evaluation.decision =
            (evaluateRules rules c state).evaluation.decision ∧
          (evaluateRules (c.passing rules state) c state).state =
            (evaluateRules rules c state).state ∧
          (evaluateRules (c.passing rules state) c state).log = []) ∧
      ∀ config : GuildConfig, ∀ rule ∈ config.rules, rule.KeepsStateOnFailure := by
  refine ⟨fun run ↦ ⟨?_, ?_⟩, fun hkeeps ↦ ?_, fun _ _ ↦ GuildConfig.keepsStateOnFailure_of_mem_rules⟩
  · rintro rfl
    exact EvaluationRun.isDeclared_evaluateRules rules c state
  · intro h
    exact h.unique (EvaluationRun.isDeclared_evaluateRules rules c state)
  · rw [evaluateRules_eq, evaluateRules_eq, MessageContext.objections_passing hkeeps]
    exact ⟨rfl, (MessageContext.answers_passing hkeeps).2, MessageContext.failures_passing hkeeps⟩

/-- Rules of all sorts: one that is off, one whose check fails, one that has nothing to say, and
objections of which two ask for the same severity and two have an odd reason. -/
theorem evaluateRules_mixed :
    let rule (minutes : UInt32) (answer : RuleAnswer) : Rule :=
      RuleSettings.ruleOf { enabled := true, muteMinutes := minutes } "rule" fun _ _ ↦ answer
    let off : Rule := RuleSettings.ruleOf {} "off" fun _ _ ↦ .ok (some ⟨.ban, "off"⟩)
    let rules : List Rule :=
      [off, rule 1 (.ok (some ⟨.mute, ""⟩)), rule 2 (.error (.other "down")), rule 3 (.ok none),
        rule 4 (.ok (some ⟨.kick, "a\n"⟩)), rule 5 (.ok (some ⟨.kick, "b"⟩)),
        rule 6 (.ok (some ⟨.none, ""⟩))]
    let m : Message :=
      { id := 3, guild := some 1, channel := 2, author := { id := 4 }, content := "a" }
    let c : MessageContext := ⟨m, { id := 2, guild := 1 }, { user := 4 }⟩
    let decision : Decision := ⟨true, .kick, 4, "\na\n\nb\n"⟩
    (∀ rule ∈ rules, rule.KeepsStateOnFailure) ∧
      (evaluateRules rules c {}).IsDeclared rules c {} ∧
      (evaluateRules rules c {}).evaluation.decision = decision ∧
      (evaluateRules (c.passing rules {}) c {}).evaluation.decision = decision ∧
      (c.passing rules {}).length = 6 := by
  intro rule off rules m c decision
  have hkeeps : ∀ rule ∈ rules, rule.KeepsStateOnFailure := by
    simp only [rules, List.forall_mem_cons]
    refine ⟨?_, ?_, ?_, ?_, ?_, ?_, ?_, fun _ h ↦ absurd h List.not_mem_nil⟩
    all_goals exact RuleSettings.keepsStateOnFailure_ruleOf _ _ _
  have hdecision : (evaluateRules rules c {}).evaluation.decision = decision := by
    decide +kernel
  obtain ⟨hdeclared, hpassing, -⟩ := evaluateRules_declared rules c {}
  exact ⟨hkeeps, (hdeclared _).mp rfl, hdecision, (hpassing hkeeps).1.trans hdecision,
    by decide +kernel⟩

end GuildModeration
