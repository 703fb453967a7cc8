import GuildModeration.Evaluation
import GuildModeration.Proofs.Spam.Checks

/-!
# What rules read of the state they share

The rules of all guilds share one state: the windows of recent messages and the source of
reputation. A rule that judges a message looks at the source and at one window, that of the author
in the channel, and changes nothing but this window. So states that agree on these two look the same
to it, and go on agreeing.

Both facts are shown for a single rule and carried along the list of rules.
-/

namespace GuildModeration

open Spam

/-! ## Two ways to compare states -/

/-- The states have the same source of reputation, and the same window for a key. -/
structure RuleState.AgreesAt (key : WindowKey) (state state' : RuleState) : Prop where
  reputation_eq : state.reputation = state'.reputation
  window_eq : state.spam.windows.find? key = state'.spam.windows.find? key

/-- The second state comes from the first by a change to the window of a key, if at all. -/
structure RuleState.ChangesAt (key : WindowKey) (state state' : RuleState) : Prop where
  reputation_eq : state'.reputation = state.reputation
  window_eq : ∀ {other}, key ≠ other →
    state'.spam.windows.find? other = state.spam.windows.find? other

variable {key : WindowKey}

theorem RuleState.ChangesAt.refl (state : RuleState) : state.ChangesAt key state :=
  ⟨rfl, fun _ ↦ rfl⟩

theorem RuleState.ChangesAt.trans {s t u : RuleState} (h : s.ChangesAt key t)
    (h' : t.ChangesAt key u) : s.ChangesAt key u where
  reputation_eq := h'.reputation_eq.trans h.reputation_eq
  window_eq hne := (h'.window_eq hne).trans (h.window_eq hne)

/-! ## Rules -/

/-- The rule looks at the reputation of hosts and at the window of the message, and changes that
window at most. -/
structure Rule.IsLocal (rule : Rule) : Prop where
  changesAt : ∀ m c (state : RuleState),
    state.ChangesAt (SpamRule.keyOf m c) (rule.check m c state).2
  answer_eq : ∀ {m c} {state state' : RuleState}, state.AgreesAt (SpamRule.keyOf m c) state' →
    (rule.check m c state).1 = (rule.check m c state').1
  agreesAt : ∀ {m c} {state state' : RuleState}, state.AgreesAt (SpamRule.keyOf m c) state' →
    (rule.check m c state).2.AgreesAt (SpamRule.keyOf m c) (rule.check m c state').2

/-- A rule that has no state of its own is local if its check asks for nothing but reputation. -/
theorem RuleSettings.isLocal_ruleOf (s : RuleSettings) (name : String)
    {check : Message → RuleState → RuleAnswer}
    (h : ∀ m (state state' : RuleState), state.reputation = state'.reputation →
      check m state = check m state') : (s.ruleOf name check).IsLocal where
  changesAt _ _ state := .refl state
  answer_eq hagrees := h _ _ _ hagrees.reputation_eq
  agreesAt hagrees := hagrees

theorem SpamRule.isLocal_rule (r : SpamRule) : r.rule.IsLocal := by
  by_cases hon : r.IsOn
  · have hcheck : ∀ m c state, r.rule.check m c state =
        (r.verdict (state.spam.record (keyOf m c) m.id m.sentAt r.width).1,
          { state with spam := (state.spam.record (keyOf m c) m.id m.sentAt r.width).2 }) :=
      SpamRule.check_of_isOn hon
    constructor
    · intro m c state
      rw [hcheck]
      refine ⟨rfl, fun {other} hne ↦ ?_⟩
      rw [Tracker.find?_record, if_neg hne]
    · intro m c state state' hagrees
      rw [hcheck, hcheck, Tracker.record, Tracker.record, hagrees.window_eq]
    · intro m c state state' hagrees
      rw [hcheck, hcheck]
      refine ⟨hagrees.reputation_eq, ?_⟩
      rw [Tracker.find?_record, Tracker.find?_record, Tracker.windowOf, Tracker.windowOf,
        hagrees.window_eq]
  · have hcheck : ∀ m c state, r.rule.check m c state = (.ok none, state) :=
      SpamRule.check_of_not_isOn hon
    constructor
    · intro m c state
      rw [hcheck]
      exact .refl state
    · intro m c state state' _
      rw [hcheck, hcheck]
    · intro m c state state' hagrees
      rwa [hcheck, hcheck]

theorem GuildConfig.isLocal_of_mem_rules {config : GuildConfig} {rule : Rule}
    (h : rule ∈ config.rules) : rule.IsLocal := by
  refine forall_mem_rules_iff.mpr ⟨config.spam.isLocal_rule, ?_, ?_, ?_, ?_, ?_⟩ rule h
  · exact RuleSettings.isLocal_ruleOf _ _ fun _ _ _ _ ↦ rfl
  · exact RuleSettings.isLocal_ruleOf _ _ fun _ _ _ _ ↦ rfl
  · exact RuleSettings.isLocal_ruleOf _ _ fun _ _ _ _ ↦ rfl
  · exact RuleSettings.isLocal_ruleOf _ _ fun _ _ _ _ ↦ rfl
  · refine RuleSettings.isLocal_ruleOf _ _ fun m state state' h ↦ ?_
    rw [SitesRule.check, SitesRule.check, h]

/-! ## Evaluations -/

namespace MessageContext

/-- The window of the message. -/
def windowKey (c : MessageContext) : WindowKey :=
  SpamRule.keyOf c.message c.channel

end MessageContext

namespace EvaluationRun

/-- The evaluations have gone the same way, and the rules to come see the same. -/
structure Agrees (key : WindowKey) (r r' : EvaluationRun) : Prop where
  evaluation_eq : r.evaluation = r'.evaluation
  log_eq : r.log = r'.log
  state : r.state.AgreesAt key r'.state

variable {c : MessageContext} {r r' : EvaluationRun} {rule : Rule}

theorem ask_changesAt (h : rule.IsLocal) (r : EvaluationRun) :
    r.state.ChangesAt c.windowKey (ask c r rule).state := by
  have hchanges := h.changesAt c.message c.channel r.state
  rw [ask]
  split
  · exact .refl r.state
  · generalize rule.check c.message c.channel r.state = checked at hchanges
    rcases checked with ⟨e | _ | v, state⟩ <;> exact hchanges

theorem Agrees.ask (h : Agrees c.windowKey r r') (hlocal : rule.IsLocal) :
    Agrees c.windowKey (ask c r rule) (ask c r' rule) := by
  have hanswer := hlocal.answer_eq h.state
  have hstate := hlocal.agreesAt h.state
  rw [EvaluationRun.ask, EvaluationRun.ask]
  split
  · exact h
  · generalize rule.check c.message c.channel r.state = checked at hanswer hstate
    generalize rule.check c.message c.channel r'.state = checked' at hanswer hstate
    obtain ⟨answer, state⟩ := checked
    obtain ⟨answer', state'⟩ := checked'
    obtain rfl : answer = answer' := hanswer
    rcases answer with e | _ | v
    · exact ⟨by rw [h.evaluation_eq], by rw [h.log_eq], hstate⟩
    · exact ⟨by rw [h.evaluation_eq], h.log_eq, hstate⟩
    · exact ⟨by rw [h.evaluation_eq], h.log_eq, hstate⟩

theorem foldl_ask_changesAt {rules : List Rule} (h : ∀ rule ∈ rules, rule.IsLocal)
    (r : EvaluationRun) :
    r.state.ChangesAt c.windowKey (rules.foldl (EvaluationRun.ask c) r).state := by
  induction rules generalizing r with
  | nil => exact .refl r.state
  | cons rule rules ih =>
    have hfirst := ask_changesAt (c := c) (h rule List.mem_cons_self) r
    apply hfirst.trans
    exact ih (fun rule hmem ↦ h rule (List.mem_cons_of_mem _ hmem)) _

theorem Agrees.foldl_ask {rules : List Rule} (hlocal : ∀ rule ∈ rules, rule.IsLocal)
    (h : Agrees c.windowKey r r') :
    Agrees c.windowKey (rules.foldl (EvaluationRun.ask c) r)
      (rules.foldl (EvaluationRun.ask c) r') := by
  induction rules generalizing r r' with
  | nil => exact h
  | cons rule rules ih =>
    apply ih
    · exact fun rule hmem ↦ hlocal rule (List.mem_cons_of_mem _ hmem)
    · exact h.ask (hlocal rule List.mem_cons_self)

end EvaluationRun

variable {config : GuildConfig} {c : MessageContext} {state state' : RuleState}

/-- An evaluation changes no window but that of the message. -/
theorem evaluate_changesAt (config : GuildConfig) (c : MessageContext) (state : RuleState) :
    state.ChangesAt c.windowKey (evaluate config c state).state :=
  EvaluationRun.foldl_ask_changesAt (fun _ h ↦ GuildConfig.isLocal_of_mem_rules h) { state }

/-- An evaluation depends on nothing but the reputation of hosts and the window of the message. -/
theorem evaluate_agrees (config : GuildConfig) (h : state.AgreesAt c.windowKey state') :
    EvaluationRun.Agrees c.windowKey (evaluate config c state) (evaluate config c state') := by
  have hstart : EvaluationRun.Agrees c.windowKey { state } { state := state' } := ⟨rfl, rfl, h⟩
  have hlocal : ∀ rule ∈ config.rules, rule.IsLocal := fun _ ↦ GuildConfig.isLocal_of_mem_rules
  have hrun := hstart.foldl_ask hlocal
  refine ⟨?_, hrun.log_eq, hrun.state⟩
  rw [evaluate, evaluate, evaluateRules, evaluateRules, hrun.evaluation_eq]

end GuildModeration
