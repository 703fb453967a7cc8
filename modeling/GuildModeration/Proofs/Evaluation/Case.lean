import GuildModeration.Evaluation
import GuildModeration.Proofs.Evaluation.Flags

/-!
# Messages and policies that differ in case

The case of ASCII letters makes no difference to an evaluation: not in the text of the message, not
in the lists of banned words and websites that a policy is compiled from, and not in the addresses
that have been flagged. The rules that read a text read it by functions that do not see case, the
other rules do not read it, and what is made of a list or an address is in lower case before it is
looked at.
-/

namespace GuildModeration

open GuildModeration.Text GuildModeration.Link

/-! ## Rules -/

/-- The rule sees no difference between messages whose texts differ in nothing but case. -/
structure Rule.IgnoresCase (rule : Rule) : Prop where
  ignores_eq : ∀ {m : Message} {content}, SameButCase m.content content → ∀ channel member,
    rule.ignores channel { m with content } member = rule.ignores channel m member
  check_eq : ∀ {m : Message} {content}, SameButCase m.content content → ∀ channel state,
    rule.check { m with content } channel state = rule.check m channel state

theorem RuleSettings.ignoresCase_ruleOf (s : RuleSettings) (name : String)
    {check : Message → RuleState → RuleAnswer}
    (h : ∀ {m : Message} {content}, SameButCase m.content content → ∀ state,
      check { m with content } state = check m state) : (s.ruleOf name check).IgnoresCase where
  ignores_eq _ _ _ := rfl
  check_eq hcase _ state := congrArg (·, state) (h hcase state)

theorem SpamRule.ignoresCase_rule (r : SpamRule) : r.rule.IgnoresCase where
  ignores_eq _ _ _ := rfl
  check_eq _ _ _ := rfl

theorem InviteRule.ignoresCase_rule (r : InviteRule) : r.rule.IgnoresCase := by
  apply RuleSettings.ignoresCase_ruleOf
  intro m content hcase state
  rw [check, check, hcase.eq_of_map hasInvite_map_toLower]

theorem MentionRule.ignoresCase_rule (r : MentionRule) : r.rule.IgnoresCase :=
  RuleSettings.ignoresCase_ruleOf _ _ fun _ _ ↦ rfl

theorem LinksRule.ignoresCase_rule (r : LinksRule) : r.rule.IgnoresCase := by
  apply RuleSettings.ignoresCase_ruleOf
  intro m content hcase state
  rw [check, check, hcase.eq_of_map hasWebLink_map_toLower]

theorem WordsRule.lowerWords_eq_of_sameButCase {s t : String} (h : SameButCase s t) :
    lowerWords s = lowerWords t := by
  refine h.eq_of_map (f := fun cs ↦ (words cs).map (String.ofList ∘ lowerChars)) fun cs ↦ ?_
  rw [words, caseBlind_isAlphanumeric.runs, List.map_map, words]
  refine List.map_congr_left fun w _ ↦ ?_
  rw [Function.comp_apply, Function.comp_apply, lowerChars_map_toLower, Function.comp_apply]

theorem WordsRule.ignoresCase_rule (r : WordsRule) : r.rule.IgnoresCase := by
  apply RuleSettings.ignoresCase_ruleOf
  intro m content hcase state
  rw [check, check, find?, find?, lowerWords_eq_of_sameButCase hcase]

theorem SitesRule.ignoresCase_rule (r : SitesRule) : r.rule.IgnoresCase := by
  apply RuleSettings.ignoresCase_ruleOf
  intro m content hcase state
  rw [check, check, namedHosts, namedHosts, hosts_eq_of_sameButCase hcase]

theorem GuildConfig.ignoresCase_of_mem_rules {config : GuildConfig} {rule : Rule}
    (h : rule ∈ config.rules) : rule.IgnoresCase :=
  forall_mem_rules_iff.mpr
    ⟨config.spam.ignoresCase_rule, config.invite.ignoresCase_rule, config.mention.ignoresCase_rule,
      config.links.ignoresCase_rule, config.words.ignoresCase_rule, config.sites.ignoresCase_rule⟩ rule h

/-! ## Messages -/

/-- The message with another text. -/
def MessageContext.withContent (c : MessageContext) (content : String) : MessageContext :=
  { c with message := { c.message with content } }

theorem EvaluationRun.ask_withContent {c : MessageContext} {content : String} {rule : Rule}
    (hrule : rule.IgnoresCase) (hcase : SameButCase c.message.content content)
    (r : EvaluationRun) : ask (c.withContent content) r rule = ask c r rule := by
  have hignores : rule.ignores (c.withContent content).channel (c.withContent content).message
      (c.withContent content).member = rule.ignores c.channel c.message c.member :=
    hrule.ignores_eq hcase c.channel c.member
  have hcheck : rule.check (c.withContent content).message (c.withContent content).channel r.state =
      rule.check c.message c.channel r.state :=
    hrule.check_eq hcase c.channel r.state
  rw [ask, ask, hignores, hcheck]
  rfl

theorem evaluateRules_withContent {c : MessageContext} {content : String} {rules : List Rule}
    (hrules : ∀ rule ∈ rules, rule.IgnoresCase) (hcase : SameButCase c.message.content content)
    (state : RuleState) :
    evaluateRules rules (c.withContent content) state = evaluateRules rules c state := by
  have hfold : rules.foldl (EvaluationRun.ask (c.withContent content)) { state } =
      rules.foldl (EvaluationRun.ask c) { state } :=
    List.foldl_ext _ _ _ fun r rule hmem ↦
      EvaluationRun.ask_withContent (hrules rule hmem) hcase r
  rw [evaluateRules, hfold, evaluateRules]

/-! ## Policies -/

/-- Lists that are entry by entry in a relation have the same image under a function that does not
see it. -/
theorem map_eq_map_of_forall₂ {α β : Type} {R : α → α → Prop} {f : α → β} {l l' : List α}
    (h : List.Forall₂ R l l') (hf : ∀ {a b}, R a b → f a = f b) : l.map f = l'.map f := by
  rw [← List.forall₂_eq_eq_eq, List.forall₂_map_left_iff, List.forall₂_map_right_iff]
  exact h.imp fun _ _ hab ↦ hf hab

theorem WordsRule.entryForm_eq_of_sameButCase {s t : String} (h : SameButCase s t) :
    entryForm s = entryForm t := by
  rw [entryForm, entryForm, lower, lower, trim, trim, String.toList_ofList, String.toList_ofList]
  refine h.eq_of_map (f := fun cs ↦ String.ofList (lowerChars (trimChars cs))) fun cs ↦ ?_
  rw [trimChars_map_toLower, lowerChars_map_toLower]

/-- The policy with its lists of banned words and websites spelled in another way. -/
def GuildConfig.respelled (config : GuildConfig) (words sites : List String) : GuildConfig :=
  { config with
    words := { config.words with bannedWords := words }
    sites := { config.sites with bannedWebsites := sites } }

theorem WordsRule.rule_compile_of_forall₂ {r : WordsRule} {words : List String}
    (h : List.Forall₂ SameButCase r.bannedWords words) :
    ({ r with bannedWords := words } : WordsRule).compile.rule = r.compile.rule := by
  -- the rule reads the lexicon, and the list itself no more
  have hlexicon := map_eq_map_of_forall₂ h entryForm_eq_of_sameButCase
  rw [compile, ← hlexicon]
  rfl

theorem SitesRule.judgeAll_congr {r r' : SitesRule} {reputation : Reputation}
    (h : ∀ host, r.judge reputation host = r'.judge reputation host) (hosts : List String) :
    r.judgeAll reputation hosts = r'.judgeAll reputation hosts := by
  induction hosts with
  | nil => rfl
  | cons host hosts ih => rw [judgeAll, judgeAll, h host, ih]

theorem SitesRule.rule_compile_of_forall₂ {r : SitesRule} {sites : List String}
    (h : List.Forall₂ SameButCase r.bannedWebsites sites) :
    ({ r with bannedWebsites := sites } : SitesRule).compile.rule = r.compile.rule := by
  -- no verdict on a host reads anything but the bare hosts
  have hhosts := map_eq_map_of_forall₂ h bareHost_eq_of_sameButCase
  have hcheck :
      ({ r with bannedWebsites := sites } : SitesRule).compile.check = r.compile.check := by
    funext m state
    rw [compile, ← hhosts, check, check]
    apply judgeAll_congr
    exact fun host ↦ rfl
  rw [rule, hcheck]
  rfl

theorem GuildConfig.rules_compile_respelled (config : GuildConfig) {words sites : List String}
    (hwords : List.Forall₂ SameButCase config.words.bannedWords words)
    (hsites : List.Forall₂ SameButCase config.sites.bannedWebsites sites) :
    (config.respelled words sites).compile.rules = config.compile.rules := by
  simp only [rules, compile, respelled, WordsRule.rule_compile_of_forall₂ hwords,
    SitesRule.rule_compile_of_forall₂ hsites]

/-! ## Evaluations -/

/-- Case makes no difference, wherever it stands: in the text of a message, in the lists that a
policy is compiled from, and in the addresses that are flagged or taken back. -/
theorem evaluate_eq_of_sameButCase :
    (∀ (config : GuildConfig) (c : MessageContext) (state : RuleState) (content : String),
      SameButCase c.message.content content →
        evaluate config (c.withContent content) state = evaluate config c state) ∧
      (∀ (config : GuildConfig) (words sites : List String),
        List.Forall₂ SameButCase config.words.bannedWords words →
        List.Forall₂ SameButCase config.sites.bannedWebsites sites →
          ∀ c state, evaluate (config.respelled words sites).compile c state =
            evaluate config.compile c state) ∧
      ∀ (f : FlaggedHosts) (calls calls' : List FlaggedHosts.Call),
        List.Forall₂ FlaggedHosts.Call.SameButCase calls calls' →
          ∀ (config : GuildConfig) (c : MessageContext) (state : RuleState),
            evaluate config c { state with reputation := (f.run calls').reputation } =
              evaluate config c { state with reputation := (f.run calls).reputation } := by
  refine ⟨?_, ?_, ?_⟩
  · intro config c state content hcase
    exact evaluateRules_withContent (fun _ ↦ GuildConfig.ignoresCase_of_mem_rules) hcase state
  · intro config words sites hwords hsites c state
    rw [evaluate, config.rules_compile_respelled hwords hsites, evaluate]
  · intro f calls calls' hcalls config c state
    rw [FlaggedHosts.run_eq_of_sameButCase hcalls f]

/-- A message, a policy and flagged addresses that are all spelled in two ways. -/
theorem evaluate_respelled :
    let words : WordsRule := { settings := .enabledWith .mute 10, bannedWords := [" Scam"] }
    let sites : SitesRule :=
      { settings := .enabledWith .ban 10, bannedWebsites := ["Bad.example"], asksReputation := true }
    let config : GuildConfig := { guild := 1, enabled := true, words, sites }
    let m : Message :=
      { id := 3, guild := some 1, channel := 2, author := { id := 4 }
        content := "SCAM on www.Worse.example" }
    let c : MessageContext := ⟨m, { id := 2, guild := 1 }, { user := 4 }⟩
    let content := "scAM ON WWW.worse.EXAMPLE"
    let state (calls : List FlaggedHosts.Call) : RuleState :=
      { ({} : RuleState) with reputation := (FlaggedHosts.run {} calls).reputation }
    let calls : List FlaggedHosts.Call := [.flag "HTTP://Worse.example/a"]
    let calls' : List FlaggedHosts.Call := [.flag "http://worse.EXAMPLE/A"]
    let severity (run : EvaluationRun) : Severity := run.evaluation.decision.severity
    SameButCase c.message.content content ∧
      severity (evaluate config.compile c (state calls)) = .ban ∧
      severity (evaluate config.compile (c.withContent content) (state calls)) = .ban ∧
      severity (evaluate (config.respelled [" sCAM"] ["bad.EXAMPLE"]).compile c (state calls)) =
        .ban ∧
      severity (evaluate config.compile c (state calls')) = .ban := by
  intro words sites config m c content state calls calls' severity
  have hban : severity (evaluate config.compile c (state calls)) = .ban := by
    decide +kernel
  have hcase : SameButCase c.message.content content := by decide +kernel
  obtain ⟨hcontent, hlists, hflags⟩ := evaluate_eq_of_sameButCase
  refine ⟨hcase, hban, ?_, ?_, ?_⟩
  · rw [hcontent config.compile c (state calls) content hcase]
    exact hban
  · rw [hlists config [" sCAM"] ["bad.EXAMPLE"] (.cons (by decide +kernel) .nil)
      (.cons (by decide +kernel) .nil)]
    exact hban
  · have hcalls : evaluate config.compile c (state calls') =
        evaluate config.compile c (state calls) :=
      hflags {} calls calls' (.cons (.flag (by decide +kernel)) .nil) config.compile c {}
    rw [hcalls]
    exact hban

end GuildModeration
