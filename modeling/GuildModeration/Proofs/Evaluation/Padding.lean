import GuildModeration.Proofs.Evaluation.Locality
import GuildModeration.Proofs.Link.Separation
import GuildModeration.Proofs.Sites.Reputation

/-!
# Text around a message

Whoever sends a message that breaks a rule gains nothing by writing more around it. A rule that
objects to a text objects to every text that holds it between two blanks, since what it looks for
does not go across a blank, and asks for the same severity; the other rules look at other things
than the text. The decision is then no milder, since a violation more can only make it harder.

A failing lookup of a reputation would end the check of the sites before the host that matters, so
the source of reputation has to answer for every host.
-/

namespace GuildModeration

open GuildModeration.Text GuildModeration.Link

/-! ## Texts -/

/-- The message with more text on either side, and a character between. -/
def Message.padded (m : Message) (before : String) (s t : Char) (after : String) : Message :=
  { m with
    content := before ++ String.singleton s ++ m.content ++ String.singleton t ++ after }

theorem Message.padded_toList (m : Message) (before : String) (s t : Char) (after : String) :
    (m.padded before s t after).content.toList =
      before.toList ++ s :: (m.content.toList ++ t :: after.toList) := by
  simp [padded]

section Texts

variable {s t : Char} {before after : String} {m : Message}

/-- A check for something that does not go across blanks finds it in the longer text too. -/
theorem Message.found_padded {q : List Char → Bool}
    (hq : ∀ {s}, isBlank s = true → ∀ a b, q (a ++ s :: b) = (q a || q b))
    (hs : isBlank s = true) (ht : isBlank t = true) (h : q m.content.toList = true) :
    q (m.padded before s t after).content.toList = true := by
  rw [padded_toList, hq hs, hq ht, h, Bool.true_or, Bool.or_true]

/-- Parts that do not go across blanks are parts of the longer text too. -/
theorem Message.mem_padded {α : Type} {parts : List Char → List α}
    (hparts : ∀ {s}, isBlank s = true → ∀ a b, parts (a ++ s :: b) = parts a ++ parts b)
    (hs : isBlank s = true) (ht : isBlank t = true) {x : α} (h : x ∈ parts m.content.toList) :
    x ∈ parts (m.padded before s t after).content.toList := by
  rw [padded_toList, hparts hs, hparts ht]
  exact List.mem_append_right _ (List.mem_append_left _ h)

end Texts

/-! ## Rules -/

/-- The source has an answer for every host. -/
def Reputation.IsTotal (reputation : Reputation) : Prop :=
  ∀ host, ∃ flagged, reputation host = .ok flagged

theorem FlaggedHosts.isTotal_reputation (f : FlaggedHosts) : f.reputation.IsTotal :=
  fun host ↦ ⟨f.isFlagged host, rfl⟩

/-- The rule objects to the second message if it objects to the first, and as hard; apart from that
it makes no difference between them. -/
structure Rule.ObjectsToo (rule : Rule) (m m' : Message) : Prop where
  ignores_eq : ∀ c member, rule.ignores c m' member = rule.ignores c m member
  state_eq : ∀ c state, (rule.check m' c state).2 = (rule.check m c state).2
  violation : ∀ {c v} {state : RuleState}, state.reputation.IsTotal →
    (rule.check m c state).1 = .ok (some v) →
      ∃ v', (rule.check m' c state).1 = .ok (some v') ∧ v'.severity = v.severity

theorem RuleSettings.objectsToo_ruleOf (settings : RuleSettings) (name : String)
    {check : Message → RuleState → RuleAnswer} {m m' : Message}
    (h : ∀ {v} {state : RuleState}, state.reputation.IsTotal → check m state = .ok (some v) →
      ∃ v', check m' state = .ok (some v') ∧ v'.severity = v.severity) :
    (settings.ruleOf name check).ObjectsToo m m' where
  ignores_eq _ _ := rfl
  state_eq _ _ := rfl
  violation htotal hv := h htotal hv

section Rules

variable {s t : Char} (hs : isBlank s = true) (ht : isBlank t = true) (m : Message)
  (before after : String)

theorem SpamRule.objectsToo_padded (r : SpamRule) :
    r.rule.ObjectsToo m (m.padded before s t after) where
  ignores_eq _ _ := rfl
  state_eq _ _ := rfl
  violation _ hv := ⟨_, hv, rfl⟩

theorem MentionRule.objectsToo_padded (r : MentionRule) :
    r.rule.ObjectsToo m (m.padded before s t after) :=
  RuleSettings.objectsToo_ruleOf _ _ fun _ hv ↦ ⟨_, hv, rfl⟩

include hs ht

/-- A rule that looks for something that does not go across blanks. -/
theorem RuleSettings.objectsToo_search (settings : RuleSettings) (name : String)
    {q : List Char → Bool}
    (hq : ∀ {s}, isBlank s = true → ∀ a b, q (a ++ s :: b) = (q a || q b)) (v : Violation) :
    (settings.ruleOf name fun m _ ↦ .ok (if q m.content.toList then some v else none)).ObjectsToo
      m (m.padded before s t after) := by
  apply objectsToo_ruleOf
  intro u state _ hu
  split at hu
  · next hfound =>
    rw [if_pos (Message.found_padded hq hs ht hfound)]
    exact ⟨u, hu, rfl⟩
  · cases hu

theorem InviteRule.objectsToo_padded (r : InviteRule) :
    r.rule.ObjectsToo m (m.padded before s t after) :=
  r.settings.objectsToo_search hs ht m before after "invite" hasInvite_append_cons _

theorem LinksRule.objectsToo_padded (r : LinksRule) :
    r.rule.ObjectsToo m (m.padded before s t after) :=
  r.settings.objectsToo_search hs ht m before after "links" hasWebLink_append_cons _

theorem WordsRule.objectsToo_padded (r : WordsRule) :
    r.rule.ObjectsToo m (m.padded before s t after) := by
  apply RuleSettings.objectsToo_ruleOf
  intro v state _ hv
  rw [check] at hv ⊢
  cases hfind : r.find? m.content with
  | none =>
    rw [hfind] at hv
    cases hv
  | some word =>
    rw [hfind] at hv
    have hlower : word ∈ lowerWords (m.padded before s t after).content := by
      obtain ⟨w, hw, rfl⟩ := List.mem_map.mp (List.mem_of_find?_eq_some hfind)
      exact List.mem_map.mpr ⟨w, Message.mem_padded words_append_cons hs ht hw, rfl⟩
    have hsome : (r.find? (m.padded before s t after).content).isSome = true :=
      List.find?_isSome.mpr ⟨word, hlower, List.find?_some hfind⟩
    obtain ⟨other, hother⟩ := Option.isSome_iff_exists.mp hsome
    rw [hother]
    refine ⟨_, rfl, ?_⟩
    obtain rfl := Option.some.inj (Except.ok.inj hv)
    rfl

end Rules

/-! ## Sites -/

namespace SitesRule

variable {r : SitesRule} {reputation : Reputation} {host : String} {hosts : List String}
  {v : Violation}

theorem not_lookupFails_of_isTotal (htotal : reputation.IsTotal) :
    ¬ r.LookupFails reputation host := by
  rintro ⟨-, -, e, hfails⟩
  obtain ⟨flagged, hflagged⟩ := htotal host
  rw [hfails] at hflagged
  cases hflagged

/-- If no lookup fails, a host that decides for a violation is not missed, though another one may
have decided before. -/
theorem judgeAll_of_judge (htotal : reputation.IsTotal) (hmem : host ∈ hosts)
    (h : r.judge reputation host = .ok (some v)) :
    ∃ v', r.judgeAll reputation hosts = .ok (some v') := by
  obtain ⟨before, after, hhosts⟩ := List.append_of_mem hmem
  apply Reaches.exists_judgeAll
  exact ⟨before, host, after, hhosts, fun _ _ ↦ not_lookupFails_of_isTotal htotal,
    (decides_of_judge h).offends⟩

theorem objectsToo_padded {s t : Char} (hs : isBlank s = true) (ht : isBlank t = true)
    (m : Message) (before after : String) (r : SitesRule) :
    r.rule.ObjectsToo m (m.padded before s t after) := by
  apply RuleSettings.objectsToo_ruleOf
  intro v state htotal hv
  obtain ⟨host, hhost, hjudge⟩ := exists_judge_of_judgeAll hv
  have hmem : host ∈ namedHosts (m.padded before s t after).content := by
    obtain ⟨lowered, hlowered, rfl⟩ := List.mem_map.mp hhost
    obtain ⟨raw, hraw, rfl⟩ := List.mem_map.mp hlowered
    refine List.mem_map_of_mem (List.mem_map.mpr ⟨raw, ?_, rfl⟩)
    exact Message.mem_padded rawHosts_append_cons hs ht hraw
  obtain ⟨v', hv'⟩ := judgeAll_of_judge htotal hmem hjudge
  obtain ⟨other, -, hother⟩ := exists_judge_of_judgeAll hv'
  exact ⟨v', hv', (severity_of_judge hother).trans (severity_of_judge hjudge).symm⟩

end SitesRule

theorem GuildConfig.objectsToo_of_mem_rules {s t : Char} (hs : isBlank s = true)
    (ht : isBlank t = true) (m : Message) (before after : String) {config : GuildConfig}
    {rule : Rule} (h : rule ∈ config.rules) :
    rule.ObjectsToo m (m.padded before s t after) := by
  have hrules : ∀ rule ∈ config.rules, rule.ObjectsToo m (m.padded before s t after) :=
    forall_mem_rules_iff.mpr
      ⟨SpamRule.objectsToo_padded m before after config.spam,
        InviteRule.objectsToo_padded hs ht m before after config.invite,
        MentionRule.objectsToo_padded m before after config.mention,
        LinksRule.objectsToo_padded hs ht m before after config.links,
        WordsRule.objectsToo_padded hs ht m before after config.words,
        SitesRule.objectsToo_padded hs ht m before after config.sites⟩
  exact hrules rule h

/-! ## Decisions -/

namespace Decision

variable {d d' : Decision} {v v' : Violation} {answer answer' : RuleAnswer}

/-- The second decision deletes a message if the first does, and has no lower severity. -/
structure NoMilder (d d' : Decision) : Prop where
  shouldDelete : d.shouldDelete = true → d'.shouldDelete = true
  severity_le : d.severity ≤ d'.severity

/-- The decision once a rule has answered. -/
def heed (d : Decision) (muteMinutes : UInt32) : RuleAnswer → Decision
  | .ok (some v) => d.add v muteMinutes
  | .ok none => d
  | .error _ => d

/-- A violation raises the severity to its own, if it was lower. -/
theorem rank_add (d : Decision) (v : Violation) (muteMinutes : UInt32) :
    (d.add v muteMinutes).severity.rank = max d.severity.rank v.severity.rank := by
  by_cases h : d.severity < v.severity
  · have hlt : d.severity.rank < v.severity.rank := h
    simp only [add, h, decide_true, if_true]
    omega
  · have hge : ¬ d.severity.rank < v.severity.rank := h
    simp only [add, h, decide_false, Bool.false_eq_true, if_false]
    omega

theorem NoMilder.add (h : NoMilder d d') (v : Violation) (muteMinutes : UInt32) :
    NoMilder d (d'.add v muteMinutes) where
  shouldDelete _ := rfl
  severity_le := by
    have hrank : d.severity.rank ≤ d'.severity.rank := h.severity_le
    change d.severity.rank ≤ (d'.add v muteMinutes).severity.rank
    rw [rank_add]
    omega

theorem NoMilder.add_add (h : NoMilder d d') (hv : v'.severity = v.severity)
    (muteMinutes : UInt32) : NoMilder (d.add v muteMinutes) (d'.add v' muteMinutes) where
  shouldDelete _ := rfl
  severity_le := by
    have hrank : d.severity.rank ≤ d'.severity.rank := h.severity_le
    change (d.add v muteMinutes).severity.rank ≤ (d'.add v' muteMinutes).severity.rank
    rw [rank_add, rank_add, hv]
    omega

/-- Answers of which the second objects if the first does keep the order. -/
theorem NoMilder.heed (h : NoMilder d d') (muteMinutes : UInt32)
    (hanswer : ∀ {v}, answer = .ok (some v) →
      ∃ v', answer' = .ok (some v') ∧ v'.severity = v.severity) :
    NoMilder (d.heed muteMinutes answer) (d'.heed muteMinutes answer') := by
  have hquiet : NoMilder d (d'.heed muteMinutes answer') := by
    rcases answer' with e | _ | v'
    · exact h
    · exact h
    · exact h.add v' muteMinutes
  rcases answer with e | _ | v
  · exact hquiet
  · exact hquiet
  · obtain ⟨v', rfl, hseverity⟩ := hanswer rfl
    exact h.add_add hseverity muteMinutes

end Decision

/-! ## Evaluations -/

namespace EvaluationRun

variable {r r' : EvaluationRun} {rule : Rule} {c : MessageContext} {m' : Message}

theorem ask_of_ignores (h : rule.ignores c.channel c.message c.member = true)
    (r : EvaluationRun) : ask c r rule = r :=
  if_pos h

theorem ask_of_not_ignores (h : rule.ignores c.channel c.message c.member = false)
    (r : EvaluationRun) :
    (ask c r rule).state = (rule.check c.message c.channel r.state).2 ∧
      (ask c r rule).evaluation.decision = r.evaluation.decision.heed rule.muteMinutes
        (rule.check c.message c.channel r.state).1 := by
  rw [ask, if_neg (by simp [h])]
  rcases rule.check c.message c.channel r.state with ⟨e | _ | v, state⟩
  · exact ⟨rfl, rfl⟩
  · exact ⟨rfl, rfl⟩
  · exact ⟨rfl, rfl⟩

/-- The second evaluation has come to no milder a decision, and both have left the same state. -/
structure NoMilder (r r' : EvaluationRun) : Prop where
  state_eq : r'.state = r.state
  isTotal : r.state.reputation.IsTotal
  decision : r.evaluation.decision.NoMilder r'.evaluation.decision

/-- Asking a rule that objects to both messages keeps the order. -/
theorem NoMilder.ask (h : NoMilder r r') (hlocal : rule.IsLocal)
    (hobjects : rule.ObjectsToo c.message m') :
    NoMilder (ask c r rule) (ask { c with message := m' } r' rule) := by
  have hignores := hobjects.ignores_eq c.channel c.member
  cases hrule : rule.ignores c.channel c.message c.member with
  | true => rwa [ask_of_ignores hrule, ask_of_ignores (hignores.trans hrule)]
  | false =>
    obtain ⟨hstate, hdecision⟩ := ask_of_not_ignores hrule r
    obtain ⟨hstate', hdecision'⟩ :=
      ask_of_not_ignores (c := { c with message := m' }) (hignores.trans hrule) r'
    rw [h.state_eq] at hstate' hdecision'
    refine ⟨?_, ?_, ?_⟩
    · rw [hstate, hstate']
      exact hobjects.state_eq c.channel r.state
    · rw [hstate, (hlocal.changesAt c.message c.channel r.state).reputation_eq]
      exact h.isTotal
    · rw [hdecision, hdecision']
      exact h.decision.heed rule.muteMinutes (hobjects.violation h.isTotal)

theorem NoMilder.foldl_ask {rules : List Rule} (hlocal : ∀ rule ∈ rules, rule.IsLocal)
    (hobjects : ∀ rule ∈ rules, rule.ObjectsToo c.message m') (h : NoMilder r r') :
    NoMilder (rules.foldl (EvaluationRun.ask c) r)
      (rules.foldl (EvaluationRun.ask { c with message := m' }) r') := by
  induction rules generalizing r r' with
  | nil => exact h
  | cons rule rules ih =>
    apply ih
    · exact fun rule hmem ↦ hlocal rule (List.mem_cons_of_mem _ hmem)
    · exact fun rule hmem ↦ hobjects rule (List.mem_cons_of_mem _ hmem)
    · exact h.ask (hlocal rule List.mem_cons_self) (hobjects rule List.mem_cons_self)

end EvaluationRun

/-- Whatever the policy and whatever was recorded before, if no lookup of a reputation fails: a
message that is to be deleted is still to be deleted with any text before it and behind it, a blank
away, and the severity is no lower. -/
theorem noMilder_padded (config : GuildConfig) (c : MessageContext) {state : RuleState}
    (htotal : state.reputation.IsTotal) {s t : Char} (hs : isBlank s = true)
    (ht : isBlank t = true) (before after : String) :
    let padded := { c with message := c.message.padded before s t after }
    ((evaluate config c state).evaluation.decision.shouldDelete = true →
      (evaluate config padded state).evaluation.decision.shouldDelete = true) ∧
      (evaluate config c state).evaluation.decision.severity ≤
        (evaluate config padded state).evaluation.decision.severity := by
  intro padded
  have hstart : EvaluationRun.NoMilder { state } { state } :=
    ⟨rfl, htotal, ⟨id, Nat.le_refl _⟩⟩
  have hlocal : ∀ rule ∈ config.rules, rule.IsLocal := fun _ ↦ GuildConfig.isLocal_of_mem_rules
  have hrun := hstart.foldl_ask (c := c) hlocal
    (fun _ h ↦ GuildConfig.objectsToo_of_mem_rules hs ht c.message before after h)
  exact ⟨hrun.decision.shouldDelete, hrun.decision.severity_le⟩

/-- A banned word between a tab and an ideographic space, with parts of links around it. -/
theorem deletes_padded_word :
    let words : WordsRule := { settings := .enabledWith .kick 10, bannedWords := [" Scam "] }
    let config : GuildConfig := { guild := 1, enabled := true, words := words.compile }
    let m : Message :=
      { id := 3, guild := some 1, channel := 2, author := { id := 4 }, content := "a SCAM!" }
    let c : MessageContext := ⟨m, { id := 2, guild := 1 }, { user := 4 }⟩
    let padded := { c with message := m.padded "http://www" '\t' '\u3000' ".example.org" }
    isBlank '\t' = true ∧ isBlank '\u3000' = true ∧ ({} : RuleState).reputation.IsTotal ∧
      (evaluate config c {}).evaluation.decision.shouldDelete = true ∧
      (evaluate config padded {}).evaluation.decision.shouldDelete = true := by
  intro words config m c padded
  have htotal : ({} : RuleState).reputation.IsTotal := FlaggedHosts.isTotal_reputation {}
  have hdelete : (evaluate config c {}).evaluation.decision.shouldDelete = true := by
    decide +kernel
  obtain ⟨hkept, -⟩ := noMilder_padded config c htotal (s := '\t') (t := '\u3000') (by decide)
    (by decide) "http://www" ".example.org"
  exact ⟨by decide, by decide, htotal, hdelete, hkept hdelete⟩

end GuildModeration
