import GuildModeration.Proofs.Evaluation.Declared
import GuildModeration.Proofs.Link.Harmless

/-!
# What stands in a reason

The reason of a decision is shown to everyone, and parts of it come from the message: a banned word,
a banned website, or a flagged host. Each reason is the text of something that was found, and what
the text takes from the message has no harmful character in it. So a reason is one line, and the
lines of a decision are the reasons it was made from.
-/

namespace GuildModeration

open GuildModeration.Text GuildModeration.Link

/-! ## Findings -/

/-- What a rule may find in a message. -/
inductive Finding where
  | burst (limit seconds : UInt32)
  | invite
  | mentions (count : Nat) (limit : UInt32)
  | link
  | bannedWord (word : String)
  | bannedSite (site : String)
  | flaggedHost (host : String)

namespace Finding

/-- The reason that is given for it. -/
def text : Finding → String
  | burst limit seconds => s!"Sent more than {limit} messages in {seconds} seconds"
  | invite => "Sent a server invite"
  | mentions count limit => s!"Sent a message mentioning {count} users (limit {limit})"
  | link => "Sent a link"
  | bannedWord word => s!"Sent a banned word: `{word}`"
  | bannedSite site => s!"Sent a link to a banned website: `{site}`"
  | flaggedHost host => s!"Sent a link to a flagged website: `{host}`"

/-- The part of the reason that comes from the text of the message. -/
def copied : Finding → String
  | burst _ _ => ""
  | invite => ""
  | mentions _ _ => ""
  | link => ""
  | bannedWord word => word
  | bannedSite site => site
  | flaggedHost host => host

/-- It is there to be found in the message. A banned website is a host that the message names, or
one that such a host is below. -/
def IsIn (m : Message) : Finding → Prop
  | burst _ _ => True
  | invite => hasInvite m.content.toList = true
  | mentions count _ => count = MentionRule.mentionCount m
  | link => hasWebLink m.content.toList = true
  | bannedWord word => word ∈ WordsRule.lowerWords m.content
  | bannedSite site => ∃ host ∈ SitesRule.namedHosts m.content, site ∈ hostSuffixes host
  | flaggedHost host => host ∈ SitesRule.namedHosts m.content

theorem harmless_of_mem_lowerWords {content word : String}
    (h : word ∈ WordsRule.lowerWords content) : Harmless word.toList := by
  obtain ⟨w, hw, rfl⟩ := List.mem_map.mp h
  rw [String.toList_ofList]
  exact harmless_lowerChars (harmless_of_mem_words hw)

theorem harmless_of_mem_namedHosts {content host : String}
    (h : host ∈ SitesRule.namedHosts content) : Harmless host.toList := by
  obtain ⟨lowered, hlowered, rfl⟩ := List.mem_map.mp h
  obtain ⟨raw, hraw, rfl⟩ := List.mem_map.mp hlowered
  rw [String.toList_ofList, String.toList_ofList]
  exact harmless_withoutWww (harmless_lowerChars (harmless_of_mem_rawHosts hraw))

/-- Nothing harmful is copied from a message. -/
theorem harmless_copied {m : Message} {f : Finding} (h : f.IsIn m) : Harmless f.copied.toList := by
  cases f with
  | bannedWord word =>
    have hword : word ∈ WordsRule.lowerWords m.content := h
    exact harmless_of_mem_lowerWords hword
  | bannedSite site =>
    obtain ⟨host, hhost, hsite⟩ := h
    exact harmless_of_mem_hostSuffixes hsite (harmless_of_mem_namedHosts hhost)
  | flaggedHost host =>
    have hhost : host ∈ SitesRule.namedHosts m.content := h
    exact harmless_of_mem_namedHosts hhost
  | _ => simp [copied, Harmless]

/-- A reason is one line. -/
theorem isLine_text {f : Finding} (h : Harmless f.copied.toList) : IsLine f.text := by
  have hnumber : ∀ n : UInt32, IsLine (toString n) := fun n ↦ isLine_toString n.toNat
  cases f with
  | burst limit seconds =>
    have hfront : IsLine s!"Sent more than {limit} messages in " :=
      .append (.append (by decide) (hnumber limit)) (by decide)
    exact (hfront.append (hnumber seconds)).append (by decide)
  | mentions count limit =>
    have hfront : IsLine s!"Sent a message mentioning {count} users (limit " :=
      .append (.append (by decide) (isLine_toString count)) (by decide)
    exact (hfront.append (hnumber limit)).append (by decide)
  | invite => decide
  | link => decide
  | bannedWord word => exact .append (.append (by decide) h.isLine) (by decide)
  | bannedSite site => exact .append (.append (by decide) h.isLine) (by decide)
  | flaggedHost host => exact .append (.append (by decide) h.isLine) (by decide)

end Finding

/-! ## Rules -/

/-- Whenever the rule objects, its reason is the text of something that is there to be found. -/
def Rule.GivesFindings (rule : Rule) : Prop :=
  ∀ m channel state {v}, (rule.check m channel state).1 = .ok (some v) →
    ∃ f : Finding, f.IsIn m ∧ v.reason = f.text

theorem SpamRule.givesFindings_rule (r : SpamRule) : r.rule.GivesFindings := by
  intro m channel state v h
  change (r.check m channel state).1 = .ok (some v) at h
  by_cases hon : r.IsOn
  · rw [check_of_isOn hon, verdict] at h
    split at h
    · obtain rfl := Option.some.inj (Except.ok.inj h)
      exact ⟨.burst r.maxMessages r.withinSeconds, trivial, rfl⟩
    · cases h
  · rw [check_of_not_isOn hon] at h
    cases h

theorem InviteRule.givesFindings_rule (r : InviteRule) : r.rule.GivesFindings := by
  intro m channel state v h
  change r.check m state = .ok (some v) at h
  rw [check] at h
  split at h
  · next hinvite =>
    obtain rfl := Option.some.inj (Except.ok.inj h)
    exact ⟨.invite, hinvite, rfl⟩
  · cases h

theorem MentionRule.givesFindings_rule (r : MentionRule) : r.rule.GivesFindings := by
  intro m channel state v h
  change r.check m state = .ok (some v) at h
  rw [check] at h
  split at h
  · obtain rfl := Option.some.inj (Except.ok.inj h)
    exact ⟨.mentions (mentionCount m) r.threshold, rfl, rfl⟩
  · cases h

theorem LinksRule.givesFindings_rule (r : LinksRule) : r.rule.GivesFindings := by
  intro m channel state v h
  change r.check m state = .ok (some v) at h
  rw [check] at h
  split at h
  · next hlink =>
    obtain rfl := Option.some.inj (Except.ok.inj h)
    exact ⟨.link, hlink, rfl⟩
  · cases h

theorem WordsRule.givesFindings_rule (r : WordsRule) : r.rule.GivesFindings := by
  intro m channel state v h
  change r.check m state = .ok (some v) at h
  rw [check] at h
  obtain ⟨word, hword, rfl⟩ := Option.map_eq_some_iff.mp (Except.ok.inj h)
  exact ⟨.bannedWord word, List.mem_of_find?_eq_some hword, rfl⟩

theorem SitesRule.givesFindings_rule (r : SitesRule) : r.rule.GivesFindings := by
  intro m channel state v h
  obtain ⟨host, hhost, hjudge⟩ := exists_judge_of_judgeAll h
  cases decides_of_judge hjudge with
  | banned hnearest =>
    exact ⟨.bannedSite _, ⟨host, hhost, mem_hostSuffixes_iff.mpr hnearest.covers⟩, rfl⟩
  | flagged => exact ⟨.flaggedHost host, hhost, rfl⟩

theorem GuildConfig.givesFindings_of_mem_rules {config : GuildConfig} {rule : Rule}
    (h : rule ∈ config.rules) : rule.GivesFindings :=
  forall_mem_rules_iff.mpr
    ⟨config.spam.givesFindings_rule, config.invite.givesFindings_rule, config.mention.givesFindings_rule,
      config.links.givesFindings_rule, config.words.givesFindings_rule, config.sites.givesFindings_rule⟩ rule h

/-! ## Decisions -/

/-- Lines that are put together are taken apart again. -/
theorem map_copy_split_intercalate {lines : List String} (hne : lines ≠ [])
    (h : ∀ line ∈ lines, IsLine line) :
    (("\n".intercalate lines).split '\n').toList.map (·.copy) = lines := by
  have hsplit := String.toList_split_intercalate (c := '\n') h
  rwa [if_neg hne] at hsplit

/-- Whatever the policy, the message and the state: if the message is to be deleted, the lines of
the reason are the reasons of the objections in order, and whatever one of them takes from the text
of the message is found there and has no harmful character in it. -/
theorem lines_of_reason (config : GuildConfig) (c : MessageContext) (state : RuleState)
    (h : (evaluate config c state).evaluation.decision.shouldDelete = true) :
    ((evaluate config c state).evaluation.decision.reason.split '\n').toList.map (·.copy) =
        (c.objections config.rules state).map (·.violation.reason) ∧
      ∀ o ∈ c.objections config.rules state, o.rule ∈ config.rules ∧
        ∃ f : Finding, f.IsIn c.message ∧ o.violation.reason = f.text ∧
          Harmless f.copied.toList := by
  have hfinding : ∀ o ∈ c.objections config.rules state, o.rule ∈ config.rules ∧
      ∃ f : Finding, f.IsIn c.message ∧ o.violation.reason = f.text ∧
        Harmless f.copied.toList := by
    intro o ho
    obtain ⟨hrule, before, hobjects⟩ := c.exists_of_mem_objections ho
    obtain ⟨f, hf, hreason⟩ := GuildConfig.givesFindings_of_mem_rules hrule _ _ _ hobjects
    exact ⟨hrule, f, hf, hreason, Finding.harmless_copied hf⟩
  refine ⟨?_, hfinding⟩
  rw [evaluate, evaluateRules_eq] at h ⊢
  rw [Decision.finish, Decision.shouldDelete_ofObjections] at h
  rw [Decision.reason_finish_ofObjections, map_copy_split_intercalate]
  · simpa using h
  · intro line hline
    obtain ⟨o, ho, rfl⟩ := List.mem_map.mp hline
    obtain ⟨-, f, -, hreason, hharmless⟩ := hfinding o ho
    rw [hreason]
    exact Finding.isLine_text hharmless

/-- A banned word and a banned website, in a message that tries to get out of the line. -/
theorem lines_of_reason_marked :
    let words : WordsRule := { settings := .enabledWith .mute 10, bannedWords := ["scam"] }
    let sites : SitesRule := { settings := .enabledWith .ban 10, bannedWebsites := ["example.org"] }
    let config : GuildConfig := { guild := 1, enabled := true, words, sites }
    let m : Message :=
      { id := 3, guild := some 1, channel := 2, author := { id := 4 }
        content := "\x60SCAM\x60@all\n<http://www.Example.ORG>" }
    let c : MessageContext := ⟨m, { id := 2, guild := 1 }, { user := 4 }⟩
    (evaluate config.compile c {}).evaluation.decision.shouldDelete = true ∧
      ((evaluate config.compile c {}).evaluation.decision.reason.split '\n').toList.map (·.copy) =
        ["Sent a banned word: \x60scam\x60",
          "Sent a link to a banned website: \x60example.org\x60"] := by
  intro words sites config m c
  have hdelete : (evaluate config.compile c {}).evaluation.decision.shouldDelete = true := by
    decide +kernel
  obtain ⟨hlines, -⟩ := lines_of_reason config.compile c {} hdelete
  refine ⟨hdelete, hlines.trans ?_⟩
  decide +kernel

end GuildModeration
