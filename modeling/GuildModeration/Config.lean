import GuildModeration.Rule.Invite
import GuildModeration.Rule.Links
import GuildModeration.Rule.Mention
import GuildModeration.Rule.Sites
import GuildModeration.Rule.Spam
import GuildModeration.Rule.Words

/-!
# The configuration of a guild

Which rules a guild uses, and how it mutes. The order of the rules is fixed: it is the order of the
reasons in a decision, and it decides which rule sets the length of a mute when two ask for the same
severity.
-/

namespace GuildModeration

/-- How members are muted: not at all, by a role that is taken away again, or by a timeout. -/
inductive MuteMechanism where
  | none
  | role (id : RoleId)
  | timeout
  deriving DecidableEq, Repr, Inhabited

/-- The moderation policy of one guild. -/
structure GuildConfig where
  guild : GuildId := 0
  enabled : Bool := false
  mute : MuteMechanism := .none
  spam : SpamRule := {}
  invite : InviteRule := {}
  mention : MentionRule := {}
  links : LinksRule := {}
  words : WordsRule := {}
  sites : SitesRule := {}
  deriving DecidableEq, Repr, Inhabited

namespace GuildConfig

/-- The policy of a guild that has never set one: everything is off. -/
def disabled (guild : GuildId) : GuildConfig :=
  { guild }

/-- The policy with its word and host lists compiled. -/
def compile (c : GuildConfig) : GuildConfig :=
  { c with words := c.words.compile, sites := c.sites.compile }

/-- The rules in the order in which they are evaluated. -/
def rules (c : GuildConfig) : List Rule :=
  [c.spam.rule, c.invite.rule, c.mention.rule, c.links.rule, c.words.rule, c.sites.rule]

theorem forall_mem_rules_iff {c : GuildConfig} {p : Rule → Prop} :
    (∀ rule ∈ c.rules, p rule) ↔
      p c.spam.rule ∧ p c.invite.rule ∧ p c.mention.rule ∧ p c.links.rule ∧ p c.words.rule ∧
        p c.sites.rule := by
  simp [rules]

/-- The settings of the rules in the same order. -/
def ruleSettings (c : GuildConfig) : List RuleSettings :=
  [c.spam.settings, c.invite.settings, c.mention.settings, c.links.settings, c.words.settings,
    c.sites.settings]

/-- The names of all rules, in order. -/
def ruleNames (c : GuildConfig) : List String :=
  c.rules.map (·.name)

/-- The names of the rules that are switched on, in order. -/
def activeRules (c : GuildConfig) : List String :=
  (c.ruleNames.zip c.ruleSettings).filterMap fun (name, s) ↦ if s.enabled then some name else none

end GuildConfig

end GuildModeration
