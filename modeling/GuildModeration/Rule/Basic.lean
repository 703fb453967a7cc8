import GuildModeration.Message
import GuildModeration.Rule.Reputation
import GuildModeration.Severity
import GuildModeration.Spam.Tracker

/-!
# Rules

A rule answers two questions about a message: whether it applies at all, and whether the message
violates it. Checking may change the windows of recent messages, the only state that rules share,
and may consult the reputation of hosts.
-/

namespace GuildModeration

/-- What a violated rule asks for, and why. -/
structure Violation where
  severity : Severity
  reason : String
  deriving DecidableEq, Repr

/-- What rules share: the windows of recent messages, and the source of reputation. -/
structure RuleState where
  spam : Spam.Tracker := {}
  reputation : Reputation := FlaggedHosts.reputation {}

/-- The answer of a check: a failure, or the violation that was found, if any. -/
abbrev RuleAnswer := Except RuleError (Option Violation)

/-- One category of the moderation policy. -/
structure Rule where
  name : String
  /-- How long a mute lasts that this rule decides, in minutes. -/
  muteMinutes : UInt32
  /-- The rule has nothing to say about the message, and its check is not run. -/
  ignores : Channel → Message → Member → Bool
  /-- Judges the message. -/
  check : Message → Channel → RuleState → RuleAnswer × RuleState

/-! ## What all kinds of rules share -/

/-- The settings that every kind of rule has. -/
structure RuleSettings where
  enabled : Bool := false
  punishment : Severity := .none
  /-- How long a mute lasts, in minutes. -/
  muteMinutes : UInt32 := 10
  /-- Members with this role are exempt. -/
  exemptRole : Option RoleId := none
  /-- Channels, categories and parents of threads in which the rule does not apply. -/
  exemptChannels : List ChannelId := []
  deriving DecidableEq, Repr, Inhabited

namespace RuleSettings

/-- The member has the exempt role. -/
def exemptsMember (s : RuleSettings) (member : Member) : Bool :=
  (s.exemptRole.map member.roles.contains).getD false

/-- The channel or its parent is exempt. -/
def exemptsChannel (s : RuleSettings) (channel : Channel) : Bool :=
  s.exemptChannels.contains channel.id ||
    (channel.parent.map s.exemptChannels.contains).getD false

/-- The rule is switched off, or the member or the channel is exempt. -/
def ignores (s : RuleSettings) (channel : Channel) (member : Member) : Bool :=
  !s.enabled || s.exemptsMember member || s.exemptsChannel channel

/-- A violation with the rule's punishment. -/
def violation (s : RuleSettings) (reason : String) : Violation :=
  ⟨s.punishment, reason⟩

/-- The settings of a rule that is switched on, with the given punishment. -/
def enabledWith (punishment : Severity) (muteMinutes : UInt32) : RuleSettings :=
  { enabled := true, punishment, muteMinutes }

/-- The rule with these settings and a check that leaves the shared state alone. -/
def ruleOf (s : RuleSettings) (name : String)
    (check : Message → RuleState → RuleAnswer) : Rule where
  name := name
  muteMinutes := s.muteMinutes
  ignores := fun channel _ member ↦ s.ignores channel member
  check := fun message _ state ↦ (check message state, state)

end RuleSettings

end GuildModeration
