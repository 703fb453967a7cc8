import GuildModeration.Link.Invite
import GuildModeration.Rule.Basic

/-!
# The invite rule

Messages with an invite to a server are violations.
-/

namespace GuildModeration

/-- The invite rule has no settings of its own. -/
structure InviteRule where
  settings : RuleSettings := {}
  deriving DecidableEq, Repr, Inhabited

namespace InviteRule

/-- Looks for an invite. -/
def check (r : InviteRule) (message : Message) (_ : RuleState) : RuleAnswer :=
  .ok (if Link.hasInvite message.content.toList then
    some (r.settings.violation "Sent a server invite") else none)

/-- The invite rule of a guild. -/
def rule (r : InviteRule) : Rule :=
  r.settings.ruleOf "invite" r.check

end InviteRule

end GuildModeration
