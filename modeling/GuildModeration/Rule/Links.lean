import GuildModeration.Link.Web
import GuildModeration.Rule.Basic

/-!
# The links rule

Messages with a web link are violations.
-/

namespace GuildModeration

/-- The links rule has no settings of its own. -/
structure LinksRule where
  settings : RuleSettings := {}
  deriving DecidableEq, Repr, Inhabited

namespace LinksRule

/-- Looks for a web link. -/
def check (r : LinksRule) (message : Message) (_ : RuleState) : RuleAnswer :=
  .ok (if Link.hasWebLink message.content.toList then
    some (r.settings.violation "Sent a link") else none)

/-- The links rule of a guild. -/
def rule (r : LinksRule) : Rule :=
  r.settings.ruleOf "links" r.check

end LinksRule

end GuildModeration
