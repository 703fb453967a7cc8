import GuildModeration.Rule.Basic

/-!
# The mention rule

Mentioning a number of different users or more is a violation. A threshold of zero switches the
rule off.
-/

namespace GuildModeration

/-- The threshold of the mention rule. -/
structure MentionRule where
  settings : RuleSettings := {}
  threshold : UInt32 := 5
  deriving DecidableEq, Repr, Inhabited

namespace MentionRule

/-- How many different users a message mentions. -/
def mentionCount (message : Message) : Nat :=
  message.mentions.eraseDups.length

/-- Compares the number of users mentioned with the threshold. -/
def check (r : MentionRule) (message : Message) (_ : RuleState) : RuleAnswer :=
  .ok (if r.threshold ≠ 0 ∧ r.threshold.toNat ≤ mentionCount message then
    some (r.settings.violation
      s!"Sent a message mentioning {mentionCount message} users (limit {r.threshold})")
    else none)

/-- The mention rule of a guild. -/
def rule (r : MentionRule) : Rule :=
  r.settings.ruleOf "mention" r.check

end MentionRule

end GuildModeration
