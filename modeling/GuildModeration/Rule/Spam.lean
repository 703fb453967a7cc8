import GuildModeration.Rule.Basic

/-!
# The spam rule

More than a number of messages of one author in one channel within some seconds are spam. A limit
or a width of zero switches the rule off without recording anything.
-/

namespace GuildModeration

/-- The limits of the spam rule. -/
structure SpamRule where
  settings : RuleSettings := {}
  maxMessages : UInt32 := 5
  withinSeconds : UInt32 := 5
  deriving DecidableEq, Repr, Inhabited

namespace SpamRule

/-- The width of the rule's windows in microseconds. -/
def width (r : SpamRule) : Int :=
  (r.withinSeconds.toNat : Int) * 1000000

/-- The window that a message in a channel belongs to. -/
def keyOf (message : Message) (channel : Channel) : Spam.WindowKey :=
  ⟨channel.guild, channel.id, message.author.id⟩

/-- Records the message and compares the count with the limit. -/
def check (r : SpamRule) (message : Message) (channel : Channel) (state : RuleState) :
    RuleAnswer × RuleState :=
  if r.maxMessages = 0 ∨ r.withinSeconds = 0 then (.ok none, state)
  else
    let (count, spam) := state.spam.record (keyOf message channel) message.id message.sentAt r.width
    let answer :=
      if r.maxMessages.toNat < count then
        some (r.settings.violation
          s!"Sent more than {r.maxMessages} messages in {r.withinSeconds} seconds")
      else none
    (.ok answer, { state with spam })

/-- The spam rule of a guild. -/
def rule (r : SpamRule) : Rule where
  name := "spam"
  muteMinutes := r.settings.muteMinutes
  ignores := fun channel _ member ↦ r.settings.ignores channel member
  check := r.check

end SpamRule

end GuildModeration
