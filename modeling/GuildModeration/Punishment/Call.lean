import GuildModeration.Config
import GuildModeration.Punishment.Error

/-!
# Calls on the moderation service

The five things that a punishment asks of the chat service, and the ways in which such a call ends.
-/

namespace GuildModeration.Punishment

/-- A call on the moderation service. -/
inductive Call where
  | warn (guild : GuildId) (channel : ChannelId) (user : UserId) (reason : String)
  | mute (guild : GuildId) (user : UserId) (mechanism : MuteMechanism) (minutes : UInt32)
      (reason : String)
  | kick (guild : GuildId) (user : UserId) (reason : String)
  | ban (guild : GuildId) (user : UserId) (reason : String)
  | delete (channel : ChannelId) (message : MessageId)
  deriving DecidableEq, Repr

/-- How a call ends: it is carried out, it fails, or the caller breaks down over it with a text, if
there is one. -/
inductive CallOutcome where
  | succeeded
  | failed (e : ActionError)
  | crashed (text : Option String)
  deriving DecidableEq, Repr

/-- The text that a breakdown is reported with. -/
def crashText (text : Option String) : String :=
  text.getD "unknown panic"

namespace Call

/-- The name of the action. -/
def name : Call → String
  | warn .. => "warn"
  | mute .. => "mute"
  | kick .. => "kick"
  | ban .. => "ban"
  | delete .. => "delete"

/-- The mechanism of a mute in a word. -/
def mechanismText : MuteMechanism → String
  | .none => "none"
  | .role id => s!"role:{id}"
  | .timeout => "timeout"

/-- The call in one line. -/
def line : Call → String
  | warn guild channel user reason => s!"warn {guild} {channel} {user} {reason}"
  | mute guild user mechanism minutes reason =>
    s!"mute {guild} {user} {mechanismText mechanism} {minutes} {reason}"
  | kick guild user reason => s!"kick {guild} {user} {reason}"
  | ban guild user reason => s!"ban {guild} {user} {reason}"
  | delete channel message => s!"delete {channel} {message}"

/-- The call corrects a member, rather than deleting a message. -/
def isCorrective : Call → Bool
  | delete .. => false
  | _ => true

end Call

end GuildModeration.Punishment
