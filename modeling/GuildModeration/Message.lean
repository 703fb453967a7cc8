import GuildModeration.Ids

/-!
# Messages and where they stand

What moderation sees of a message, of the channel it was sent to, and of the member who sent it.
Send times are microseconds since the start of 1970.
-/

namespace GuildModeration

/-- The sender of a message. -/
structure Author where
  id : UserId := 0
  isBot : Bool := false
  deriving DecidableEq, Repr, Inhabited

/-- What a message is: written by its author, written in answer to another, or made by the chat
service itself. -/
inductive MessageKind where
  | regular
  | reply
  | system
  deriving DecidableEq, Repr, Inhabited

/-- A message; one without a guild was sent directly. -/
structure Message where
  id : MessageId := 0
  guild : Option GuildId := none
  channel : ChannelId := 0
  author : Author := {}
  content : String := ""
  mentions : List UserId := []
  mentionsEveryone : Bool := false
  kind : MessageKind := .regular
  sentAt : Int := 0
  deriving DecidableEq, Repr, Inhabited

/-- A channel or thread; a thread has the channel it hangs on as parent, a channel its category. -/
structure Channel where
  id : ChannelId := 0
  guild : GuildId := 0
  parent : Option ChannelId := none
  deriving DecidableEq, Repr, Inhabited

/-- The sender of a message as a member of the guild. -/
structure Member where
  user : UserId := 0
  roles : List RoleId := []
  deriving DecidableEq, Repr, Inhabited

namespace Message

/-- The message was written by its author. -/
def isWritten (m : Message) : Bool :=
  m.kind != .system

/-- The message was sent to a guild. A guild number of zero stands for none. -/
def isInGuild (m : Message) : Bool :=
  (m.guild.map (· != 0)).getD false

/-- The message is one that moderation looks at: written, by somebody who is neither the bot `self`
nor any other bot, and sent to a guild. -/
def isEligible (m : Message) (self : UserId) : Bool :=
  m.isWritten && m.author.id != self && !m.author.isBot && m.isInGuild

theorem isEligible_iff {m : Message} {self : UserId} :
    m.isEligible self = true ↔ m.kind ≠ .system ∧ m.author.id ≠ self ∧ m.author.isBot = false ∧
      ∃ g, m.guild = some g ∧ g ≠ 0 := by
  cases hg : m.guild <;> simp [isEligible, isWritten, isInGuild, hg, and_assoc]

end Message

end GuildModeration
