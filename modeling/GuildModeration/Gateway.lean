import GuildModeration.Calendar
import GuildModeration.Message

/-!
# Messages as the chat service tells them

The events of the chat service speak of messages in its own terms. What moderation needs of them is
taken over here. No number in an event is zero.
-/

namespace GuildModeration

/-- The kind of a message by the number that the chat service gives to it. Commands and all other
numbers are notices of the service itself. -/
def MessageKind.ofNumber (n : Nat) : MessageKind :=
  if n = 0 then .regular else if n = 19 then .reply else .system

/-- A message as the chat service tells it. -/
structure IncomingMessage where
  id : MessageId
  guild : Option GuildId := none
  channel : ChannelId
  author : Author
  content : String := ""
  mentions : List UserId := []
  mentionsEveryone : Bool := false
  kindNumber : Nat := 0
  sentAt : Moment
  /-- The roles of the author, if they come with the message. -/
  roles : Option (List RoleId) := none
  deriving Repr

namespace IncomingMessage

/-- All numbers that name something are other than zero. -/
def isWellFormed (m : IncomingMessage) : Bool :=
  m.id != 0 && m.channel != 0 && m.author.id != 0 && m.guild != some 0 &&
    !m.mentions.contains 0 && !((m.roles.map (·.contains 0)).getD false)

/-- The message as moderation sees it. -/
def toMessage (m : IncomingMessage) : Message :=
  { id := m.id, guild := m.guild, channel := m.channel, author := m.author, content := m.content
    mentions := m.mentions, mentionsEveryone := m.mentionsEveryone
    kind := .ofNumber m.kindNumber, sentAt := m.sentAt.toMicros }

end IncomingMessage

end GuildModeration
