import GuildModeration.Message

/-!
# Guilds as the bot knows them

What the chat service told about a guild: who owns it, its roles and members, and where messages can
be written. Permissions are sets of bits. A member has those of the role that carries the number of
the guild, which everybody has, and those of the roles of its own; the owner of a guild may do
everything, and so may administrators.
-/

namespace GuildModeration

/-- A set of permissions, one bit for each. -/
abbrev Permissions := UInt64

namespace Permissions

/-- The permission that includes all others. -/
def administrator : Permissions := 8

/-- The permission to manage a guild. -/
def manageGuild : Permissions := 32

/-- All bits of `needed` are there. -/
def includes (p needed : Permissions) : Bool :=
  p &&& needed == needed

/-- What is needed may be done. -/
def allow (p needed : Permissions) : Bool :=
  p.includes administrator || p.includes needed

end Permissions

/-- A role of a guild. -/
structure Role where
  id : RoleId
  permissions : Permissions
  deriving DecidableEq, Repr

/-- A channel or a thread of a guild. -/
structure GuildChannel where
  id : ChannelId
  parent : Option ChannelId := none
  deriving DecidableEq, Repr

/-- A guild. -/
structure Guild where
  id : GuildId
  owner : UserId
  roles : List Role := []
  members : List Member := []
  channels : List GuildChannel := []
  threads : List GuildChannel := []
  deriving Repr

namespace Guild

/-- The member of a user. -/
def member? (g : Guild) (user : UserId) : Option Member :=
  g.members.find? (·.user == user)

/-- The channel of a number, or else the thread. -/
def channel? (g : Guild) (id : ChannelId) : Option Channel :=
  ((g.channels ++ g.threads).find? (·.id == id)).map fun c ↦
    { id := c.id, guild := g.id, parent := c.parent }

/-- What the roles of a member permit. -/
def permissions (g : Guild) (m : Member) : Permissions :=
  (g.roles.filter fun r ↦ r.id == g.id || m.roles.contains r.id).foldl
    (fun p r ↦ p ||| r.permissions) 0

/-- A user may do what is needed in a channel. Nobody may do anything in a channel that the guild
does not have, and strangers may do nothing. -/
def permits (g : Guild) (user : UserId) (channel : ChannelId) (needed : Permissions) : Bool :=
  (g.channels.any (·.id == channel)) &&
    match g.member? user with
    | none => false
    | some m => user == g.owner || (g.permissions m).allow needed

end Guild

end GuildModeration
