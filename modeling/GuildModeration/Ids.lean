/-!
# Identifiers

Guilds, channels, users, roles and messages carry 64-bit numbers. The library compares them and
writes them out; it never computes with them. Zero is a number like any other here: only requests to
the moderation service refuse it.
-/

namespace GuildModeration

/-- The number of a guild. -/
abbrev GuildId := UInt64

/-- The number of a channel or thread. -/
abbrev ChannelId := UInt64

/-- The number of a user. -/
abbrev UserId := UInt64

/-- The number of a role. -/
abbrev RoleId := UInt64

/-- The number of a message. -/
abbrev MessageId := UInt64

end GuildModeration
