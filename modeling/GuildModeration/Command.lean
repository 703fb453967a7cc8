import GuildModeration.Guild
import GuildModeration.Log.Event

/-!
# Commands

What members of a guild can ask the program for. Commands are given in guilds only, and each may
require a permission.
-/

namespace GuildModeration

/-- A command. -/
inductive Command where
  /-- Tells that the program answers. -/
  | ping
  /-- Drops the policy of the guild, so that it is loaded again. -/
  | reload
  /-- Describes the policy of the guild. -/
  | status
  deriving DecidableEq, Repr

namespace Command

/-- All commands, in the order in which they are offered. -/
def all : List Command := [ping, reload, status]

/-- The name under which a command is given. -/
def name : Command → String
  | ping => "ping"
  | reload => "automod-reload"
  | status => "automod-status"

/-- The command of a name. -/
def ofName? (s : String) : Option Command :=
  all.find? (·.name == s)

/-- What a command is for. -/
def description : Command → String
  | ping => "Basic ping command This command is used to check if the bot is responsive."
  | reload => "Reload this server's automod configuration"
  | status => "Show whether automod is on in this server and which rules are active"

/-- The permissions that a command requires. -/
def requiredPermissions : Command → Permissions
  | reload => .manageGuild
  | _ => 0

/-- The whole milliseconds in a number of microseconds. -/
def elapsedMs (micros : Nat) : Nat :=
  micros / 1000

end Command

/-- A message for the operator. -/
def Log.consoleEvent (message : String) : Log.Event :=
  { level := .info, topic := Log.Topic.console, message
    fields := [("event", .word "console")] }

end GuildModeration
