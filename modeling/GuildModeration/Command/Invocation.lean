import GuildModeration.Command
import GuildModeration.Service.Request

/-!
# Commands as users give them

A command comes with the place that it was given in and with what is needed to answer it. What is
done about it is reported from its start to its end.
-/

namespace GuildModeration

open GuildModeration.Service

/-- A command that a user gave. -/
structure Invocation where
  /-- The number and the token that the answer has to carry. -/
  id : UInt64
  token : String
  /-- The name under which the command was given. -/
  name : String
  guild : Option GuildId := none
  channel : ChannelId
  user : UserId
  deriving DecidableEq, Repr

/-- What a check that comes before all commands says about one. -/
inductive CheckAnswer where
  | passed
  | denied
  | failed (text : String)
  deriving DecidableEq, Repr

namespace Invocation

/-- The request that answers a command. -/
def answer (i : Invocation) (content : String) : Request :=
  { method := .post, path := resource s!"/interactions/{i.id}/{i.token}/callback"
    body := .response content }

/-! ## Reports -/

/-- What reports on commands tell about who gave one, and where. -/
def origin (i : Invocation) (c : Command) (guild : GuildId) : List (String × Log.Value) :=
  [("command", .text c.name), ("guild_id", .text (toString guild)),
    ("user_id", .text (toString i.user))]

/-- The report on a command that begins. No command takes arguments. -/
def startedEvent (i : Invocation) (c : Command) (guild : GuildId) : Log.Event :=
  { level := .info, topic := Log.Topic.command, message := "Command execution started"
    fields := i.origin c guild ++ [("arguments", .text ""), ("event", .word "start")] }

/-- The report on a command that was carried out. -/
def completedEvent (i : Invocation) (c : Command) (guild : GuildId) : Log.Event :=
  { level := .info, topic := Log.Topic.command, message := "Command execution completed"
    fields := i.origin c guild ++ [("event", .word "end")] }

/-- The report on a command that failed. -/
def failedEvent (i : Invocation) (c : Command) (guild : GuildId) (text : String) : Log.Event :=
  { level := .error, topic := Log.Topic.error, message := "Command error"
    fields := i.origin c guild ++ [("error", .text text)] }

/-- The report on a command that did not pass the check. -/
def deniedEvent (i : Invocation) (c : Command) (guild : GuildId) (text : String) : Log.Event :=
  { level := .error, topic := Log.Topic.error, message := "Command check failed"
    fields := i.origin c guild ++ [("error", .text text)] }

/-- The report on a command that was not even checked. -/
def refusedEvent : Log.Event :=
  { level := .error, topic := Log.Topic.error, message := "Other framework error" }

/-- The report on a reload that was asked for. -/
def reloadEvent (guild : GuildId) : Log.Event :=
  { level := .info, topic := Log.Topic.command, message := "Automod config reload requested"
    fields := [("guild_id", .ofId guild)] }

end Invocation

end GuildModeration
