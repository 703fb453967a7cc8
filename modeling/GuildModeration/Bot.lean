import GuildModeration.Command.Invocation
import GuildModeration.Gateway
import GuildModeration.Moderator

/-!
# The bot

What the program does about the events of the chat service: messages, new and edited, are checked,
and commands are carried out. The bot knows guilds only as far as it was told about them, so a
message in a channel that it does not know is not checked.

A command goes through four gates: it has to exist, to be given in a guild, to be permitted to its
user there, and to pass the check that comes before all commands. Its end is reported only if it was
carried out.
-/

namespace GuildModeration

open GuildModeration.Punishment GuildModeration.Service

/-- The bot at one moment. -/
structure Bot where
  moderator : Moderator
  /-- The guilds that the bot was told about. -/
  guilds : Table GuildId Guild := .empty

/-- What the bot does about an event: what it reports, the calls of a punishment, the requests that
it sends, and the bot after that. -/
structure Reaction where
  log : List Log.Event := []
  calls : List Call := []
  sent : List Request := []
  bot : Bot

namespace Bot

/-! ## Messages -/

/-- The channel of a message. -/
def channelOf (b : Bot) (guild : GuildId) (m : IncomingMessage) : Option Channel :=
  (b.guilds.find? guild).bind (·.channel? m.channel)

/-- The author of a message as a member. Roles that come with the message count; otherwise those
that the bot was told about do. -/
def memberOf (b : Bot) (guild : GuildId) (m : IncomingMessage) : Member :=
  let known := ((b.guilds.find? guild).bind (·.member? m.author.id)).map (·.roles)
  { user := m.author.id, roles := (m.roles <|> known).getD [] }

/-- The report on a flagged message. -/
def flaggedEvent (guild : GuildId) (m : Message) : Log.Event :=
  { level := .debug, topic := Log.Topic.event, message := "Message flagged by automod"
    fields := [("message_id", .ofId m.id), ("guild_id", .text (toString guild))] }

/-- A message was written; the calls of a punishment are answered by `respond`. Direct messages do
not matter. -/
def onMessage (b : Bot) (respond : Call → CallOutcome) (incoming : IncomingMessage) : Reaction :=
  match incoming.guild with
  | none => { bot := b }
  | some guild =>
    let m := incoming.toMessage
    let (outcome, log, moderator) :=
      b.moderator.check respond m (b.channelOf guild incoming) (b.memberOf guild incoming)
    let flagged := if outcome.verdict.isViolation then [flaggedEvent guild m] else []
    { log := log ++ flagged ++ outcome.runLog
      calls := (outcome.run.map (·.calls)).getD []
      bot := { b with moderator } }

/-- A message was edited. It is checked again if the service tells what it says now. -/
def onEdit (b : Bot) (respond : Call → CallOutcome) (incoming : Option IncomingMessage) :
    Reaction :=
  match incoming with
  | none => { bot := b }
  | some m => b.onMessage respond m

/-! ## The connection -/

/-- A report on the connection. -/
def connectionEvent (level : Log.Level) (message : String) : Log.Event :=
  { level, topic := Log.Topic.connection, message }

/-- The bot is connected under a name. -/
def onReady (b : Bot) (name : String) (shard : Nat) : Reaction :=
  { log := [connectionEvent .info s!"Connected as {name}, shard {shard}"], bot := b }

/-- The bot has been told about all of so many guilds. -/
def onGuildsKnown (b : Bot) (count : Nat) : Reaction :=
  let known := b.guilds.size
  { log :=
      (if count = known then []
        else [connectionEvent .warn
          s!"Cache guild count mismatch: {known} (cache) vs {count} (actual)"]) ++
      [connectionEvent .info s!"Cache ready! The bot is in {count} guild(s)"]
    bot := b }

/-- Offers the commands to users, under the number of the program with the service. -/
def register (b : Bot) (application : UInt64) : Reaction :=
  { log := [Log.consoleEvent "Registering commands"]
    sent := [{ method := .put, path := resource s!"/applications/{application}/commands"
               body := .commands }]
    bot := b }

/-! ## Commands -/

/-- The command of an invocation and the guild it was given in, if the command exists, was given in
a guild, and is permitted there. -/
def permitted? (b : Bot) (i : Invocation) : Option (Command × GuildId) := do
  let c ← Command.ofName? i.name
  let guild ← i.guild
  let needed := c.requiredPermissions
  if needed == 0 then return (c, guild)
  let g ← b.guilds.find? guild
  if g.permits i.user i.channel needed then return (c, guild) else none

/-- Answers a command. The answer fails with the text of the service. -/
def say (b : Bot) (respond : Request → Reply) (i : Invocation) (content : String) :
    Except String Unit × Reaction :=
  let request := i.answer content
  let reply := respond request
  (if reply.isSuccess then .ok () else .error reply.text,
    { sent := if reply = .unreachable then [] else [request], bot := b })

/-- Carries out a command. -/
def carryOut (b : Bot) (respond : Request → Reply) (i : Invocation) (guild : GuildId) :
    Command → Except String Unit × Reaction
  | .ping => b.say respond i "Pong!"
  | .reload =>
    let (isRunning, log, moderator) := b.moderator.requestInvalidation guild
    let b := { b with moderator }
    if isRunning then
      let (result, r) := b.say respond i
        "Automod configuration will be reloaded on the next message."
      (result, { r with log := log ++ Invocation.reloadEvent guild :: r.log })
    else (.error "Automod maintenance is not running", { log, bot := b })
  | .status =>
    let (text, log, moderator) := b.moderator.status guild
    let b := { b with moderator }
    match text with
    | .error e => (.error e.message, { log, bot := b })
    | .ok text =>
      let (result, r) := b.say respond i text
      (result, { r with log := log ++ r.log })

/-- A user gave a command; the request that answers it is answered by `respond`. -/
def onCommand (b : Bot) (respond : Request → Reply) (check : CheckAnswer) (i : Invocation) :
    Reaction :=
  match b.permitted? i, check with
  | none, _ => { log := [Invocation.refusedEvent], bot := b }
  | some (c, guild), .denied => { log := [i.deniedEvent c guild "Check failed"], bot := b }
  | some (c, guild), .failed text => { log := [i.deniedEvent c guild text], bot := b }
  | some (c, guild), .passed =>
    let (result, r) := b.carryOut respond i guild c
    let ending := match result with
      | .ok () => i.completedEvent c guild
      | .error text => i.failedEvent c guild text
    { r with log := i.startedEvent c guild :: r.log ++ [ending] }

end Bot

end GuildModeration
