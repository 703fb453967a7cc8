import GuildModeration.Log.Event
import GuildModeration.Punishment.Call
import GuildModeration.Service.Request

/-!
# Moderation by requests

How each call on the moderation service becomes a request to the chat service. Some calls fail
before anything is sent: a member cannot be muted without a mechanism, and texts have to keep to a
limit. A number of zero breaks the call down. A mute by a role is taken back by a request of its own
once it has run out.
-/

namespace GuildModeration.Service

open GuildModeration.Punishment

/-- The longest text of a message, in characters. -/
def maxMessageLength : Nat := 2000

/-- The longest reason of a ban, in characters. -/
def maxReasonLength : Nat := 512

/-- The longest timeout, in minutes: 28 days. -/
def maxTimeoutMinutes : Nat := 28 * 24 * 60

/-- How far back the messages of a banned member are removed, in seconds. -/
def banDeletesSeconds : Nat := 24 * 60 * 60

/-- The text of a warning. -/
def warningText (user : UserId) (reason : String) : String :=
  s!"<@{user}> has been warned. {reason}"

/-- The length of a timeout: at least a minute, and no more than the service takes. -/
def timeoutMinutes (minutes : UInt32) : Nat :=
  min (max minutes.toNat 1) maxTimeoutMinutes

/-- The address of a member of a guild. -/
def memberPath (guild : GuildId) (user : UserId) : String :=
  resource s!"/guilds/{guild}/members/{user}"

/-- The address of a role of a member. -/
def rolePath (guild : GuildId) (user : UserId) (role : RoleId) : String :=
  memberPath guild user ++ s!"/roles/{role}"

/-- The numbers that a call needs before it says what it is about to do, and those that it needs
after that. -/
def neededIds : Call → List (IdKind × UInt64) × List (IdKind × UInt64)
  | .warn _ channel _ _ => ([], [(.channel, channel)])
  | .mute guild user (.role role) _ _ => ([(.guild, guild), (.user, user)], [(.role, role)])
  | .mute guild user _ _ _ => ([(.guild, guild), (.user, user)], [])
  | .kick guild user _ => ([], [(.guild, guild), (.user, user)])
  | .ban guild user _ => ([], [(.guild, guild), (.user, user)])
  | .delete channel message => ([], [(.channel, channel), (.message, message)])

/-- What a call says about what it is about to do. -/
def announcement? : Call → Option String
  | .warn guild _ user _ => some s!"Warning user {user} in guild {guild}"
  | .mute _ _ .none _ _ => none
  | .mute guild user (.role _) minutes _ =>
    some s!"Muting user {user} in guild {guild} for {minutes} minutes"
  | .mute guild user .timeout minutes _ =>
    some s!"Timing out user {user} in guild {guild} for {minutes} minutes"
  | .kick guild user _ => some s!"Kicking user {user} from guild {guild}"
  | .ban guild user _ => some s!"Banning user {user} from guild {guild}"
  | .delete .. => none

/-- The report that a call makes before it sends anything. -/
def announce (c : Call) : List Log.Event :=
  ((announcement? c).map fun message ↦
    { level := .info, topic := Log.Topic.requests, message : Log.Event }).toList

/-- The request of a call, unless it fails before anything is sent. -/
def requestOf : Call → Except ActionError Request
  | .warn _ channel user reason =>
    let content := warningText user reason
    if maxMessageLength < content.length then .error (.refused "Message too large.")
    else .ok { method := .post, path := resource s!"/channels/{channel}/messages"
               body := .message content }
  | .mute _ _ .none _ _ => .error .cannotMute
  | .mute guild user (.role role) _ reason =>
    .ok { method := .put, path := rolePath guild user role, reason }
  | .mute guild user .timeout minutes reason =>
    .ok { method := .patch, path := memberPath guild user, reason
          body := .timeout (timeoutMinutes minutes) }
  | .kick guild user reason => .ok { method := .delete, path := memberPath guild user, reason }
  | .ban guild user reason =>
    if maxReasonLength < reason.length then .error (.refused "Input exceeded a limit")
    else .ok { method := .put, reason
               path := resource s!"/guilds/{guild}/bans/{user}" ++
                 s!"?delete_message_seconds={banDeletesSeconds}" }
  | .delete channel message =>
    .ok { method := .delete, path := resource s!"/channels/{channel}/messages/{message}" }

/-- The failure that a reply means; two codes of refusals have a meaning of their own. -/
def errorOf : Reply → ActionError
  | .answered _ 50013 _ => .missingPermissions
  | .answered _ 50001 _ => .missingAccess
  | reply => .refused reply.text

/-- What came of a call: how it ended, what was reported, and what was sent. -/
structure Performed where
  outcome : CallOutcome
  log : List Log.Event := []
  sent : List Request := []

/-- Makes a call; a request that is sent is answered by `respond`. -/
def perform (respond : Request → Reply) (c : Call) : Performed :=
  let (first, later) := neededIds c
  match firstZero? first with
  | some text => { outcome := .crashed (some text) }
  | none =>
    match firstZero? later with
    | some text => { outcome := .crashed (some text), log := announce c }
    | none =>
      match requestOf c with
      | .error e => { outcome := .failed e, log := announce c }
      | .ok request =>
        let reply := respond request
        { outcome := if reply.isSuccess then .succeeded else .failed (errorOf reply)
          log := announce c
          sent := if reply = .unreachable then [] else [request] }

/-! ## The end of a mute -/

/-- A request that is sent at a later time, in minutes from the call. -/
structure Timer where
  minutes : Nat
  request : Request
  deriving DecidableEq, Repr

/-- What takes a mute back: the role is removed when the mute has run out. A mute without length
stays. -/
def unmute? : Call → Option Timer
  | .mute guild user (.role role) minutes _ =>
    if minutes = 0 then none
    else some
      { minutes := minutes.toNat
        request :=
          { method := .delete, path := rolePath guild user role
            reason := "Automoderator: mute expired" } }
  | _ => none

/-- The timers that a call starts: only a mute that was carried out is taken back. -/
def timersOf (c : Call) (outcome : CallOutcome) : List Timer :=
  if outcome = .succeeded then (unmute? c).toList else []

end GuildModeration.Service
