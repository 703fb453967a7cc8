/-!
# Log events

What the moderator reports while it works: a level, the topic that the report belongs to, a text,
and named values. Operations hand their events back as lists, in order; where the events go is
decided by whoever runs them.
-/

namespace GuildModeration.Log

/-- The weight of an event, lightest first. -/
inductive Level where
  | trace
  | debug
  | info
  | warn
  | error
  deriving DecidableEq, Repr, Inhabited

namespace Level

/-- The place in the order, from the lightest up. -/
def rank : Level → Nat
  | trace => 0
  | debug => 1
  | info => 2
  | warn => 3
  | error => 4

/-- The name that events are labelled with. -/
def name : Level → String
  | trace => "TRACE"
  | debug => "DEBUG"
  | info => "INFO"
  | warn => "WARN"
  | error => "ERROR"

end Level

/-- A named value of an event: a number, a text shown as it is, or a fixed word, which the console
shows in quotes. -/
inductive Value where
  | number (n : Nat)
  | text (s : String)
  | word (s : String)
  deriving DecidableEq, Repr

/-- One report. -/
structure Event where
  level : Level
  topic : String
  message : String
  fields : List (String × Value) := []
  deriving DecidableEq, Repr

/-! ## Topics -/

namespace Topic

/-- Decisions and punishments. -/
def automod : String := "warden::automod"

/-- Counts of what was checked and what triggered. -/
def analytics : String := "warden::analytics"

/-- Commands that users gave. -/
def command : String := "warden::command"

/-- Failures of commands and punishments. -/
def error : String := "warden::error"

/-- Events of the chat that led to a decision. -/
def event : String := "warden::handlers"

/-- Messages for the operator. -/
def console : String := "warden"

/-- The progress of the program. -/
def program : String := "warden_automod"

/-- The set-up of the log itself. -/
def logging : String := "warden_automod::logging"

/-- The connection to the chat. -/
def connection : String := "warden_automod::handlers"

/-- The queue between the commands and the maintenance of the cache. -/
def shared : String := "warden_automod::data"

/-- Requests to the moderation service. -/
def requests : String := "warden_automod::punishment::api"

end Topic

/-- The value is a number of 64 bits. -/
def Value.ofId (id : UInt64) : Value := .number id.toNat

end GuildModeration.Log
