import GuildModeration.Ids

/-!
# Requests to the chat service

What is sent to the chat service, and what comes back. A request may carry a reason, which the
service shows beside the action, and a body; bodies are kept apart by what they say, and how they
are spelled is left to whoever sends them.
-/

namespace GuildModeration.Service

/-- The method of a request. -/
inductive Method where
  | post
  | put
  | patch
  | delete
  deriving DecidableEq, Repr

/-- The name of a method. -/
def Method.name : Method → String
  | post => "POST"
  | put => "PUT"
  | patch => "PATCH"
  | delete => "DELETE"

/-- What the body of a request says. -/
inductive Body where
  | empty
  /-- A message to a channel. -/
  | message (content : String)
  /-- A member may not write for so many minutes from now on. -/
  | timeout (minutes : Nat)
  /-- An answer to a command. -/
  | response (content : String)
  /-- The commands that users can give. -/
  | commands
  deriving DecidableEq, Repr

/-- A request. -/
structure Request where
  method : Method
  path : String
  reason : Option String := none
  body : Body := .empty
  deriving DecidableEq, Repr

/-- What comes back: nothing if the service cannot be reached, or a status with the code and the
text of a refusal. -/
inductive Reply where
  | unreachable
  | answered (status : Nat) (code : Int) (text : String)
  deriving DecidableEq, Repr

namespace Reply

/-- The text of a request that could not be sent. -/
def unreachableText : String := "Error while sending HTTP request."

/-- The service did what it was asked for. -/
def isSuccess : Reply → Bool
  | unreachable => false
  | answered status .. => 200 ≤ status && status < 300

/-- The text of a request that failed. -/
def text : Reply → String
  | unreachable => unreachableText
  | answered _ _ text => text

end Reply

/-- The address of a resource of the service. -/
def resource (path : String) : String :=
  "/api/v10" ++ path

/-! ## Numbers that the service knows nothing under -/

/-- What a number stands for in a request. -/
inductive IdKind where
  | guild
  | channel
  | user
  | role
  | message
  deriving DecidableEq, Repr

/-- The name of a kind of number. -/
def IdKind.name : IdKind → String
  | guild => "GuildId"
  | channel => "ChannelId"
  | user => "UserId"
  | role => "RoleId"
  | message => "MessageId"

/-- The text over which a request with a number of zero breaks down. -/
def IdKind.zeroText (k : IdKind) : String :=
  s!"Attempted to call {k.name}::new with invalid (0) value"

/-- The breakdown of the first number that is zero. -/
def firstZero? (ids : List (IdKind × UInt64)) : Option String :=
  (ids.find? fun i ↦ i.2 == 0).map fun i ↦ i.1.zeroText

end GuildModeration.Service
