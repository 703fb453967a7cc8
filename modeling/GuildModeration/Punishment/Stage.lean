/-!
# The stages of a punishment

A punishment passes four stages, strictly in this order. Moving to any stage but the next one is
refused and changes nothing.
-/

namespace GuildModeration.Punishment

/-- How far a punishment has come. -/
inductive Stage where
  /-- A decision was made, and nothing was sent. -/
  | evaluated
  /-- The corrective action was requested. -/
  | actionDispatched
  /-- The deletion of the message was requested. -/
  | deleteAttempted
  | done
  deriving DecidableEq, Repr, Inhabited

namespace Stage

/-- All stages in order. -/
def all : List Stage := [evaluated, actionDispatched, deleteAttempted, done]

/-- The name under which a stage is reported. -/
def name : Stage → String
  | evaluated => "Evaluated"
  | actionDispatched => "ActionDispatched"
  | deleteAttempted => "MessageDeleteAttempted"
  | done => "Done"

/-- The stage of a name. -/
def ofName? (s : String) : Option Stage :=
  all.find? (·.name == s)

theorem ofName?_name (s : Stage) : ofName? s.name = some s := by
  cases s <;> decide

/-- The stage that follows. -/
def next? : Stage → Option Stage
  | evaluated => some actionDispatched
  | actionDispatched => some deleteAttempted
  | deleteAttempted => some done
  | done => none

/-- Nothing follows. -/
def isLast (s : Stage) : Bool :=
  s.next?.isNone

end Stage

end GuildModeration.Punishment
