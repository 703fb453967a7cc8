import GuildModeration.Ids
import GuildModeration.Table

/-!
# Windows of recent messages

For every guild, channel and user the tracker keeps the messages sent of late, in the order of
their send times, whatever the order in which they arrive. A message counts once: seeing it again
records nothing. Times and widths are in microseconds.
-/

namespace GuildModeration.Spam

/-- Whose messages, and where, a window holds. -/
structure WindowKey where
  guild : GuildId
  channel : ChannelId
  user : UserId
  deriving DecidableEq, Repr

/-- A message in a window. -/
structure Sighting where
  sentAt : Int
  message : MessageId
  deriving DecidableEq, Repr

/-- The messages of one window, oldest first. -/
abbrev Window := List Sighting

namespace Window

/-- The message is in the window. -/
def holds (w : Window) (id : MessageId) : Bool :=
  w.any (·.message == id)

/-- The window with a sighting put behind all that are not newer. -/
def place (w : Window) (s : Sighting) : Window :=
  w.takeWhile (fun t ↦ decide (t.sentAt ≤ s.sentAt)) ++
    s :: w.dropWhile (fun t ↦ decide (t.sentAt ≤ s.sentAt))

/-- The window without the messages that are `width` or more older than the newest one. -/
def trim (w : Window) (width : Int) : Window :=
  match w.getLast? with
  | none => w
  | some newest => w.dropWhile fun t ↦ decide (t.sentAt ≤ newest.sentAt - width)

/-- The window after a message: placed if it is new, and trimmed. -/
def record (w : Window) (s : Sighting) (width : Int) : Window :=
  (if w.holds s.message then w else w.place s).trim width

/-- How many messages lie in the `width` up to `time`, the end included. -/
def countUpTo (w : Window) (time width : Int) : Nat :=
  w.countP fun t ↦ decide (time - width < t.sentAt) && decide (t.sentAt ≤ time)

/-- Some message of the window is newer than `time`; the last one decides. -/
def isActive (w : Window) (time : Int) : Bool :=
  (w.getLast?.map fun t ↦ decide (time < t.sentAt)).getD false

end Window

/-- The windows of all guilds, channels and users. -/
structure Tracker where
  windows : Table WindowKey Window := .empty
  deriving Repr

namespace Tracker

/-- Records a message sent at `time` and counts the messages of its window in the `width` up to
then. -/
def record (t : Tracker) (key : WindowKey) (id : MessageId) (time width : Int) : Nat × Tracker :=
  let window := ((t.windows.find? key).getD []).record ⟨time, id⟩ width
  (window.countUpTo time width, ⟨t.windows.insert key window⟩)

/-- Drops the windows without a message newer than `maxAge` before `now`, and counts them. -/
def prune (t : Tracker) (now maxAge : Int) : Nat × Tracker :=
  let kept := t.windows.filter fun _ w ↦ w.isActive (now - maxAge)
  (t.windows.size - kept.size, ⟨kept⟩)

/-- The number of windows. -/
def size (t : Tracker) : Nat :=
  t.windows.size

end Tracker

end GuildModeration.Spam
