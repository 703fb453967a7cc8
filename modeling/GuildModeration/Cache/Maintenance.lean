import GuildModeration.Cache.Lookup

/-!
# Maintenance of the cache

Requests to drop policies go through a queue of limited length to a task that also reaps at regular
intervals. Nobody waits for room in the queue: whoever finds it full or closed drops the policy on
the spot instead. The task ends on a request to shut down, or when the queue is empty and nobody is
left who could send; ending closes the queue and throws away what is still in it.
-/

namespace GuildModeration

/-- What the maintenance task can be asked to do. -/
inductive CacheRequest where
  | invalidate (guild : GuildId)
  | invalidateAll
  | shutdown
  deriving DecidableEq, Repr

/-- Carries a request out. The flag says whether the task goes on. -/
def SharedCache.handle (s : SharedCache) : CacheRequest → Bool × SharedCache
  | .invalidate guild => (true, s.invalidate guild)
  | .invalidateAll => (true, s.invalidateAll)
  | .shutdown => (false, s)

/-! ## The queue -/

/-- The queue of requests: who is at its ends, and what is in it. -/
structure RequestQueue where
  capacity : Nat
  pending : List CacheRequest := []
  hasSender : Bool := true
  hasReceiver : Bool := true
  deriving Repr

/-- What becomes of a request that is sent. -/
inductive Delivery where
  | queued
  | full
  | closed
  deriving DecidableEq, Repr

namespace RequestQueue

/-- There is somebody to receive requests, but no room. -/
def isFull (q : RequestQueue) : Bool :=
  q.hasReceiver && decide (q.capacity ≤ q.pending.length)

/-- Puts a request into the queue if there is room and somebody to receive it. -/
def send (q : RequestQueue) (r : CacheRequest) : Delivery × RequestQueue :=
  if !q.hasReceiver then (.closed, q)
  else if q.isFull then (.full, q)
  else (.queued, { q with pending := q.pending ++ [r] })

/-- The queue without a receiver; what was in it is gone. -/
def close (q : RequestQueue) : RequestQueue :=
  { q with pending := [], hasReceiver := false }

end RequestQueue

/-! ## The task -/

/-- Where the maintenance task is: not started, at work with its next pass at a known time, or
ended. -/
inductive MaintenancePhase where
  | idle
  | running (interval nextPass : Nat)
  | ended
  deriving DecidableEq, Repr

/-- The task with its queue, and the number of passes so far. -/
structure Maintenance where
  queue : RequestQueue
  phase : MaintenancePhase := .idle
  passes : Nat := 0
  deriving Repr

/-- The cache with its maintenance. -/
structure MaintainedCache where
  shared : SharedCache := {}
  maintenance : Maintenance

namespace MaintainedCache

/-- Asks for the policy of a guild to be dropped: through the queue, or else at once. The answer
says whether the task is there. -/
def requestInvalidation (m : MaintainedCache) (guild : GuildId) : Bool × MaintainedCache :=
  let (delivery, queue) := m.maintenance.queue.send (.invalidate guild)
  match delivery with
  | .queued => (true, { m with maintenance := { m.maintenance with queue } })
  | .full => (true, { m with shared := m.shared.invalidate guild })
  | .closed => (false, { m with shared := m.shared.invalidate guild })

/-- Starts the task, which makes its first pass at once. Without time between its passes the task
breaks down right away, and a queue without a receiver has nobody to start. -/
def start (m : MaintainedCache) (now interval : Nat) : MaintainedCache :=
  if m.maintenance.phase != .idle || !m.maintenance.queue.hasReceiver then m
  else if interval = 0 then
    { m with maintenance :=
      { m.maintenance with phase := .ended, queue := m.maintenance.queue.close } }
  else { m with maintenance := { m.maintenance with phase := .running interval now } }

/-- Takes away the end of the queue that requests are received at. A task that was started has taken
it before. -/
def dropReceiver (m : MaintainedCache) : MaintainedCache :=
  if m.maintenance.phase == .idle then
    { m with maintenance := { m.maintenance with queue := m.maintenance.queue.close } }
  else m

/-- Ends the task. -/
def stop (m : MaintainedCache) : MaintainedCache :=
  { m with maintenance :=
    { m.maintenance with phase := .ended, queue := m.maintenance.queue.close } }

/-- One step of the task at its queue: carries the first request out, or ends if there is none and
nobody can send any. -/
def receive (m : MaintainedCache) : MaintainedCache :=
  match m.maintenance.phase with
  | .running .. =>
    match m.maintenance.queue.pending with
    | [] => if m.maintenance.queue.hasSender then m else m.stop
    | r :: rest =>
      let (goesOn, shared) := m.shared.handle r
      let m : MaintainedCache :=
        { shared, maintenance :=
          { m.maintenance with queue := { m.maintenance.queue with pending := rest } } }
      if goesOn then m else m.stop
  | _ => m

/-- The task at its queue until it waits or has ended. -/
def serve (m : MaintainedCache) : MaintainedCache :=
  (List.range (m.maintenance.queue.pending.length + 1)).foldl (fun m _ ↦ m.receive) m

/-- One pass of the task, made at `now` for the moment at which it was due. -/
def pass (m : MaintainedCache) (now : Nat) : MaintainedCache :=
  match m.maintenance.phase with
  | .running interval nextPass =>
    { shared := (m.shared.reap now).2
      maintenance :=
        { m.maintenance with
          phase := .running interval (nextPass + interval), passes := m.maintenance.passes + 1 } }
  | _ => m

/-- The number of passes that are due at `now`; those that were missed are made up for. -/
def duePasses (m : MaintainedCache) (now : Nat) : Nat :=
  match m.maintenance.phase with
  | .running interval nextPass =>
    if now < nextPass then 0 else (now - nextPass) / interval + 1
  | _ => 0

/-- The passes that are due, all made at `now`. -/
def catchUp (m : MaintainedCache) (now : Nat) : MaintainedCache :=
  (List.range (m.duePasses now)).foldl (fun m _ ↦ m.pass now) m

/-- When the next pass is due. -/
def nextPass? (m : MaintainedCache) : Option Nat :=
  match m.maintenance.phase with
  | .running _ nextPass => some nextPass
  | _ => none

/-- The task has ended, if it was ever started. -/
def hasEnded? (m : MaintainedCache) : Option Bool :=
  match m.maintenance.phase with
  | .idle => none
  | .running .. => some false
  | .ended => some true

end MaintainedCache

end GuildModeration
