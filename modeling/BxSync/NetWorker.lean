import BxSync.Lib.Bracket
import BxSync.Queue

/-! `_bx_net_loop_worker` beside its queue (`bx_net.c`): what it does with the lock of the in list, and its two flags for
    a server that needs a standby. -/

namespace BxSync

/-! ### The lock of the in list -/

open Bracket (Mark)

/-- The queue, and what the worker has done with `in_mutex`, with the wait as a release and an acquire. -/
structure NetWorker (β : Type) where
  queue : Queue β
  inMutex : List (Mark Empty)

section

variable {β : Type}

def NetWorker.init : NetWorker β := { queue := Queue.init, inMutex := [] }

/-- What the worker does with `in_mutex` as it goes on. -/
def inMutexMarks (q : Queue β) : List (Mark Empty) :=
  match q.worker with
  -- It waits without the lock, or unlocks with the request it took.
  | .locking => [.acquire, .release]
  -- The wait returns with the lock, and the jump out of it keeps it.
  | .waiting => if q.list.run then [.acquire, .release] else [.acquire]
  -- `bx_net_request_list_cancel` keeps it.
  | .cancelling => [.acquire]
  | .leaving => [.release]
  | _ => []

/-- One step of the queue, with the state it meets. -/
structure NetCall (β : Type) where
  pre : NetWorker β
  move : QueueMove β
  post : NetWorker β
  event : QueueEvent β

def netStep (s : NetWorker β) (move : QueueMove β) : NetCall β × NetWorker β :=
  let step := s.queue.step move
  let post :=
    { queue := step.2
      inMutex :=
        match move with
        | .work _ => s.inMutex ++ inMutexMarks s.queue
        | _ => s.inMutex }
  ({ pre := s, move, post, event := step.1 }, post)

/-- The worker is at the lock in `bx_net_request_list_cancel`. -/
def Worker.AtCancel : Worker → Prop
  | .cancelling | .blocked => True
  | _ => False

end

/-! ### The standby of the server -/

/-- The flag of the worker and the one the sync threads see. -/
structure Standby where
  standby : Bool
  listStandby : Bool
deriving DecidableEq, Repr

/-- The statuses that call for a standby. -/
def needsStandby (httpCode : Nat) : Bool := httpCode = 429 || httpCode = 500 || httpCode = 503

/-- What the worker does with the flags after a fetch, with the status of its response if it has one. -/
def standbyFetched (s : Standby) (httpCode : Option Nat) : Standby :=
  match httpCode with
  | none => { s with standby := true }
  | some httpCode =>
    if needsStandby httpCode then
      if !s.standby then { standby := true, listStandby := true } else s
    else if s.standby then { standby := false, listStandby := false }
    else s

/-- One fetch, with the flags before and after it. -/
structure StandbyCall where
  pre : Standby
  httpCode : Option Nat
  post : Standby
deriving DecidableEq, Repr

def standbyStep (s : Standby) (httpCode : Option Nat) : StandbyCall × Standby :=
  let post := standbyFetched s httpCode
  ({ pre := s, httpCode, post }, post)

def Standby.init : Standby := { standby := false, listStandby := false }

end BxSync
