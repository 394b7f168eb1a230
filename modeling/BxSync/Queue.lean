import BxSync.Lib.Linked
import BxSync.Lib.Machine

/-! The request queue between the sync threads and the network worker (`bx_net.c`, `bx_utils.c`): the two
    lists, the calls on them, and the interleavings of any number of clients with the worker.

    The lists are links between requests in memory, so that a wrong link would lose or repeat a request. A
    critical section is one step. A loop over a list takes at most as many turns as the caller allows. -/

namespace BxSync

/-- A pointer to a request. -/
abbrev Address := Nat

variable {β : Type}

/-- The path and the parameters, which only the fetch reads, are left out. -/
structure BXNetRequest (β : Type) where
  done : Bool
  cancel : Bool
  id : Nat
  response : Option β
  next : Option Address
deriving DecidableEq, Repr

/-- `bx_net_request_new`, which clears the request. -/
def bxNetRequestNew : BXNetRequest β := { done := false, cancel := false, id := 0, response := none, next := none }

/-- With the memory that the links point into. -/
structure BXNetRequestList (β : Type) where
  run : Bool
  nextId : Nat
  input : Option Address
  out : Option Address
  heap : Address → BXNetRequest β

namespace BXNetRequestList

def next (l : BXNetRequestList β) (a : Address) : Option Address := (l.heap a).next

def id (l : BXNetRequestList β) (a : Address) : Nat := (l.heap a).id

def write (l : BXNetRequestList β) (a : Address) (request : BXNetRequest β) : BXNetRequestList β :=
  { l with heap := Function.update l.heap a request }

def setNext (l : BXNetRequestList β) (a : Address) (link : Option Address) : BXNetRequestList β :=
  l.write a { l.heap a with next := link }

end BXNetRequestList

def bxNetRequestListInit : BXNetRequestList β :=
  { run := true, nextId := 0, input := none, out := none, heap := fun _ => bxNetRequestNew }

/-- `bx_net_request_list_add`. -/
def bxNetRequestListAdd (l : BXNetRequestList β) (request : Address) : Nat × BXNetRequestList β :=
  let id := l.nextId + 1
  (id, { l.write request { l.heap request with id, next := l.input } with nextId := id, input := some request })

/-- What one pass over the out list under its lock comes to. -/
inductive Finished
  | found (request : Address)
  /-- The call returns NULL. -/
  | null
  | wait
deriving DecidableEq, Repr

/-- One pass of the outer loop of `bx_net_request_list_get_finished`. -/
def bxNetRequestListGetFinished (turns : Nat) (l : BXNetRequestList β) (requestId : Nat) : Finished × BXNetRequestList β :=
  match Linked.find l.next (fun a => l.id a == requestId) turns none l.out with
  | some (previous, current) =>
    let unlinked :=
      match previous with
      | some previous => l.setNext previous (l.next current)
      | none => { l with out := l.next current }
    (.found current, unlinked.setNext current none)
  | none => (if l.run then .wait else .null, l)

/-- The worker takes the last request of the in list. -/
def takeRequest (turns : Nat) (l : BXNetRequestList β) (first : Address) : Address × BXNetRequestList β :=
  match Linked.last l.next turns none first with
  | (some previous, request) => (request, l.setNext previous none)
  | (none, request) => (request, { l with input := none })

/-- What the worker writes to a request after `bx_fetch`. -/
def setResponse (l : BXNetRequestList β) (request : Address) (response : Option β) : BXNetRequestList β :=
  l.write request { l.heap request with response, cancel := response.isNone, done := true }

/-- `put_back_into_list` of the worker. -/
def putBackIntoList (l : BXNetRequestList β) (request : Address) : BXNetRequestList β :=
  match l.out with
  | none => { l with out := some request }
  | some first => { l.setNext request (some first) with out := some request }

def cancelRequest (l : BXNetRequestList β) (a : Address) : BXNetRequestList β :=
  l.write a { l.heap a with cancel := true }

/-- `bx_net_request_list_cancel` up to the lock of the out list: the in list is detached and cancelled. -/
def bxNetRequestListDetach (turns : Nat) (l : BXNetRequestList β) : Option Address × BXNetRequestList β :=
  (l.input, (Linked.nodes l.next turns l.input).foldl cancelRequest { l with input := none })

/-- `bx_net_request_list_cancel` under the lock of the out list. -/
def bxNetRequestListSplice (turns : Nat) (l : BXNetRequestList β) (detached : Option Address) : BXNetRequestList β :=
  match l.out with
  | none => { l with out := detached }
  | some first => l.setNext (Linked.last l.next turns none first).2 detached

/-! ### The worker and its clients -/

/-- Where `_bx_net_loop_worker` is. -/
inductive Worker
  /-- Before the test of `run`. -/
  | looping
  /-- Before the lock of the in list. -/
  | locking
  /-- In the wait for a request, which gives the lock free. -/
  | waiting
  | fetching (request : Address)
  | puttingBack (request : Address)
  /-- Before `bx_net_request_list_cancel`. -/
  | cancelling
  /-- In `bx_net_request_list_cancel`, which holds the lock of the in list and waits for the other one. -/
  | joining (detached : Option Address)
  /-- After it, still with the lock of the in list. -/
  | leaving
  | ended
  /-- In `bx_net_request_list_cancel` after a stop during the wait: the lock of the in list, which the
      worker holds already, is taken again. -/
  | blocked
deriving DecidableEq, Repr

/-- The worker holds the lock of the in list between two steps. -/
def Worker.locksInput : Worker → Bool
  | .joining _ | .leaving | .blocked => true
  | _ => false

/-- A client is in `bx_do_request_wait` or not. -/
inductive Client
  | idle
  | waiting (id : Nat)
deriving DecidableEq, Repr

/-- A request that was returned belongs to its client, which frees it, so its address may come back. -/
structure Queue (β : Type) where
  list : BXNetRequestList β
  worker : Worker
  client : Nat → Client
  allocated : List Address

def Queue.init : Queue β := { list := bxNetRequestListInit, worker := .looping, client := fun _ => .idle, allocated := [] }

/-- Turns enough for any list of requests. -/
def Queue.turns (q : Queue β) : Nat := q.allocated.length + 1

inductive QueueMove (β : Type)
  /-- A client makes a request at a free address and adds it. -/
  | add (client : Nat) (request : Address)
  /-- A client locks the out list, for the first time or as it wakes up. -/
  | get (client : Nat)
  /-- The worker goes on. The response is the one to a fetch. -/
  | work (response : Option β)
  /-- The main thread clears `run`. -/
  | stop

inductive QueueEvent (β : Type)
  | added (client id : Nat)
  | fetched (id : Nat) (response : Option β)
  | returned (client id : Nat) (request : BXNetRequest β)
  /-- A client got NULL for its request. -/
  | refused (client id : Nat)
  | quiet
deriving DecidableEq, Repr

namespace Queue

def addStep (q : Queue β) (client : Nat) (request : Address) : QueueEvent β × Queue β :=
  if q.client client ≠ .idle ∨ request ∈ q.allocated ∨ q.worker.locksInput then (.quiet, q)
  else
    let added := bxNetRequestListAdd (q.list.write request bxNetRequestNew) request
    (.added client added.1,
      { q with list := added.2, client := Function.update q.client client (.waiting added.1), allocated := request :: q.allocated })

def getStep (q : Queue β) (client : Nat) : QueueEvent β × Queue β :=
  match q.client client with
  | .idle => (.quiet, q)
  | .waiting id =>
    match bxNetRequestListGetFinished q.turns q.list id with
    | (.wait, l) => (.quiet, { q with list := l })
    | (.null, l) => (.refused client id, { q with list := l, client := Function.update q.client client .idle })
    | (.found request, l) =>
      (.returned client id (l.heap request),
        { q with list := l, client := Function.update q.client client .idle, allocated := q.allocated.erase request })

/-- The worker has the lock of the in list and looks for a request. -/
def takeStep (q : Queue β) : Queue β :=
  match q.list.input with
  | none => { q with worker := .waiting }
  | some first =>
    let taken := takeRequest q.turns q.list first
    { q with list := taken.2, worker := .fetching taken.1 }

def workStep (q : Queue β) (response : Option β) : QueueEvent β × Queue β :=
  match q.worker with
  | .looping => (.quiet, { q with worker := if q.list.run then .locking else .cancelling })
  | .locking => (.quiet, q.takeStep)
  | .waiting => (.quiet, if q.list.run then q.takeStep else { q with worker := .blocked })
  | .fetching request =>
    (.fetched (q.list.id request) response,
      { q with list := setResponse q.list request response, worker := .puttingBack request })
  | .puttingBack request => (.quiet, { q with list := putBackIntoList q.list request, worker := .looping })
  | .cancelling =>
    let detached := bxNetRequestListDetach q.turns q.list
    (.quiet, { q with list := detached.2, worker := .joining detached.1 })
  | .joining detached =>
    (.quiet, { q with list := bxNetRequestListSplice q.turns q.list detached, worker := .leaving })
  | .leaving => (.quiet, { q with worker := .ended })
  | .ended | .blocked => (.quiet, q)

def step (q : Queue β) : QueueMove β → QueueEvent β × Queue β
  | .add client request => q.addStep client request
  | .get client => q.getStep client
  | .work response => q.workStep response
  | .stop => (.quiet, { q with list := { q.list with run := false } })

/-! ### Where the requests are -/

/-- The requests in the in list. -/
def inputRequests (q : Queue β) : List Address := Linked.nodes q.list.next q.turns q.list.input

/-- The requests in the hands of the worker. -/
def handRequests (q : Queue β) : List Address :=
  match q.worker with
  | .fetching request | .puttingBack request => [request]
  | .joining detached => Linked.nodes q.list.next q.turns detached
  | _ => []

/-- The requests in the out list. -/
def outRequests (q : Queue β) : List Address := Linked.nodes q.list.next q.turns q.list.out

end Queue

/-- The ids that were given out, in this order. -/
def addedIds (events : List (QueueEvent β)) : List Nat :=
  events.filterMap fun | .added _ id => some id | _ => none

/-- The ids that were fetched, in this order. -/
def fetchedIds (events : List (QueueEvent β)) : List Nat :=
  events.filterMap fun | .fetched id _ => some id | _ => none

/-- The ids that went back to a client. -/
def returnedIds (events : List (QueueEvent β)) : List Nat :=
  events.filterMap fun | .returned _ id _ => some id | _ => none

end BxSync
