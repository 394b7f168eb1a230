import Mathlib.Logic.Function.Basic
import BxSync.Threads

/-! The connection of a thread and the statements prepared on it (`main.c`). The thread holds a pointer, so a
    connection is known to it by its address only, and the allocator may hand out an address again. -/

namespace BxSync

/-- `BXILL_THREAD_EXIT_MAX_COUNT`. -/
def bxillThreadExitMaxCount : Nat := 10

/-- An open connection: what its pointer compares by, and which of the connections of the thread it is. -/
structure Conn where
  address : Nat
  serial : Nat
deriving DecidableEq, Repr

/-- What a thread keeps between its iterations. `R` names its prune queries. -/
structure Link (R : Type) where
  /-- NULL after a reconnect that failed. -/
  conn : Option Conn
  /-- The number of connections opened so far. -/
  opened : Nat
  /-- The connection the statement of each prune query was prepared on. -/
  statements : R → Option Nat
  errorCounter : Nat
  running : Bool

/-- What `thread_handle_error` and the rebuild of the prune queries meet. -/
structure LinkAnswers (R : Type) where
  /-- `mysql_ping` fails, and the error says that the connection is gone. -/
  lost : Bool
  /-- The address of the connection that `thread_setup_mysql` opens, if it opens one. -/
  reconnect : Option Nat
  /-- The query can be prepared. -/
  prepared : R → Bool

section

variable {R : Type}

/-- The thread starts with its first connection and with the queries it could prepare. -/
def startLink (address : Nat) (prepared : R → Bool) : Link R where
  conn := some { address, serial := 0 }
  opened := 1
  statements r := if prepared r then some 0 else none
  errorCounter := 0
  running := true

/-- `thread_handle_error`, with `thread_reconnect`. -/
def threadHandleError (error : BXillError) (l : Link R) (a : LinkAnswers R) : Bool × Link R :=
  if error = .noError then (true, l)
  else if error = .errorSQLReconnect ∨ (l.conn.isSome ∧ a.lost) then
    match a.reconnect with
    | none => (false, { l with conn := none })
    | some address => (true, { l with conn := some { address, serial := l.opened }, opened := l.opened + 1 })
  else (false, l)

/-- `rebuild_prune_query` for each query, up to the first that cannot be prepared. -/
def rebuildPruneQueries [DecidableEq R] (serial : Nat) (prepared : R → Bool) :
    List R → (R → Option Nat) → Bool × (R → Option Nat)
  | [], statements => (true, statements)
  | r :: rest, statements =>
    if prepared r then rebuildPruneQueries serial prepared rest (Function.update statements r (some serial))
    else (false, Function.update statements r none)

/-- The end of an iteration. The queries are rebuilt when the pointer has changed. -/
def afterIteration [DecidableEq R] (queries : List R) (error : BXillError) (l : Link R) (a : LinkAnswers R) : Link R :=
  let handled := threadHandleError error l a
  if handled.1 then
    let l' := { handled.2 with errorCounter := 0 }
    match l'.conn with
    | none => l'
    | some conn =>
      if l.conn.map Conn.address = some conn.address then l'
      else
        let rebuilt := rebuildPruneQueries conn.serial a.prepared queries l'.statements
        { l' with statements := rebuilt.2, running := rebuilt.1 }
  else
    { handled.2 with
      errorCounter := handled.2.errorCounter + 1
      running := handled.2.errorCounter ≤ bxillThreadExitMaxCount }

/-- A prune query over its statement. The statement of a closed connection fails and asks for a reconnect. -/
def Link.pruneAnswers (l : Link R) (r : R) (deletes : List Exec) : PruneAnswers where
  prepared := (l.statements r).isSome
  deletes := if l.statements r = l.conn.map Conn.serial then deletes else [.unsent true]

/-- What one iteration of a thread did: the prune queries it ran, and the link before it. -/
structure LinkCall (R : Type) where
  pre : Link R
  answers : LinkAnswers R
  /-- The queries `bx_prune_items` was called with. -/
  called : List R

end

/-! ### chain_thread -/

structure ChainThread where
  chain : ChainState
  link : Link Resource

structure ChainThreadInput where
  step : ChainStepInput
  link : LinkAnswers Resource

/-- The answers of an iteration over the link: without a connection nothing is synced. -/
def ChainThread.stepInput (t : ChainThread) (i : ChainThreadInput) : ChainStepInput :=
  { i.step with
    sync := { i.step.sync with connected := t.link.conn.isSome }
    contactPrune := t.link.pruneAnswers .contact i.step.contactPrune.deletes
    projectPrune := t.link.pruneAnswers .project i.step.projectPrune.deletes
    invoicePrune := t.link.pruneAnswers .invoice i.step.invoicePrune.deletes }

/-- One iteration of the loop of `chain_thread`. Its caches do not outlive the loop. -/
def chainThreadStep (t : ChainThread) (i : ChainThreadInput) : LinkCall Resource × ChainThread :=
  let step := chainStep t.chain (t.stepInput i)
  ({ pre := t.link
     answers := i.link
     called := if t.link.running then step.1.prunes.called else [] },
    if t.link.running then
      { chain := step.2
        link := afterIteration [.contact, .project, .invoice] step.1.prunes.error t.link i.link }
    else t)

/-! ### file_thread -/

structure FileThread where
  files : FileState
  link : Link Unit

structure FileThreadInput where
  step : FileInput
  link : LinkAnswers Unit

def FileThread.stepInput (t : FileThread) (i : FileThreadInput) : FileInput :=
  { i.step with
    connected := t.link.conn.isSome
    prune := t.link.pruneAnswers () i.step.prune.deletes }

/-- One iteration of the loop of `file_thread`. -/
def fileThreadStep (t : FileThread) (i : FileThreadInput) : LinkCall Unit × FileThread :=
  let step := fileStep t.files (t.stepInput i)
  ({ pre := t.link
     answers := i.link
     called := if t.link.running ∧ step.1.pruned then [()] else [] },
    if t.link.running then
      { files := step.2
        link := afterIteration [()] step.1.error t.link i.link }
    else t)

end BxSync
