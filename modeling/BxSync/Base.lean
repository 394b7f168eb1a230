import Mathlib.Algebra.Group.Int.Defs
import Mathlib.Algebra.Ring.Nat
import Mathlib.Data.List.Basic

/-! What the modules of the daemon share: error codes, the phases and the cursor of the sync chain, what
    the outside answers to a request, and the log of a call.

    A call of the source is a function of the state and of the answers of the outside. It returns an error
    code, the next state, and the events a reader of the network or of the database would see. -/

namespace BxSync

/-- `BXILL_LIST_LIMIT`. -/
def bxillListLimit : Nat := 500

/-- `BXILL_DEFAULT_DRIFT`. -/
def bxillDefaultDrift : Nat := 10

/-- `INT_MAX`. -/
def intMax : Nat := 2 ^ 31 - 1

inductive BXillError
  | noError
  | errorGeneric
  | errorSQLGeneric
  | errorSQLInsert
  | errorSQLUpdate
  | errorSQLSelect
  | errorSQLReconnect
  | errorNet
  | errorJSON
  | errorDuplicateEntry
deriving DecidableEq, Repr

/-- A statement that failed maps to one of two codes, by the reconnect mark of its query. -/
def bxDatabaseQueryError (needReconnect : Bool) : BXillError :=
  if needReconnect then .errorSQLReconnect else .errorGeneric

@[simp] theorem bxDatabaseQueryError_ne (needReconnect : Bool) : bxDatabaseQueryError needReconnect ≠ .noError := by
  cases needReconnect <;> decide

/-! ### The chain cursor -/

inductive BXChainPhase
  | contactActive
  | contactArchived
  | project
  | invoiceList
  | invoiceMissed
deriving DecidableEq, Repr

/-- The next list offset of the phase, 0 for its first page. -/
structure BXChainCursor where
  phase : BXChainPhase
  offset : Nat
deriving DecidableEq, Repr

/-- `normalize`. Offsets below 0 are none here. -/
def normalize (c : BXChainCursor) : BXChainCursor :=
  if c.phase = .invoiceMissed then { c with offset := 0 } else c

@[simp] theorem phase_normalize (c : BXChainCursor) : (normalize c).phase = c.phase := by
  unfold normalize
  split <;> rfl

/-- What `bx_chain_save` does with the row and reports: the row is written and the call returns true, the
    row is not written, or the row is written and the call returns false. -/
inductive Save
  | written
  | failed
  | unreported
deriving DecidableEq, Repr

def Save.ok : Save → Bool
  | .written => true
  | _ => false

/-- The saved row after a save. -/
def Save.row (s : Save) (old new : BXChainCursor) : BXChainCursor :=
  match s with
  | .failed => old
  | _ => new

/-! ### Answers and events -/

/-- The lists the daemon pages through. -/
inductive Listing
  | contactActive
  | contactArchived
  | project
  | invoice
  | file
deriving DecidableEq, Repr

/-- The answer to a list request: its status, the rows when `as_array` finds an array, and what the save
    of the page callback would do. No answer is a request that returned NULL. -/
structure PageReply (ρ : Type) where
  httpCode : Nat
  rows : Option (List ρ)
  save : Save

inductive Event
  /-- A list page answered with an array that holds these ids. -/
  | showed (list : Listing) (offset : Nat) (ids : List Nat)
  /-- The row of the id was handed to the row callback. -/
  | handed (list : Listing) (id : Nat)
  /-- Every row of the page at the offset was accepted by the row callback. -/
  | accepted (list : Listing) (offset : Nat)
  /-- The walk of the list returned NoError. -/
  | walked (list : Listing)
  /-- The saved row of the chain was written. -/
  | saved (cursor : BXChainCursor)
  /-- A GET of one invoice by its id in the missed phase, with the status of the answer and the id of the
      object in its body. -/
  | got (id : Nat) (httpCode objectId : Option Nat)
  /-- The answer to that GET was synced without error. -/
  | loaded (id : Nat)
  /-- The missed phase returned NoError. -/
  | fetchedMissed
  /-- A DELETE of the id was handed to the server. -/
  | deleted (id : Nat)
deriving DecidableEq, Repr

end BxSync
