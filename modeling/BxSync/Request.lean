import BxSync.Paging
import BxSync.Queue

/-! What a list walk gets of an answer: from the response to the fetch (`bx_net.c`) through the request that
    comes back (`bx_utils.c`) and its decoded body to the array of rows (`bx_walk.c`).

    A body is not empty. `ρ` is a value of a JSON array. -/

namespace BxSync

/-- A member of an object, as far as `as_array` looks. -/
inductive JsonMember (ρ : Type)
  | array (values : List ρ)
  | other
deriving DecidableEq, Repr

inductive JsonRoot (ρ : Type)
  | array (values : List ρ)
  | object (members : List (String × JsonMember ρ))
  | other
deriving DecidableEq, Repr

/-- A response, with what its body decodes to, if it does. -/
structure BXNetRData (ρ : Type) where
  httpCode : Nat
  data : Option (JsonRoot ρ)
deriving DecidableEq, Repr

variable {ρ : Type}

/-- `as_array`. -/
def asArray : JsonRoot ρ → Option (List ρ)
  | .array values => some values
  | .object members =>
    match members.lookup "data" with
    | some (.array values) => some values
    | _ => none
  | .other => none

/-- The end of `bx_do_request_wait`, with what `bx_net_request_list_get_finished` returned. -/
def bxDoRequestWait (finished : Option (BXNetRequest (BXNetRData ρ))) : Option (BXNetRData ρ) :=
  finished.bind fun request => if request.cancel then none else request.response

/-- `bx_do_request`: the response and the decoded body. -/
def bxDoRequest (finished : Option (BXNetRequest (BXNetRData ρ))) : Option (BXNetRData ρ × JsonRoot ρ) :=
  (bxDoRequestWait finished).bind fun response => response.data.map (response, ·)

/-- What a walk sees of an answer, with the save that its page callback meets. -/
def pageReply (finished : Option (BXNetRequest (BXNetRData ρ))) (save : Save) : Option (PageReply ρ) :=
  (bxDoRequest finished).map fun answer => { httpCode := answer.1.httpCode, rows := asArray answer.2, save }

/-- `bx_walk_pages_from`, over the requests that come back. -/
def Walker.walkAnswers {σ κ : Type} (w : Walker σ κ ρ) (p : Paging)
    (answers : List (Option (BXNetRequest (BXNetRData ρ)) × Save)) (start : Int) (s : σ) (k : κ) : PagedWalk σ κ ρ :=
  w.walkStepsFrom p (answers.map fun a => pageReply a.1 a.2) start s k

/-- A request as the worker puts it back. -/
def fetchedRequest (id : Nat) (response : Option (BXNetRData ρ)) : BXNetRequest (BXNetRData ρ) :=
  { done := true, cancel := response.isNone, id, response, next := none }

end BxSync
