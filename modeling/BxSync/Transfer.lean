import BxSync.Request

/-! The body of a response (`bx_net.c`, `bx_utils.c`, `bx_decode.c`): from the write callback of the transfer through the
    two attempts of `bx_fetch` and the queue to `bx_decode_net` and its assertions. `J` is a decoded JSON value. -/

namespace BxSync

/-- A call of the write callback, and whether the buffer can grow in it. -/
structure Chunk where
  size : Nat
  nmemb : Nat
  bytes : List UInt8
  grows : Bool
  length_eq : bytes.length = size * nmemb

/-- `BXNetRData`, with the bytes as they came. -/
structure BXNetBuffer where
  httpCode : Nat
  data : Option (List UInt8)
  dataLen : Nat
deriving DecidableEq, Repr

/-- `_bx_write_cb`. -/
def bxWriteCb (c : Chunk) (b : BXNetBuffer) : Nat × BXNetBuffer :=
  if c.size = 0 then (0, b)
  else if !c.grows then (0, b)
  else (c.size * c.nmemb, { b with data := some (b.data.getD [] ++ c.bytes), dataLen := b.dataLen + c.size * c.nmemb })

/-- What a transfer brings, the status of its answer, and whether it comes to its end. -/
structure Transfer where
  chunks : List Chunk
  httpCode : Nat
  complete : Bool

/-- The write callback over the chunks. A chunk that it does not take whole ends the transfer. -/
def writeChunks : List Chunk → BXNetBuffer → Bool × BXNetBuffer
  | [], b => (true, b)
  | c :: rest, b =>
    let written := bxWriteCb c b
    if written.1 = c.size * c.nmemb then writeChunks rest written.2 else (false, written.2)

/-- `curl_easy_perform`, and whether it returns CURLE_OK. -/
def curlEasyPerform (t : Transfer) (b : BXNetBuffer) : Bool × BXNetBuffer :=
  let written := writeChunks t.chunks b
  (written.1 && t.complete, written.2)

/-- What an attempt meets: whether there is a header and the request can be set up, and its transfer. -/
structure AttemptAnswers where
  prepared : Bool
  transfer : Transfer

/-- The loop of `bx_fetch`, with the attempts that are left. -/
def bxFetchLoop (answers : Nat → AttemptAnswers) : Nat → BXNetBuffer → Option BXNetBuffer
  | 0, _ => none
  | left + 1, b =>
    let attempt := 2 - (left + 1)
    let b : BXNetBuffer := if b.data.isSome then { b with data := none, dataLen := 0 } else b
    let b : BXNetBuffer := { b with httpCode := 0 }
    if !(answers attempt).prepared then none
    else
      let performed := curlEasyPerform (answers attempt).transfer b
      if !performed.1 then none
      else
        let b : BXNetBuffer := { performed.2 with httpCode := (answers attempt).transfer.httpCode }
        if b.httpCode ≠ 401 ∨ attempt = 1 then some b else bxFetchLoop answers left b

/-- `bx_fetch`. -/
def bxFetch (answers : Nat → AttemptAnswers) : Option BXNetBuffer :=
  bxFetchLoop answers 2 { httpCode := 0, data := none, dataLen := 0 }

section

variable {J : Type}

/-- `bx_decode_net`. An assertion that fails is none. -/
def bxDecodeNet (jsonLoadb : List UInt8 → Option J) (request : BXNetRequest BXNetBuffer) : Option (Option J) :=
  match request.response with
  | none => none
  | some response =>
    if ¬0 < response.dataLen then none
    else
      match response.data with
      | none => none
      | some data => some (jsonLoadb (data.take response.dataLen))

inductive DoneRequest (J : Type)
  | aborted
  | null
  | decoded (response : BXNetBuffer) (json : J)
deriving DecidableEq, Repr

/-- `bx_do_request`, with what `bx_net_request_list_get_finished` returned. -/
def doRequest (jsonLoadb : List UInt8 → Option J) (finished : Option (BXNetRequest BXNetBuffer)) : DoneRequest J :=
  match finished with
  | none => .null
  | some request =>
    match request.cancel, request.response with
    | false, some response =>
      match bxDecodeNet jsonLoadb request with
      | none => .aborted
      | some none => .null
      | some (some json) => .decoded response json
    | _, _ => .null

/-- A request as the worker puts it back after its fetch. -/
def putBack (id : Nat) (response : Option BXNetBuffer) : BXNetRequest BXNetBuffer :=
  { done := true, cancel := response.isNone, id, response, next := none }

/-- The worker writes the response to the request it took. -/
theorem heap_setResponse (l : BXNetRequestList BXNetBuffer) (request : Address) (response : Option BXNetBuffer) :
    (setResponse l request response).heap request = { putBack (l.id request) response with next := l.next request } := by
  unfold setResponse BXNetRequestList.write BXNetRequestList.id BXNetRequestList.next putBack
  simp

end

end BxSync
