import BxSync.Json

/-! The callback of a login (`query_value`, `accept_code` and `code_from_line` in `bx_oauth.c`): the search for a parameter
    behind the first question mark, and the check of the state. `oauth2_url_decode` is a parameter. Allocations succeed,
    and no argument is NULL. -/

namespace BxSync

/-- The look-behind: the start of the query, or an ampersand or a question mark before. -/
def mayStart (prev : Option UInt8) : Bool := prev = none || prev = some 38 || prev = some 63

/-- A byte that the loop to the end of a value passes. -/
def inValue (c : UInt8) : Bool := c ≠ 38 && c ≠ 32 && c ≠ 13 && c ≠ 10 && c ≠ 35

/-- `q`: what follows the first question mark, or the whole text. -/
def afterQuestion (src : List UInt8) : List UInt8 :=
  match src.dropWhile (· ≠ 63) with
  | [] => src
  | _ :: q => q

/-- The loop over `p`, with the byte before it. The result is `start`. -/
def searchParam (name : List UInt8) : Option UInt8 → List UInt8 → Option (List UInt8)
  | _, [] => none
  | prev, c :: rest =>
    if mayStart prev && ((c :: rest).take name.length = name && (c :: rest)[name.length]? = some 61) then
      some ((c :: rest).drop (name.length + 1))
    else searchParam name (some c) rest

def queryValue (urlDecode : CText → Option CText) (src name : CText) : Option CText := do
  let start ← searchParam name.bytes none (afterQuestion src.bytes)
  urlDecode (.read (start.takeWhile inValue))

/-- The loop of `accept_code` over what `read` delivers one by one, with the room that is left. -/
def readRequest : List UInt8 → Nat → List UInt8
  | [], _ => []
  | _ :: _, 0 => []
  | c :: rest, room + 1 => c :: (if c = 10 then [] else readRequest rest room)

/-- `req`, as the C string that is in it. -/
def requestText (received : List UInt8) : CText := .read (readRequest received 4095)

/-- `accept_code` with what the connection delivers until its end, an error or the timeout, or none if there is no
    connection. The result is the code. -/
def acceptCode (urlDecode : CText → Option CText) (received : Option (List UInt8)) (expectState : CText) : Option CText := do
  let received ← received
  let gotCode ← queryValue urlDecode (requestText received) (.ofString "code")
  let gotState ← queryValue urlDecode (requestText received) (.ofString "state")
  if gotState = expectState then some gotCode else none

/-- `strstr` finds something. -/
def strstr (needle : List UInt8) : List UInt8 → Bool
  | [] => needle.isEmpty
  | c :: rest => needle.isPrefixOf (c :: rest) || strstr needle rest

structure LineResult where
  code : Option CText
  message : Option String
deriving DecidableEq

/-- `code_from_line`: the code, or the message of `oauth_fail`. -/
def codeFromLine (urlDecode : CText → Option CText) (line expect : CText) : LineResult :=
  let line : CText := .read (line.bytes.dropWhile isSpace)
  let gotCode := queryValue urlDecode line (.ofString "code")
  let gotState := queryValue urlDecode line (.ofString "state")
  if gotCode.isSome && gotState = some expect then { code := gotCode, message := none }
  else if gotState.isSome && gotState ≠ some expect then
    { code := none, message := some "OAuth state did not match this login. Paste the URL from this attempt." }
  else if line.bytes.contains 63 || strstr (asciiBytes "code=") line.bytes then
    { code := none, message := some "Could not read code and state from that URL." }
  else { code := none, message := none }

end BxSync
