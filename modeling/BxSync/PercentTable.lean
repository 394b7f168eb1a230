import BxSync.UrlBuild

/-! The encoding of the parameters of a request (`_bx_percent_encoding` and `bx_net_request_add_param` in `bx_net.c`): a
    table that is gone through twice, to size the block and to write it. What C leaves undefined is none, and so is a
    write outside of the block. Allocations succeed. -/

namespace BxSync

/-- The cases of `_bx_encode_char_percent_encoding`. -/
def percentTable : List (UInt8 × String) :=
  [(126, "%7E"), (33, "%21"), (35, "%23"), (36, "%24"), (38, "%26"), (40, "%28"), (41, "%29"), (42, "%2A"), (43, "%2B"),
    (44, "%2C"), (47, "%2F"), (58, "%3A"), (59, "%3B"), (61, "%3D"), (63, "%3F"), (64, "%40"), (91, "%5B"), (93, "%5D"),
    (34, "%22"), (37, "%25"), (45, "%2D"), (46, "%2E"), (60, "%3C"), (62, "%3E"), (94, "%5E"), (96, "%60"), (123, "%7B"),
    (124, "%7C"), (125, "%7D"), (95, "%5F"), (39, "%27"), (92, "%5C")]

/-- A digit of `%X`. -/
def upperHexDigit (n : UInt8) : UInt8 := if n < 10 then 48 + n else 55 + n

/-- What `_bx_encode_char_percent_encoding` returns, and what it writes where there is room. -/
def encodeChar (c : UInt8) : Bool × List UInt8 :=
  match percentTable.lookup c with
  | some text => (true, asciiBytes text)
  | none =>
    if c &&& 0x80 ≠ 0 then (true, [37, upperHexDigit (c / 16), upperHexDigit (c % 16)]) else (false, [c])

/-- `_bx_encode_char_percent_encoding` at an index of a block. -/
def bxEncodeCharPercentEncoding (block : List UInt8) (url size : Nat) (c : UInt8) : Option (Bool × List UInt8) :=
  let (escaped, text) := encodeChar c
  if text.length ≤ size then (Block.store block url text).map fun block => (escaped, block)
  else some (escaped, block)

/-- The first loop over the rest of the value, from an index. -/
def encodedLen : List UInt8 → Int → Option Nat
  | [], _ => some 0
  | c :: rest, i => do
    let i ← nextInt i
    let finalLen ← encodedLen rest i
    some ((if (encodeChar c).1 then 3 else 1) + finalLen)

/-- The second loop. -/
def writeEncoded : List UInt8 → Int → List UInt8 → Nat → Nat → Option (List UInt8)
  | [], _, o, _, _ => some o
  | c :: rest, i, o, tmp, rSize => do
    let (escaped, o) ← bxEncodeCharPercentEncoding o tmp rSize c
    let n := if escaped then 3 else 1
    let i ← nextInt i
    writeEncoded rest i o (tmp + n) ((rSize + (2 ^ 64 - n)) % 2 ^ 64)

/-- `_bx_percent_encoding`. -/
def bxPercentEncoding (value : CText) : Option (List UInt8) := do
  let finalLen ← encodedLen value.bytes 0
  writeEncoded value.bytes 0 (List.replicate (finalLen + 1) 0) 0 finalLen

/-- `bx_net_request_add_param` on the parameters of the request. -/
def bxNetRequestAddParam (params : List BXNetURLParam) (name value : CText) : Option (List BXNetURLParam) := do
  let eName ← bxPercentEncoding name
  let eValue ← bxPercentEncoding value
  some (params ++ [{ name := .read eName, value := .read eValue }])

end BxSync
