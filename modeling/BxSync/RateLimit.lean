import BxSync.Base
import BxSync.CursorText

/-! The rate limits of the remote, from the header lines of its replies (`bx_header_callback` in `bx_net.c`). A line is
    bytes with a length and has no NUL at its end, so what the callback reads is part of what it does. -/

namespace BxSync

structure BXNetRatelimit where
  maxRequest : Int32
  remainingRequest : Int32
  resetTime : Int32
deriving DecidableEq, Repr

/-- The fields of the limits. Each has its branch in the callback. -/
inductive LimitField where
  | maxRequest
  | remainingRequest
  | resetTime
deriving DecidableEq, Repr

namespace LimitField

/-- `RLIMIT_LIMIT`, `RLIMIT_REMAIN` and `RLIMIT_RESET`. -/
def header : LimitField → String
  | .maxRequest => "ratelimit-limit"
  | .remainingRequest => "ratelimit-remaining"
  | .resetTime => "ratelimit-reset"

def name (field : LimitField) : List UInt8 := asciiBytes field.header

/-- `sizeof` of the name, its NUL included. -/
def sizeof (field : LimitField) : Nat := field.name.length + 1

def get (field : LimitField) (limits : BXNetRatelimit) : Int32 :=
  match field with
  | .maxRequest => limits.maxRequest
  | .remainingRequest => limits.remainingRequest
  | .resetTime => limits.resetTime

def set (field : LimitField) (limits : BXNetRatelimit) (v : Int32) : BXNetRatelimit :=
  match field with
  | .maxRequest => { limits with maxRequest := v }
  | .remainingRequest => { limits with remainingRequest := v }
  | .resetTime => { limits with resetTime := v }

end LimitField

/-- The bytes in memory from the first one of the line on. -/
abbrev Memory := Nat → UInt8

/-- `bx_string_compare` from the byte `i` on, and the bytes of the first text that it reads. The second text ends with a
    NUL, and so the first may do. -/
def bxStringCompare (str1 : Memory) : List UInt8 → Nat → Nat → Bool × List Nat
  | _, 0, _ => (true, [])
  | [], _ + 1, i => (true, [i])
  | c :: str2, max + 1, i =>
    if str1 i = 0 then (true, [i])
    else if str1 i ≠ c then (false, [i])
    else
      let (same, reads) := bxStringCompare str1 str2 max (i + 1)
      (same, i :: reads)

/-- What the callback does: the size it returns, the limits, and the bytes it reads. -/
structure HeaderEffect where
  returned : Nat
  limits : BXNetRatelimit
  reads : List Nat
deriving DecidableEq, Repr

/-- What a branch does with the copy of a line. The copy has ten bytes, and zeros behind what is copied. -/
def LimitField.store (field : LimitField) (limits : BXNetRatelimit) (copied : List UInt8) : BXNetRatelimit :=
  let b := (copied ++ List.replicate (10 - copied.length) 0).dropWhile fun c => c = 32 || c = 58
  if b.headD 0 = 0 then limits
  else
    let v := Int32.ofInt ((strtol (cString b)).elim 0 Prod.fst)
    if v = 0 then limits else field.set limits v

/-- The branch of a field: the limits, where the line ends in it, and the bytes it reads. -/
def headerBranch (field : LimitField) (buffer : Memory) (n : Nat) (limits : BXNetRatelimit) :
    Option BXNetRatelimit × List Nat :=
  if field.sizeof < n then
    let (same, compared) := bxStringCompare buffer field.name field.sizeof 0
    if same && n - field.sizeof < 10 then
      let copied := (List.range (n - field.sizeof)).map fun i => field.sizeof + 1 + i
      (some (field.store limits (copied.map buffer)), compared ++ copied)
    else (none, compared)
  else (none, [])

/-- The branches in their order. -/
def headerBranches (buffer : Memory) (n : Nat) (limits : BXNetRatelimit) : List LimitField → HeaderEffect
  | [] => { returned := n, limits, reads := [] }
  | field :: fields =>
    match headerBranch field buffer n limits with
    | (some limits, reads) => { returned := n, limits, reads }
    | (none, reads) =>
      let effect := headerBranches buffer n limits fields
      { effect with reads := reads ++ effect.reads }

/-- `bx_header_callback`. -/
def bxHeaderCallback (buffer : Option Memory) (size itemCount : Nat) (limits : BXNetRatelimit) : HeaderEffect :=
  let n := size * itemCount % 2 ^ 64
  match buffer with
  | none => { returned := n, limits, reads := [] }
  | some buffer =>
    if itemCount = 0 then { returned := n, limits, reads := [] }
    else headerBranches buffer n limits [.maxRequest, .remainingRequest, .resetTime]

/-- A line as the HTTP client hands it over. -/
structure HeaderLine where
  size : Nat
  itemCount : Nat
  bytes : List UInt8
  length_eq : bytes.length = size * itemCount
  fits : size * itemCount < 2 ^ 64

/-- The memory of a line, with what lies behind it. -/
def HeaderLine.memory (line : HeaderLine) (behind : Memory) : Memory := fun i =>
  if h : i < line.bytes.length then line.bytes[i] else behind (i - line.bytes.length)

def HeaderLine.handle (line : HeaderLine) (behind : Memory) (limits : BXNetRatelimit) : HeaderEffect :=
  bxHeaderCallback (some (line.memory behind)) line.size line.itemCount limits

end BxSync
