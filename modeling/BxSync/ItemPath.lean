import BxSync.CursorText
import BxSync.Lib.Block

/-! The paths of the requests (`_bx_item_to_path` in `bx_utils.c`): a format whose signs stand for the texts of values
    (`bx_object_value.c`). The path is a block of memory that grows. A write outside of it is none, as is an assertion
    that fails. Allocations succeed. -/

namespace BxSync

/-- What a `BXGeneric` can be. -/
inductive BXGeneric
  | slot (value : BXSlot)
  | bytes (value : Option (List UInt8))
  | intId
deriving DecidableEq, Repr

/-- A digit of `%x`. -/
def lowerHexDigit (n : UInt8) : UInt8 := if n < 10 then 48 + n else 87 + n

/-- `%2x`. -/
def printHex (b : UInt8) : List UInt8 :=
  if b < 16 then [32, lowerHexDigit b] else [lowerHexDigit (b / 16), lowerHexDigit (b % 16)]

/-- The block that `bx_object_value_to_string` returns, up to its own NUL. -/
def bxObjectValueToString : BXGeneric → Option (List UInt8)
  | .slot (.uint value) => some (value.elim [48] fun n => Decimal.digits n.toNat)
  | .slot (.int value) => some (value.elim [48] fun n => Decimal.signedDigits n.toInt)
  | .slot (.float _) => none
  | .slot (.str value) => some (value.getD [])
  | .slot (.bool value) => some (value.elim [] fun b => asciiBytes (if b then "true" else "false"))
  | .slot (.uuid _) => none
  | .bytes value => some ((value.getD []).flatMap printHex)
  | .intId => none

/-- `path` and `path_len`. -/
structure PathBuffer where
  path : Option (List UInt8)
  pathLen : Nat
deriving DecidableEq, Repr

/-- `memcpy` to the end of the path. -/
def PathBuffer.copy (b : PathBuffer) (text : List UInt8) : Option PathBuffer := do
  let path ← b.path
  let path ← Block.store path b.pathLen text
  some { path := some path, pathLen := b.pathLen + text.length }

/-- The NUL behind the path. -/
def PathBuffer.terminate (b : PathBuffer) : Option PathBuffer := do
  let path ← b.path
  let path ← Block.store path b.pathLen [0]
  some { b with path := some path }

section

-- What is in memory that `realloc` hands over.
variable (junk : Nat → UInt8)

def PathBuffer.realloc (b : PathBuffer) (n : Nat) : PathBuffer :=
  { b with path := some (Block.resize junk (b.path.getD []) n) }

variable (fmt : CText) (args : Nat → Option BXGeneric)

/-- `fmt` from `origin` up to `i`. -/
def segment (origin i : Nat) : List UInt8 := (fmt.bytes.drop origin).take (i - origin)

/-- The part of the format up to `i` is copied if there is one. -/
def PathBuffer.copySegment (b : PathBuffer) (origin i : Nat) : Option PathBuffer :=
  if origin < i then b.copy (segment fmt origin i) else some b

/-- The loop from `i` on, with the next argument. The path is NULL where an argument gives no text. -/
def itemToPathLoop : Nat → Nat → Nat → Nat → PathBuffer → Option (Option (Nat × PathBuffer))
  | 0, _, _, origin, b => some (some (origin, b))
  | left + 1, i, arg, origin, b =>
    if fmt.bytes[i]? = some 36 then
      match args arg with
      | none => some none
      | some item =>
        match bxObjectValueToString item with
        | none => some none
        | some str =>
          let strLen := (cString str).length
          if strLen = 0 then some none
          else do
            let b := b.realloc junk (b.pathLen + (i - origin) + strLen + 1)
            let b ← b.copySegment fmt origin i
            let b ← b.copy (str.take strLen)
            let b ← b.terminate
            itemToPathLoop left (i + 1) (arg + 1) (i + 1) b
    else itemToPathLoop left (i + 1) arg origin b

/-- What `_bx_item_to_path` does after the loop: the rest of the format is copied. -/
def finishPath : Option (Nat × PathBuffer) → Option (Option (List UInt8))
  | none => some none
  | some (origin, b) =>
    let i := fmt.bytes.length
    if origin < i then do
      let b := b.realloc junk (b.pathLen + (i - origin) + 1)
      let b ← b.copy (segment fmt origin i)
      let b ← b.terminate
      some b.path
    else some b.path

/-- `_bx_item_to_path`. -/
def bxItemToPath : Option (Option (List UInt8)) :=
  if fmt.bytes = [] then none
  else (itemToPathLoop junk fmt args fmt.bytes.length 0 0 0 { path := none, pathLen := 0 }).bind (finishPath junk fmt)

end

end BxSync
