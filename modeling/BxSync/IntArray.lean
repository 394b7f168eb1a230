import BxSync.ContactGroups

/-! The integer list parser of `bx_utils.c` on its memory: the buffer of a number, the cells of the array, and the
    indices of both. An access outside them ends the run. -/

namespace BxSync

/-- The size of the buffer: the digits of 64 bits and a NUL. -/
def intBufferSize : Nat := 21

/-- `realloc`. New cells are zero here; the caller stores to them before it reads them. -/
def reallocCells (cells : List Int64) (size : Nat) : List Int64 := cells.take size ++ List.replicate (size - cells.length) 0

/-- `strtoll` on a buffer. Without a NUL it reads on behind the buffer. -/
def strtollWithin (buffer : List UInt8) : Option Int64 := if 0 ∈ buffer then some (strtoll buffer) else none

/-- `*(array + i) = n`. -/
def storeCell (cells : List Int64) (i : Nat) (n : Int64) : Option (List Int64) :=
  if i < cells.length then some (cells.set i n) else none

/-- `_bx_utils_buffer_into_array`. The first cell counts the others. -/
def bufferIntoArray (array : Option (List Int64)) (buffer : List UInt8) : Option (List Int64) := do
  let n ← strtollWithin buffer
  let cells := match array with
    | none => List.replicate 2 0
    | some cells => reallocCells cells (cells.headD 0 + 2).toInt.toNat
  let count := cells.headD 0 + 1
  let cells ← storeCell cells 0 count
  storeCell cells count.toInt.toNat n

/-- The locals of the loop. -/
structure IntScan where
  buffer : List UInt8
  j : Nat
  array : Option (List Int64)
deriving DecidableEq, Repr

/-- `memset(buffer, 0, 21)`, and no digit is in it. -/
def IntScan.clear (array : Option (List Int64)) : IntScan := { buffer := List.replicate intBufferSize 0, j := 0, array }

/-- The body of the loop. -/
def IntScan.turn (s : IntScan) (c : UInt8) : Option IntScan :=
  if isDigit c then
    if 20 < s.j then some s
    else if s.j < s.buffer.length then some { s with buffer := s.buffer.set s.j c, j := s.j + 1 }
    else none
  else if s.j ≤ 0 then some s
  else (bufferIntoArray s.array s.buffer).map fun array => .clear array

/-- The loop. Its index is an int. -/
def IntScan.run : List UInt8 → Nat → IntScan → Option IntScan
  | [], _, s => some s
  | c :: rest, i, s => do
    let s ← s.turn c
    if i < intMax then IntScan.run rest (i + 1) s else none

/-- What follows the loop. -/
def IntScan.finish (s : IntScan) : Option (Option (List Int64)) :=
  if 0 < s.j then (bufferIntoArray s.array s.buffer).map some else some s.array

/-- `bx_int_string_array_to_int_array`, cell by cell: none when the run leaves its memory, `some none` for NULL. -/
def intStringArray (str : Option (List UInt8)) : Option (Option (List Int64)) :=
  match str with
  | none => some none
  | some str => do
    let s ← IntScan.run (cString str) 0 (.clear none)
    s.finish

end BxSync
