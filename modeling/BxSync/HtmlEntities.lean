import BxSync.Base
import BxSync.HtmlTable
import BxSync.Lib.Block

/-! The replacement of HTML entities in the buffer of a string (`include/bx_html_entities.h`), and what it is for: the
    text with every entity of the table replaced, in one pass from left to right. -/

namespace BxSync

/-- A string: its buffer, if there is one, and its length. -/
structure BXString where
  value : Option (List UInt8)
  valueLen : Nat
deriving DecidableEq, Repr

/-- The buffer and the two indices of the loop. -/
structure ReplaceState where
  value : List UInt8
  i : Nat
  j : Nat
deriving DecidableEq, Repr

/-- `strncmp` of a literal and the rest of a buffer finds no difference in `n` bytes. It stops at a NUL, and a buffer
    that ends before is read past its end. -/
def strncmpEq : Nat → List UInt8 → List UInt8 → Option Bool
  | 0, _, _ => some true
  | _ + 1, _, [] => none
  | _ + 1, [], b :: _ => some (b = 0)
  | n + 1, a :: as, b :: bs => if a ≠ b then some false else if a = 0 then some true else strncmpEq n as bs

/-- The search for the entity at the read index. -/
def findEntity : List BXHtmlEntity → List UInt8 → Option (Option BXHtmlEntity)
  | [], _ => some none
  | e :: entries, rest =>
    match strncmpEq e.elen (cBytes e.entity) rest with
    | none => none
    | some true => some (some e)
    | some false => findEntity entries rest

/-- The indices are ints: one that would pass `INT_MAX` overflows. -/
def replaceStateAt (value : List UInt8) (i j : Nat) : Option ReplaceState :=
  if i ≤ intMax ∧ j ≤ intMax then some { value, i, j } else none

/-- `str->value[j++] = str->value[i++]`. -/
def ReplaceState.copyByte (t : ReplaceState) : Option ReplaceState :=
  match t.value[t.i]? with
  | none => none
  | some c => if t.j < t.value.length then replaceStateAt (t.value.set t.j c) (t.i + 1) (t.j + 1) else none

/-- The `memset` and the `memcpy` of an entity. -/
def ReplaceState.putEntity (t : ReplaceState) (e : BXHtmlEntity) : Option ReplaceState :=
  if t.j + e.elen ≤ t.value.length ∧ t.j + e.ulen ≤ t.value.length then
    let cleared := Block.fill t.value t.j e.elen 0
    replaceStateAt (Block.write cleared t.j ((cBytes e.utf8).take e.ulen)) (t.i + e.elen) (t.j + e.ulen)
  else none

section

variable (table : HtmlTable)

/-- The condition of the loop. -/
def ReplaceState.running (valueLen : Nat) (t : ReplaceState) : Bool := t.i < valueLen && t.value[t.i]? ≠ some 0

/-- One turn of the loop. A write or a read outside the buffer, or an overflow, is none. -/
def ReplaceState.turn (t : ReplaceState) : Option ReplaceState :=
  if t.value[t.i]? ≠ some 38 then t.copyByte
  else
    match findEntity table.entries (t.value.drop t.i) with
    | none => none
    | some (some e) => t.putEntity e
    | some none => t.copyByte

/-- The loop. Each turn reads a byte or more, so the length of the string bounds the turns. -/
def replaceLoop (valueLen : Nat) : Nat → ReplaceState → Option ReplaceState
  | 0, t => if t.running valueLen then none else some t
  | turns + 1, t =>
    if t.running valueLen then
      match t.turn table with
      | none => none
      | some next => replaceLoop valueLen turns next
    else some t

/-- `bx_html_entities_replaces`. A write index past the length makes the count of the last `memset` wrap around. -/
def bxHtmlEntitiesReplaces (str : BXString) : Option BXString :=
  match str.value with
  | none => some str
  | some value =>
    if str.valueLen = 0 then some str
    else
      match replaceLoop table str.valueLen str.valueLen { value, i := 0, j := 0 } with
      | none => none
      | some t =>
        if t.j ≤ str.valueLen then
          some { value := some (Block.fill t.value t.j (str.valueLen - t.j) 0), valueLen := t.j }
        else none

/-! ### The replacement of the entities of a text -/

inductive Piece
  | byte (c : UInt8)
  | entity (e : BXHtmlEntity)
deriving DecidableEq, Repr

/-- The entity a text starts with. -/
def HtmlTable.entityAt (s : List UInt8) : Option BXHtmlEntity :=
  table.entries.find? fun e => (cBytes e.entity).isPrefixOf s

/-- The pieces of a text after the bytes to skip: from left to right, an entity of the table or a byte where none
    starts. -/
def piecesFrom : Nat → List UInt8 → List Piece
  | _, [] => []
  | skip + 1, _ :: s => piecesFrom skip s
  | 0, c :: s =>
    match table.entityAt (c :: s) with
    | some e => .entity e :: piecesFrom (e.elen - 1) s
    | none => .byte c :: piecesFrom 0 s

def pieces (s : List UInt8) : List Piece := piecesFrom table 0 s

/-- What a piece stands for. -/
def Piece.decoded : Piece → List UInt8
  | .byte c => [c]
  | .entity e => cBytes e.utf8

/-- The bytes a piece is written with. -/
def Piece.written : Piece → List UInt8
  | .byte c => [c]
  | .entity e => cBytes e.entity

/-- The text with its entities replaced. -/
def decodeHtml (s : List UInt8) : List UInt8 := (pieces table s).flatMap Piece.decoded

end

end BxSync
