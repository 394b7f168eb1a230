import BxSync.Base
import BxSync.Json
import BxSync.Lib.Block

/-! A statement with named parameters, as `bx_database_new_query` makes it (`bx_database.c`): the parameters are counted,
    then each of them is taken out and becomes a `?` in place.

    A text that is given ends at its first NUL. Allocations succeed. -/

namespace BxSync

/-- `BX_DATABASE_PARAMETER_MAX_NAME_LENGTH`, the size of the buffer of a name. -/
def maxNameLength : Nat := 30

def isVariableChar (c : UInt8) : Bool :=
  (48 ≤ c && c ≤ 57) || (97 ≤ c && c ≤ 122) || (65 ≤ c && c ≤ 90) || c = 95

/-- What a parameter is bound to. -/
inductive BoundValue
  | null
  | tiny (value : Bool)
  | longlong (bits : UInt64) (isUnsigned : Bool)
  | double (bits : UInt64)
  | string (bytes : List UInt8)
  | blob (bytes : List UInt8)
deriving DecidableEq, Repr

/-- A parameter: the buffer of its name, which begins with the colon, and the value, once one was added. -/
structure BXDatabaseParameter where
  name : List UInt8
  nameLength : Nat
  value : Option BoundValue
deriving DecidableEq, Repr

structure BXDatabaseQuery where
  query : List UInt8
  paramCount : Nat
  parameters : List BXDatabaseParameter
deriving DecidableEq, Repr

/-! ### Counting -/

/-- `BX_DB_STATE_COLON` and `BX_DB_STATE_VARNAME`, and the parameters so far. -/
structure CountState where
  colon : Bool
  varname : Bool
  count : Nat
deriving DecidableEq, Repr

def CountState.turn (s : CountState) (c : UInt8) : CountState :=
  let s := if s.colon && isVariableChar c then { s with varname := true } else s
  let s := if s.varname && isVariableChar c then { colon := false, varname := false, count := s.count + 1 } else s
  let s := if s.colon && !isVariableChar c then { s with colon := false, varname := false } else s
  if c = 58 then { s with colon := true } else s

def countParameters (query : List UInt8) : Nat := (query.foldl CountState.turn ⟨false, false, 0⟩).count

/-! ### Taking out -/

/-- The buffer of the query, the indices of the loop, and the parameters that were filled. -/
structure TakeState where
  query : List UInt8
  i : Nat
  j : Nat
  parameters : List BXDatabaseParameter
deriving DecidableEq, Repr

/-- The `memcpy` of a name, and the NUL, which is set one byte further than where the name ends. A write outside the
    buffer is none. -/
def putName (name : List UInt8) : Option (List UInt8) :=
  if maxNameLength < name.length ∨ maxNameLength ≤ name.length + 1 then none
  else some ((Block.write (List.replicate maxNameLength 0) 0 name).set (name.length + 1) 0)

/-- One turn of the loop. A write outside a buffer is none. -/
def TakeState.turn (paramCount : Nat) (t : TakeState) : Option TakeState :=
  match t.query[t.i]? with
  | none => none
  | some c =>
    if t.query.length ≤ t.j then none
    else
      let query := t.query.set t.j c
      if c = 58 && query[t.i + 1]?.any isVariableChar then
        let name := c :: (query.drop (t.i + 1)).takeWhile isVariableChar
        if paramCount ≤ t.parameters.length then none
        else
          match putName name with
          | none => none
          | some buffer =>
            some {
              query := query.set t.j 63
              i := t.i + name.length
              j := t.j + 1
              parameters := t.parameters ++ [{ name := buffer, nameLength := name.length, value := none }] }
      else some { t with query, i := t.i + 1, j := t.j + 1 }

/-- The loop. Each turn reads a byte or more, so the length of the query bounds the turns. -/
def takeLoop (paramCount : Nat) : Nat → TakeState → Option TakeState
  | 0, t => if t.i < t.query.length then none else some t
  | turns + 1, t =>
    if t.i < t.query.length then
      match t.turn paramCount with
      | none => none
      | some next => takeLoop paramCount turns next
    else some t

/-- `bx_database_new_query`. An empty text has no query. The index of the loops is an int: over a query that is longer it
    overflows. -/
def bxDatabaseNewQuery (text : List UInt8) : Option (Option BXDatabaseQuery) :=
  let query := cString text ++ [0]
  if query.length ≤ 1 then some none
  else if intMax < query.length then none
  else
    let paramCount := countParameters query
    match takeLoop paramCount query.length { query, i := 0, j := 0, parameters := [] } with
    | none => none
    | some t =>
      some (some {
        query := if t.j < query.length then t.query.set t.j 0 else t.query
        paramCount
        parameters := t.parameters })

/-! ### The parameters of a text -/

inductive SqlPiece
  | byte (c : UInt8)
  /-- The name begins with its colon. -/
  | param (name : List UInt8)
deriving DecidableEq, Repr

/-- A text goes on with a name. -/
def startsName (s : List UInt8) : Bool := s.head?.any isVariableChar

/-- The pieces of a text after the bytes to skip: a colon and the name behind it, as far as it goes, or a byte. -/
def sqlPiecesFrom : Nat → List UInt8 → List SqlPiece
  | _, [] => []
  | skip + 1, _ :: s => sqlPiecesFrom skip s
  | 0, c :: s =>
    if c = 58 && startsName s then
      .param (c :: s.takeWhile isVariableChar) :: sqlPiecesFrom (s.takeWhile isVariableChar).length s
    else .byte c :: sqlPiecesFrom 0 s

def sqlPieces (s : List UInt8) : List SqlPiece := sqlPiecesFrom 0 s

/-- The bytes a piece is written with. -/
def SqlPiece.written : SqlPiece → List UInt8
  | .byte c => [c]
  | .param name => name

/-- The bytes it is sent with. -/
def SqlPiece.sent : SqlPiece → List UInt8
  | .byte c => [c]
  | .param _ => [63]

def SqlPiece.name : SqlPiece → Option (List UInt8)
  | .byte _ => none
  | .param name => some name

/-- The text with a question mark for each parameter. -/
def sentText (s : List UInt8) : List UInt8 := (sqlPieces s).flatMap SqlPiece.sent

/-- The names of the parameters in the order they appear, with their colons. -/
def parameterNames (s : List UInt8) : List (List UInt8) := (sqlPieces s).filterMap SqlPiece.name

end BxSync
