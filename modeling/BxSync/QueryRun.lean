import BxSync.Database

/-! The executions of a prepared query (`bx_database.c`): what `bx_database_execute` and `bx_database_results` leave in
    it, and the rows that are read out of it. The calls of the client library end as the answers say.

    Memory that cannot be allocated, and columns other than integers and texts, are left out. -/

namespace BxSync

/-! ### The client library -/

/-- How a call of the client library ends. An error is CR_SERVER_GONE_ERROR, CR_SERVER_LOST or CR_CONN_HOST_ERROR, or
    another one. -/
inductive Reply
  | ok
  | failed (lost : Bool)
deriving DecidableEq, Repr

/-- `mark_stmt_reconnect` and `mark_conn_reconnect`. -/
def Reply.lost : Reply → Bool
  | .ok => false
  | .failed lost => lost

/-- A column of a row of the server. -/
inductive Field
  | integer (value : Option Int)
  | text (bytes : Option (List UInt8))
deriving DecidableEq, Repr

/-- The answer to a SELECT. -/
structure Dataset where
  names : List (List UInt8)
  rows : List (List Field)
deriving DecidableEq, Repr

/-- What `mysql_stmt_result_metadata` returns. -/
inductive Metadata
  | dataset (data : Dataset)
  | none
  | failed (lost : Bool)
deriving DecidableEq, Repr

/-- What `SHOW WARNINGS` is answered with: the codes of the warnings, unless the request or its result fails. -/
inductive ShowWarnings
  | failed (lost : Bool)
  | codes (codes : List (Option Nat))
deriving DecidableEq, Repr

structure ExecuteAnswers where
  prepare : Reply
  bind : Reply
  execute : Reply
  affected : Nat
  metadata : Metadata
  warnings : Nat
  shown : ShowWarnings
deriving DecidableEq, Repr

/-- One turn of the loop of `bx_database_results`: `mysql_stmt_bind_result`, `mysql_stmt_fetch`, and for each text
    column whether `mysql_stmt_fetch_column` fails. -/
structure FetchAnswers where
  bind : Reply
  fetch : Reply
  columnFails : Nat → Bool

def FetchAnswers.reply (a : FetchAnswers) : Reply := if a.bind = .ok then a.fetch else a.bind

/-! ### The query -/

structure BXDatabaseColumn where
  column : Nat
  iValue : Int
  cValue : Option (List UInt8)
  isNull : Bool
deriving DecidableEq, Repr

structure BXDatabaseRow where
  id : Nat
  columns : List BXDatabaseColumn
deriving DecidableEq, Repr

/-- What the executions of a `BXDatabaseQuery` change. -/
structure QueryRun where
  executed : Bool
  hasDataset : Bool
  hasFailed : Bool
  needReconnect : Bool
  hadFkError : Bool
  affectedRows : Nat
  warningRows : Nat
  /-- The names of the columns. -/
  resultMetadata : Option (List (List UInt8))
  /-- The rows that the statement has still to fetch, none if no dataset is open. -/
  cursor : Option (List (List Field))
  fields : Option (List (List UInt8))
  results : List BXDatabaseRow
  rowCount : Nat
deriving DecidableEq, Repr

/-- `bx_database_new_query`. -/
def QueryRun.new : QueryRun where
  executed := false
  hasDataset := false
  hasFailed := false
  needReconnect := false
  hadFkError := false
  affectedRows := 0
  warningRows := 0
  resultMetadata := none
  cursor := none
  fields := none
  results := []
  rowCount := 0

namespace QueryRun

/-- `mark_stmt_reconnect`. The mark is never taken back. -/
def mark (q : QueryRun) (reply : Reply) : QueryRun := { q with needReconnect := q.needReconnect || reply.lost }

/-- `bx_database_free_result`. -/
def bxDatabaseFreeResult (q : QueryRun) : QueryRun := { q with results := [], fields := none }

/-- `free_query_metadata`. -/
def freeQueryMetadata (q : QueryRun) : QueryRun :=
  if q.resultMetadata = none then q else { q with resultMetadata := none, hasDataset := false }

/-- Codes of foreign keys: 1452, 1216 and 1451. -/
def foreignKeyCode (code : Option Nat) : Bool := code = some 1452 || code = some 1216 || code = some 1451

/-- `bx_database_print_warnings`. -/
def bxDatabasePrintWarnings (q : QueryRun) (shown : ShowWarnings) : QueryRun :=
  match shown with
  | .failed lost => q.mark (.failed lost)
  | .codes codes => { q with hadFkError := q.hadFkError || codes.any foreignKeyCode }

/-- The head of `bx_database_execute`: a statement that was executed is reset, another one is prepared. -/
def prepare (q : QueryRun) (a : ExecuteAnswers) : Bool × QueryRun :=
  if q.executed then (true, bxDatabaseFreeResult { q with cursor := none })
  else (a.prepare = .ok, q.mark a.prepare)

/-- The warnings of a statement that was executed. -/
def warn (q : QueryRun) (a : ExecuteAnswers) : Bool × QueryRun :=
  let q := { q with executed := true, warningRows := a.warnings, hadFkError := false }
  if 0 < a.warnings then
    let q := q.bxDatabasePrintWarnings a.shown
    (!q.needReconnect, q)
  else (true, q)

/-- `bx_database_execute`. -/
def bxDatabaseExecute (q : QueryRun) (a : ExecuteAnswers) : Bool × QueryRun :=
  let prepared := q.prepare a
  if !prepared.1 then (false, prepared.2)
  else if a.bind ≠ .ok then (false, prepared.2.mark a.bind)
  else if a.execute ≠ .ok then (false, { prepared.2.mark a.execute with hasFailed := true })
  else
    let q := { prepared.2 with hasFailed := false, affectedRows := a.affected, hasDataset := true }
    match a.metadata with
    | .dataset data => warn { q with resultMetadata := some data.names, cursor := some data.rows } a
    | .none => warn { q with resultMetadata := none, hasDataset := false } a
    | .failed lost => (false, { q.mark (.failed lost) with resultMetadata := none, hasFailed := true })

end QueryRun

/-! ### Rows -/

/-- The column of a row, after `mysql_stmt_fetch_column` if it is a text. -/
def fetchColumn (fails : Nat → Bool) (field : Field × Nat) : BXDatabaseColumn :=
  match field.1 with
  | .integer value => { column := field.2, iValue := value.getD 0, cValue := none, isNull := value.isNone }
  | .text bytes =>
    if fails field.2 then { column := field.2, iValue := 0, cValue := none, isNull := true }
    else { column := field.2, iValue := 0, cValue := some (bytes.getD []), isNull := bytes.isNone }

def fetchRow (fails : Nat → Bool) (id : Nat) (row : List Field) : BXDatabaseRow where
  id := id
  columns := row.zipIdx.map (fetchColumn fails)

/-- The loop of `bx_database_results` over the rows of the statement: how its last turn ends, and the rows it has read. -/
def fetchLoop (a : Nat → FetchAnswers) : List (List Field) → Nat → Reply × List BXDatabaseRow
  | [], turn => ((a turn).reply, [])
  | row :: rest, turn =>
    match (a turn).reply with
    | .ok =>
      let others := fetchLoop a rest (turn + 1)
      (others.1, fetchRow (a turn).columnFails turn row :: others.2)
    | .failed lost => (.failed lost, [])

/-- What the loop meets: a statement that was reset refuses a fetch. -/
def fetchCursor (a : Nat → FetchAnswers) (cursor : Option (List (List Field))) : Reply × List BXDatabaseRow :=
  match cursor with
  | some rows => fetchLoop a rows 0
  | none => (if (a 0).reply = .ok then .failed false else (a 0).reply, [])

namespace QueryRun

/-- `bx_database_results`. -/
def bxDatabaseResults (q : QueryRun) (a : Nat → FetchAnswers) : Bool × QueryRun :=
  if !q.hasDataset then (!q.hasFailed, q)
  else
    match q.resultMetadata with
    | none => (false, q)
    | some names =>
      if q.hasFailed then (false, q)
      else if names = [] then (false, q.freeQueryMetadata)
      else
        let fetched := fetchCursor a q.cursor
        let q := { q with fields := some (q.fields.getD names), results := q.results ++ fetched.2, cursor := none }
        match fetched.1 with
        | .ok => (true, { q with rowCount := fetched.2.length }.freeQueryMetadata)
        | .failed lost => (false, (q.mark (.failed lost)).freeQueryMetadata)

/-- Without a dataset there are no rows to read. -/
theorem results_of_noDataset {q : QueryRun} {a : Nat → FetchAnswers} (h : q.hasDataset = false) :
    q.bxDatabaseResults a = (!q.hasFailed, q) := by
  unfold bxDatabaseResults
  simp [h]

/-- `bx_database_persist_ok`. -/
def persistOk (q : QueryRun) : Bool := !q.hasFailed && !q.hadFkError && q.warningRows = 0

end QueryRun

/-! ### The calls on a query -/

inductive QueryInput
  | execute (answers : ExecuteAnswers)
  | results (answers : Nat → FetchAnswers)
  | freeResult

/-- A call, what it returned and what it left. `bx_database_free_result` returns nothing. -/
structure QueryCall where
  pre : QueryRun
  input : QueryInput
  ok : Bool
  post : QueryRun

def QueryRun.next (q : QueryRun) : QueryInput → Bool × QueryRun
  | .execute answers => q.bxDatabaseExecute answers
  | .results answers => q.bxDatabaseResults answers
  | .freeResult => (true, q.bxDatabaseFreeResult)

end BxSync
