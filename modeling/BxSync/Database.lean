import Mathlib.Data.List.AList
import BxSync.Base

/-! The tables the sync writes, and what a statement does to them (`bx_database.c`, `database.sql`).

    A statement meets the server and the connection as its `Exec` says. The rest follows from the tables:
    INSERT IGNORE on a known key writes nothing and warns, UPDATE of an unknown key touches nothing, and a
    deleted row takes the rows that reference it with ON DELETE CASCADE along. -/

namespace BxSync

/-- A table by its primary key. -/
abbrev Table (κ α : Type) := AList fun _ : κ => α

structure ContactRow where
  checksum : Nat
  archived : Bool
deriving DecidableEq, Repr

structure ProjectRow where
  checksum : Nat
  contactId : Option Nat
deriving DecidableEq, Repr

structure InvoiceRow where
  checksum : Nat
  contactId : Option Nat
  projectId : Option Nat
deriving DecidableEq, Repr

/-- Positions are keyed by their id and the id of their invoice, and hold their checksum. A `cg2c` row is a
    group and a contact. -/
structure Database where
  contact : Table Nat ContactRow
  cg2c : Table (Nat × Nat) Unit
  project : Table Nat ProjectRow
  invoice : Table Nat InvoiceRow
  invoicePosition : Table (Nat × Nat) Nat
  file : Table Nat Nat

def Database.empty : Database where
  contact := ∅
  cg2c := ∅
  project := ∅
  invoice := ∅
  invoicePosition := ∅
  file := ∅

/-! ### Statements -/

/-- How a statement meets the server. `fkError` says that a row of a table outside `Database` stands in its
    way, `converted` that a value is changed to fit its column. -/
inductive Exec
  /-- It never ran. -/
  | unsent (needReconnect : Bool)
  /-- It ran and its reply arrived. -/
  | ran (fkError converted : Bool)
  /-- It ran, and `bx_database_execute` or `bx_database_results` still returned false: the connection was
      lost with the reply or while SHOW WARNINGS was read. -/
  | unreported (fkError converted needReconnect : Bool)
deriving DecidableEq, Repr

/-- How a SELECT meets the server. -/
inductive Query
  | failed (needReconnect : Bool)
  | answered
deriving DecidableEq, Repr

/-- What the caller of a statement learns. -/
inductive Stmt
  | failed (needReconnect : Bool)
  | done (warned : Bool)
deriving DecidableEq, Repr

/-- The connection survives the statement. -/
def Exec.keepsConnection : Exec → Bool
  | .unsent needReconnect => !needReconnect
  | .ran _ _ => true
  | .unreported _ _ needReconnect => !needReconnect

def Query.keepsConnection : Query → Bool
  | .failed needReconnect => !needReconnect
  | .answered => true

/-- `bx_database_persist_ok`: no failure and no warning. -/
def bxDatabasePersistOk : Stmt → Bool
  | .done false => true
  | _ => false

variable {κ α τ : Type}

/-- Runs the effect of a statement on a table. An effect without a warning count is an error reply. -/
def Exec.run (exec : Exec) (table : τ) (effect : Bool → Bool → Option Bool × τ) : Stmt × τ :=
  match exec with
  | .unsent needReconnect => (.failed needReconnect, table)
  | .ran fkError converted =>
    match effect fkError converted with
    | (some warned, table') => (.done warned, table')
    | (none, table') => (.failed false, table')
  | .unreported fkError converted needReconnect => (.failed needReconnect, (effect fkError converted).2)

/-- A statement that keeps the connection does not ask for a new one. -/
theorem Exec.run_keepsConnection {exec : Exec} (h : exec.keepsConnection) (table : τ)
    (effect : Bool → Bool → Option Bool × τ) : (exec.run table effect).1 ≠ .failed true := by
  cases exec with
  | unsent needReconnect =>
    cases needReconnect
    · simp [Exec.run]
    · exact absurd h (by simp [Exec.keepsConnection])
  | ran fkError converted =>
    unfold Exec.run
    dsimp only
    split <;> simp
  | unreported fkError converted needReconnect =>
    cases needReconnect
    · simp [Exec.run]
    · exact absurd h (by simp [Exec.keepsConnection])

theorem Exec.run_ran {fkError converted warned : Bool} {table : τ} {effect : Bool → Bool → Option Bool × τ}
    (h : (effect fkError converted).1 = some warned) :
    ((Exec.ran fkError converted).run table effect).1 = .done warned := by
  unfold Exec.run
  dsimp only
  split
  · rename_i heq
    rw [heq] at h
    rw [Option.some.inj h]
  · rename_i heq
    rw [heq] at h
    exact nomatch h

/-- A statement that is done ran, and its effect is in the table. -/
theorem Exec.run_done {exec : Exec} {table : τ} {effect : Bool → Bool → Option Bool × τ} {warned : Bool}
    (h : (exec.run table effect).1 = .done warned) :
    ∃ fkError converted, effect fkError converted = (some warned, (exec.run table effect).2) := by
  cases exec with
  | unsent => exact nomatch h
  | unreported => exact nomatch h
  | ran fkError converted =>
    refine ⟨fkError, converted, ?_⟩
    unfold Exec.run at h ⊢
    dsimp only at h ⊢
    split at h
    · rename_i heq
      rw [heq, Stmt.done.inj h]
    · exact nomatch h

/-- What holds of a table and of every effect on it holds after a statement. -/
theorem Exec.run_table (exec : Exec) {table : τ} {effect : Bool → Bool → Option Bool × τ} {Q : τ → Prop}
    (htable : Q table) (heffect : ∀ fk cv, Q (effect fk cv).2) : Q (exec.run table effect).2 := by
  cases exec with
  | unsent => exact htable
  | unreported fk cv _ => exact heffect fk cv
  | ran fk cv =>
    have := heffect fk cv
    unfold Exec.run
    dsimp only
    split
    · rename_i heq
      rwa [heq] at this
    · rename_i heq
      rwa [heq] at this

namespace Table

variable [DecidableEq κ]

/-- INSERT IGNORE drops the row with a warning when its key is known or a foreign key is missing. -/
def insertIgnore (t : Table κ α) (key : κ) (row : α) (fkError converted : Bool) : Option Bool × Table κ α :=
  if (t.lookup key).isSome ∨ fkError then (some true, t) else (some converted, t.insert key row)

/-- INSERT is refused when its key is known or a foreign key is missing. -/
def insertRow (t : Table κ α) (key : κ) (row : α) (fkError converted : Bool) : Option Bool × Table κ α :=
  if (t.lookup key).isSome ∨ fkError then (none, t) else (some converted, t.insert key row)

/-- UPDATE touches the row of its key. Without one there is nothing to check or to convert. -/
def update (t : Table κ α) (key : Option κ) (row : α) (fkError converted : Bool) : Option Bool × Table κ α :=
  match key with
  | none => (some false, t)
  | some k =>
    if (t.lookup k).isSome then if fkError then (none, t) else (some converted, t.insert k row)
    else (some false, t)

/-- Removes the rows of a list of keys. -/
def eraseAll (t : Table κ α) (keys : List κ) : Table κ α := keys.foldl (fun t k => t.erase k) t

/-- Removes the rows that satisfy a predicate. -/
def eraseWhere (t : Table κ α) (p : κ → α → Bool) : Table κ α :=
  t.eraseAll ((t.entries.filter fun e => p e.1 e.2).map Sigma.fst)

theorem insertIgnore_done (t : Table κ α) (key : κ) (row : α) (fkError converted : Bool) :
    ∃ warned, (t.insertIgnore key row fkError converted).1 = some warned := by
  unfold insertIgnore
  split_ifs
  · exact ⟨_, rfl⟩
  · exact ⟨_, rfl⟩

theorem update_done (t : Table κ α) (key : Option κ) (row : α) (converted : Bool) :
    ∃ warned, (t.update key row false converted).1 = some warned := by
  unfold update
  cases key with
  | none => exact ⟨_, rfl⟩
  | some k =>
    by_cases hk : (t.lookup k).isSome
    · exact ⟨converted, by simp [hk]⟩
    · exact ⟨false, by simp [hk]⟩

theorem lookup_insert_eq (t : Table κ α) (key k : κ) (row : α) :
    (t.insert key row).lookup k = if k = key then some row else t.lookup k := by
  split
  · subst_vars
    exact AList.lookup_insert t
  · rename_i h
    exact AList.lookup_insert_ne h

theorem isSome_lookup_erase (t : Table κ α) (key k : κ) :
    ((t.erase key).lookup k).isSome ↔ (t.lookup k).isSome ∧ k ≠ key := by
  by_cases hk : k = key
  · subst hk
    simp
  · rw [AList.lookup_erase_ne hk]
    simp [hk]

theorem lookup_eraseAll (t : Table κ α) (keys : List κ) (k : κ) :
    (t.eraseAll keys).lookup k = if k ∈ keys then none else t.lookup k := by
  induction keys generalizing t with
  | nil => simp [eraseAll]
  | cons key keys ih =>
    have hcons : t.eraseAll (key :: keys) = Table.eraseAll (t.erase key) keys := rfl
    rw [hcons, ih]
    by_cases hk : k ∈ keys
    · simp [hk]
    · by_cases hkey : k = key
      · subst hkey
        simp
      · simp [hk, hkey, AList.lookup_erase_ne hkey]

theorem lookup_eraseWhere (t : Table κ α) (p : κ → α → Bool) (k : κ) :
    (t.eraseWhere p).lookup k = (t.lookup k).filter fun a => !p k a := by
  have hgone : k ∈ (t.entries.filter fun e => p e.1 e.2).map Sigma.fst ↔ ∃ a, t.lookup k = some a ∧ p k a := by
    simp only [List.mem_map, List.mem_filter, AList.mem_lookup_iff.symm, Option.mem_def, Sigma.exists]
    exact ⟨fun ⟨_, a, ⟨ha, hp⟩, hk⟩ => hk ▸ ⟨a, ha, hp⟩, fun ⟨a, ha, hp⟩ => ⟨k, a, ⟨ha, hp⟩, rfl⟩⟩
  unfold eraseWhere
  rw [lookup_eraseAll]
  cases hk : t.lookup k with
  | none => simp
  | some a =>
    have hpa : k ∈ (t.entries.filter fun e => p e.1 e.2).map Sigma.fst ↔ p k a := by
      rw [hgone, hk]
      simp
    by_cases hp : p k a
    · rw [if_pos (hpa.mpr hp), Option.filter_some, hp]
      rfl
    · rw [if_neg (hpa.not.mpr hp), Option.filter_some, Bool.eq_false_iff.mpr hp]
      rfl

end Table

/-- The key of an INSERT IGNORE whose id is NULL is 0, with a warning. -/
def insertIgnoreId (t : Table Nat α) (id : Option Nat) (row : α) (fkError converted : Bool) :
    Option Bool × Table Nat α :=
  t.insertIgnore (id.getD 0) row fkError (converted || id.isNone)

/-! ### Deletes -/

/-- DELETE FROM contact. Its references restrict it, and the answer says whether one stands. -/
def Database.deleteContact (db : Database) (id : Nat) (fkError _converted : Bool) : Option Bool × Database :=
  if fkError then (none, db) else (some false, { db with contact := db.contact.erase id })

/-- DELETE FROM invoice takes its positions along. -/
def Database.deleteInvoice (db : Database) (id : Nat) (fkError _converted : Bool) : Option Bool × Database :=
  if fkError then (none, db)
  else
    (some false,
      { db with
        invoice := db.invoice.erase id
        invoicePosition := Table.eraseWhere db.invoicePosition fun key _ => key.2 = id })

/-- DELETE FROM pr_project takes its invoices along, and their positions. -/
def Database.deleteProject (db : Database) (id : Nat) (fkError _converted : Bool) : Option Bool × Database :=
  if fkError then (none, db)
  else
    let gone := (db.invoice.entries.filter fun e => e.2.projectId = some id).map Sigma.fst
    (some false,
      { db with
        project := db.project.erase id
        invoice := Table.eraseAll db.invoice gone
        invoicePosition := Table.eraseWhere db.invoicePosition fun key _ => key.2 ∈ gone })

def Database.deleteFile (db : Database) (id : Nat) (fkError _converted : Bool) : Option Bool × Database :=
  if fkError then (none, db) else (some false, { db with file := db.file.erase id })

end BxSync
