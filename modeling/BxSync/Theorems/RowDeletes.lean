import BxSync.Theorems.RowStatements

/-! Deleting a row by its id: the rows that go with it, and the rows that keep it. -/

namespace BxSync

open Sql (Name Write bytes)

section

variable {tables : SqlTables} {table : Name} {keys : List (Name × SqlValue)}

/-! ### Rows that go -/

/-- The rows that go with those of a condition. -/
abbrev goneRows (tables : SqlTables) (table : Name) (keys : List (Name × SqlValue)) : Name → SqlRow → Bool :=
  syncSchema.gone sameInteger .null tables table keys

theorem goneRows_of_ne {t : Name} (hinvoice : t ≠ bytes "invoice") (hposition : t ≠ bytes "invoice_position") (row : SqlRow) :
    goneRows tables table keys t row = (decide (t = table) && Sql.meets sameInteger keys row) := by
  simp only [goneRows, Sql.Schema.gone, syncSchema, List.foldl, projectContact, invoiceContact, invoiceProject, positionInvoice,
    decide_eq_false hinvoice, decide_eq_false hposition, Bool.and_false, Bool.false_and, Bool.or_false]

theorem goneRows_invoice (row : SqlRow) : goneRows tables table keys (bytes "invoice") row =
    (decide (bytes "invoice" = table) && Sql.meets sameInteger keys row ||
      (tables (bytes "pr_project")).any fun p => goneRows tables table keys (bytes "pr_project") p &&
        invoiceProject.names sameInteger .null row p) := by
  have hne : bytes "invoice" ≠ bytes "invoice_position" := by decide
  have hproject : ∀ p, goneRows tables table keys (bytes "pr_project") p =
      (decide (bytes "pr_project" = table) && Sql.meets sameInteger keys p) := goneRows_of_ne (by decide) (by decide)
  simp only [hproject]
  simp only [goneRows, Sql.Schema.gone, syncSchema, List.foldl, projectContact, invoiceContact, invoiceProject, positionInvoice,
    decide_eq_false hne, Bool.and_false, Bool.false_and, Bool.or_false, decide_true, Bool.true_and]

theorem goneRows_position (row : SqlRow) : goneRows tables table keys (bytes "invoice_position") row =
    (decide (bytes "invoice_position" = table) && Sql.meets sameInteger keys row ||
      (tables (bytes "invoice")).any fun i => goneRows tables table keys (bytes "invoice") i &&
        positionInvoice.names sameInteger .null row i) := by
  have hne : bytes "invoice_position" ≠ bytes "invoice" := by decide
  have hproject : ∀ p, goneRows tables table keys (bytes "pr_project") p =
      (decide (bytes "pr_project" = table) && Sql.meets sameInteger keys p) := goneRows_of_ne (by decide) (by decide)
  simp only [goneRows_invoice, hproject]
  simp only [goneRows, Sql.Schema.gone, syncSchema, List.foldl, projectContact, invoiceContact, invoiceProject, positionInvoice,
    decide_eq_false hne, Bool.and_false, Bool.false_and, Bool.or_false, decide_true, Bool.true_and]

end

/-! ### A table whose rows take none along -/

section

variable {tables : SqlTables} {table : Name} {keys : List (Name × SqlValue)} (hproject : table ≠ bytes "pr_project")
include hproject

theorem goneRows_leaf (hinvoice : table ≠ bytes "invoice") (t : Name) (row : SqlRow) :
    goneRows tables table keys t row = (decide (t = table) && Sql.meets sameInteger keys row) := by
  have hprojects : ∀ p, goneRows tables table keys (bytes "pr_project") p = false := fun p => by
    rw [goneRows_of_ne (by decide) (by decide), decide_eq_false hproject.symm, Bool.false_and]
  have hinvoices : ∀ i, goneRows tables table keys (bytes "invoice") i = false := fun i => by
    rw [goneRows_invoice, decide_eq_false hinvoice.symm, Bool.false_and, Bool.false_or, List.any_eq_false]
    intro p _
    rw [hprojects p, Bool.false_and]
    exact Bool.false_ne_true
  by_cases ht : t = bytes "invoice"
  · rw [ht, hinvoices, decide_eq_false hinvoice.symm, Bool.false_and]
  by_cases ht' : t = bytes "invoice_position"
  · rw [ht', goneRows_position, Bool.or_eq_left_iff_imp.mpr]
    intro hany
    obtain ⟨i, -, hi⟩ := List.any_eq_true.mp hany
    rw [hinvoices i, Bool.false_and] at hi
    exact absurd hi Bool.false_ne_true
  · exact goneRows_of_ne ht ht' row

omit hproject

/-- Only a contact is kept, by projects and by invoices. -/
theorem kept_eq (gone : Name → SqlRow → Bool) : syncSchema.kept sameInteger .null tables gone =
    (((tables (bytes "contact")).any fun p => gone (bytes "contact") p &&
      (tables (bytes "pr_project")).any fun row => projectContact.names sameInteger .null row p) ||
      (tables (bytes "contact")).any fun p => gone (bytes "contact") p &&
        (tables (bytes "invoice")).any fun row => invoiceContact.names sameInteger .null row p) := by
  rw [Sql.Schema.kept, syncSchema, List.any_cons, List.any_cons, List.any_cons, List.any_cons, List.any_nil]
  simp only [projectContact, invoiceContact, invoiceProject, positionInvoice, Bool.not_true, Bool.not_false, Bool.true_and,
    Bool.false_and, Bool.or_false]

theorem kept_eq_false (hcontact : table ≠ bytes "contact") :
    syncSchema.kept sameInteger .null tables (goneRows tables table keys) = false := by
  have hcontacts : ∀ p, goneRows tables table keys (bytes "contact") p = false := fun p => by
    rw [goneRows_of_ne (by decide) (by decide), decide_eq_false hcontact.symm, Bool.false_and]
  simp [kept_eq, hcontacts]

end

/-- The rows of tables that no row goes with stay. -/
theorem keeps_other {tables : SqlTables} {table : Name} {keys : List (Name × SqlValue)} {t : Name} (hinvoice : t ≠ bytes "invoice")
    (hposition : t ≠ bytes "invoice_position") (ht : t ≠ table) : ∀ row ∈ tables t, (!goneRows tables table keys t row) = true := by
  intro row _
  rw [goneRows_of_ne hinvoice hposition, decide_eq_false ht]
  rfl

/-! ### Rows that are named -/

theorem meets_id {row : SqlRow} (hrow : ∃ m : Nat, row (bytes "id") = .integer m) (n : Nat) :
    Sql.meets sameInteger [(bytes "id", .integer n)] row = decide (rowId row = n) := by
  rw [Sql.meets, List.all_cons, List.all_nil, Bool.and_true]
  exact sameInteger_id hrow n

section

variable {r : Sql.Reference SqlValue} (htarget : r.target = bytes "id") {row p : SqlRow} {id : Option Nat}
  (hrow : row r.column = sentId id) (hp : ∃ n : Nat, p (bytes "id") = .integer n)
include htarget hrow hp

theorem names_eq (hnull : r.nullAs = none) : r.names sameInteger .null row p = decide (id = some (rowId p)) := by
  rw [Sql.Reference.names, Sql.Reference.named, hrow, htarget]
  cases id with
  | none =>
    rw [sentId, Option.elim_none, if_pos rfl, hnull]
    rfl
  | some n =>
    rw [sentId, Option.elim_some, if_neg SqlValue.noConfusion, Option.any_some, sameInteger_id hp, decide_eq_decide,
      Option.some_inj]
    exact eq_comm

/-- Where NULL is taken for 0. -/
theorem names_zero (hnull : r.nullAs = some (.integer 0)) : r.names sameInteger .null row p = decide (id.getD 0 = rowId p) := by
  rw [Sql.Reference.names, Sql.Reference.named, hrow, htarget]
  cases id with
  | none =>
    rw [sentId, Option.elim_none, if_pos rfl, hnull, Option.any_some, Option.getD_none]
    refine (sameInteger_id hp 0).trans ?_
    rw [decide_eq_decide]
    exact eq_comm
  | some n =>
    rw [sentId, Option.elim_some, if_neg SqlValue.noConfusion, Option.any_some, sameInteger_id hp, decide_eq_decide]
    exact eq_comm

end

/-! ### What is left -/

section

variable {κ α : Type} {key : SqlRow → κ} {view : SqlRow → α} {rows : List SqlRow} {keep : SqlRow → Bool}

theorem mapOf_kept {f : κ → Option α} (h : MapOf key view rows f) (hkeep : ∀ row ∈ rows, keep row = true) :
    MapOf key view (rows.filter keep) f := by
  rw [List.filter_eq_self.mpr hkeep]
  exact h

variable [DecidableEq κ] {t : Table κ α} (h : MapOf key view rows t.lookup)
include h

theorem mapOf_erase {k : κ} (hkeep : ∀ row ∈ rows, keep row = !decide (key row = k)) :
    MapOf key view (rows.filter keep) (AList.erase k t).lookup := by
  refine (h.filter (q := fun k' _ => !decide (k' = k)) hkeep).congr fun k' => ?_
  by_cases hk : k' = k
  · rw [hk, AList.lookup_erase]
    simp
  · rw [AList.lookup_erase_ne hk, decide_eq_false hk]
    cases AList.lookup k' t with
    | none => rfl
    | some a => rfl

theorem mapOf_eraseWhere {p : κ → α → Bool} (hkeep : ∀ row ∈ rows, keep row = !p (key row) (view row)) :
    MapOf key view (rows.filter keep) (t.eraseWhere p).lookup :=
  (h.filter (q := fun k a => !p k a) hkeep).congr fun _ => t.lookup_eraseWhere p _

end

section

variable {κ α : Type} [DecidableEq κ] {key : SqlRow → κ} {view : SqlRow → α} {rows : List SqlRow} {t : Table κ α}

theorem lookup_entry (t : Table κ α) (q : κ → α → Prop) : (∃ e ∈ t.entries, q e.1 e.2) ↔ ∃ k a, t.lookup k = some a ∧ q k a := by
  constructor
  · rintro ⟨⟨k, a⟩, he, hq⟩
    exact ⟨k, a, AList.mem_lookup_iff.mpr he, hq⟩
  · rintro ⟨k, a, ha, hq⟩
    exact ⟨⟨k, a⟩, AList.mem_lookup_iff.mp ha, hq⟩

/-- What some row has, some entry has. -/
theorem mapOf_any (h : MapOf key view rows t.lookup) (q : α → Bool) :
    rows.any (fun r => q (view r)) = t.entries.any fun e => q e.2 := by
  rw [Bool.eq_iff_iff, List.any_eq_true, List.any_eq_true, lookup_entry t fun _ a => q a = true]
  constructor
  · rintro ⟨r, hr, hq⟩
    exact ⟨key r, view r, h.get hr, hq⟩
  · rintro ⟨k, a, ha, hq⟩
    obtain ⟨r, hr, -, rfl⟩ := (h.holds k a).mp ha
    exact ⟨r, hr, hq⟩

end

/-! ### Deletes -/

section

variable {tables : SqlTables} {table : Name} {keys : List (Name × SqlValue)}

theorem schema_delete (fk cv : Bool) : syncSchema.run sameInteger .null tables fk cv (.delete table keys) =
    if fk || syncSchema.kept sameInteger .null tables (goneRows tables table keys) then (none, tables)
    else (some false, fun t => (tables t).filter fun row => !goneRows tables table keys t row) := rfl

/-- No row is added. -/
theorem mem_of_schema_delete (exec : Exec) {t : Name} {row : SqlRow}
    (hrow : row ∈ (exec.run tables fun fk cv => syncSchema.run sameInteger .null tables fk cv (.delete table keys)).2 t) :
    row ∈ tables t := by
  revert hrow
  refine exec.run_table (Q := fun tables' : SqlTables => row ∈ tables' t → row ∈ tables t) id fun fk cv => ?_
  rw [schema_delete]
  split
  · exact id
  · exact fun hrow => (List.mem_filter.mp hrow).1

/-- Only rows of the table itself are taken out. -/
theorem schema_delete_leaf (hproject : table ≠ bytes "pr_project") (hinvoice : table ≠ bytes "invoice") (fk cv : Bool) :
    syncSchema.run sameInteger .null tables fk cv (.delete table keys) =
      if fk || syncSchema.kept sameInteger .null tables (goneRows tables table keys) then (none, tables)
      else (some false, Function.update tables table ((tables table).filter fun row => !Sql.meets sameInteger keys row)) := by
  have hleft : (fun t => (tables t).filter fun row => !goneRows tables table keys t row) =
      Function.update tables table ((tables table).filter fun row => !Sql.meets sameInteger keys row) := by
    funext t
    simp only [goneRows_leaf hproject hinvoice]
    by_cases ht : t = table
    · rw [ht, Function.update_self]
      simp
    · rw [Function.update_of_ne ht, decide_eq_false ht]
      simp
  rw [schema_delete, hleft]

end

/-! ### The DELETE of a resource -/

def Pruned.name (resource : Pruned) : Name := asciiBytes resource.table

theorem pruneSql_eq (resource : Pruned) (tables : SqlTables) (id : UInt64) (exec : Exec) : pruneSql resource.table tables id exec =
    some (exec.run tables fun fk cv =>
      syncSchema.run sameInteger .null tables fk cv (.delete resource.name [(bytes "id", .integer id.toNat)])) := by
  have htext : FixedText (sqlText ["DELETE FROM ", resource.table, " WHERE id = :id"]) [bytes "id"]
      (.delete resource.name [(bytes "id", ())]) := by
    cases resource <;> exact .of_check (by decide)
  have hbinds : BindsAll [bytes "id"] [boundUint64 "id" id] := ⟨List.nodup_singleton _, fun _ => Iff.rfl⟩
  refine htext.sendParams hbinds ?_
  rfl

end BxSync
