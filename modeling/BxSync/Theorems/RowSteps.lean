import BxSync.Theorems.Cascade
import BxSync.Theorems.SoundRows

/-! The rows against the tables that the model of the sync keeps of them, and one call that stores a contact, a project, an
    invoice, a position or a file. -/

namespace BxSync

open Sql (Name Write bytes)

/-- A reference that cascades names a row. -/
structure Database.Consistent (db : Database) : Prop where
  project : ∀ id row, db.invoice.lookup id = some row → ∀ p, row.projectId = some p → (db.project.lookup p).isSome
  invoice : ∀ key, (db.invoicePosition.lookup key).isSome → (db.invoice.lookup key.2).isSome

/-- The rows are what the model keeps of them, each of one call, and other tables are empty. -/
structure Mirrored (lib : TextLib) (xxh3 : List UInt8 → UInt64) (calls : List RowCall) (tables : SqlTables) (db : Database) : Prop where
  holds : ∀ t : RowTable, t.Holds tables db
  rows : ∀ t : RowTable, ∀ row ∈ tables t.name, ∃ call ∈ calls, ∃ b, (t, b) ∈ call.stores lib xxh3 ∧ row = t.row b
  apart : ∀ table, (∀ t : RowTable, t.name ≠ table) → tables table = []
  consistent : db.Consistent

section

variable {lib : TextLib} {xxh3 : List UInt8 → UInt64} {calls : List RowCall} {tables : SqlTables} {db : Database}

theorem mirrored_empty : Mirrored lib xxh3 calls (fun _ => []) Database.empty where
  holds t := by cases t <;> exact .nil
  rows _ _ hrow := absurd hrow List.not_mem_nil
  apart _ _ := rfl
  consistent := ⟨fun _ _ h => absurd h (by simp [Database.empty]), fun _ h => absurd h (by simp [Database.empty])⟩

namespace Mirrored

variable (h : Mirrored lib xxh3 calls tables db) (hfits : ∀ call ∈ calls, call.fits = true)
include h hfits

theorem sound (t : RowTable) : ∀ row ∈ tables t.name, t.Sound row := by
  intro row hrow
  obtain ⟨call, hcall, b, hb, rfl⟩ := h.rows t row hrow
  exact call.sound (hfits call hcall) hb

theorem whole (t : RowTable) : WholeRows t.name t.pairs (tables t.name) := by
  intro row hrow
  refine ⟨(h.sound hfits t row hrow).key, ?_⟩
  obtain ⟨call, -, b, -, rfl⟩ := h.rows t row hrow
  exact ⟨sentOf b, rfl⟩

theorem naturalIds (t : RowTable) (hid : syncSchema.key t.name = [bytes "id"]) : NaturalIds (tables t.name) := fun row hrow =>
  (h.sound hfits t row hrow).key _ (by rw [hid]; exact List.mem_cons_self)

end Mirrored

/-! ### One table is changed -/

/-- What a call leaves of the table it stores in. -/
theorem Mirrored.store (h : Mirrored lib xxh3 calls tables db) {t : RowTable} {call : RowCall} (hcall : call ∈ calls)
    {tables' : SqlTables} {db' : Database} (hholds : t.Holds tables' db')
    (hothers : ∀ other, other ≠ t.name → tables' other = tables other)
    (hrows : ∀ row ∈ tables' t.name, row ∈ tables t.name ∨ ∃ b, (t, b) ∈ call.stores lib xxh3 ∧ row = t.row b)
    (hsame : ∀ other ≠ t, other.Same db db') (hconsistent : db'.Consistent) : Mirrored lib xxh3 calls tables' db' where
  holds other := by
    by_cases ht : other = t
    · subst ht
      exact hholds
    · exact (h.holds other).congr (hothers _ fun hname => ht (RowTable.name_injective hname)) (hsame other ht)
  rows other row hrow := by
    by_cases ht : other = t
    · subst ht
      rcases hrows row hrow with hrow | ⟨b, hb, rfl⟩
      · exact h.rows other row hrow
      · exact ⟨call, hcall, b, hb, rfl⟩
    · rw [hothers _ fun hname => ht (RowTable.name_injective hname)] at hrow
      exact h.rows other row hrow
  apart table htable := by
    rw [hothers table fun hname => htable t hname.symm]
    exact h.apart table htable
  consistent := hconsistent

/-- What a call leaves that stores a row. -/
theorem Mirrored.store_row (h : Mirrored lib xxh3 calls tables db) {t : RowTable} {call : RowCall} (hcall : call ∈ calls)
    {b : List (Name × BoundValue)} (hb : (t, b) ∈ call.stores lib xxh3) {κ α ω : Type} [DecidableEq κ] {key : SqlRow → κ}
    {view : SqlRow → α} {out : ω × SqlTables} {res : ω × Table κ α} (hstored : StoredAs t.name key view (t.row b) tables out res)
    {db' : Database} (hholds : t.Holds out.2 db') (hsame : ∀ other ≠ t, other.Same db db') (hconsistent : db'.Consistent) :
    Mirrored lib xxh3 calls out.2 db' :=
  h.store hcall hholds hstored.others (fun row hrow => (hstored.rows row hrow).imp_right fun hr => ⟨b, hb, hr⟩) hsame hconsistent

/-! ### Calls that store a row by its id -/

/-- What is found after a row was stored was found before, or is the row, and names no row that is absent. -/
theorem persist_found {α : Type} {t : Table Nat α} (exec : Exec) (state : CacheState) (id : Option Nat) (row : α) (orphan : Bool)
    {k : Nat} {row' : α}
    (hk : ((exec.run t fun fk cv =>
      if state = .cacheNotSet then insertIgnoreId t id row (fk || orphan) cv
      else Table.update t id row (fk || orphan) cv).2).lookup k = some row') :
    t.lookup k = some row' ∨ row' = row ∧ orphan = false := by
  have hinsert : ∀ key fk, (fk || orphan) = false → (t.insert key row).lookup k = some row' →
      t.lookup k = some row' ∨ row' = row ∧ orphan = false := by
    intro key fk horphan hrow
    rw [Table.lookup_insert_eq] at hrow
    split at hrow
    · exact Or.inr ⟨(Option.some.inj hrow).symm, (Bool.or_eq_false_iff.mp horphan).2⟩
    · exact Or.inl hrow
  revert hk
  refine exec.run_table (Q := fun t' : Table Nat α => t'.lookup k = some row' → t.lookup k = some row' ∨ row' = row ∧ orphan = false)
    Or.inl fun fk cv => ?_
  unfold insertIgnoreId Table.insertIgnore Table.update
  split
  · split
    · exact Or.inl
    · rename_i hnew
      exact hinsert _ fk (Bool.eq_false_iff.mpr fun horphan => hnew (Or.inr horphan))
  · cases id with
    | none => exact Or.inl
    | some key =>
      dsimp only
      split_ifs with hknown horphan
      · exact Or.inl
      · exact hinsert _ fk (Bool.eq_false_iff.mpr horphan)
      · exact Or.inl

/-- What `execute_request` makes of the answer to its statement. -/
def requestError : Stmt → BXillError
  | .failed needReconnect => bxDatabaseQueryError needReconnect
  | .done warned => if !bxDatabasePersistOk (.done warned) then .errorSQLInsert else .noError

theorem executeRequest_stmt (db : Database) (state : CacheState) (item : ProjectItem) : ∀ stmt,
    (item.answers.persist.run db.project fun fk cv =>
      if state = .cacheNotSet then insertIgnoreId db.project item.project.id ⟨item.project.checksum, item.project.contactId⟩
        (fk || (db.contact.lookup (item.project.contactId.getD 0)).isNone) cv
      else Table.update db.project item.project.id ⟨item.project.checksum, item.project.contactId⟩
        (fk || (db.contact.lookup (item.project.contactId.getD 0)).isNone) cv) = stmt →
    executeRequest state db item = (requestError stmt.1, { db with project := stmt.2 }) := by
  rintro ⟨stmt, project⟩ hrun
  unfold executeRequest requestError
  dsimp only
  rw [hrun]
  cases stmt <;> rfl

theorem executeRequestSql_eq {state : CacheState} {obj : Json} {now : UInt64} {exec : Exec} {out : Stmt × SqlTables}
    (hsend : sendParams tables (if state = .cacheNotSet then projectQueryInsert else projectQueryUpdate)
      (projectBindings lib xxh3 obj now) exec = some out) :
    executeRequestSql lib xxh3 state tables obj now exec = some (requestError out.1, out.2) := by
  obtain ⟨stmt, tables'⟩ := out
  unfold executeRequestSql requestError
  rw [hsend]
  cases stmt <;> rfl

/-- A call does to the rows what the model says, and leaves rows and tables that fit. -/
def Steps (lib : TextLib) (xxh3 : List UInt8 → UInt64) (calls : List RowCall) (tables : SqlTables) (db : Database) (call : RowCall) :
    Prop :=
  ∃ tables', call.run lib xxh3 tables = some ((call.model lib xxh3 db).1, tables') ∧
    Mirrored lib xxh3 calls tables' (call.model lib xxh3 db).2

section

variable (h : Mirrored lib xxh3 calls tables db) (hfits : ∀ call ∈ calls, call.fits = true)
include h hfits

theorem steps_contact {archived : Bool} {state : CacheState} {countries : List Json} {behind : List UInt8} {obj : Json}
    {now : UInt64} {a : ContactAnswers} (hcall : RowCall.contact archived state countries behind obj now a ∈ calls) :
    Steps lib xxh3 calls tables db (.contact archived state countries behind obj now a) := by
  have hfit : fitKeys ["id"] obj = true := hfits _ hcall
  have hid : sentOf (contactBindings lib xxh3 archived (bxCountryCodeLoad lib countries) obj now) (bytes "id") =
      sentId (jsonId obj "id") := contact_sentId hfit
  have hchecksum : sentOf (contactBindings lib xxh3 archived (bxCountryCodeLoad lib countries) obj now) (bytes "_checksum") =
      .integer (fieldsChecksum lib xxh3 contactFields obj).toNat := contact_sentChecksum archived _
  have hview := contactView_row hchecksum (contact_sentArchived archived _)
  have hsend := sendNamed_row contact_texts (contactBindings_fst lib xxh3 archived (bxCountryCodeLoad lib countries) obj now) tables
    a.persist (decide (state = .cacheNotSet))
  have hstored := storedAs_id contact_texts contact_key (id_mem (t := .contact) (by decide)) (h.holds .contact)
    (h.whole hfits .contact) hid hview (orphaned_none references_contact _) (orphaned_none references_contact _)
    (decide (state = .cacheNotSet)) a.persist
  simp only [decide_eq_true_eq, Bool.or_false] at hsend hstored
  refine ⟨_, ?_, h.store_row hcall (t := .contact) (List.mem_singleton_self _) hstored hstored.holds (fun other hother => ?_)
    ⟨h.consistent.project, h.consistent.invoice⟩⟩
  · rw [RowCall.run, persistContactSql, hsend, Option.map_some, hstored.answer]
    rfl
  · cases other <;> first | exact absurd rfl hother | rfl

theorem steps_project {state : CacheState} {obj : Json} {now : UInt64} {a : ProjectAnswers}
    (hcall : RowCall.project state obj now a ∈ calls) : Steps lib xxh3 calls tables db (.project state obj now a) := by
  have hfit : fitKeys ["id", "contact_id"] obj = true := hfits _ hcall
  have hid : sentOf (projectBindings lib xxh3 obj now) (bytes "id") = sentId (jsonId obj "id") := project_sentId List.mem_cons_self hfit
  have hcontact : sentOf (projectBindings lib xxh3 obj now) (bytes "contact_id") = sentId (jsonId obj "contact_id") :=
    project_sentId (by decide) hfit
  have hview := projectView_row project_sentChecksum hcontact
  have hmem := contactId_mem (t := .project) (Or.inl rfl)
  have horphaned := fun l hl hmem =>
    orphaned_project (l := l) hl (h.holds .contact) (h.naturalIds hfits .contact contact_key) hmem hcontact
  have hsend := sendParams_row project_texts (projectBindings_fst lib xxh3 obj now) tables a.persist (decide (state = .cacheNotSet))
  have hstored := storedAs_id project_texts project_key (id_mem (t := .project) (by decide)) (h.holds .project)
    (h.whole hfits .project) hid hview
    (horphaned _ ((columns_nodup .project).sublist (List.filter_sublist.map _)) (List.mem_filter.mpr ⟨hmem.1, decide_eq_true hmem.2⟩))
    (horphaned _ (columns_nodup .project) hmem.1) (decide (state = .cacheNotSet)) a.persist
  simp only [decide_eq_true_eq] at hsend hstored
  have hmodel := executeRequest_stmt db state { project := decodeProject lib xxh3 obj, answers := a } _ rfl
  refine ⟨_, ?_, h.store_row hcall (t := .project) (List.mem_singleton_self _) hstored ?_ (fun other hother => ?_) ⟨?_, ?_⟩⟩
  · rw [RowCall.run, executeRequestSql_eq hsend, Option.map_some, hstored.answer, RowCall.model, hmodel]
    rfl
  · rw [RowCall.model, hmodel]
    exact hstored.holds
  · rw [RowCall.model, hmodel]
    cases other <;> first | exact absurd rfl hother | rfl
  · rw [RowCall.model, hmodel]
    exact fun id row hrow p hp => persist_keeps _ _ _ _ _ (h.consistent.project id row hrow p hp)
  · rw [RowCall.model, hmodel]
    exact h.consistent.invoice

theorem steps_invoice {state : CacheState} {json : InvoiceJson} {now : UInt64} {a : InvoiceAnswers}
    (hcall : RowCall.invoice state json now a ∈ calls) : Steps lib xxh3 calls tables db (.invoice state json now a) := by
  have hfit : fitKeys ["id", "contact_id", "project_id"] json.object = true := hfits _ hcall
  have hid : sentOf (invoiceBindings lib xxh3 json.object now) (bytes "id") = sentId (jsonId json.object "id") :=
    invoice_sentId List.mem_cons_self hfit
  have hcontact : sentOf (invoiceBindings lib xxh3 json.object now) (bytes "contact_id") = sentId (jsonId json.object "contact_id") :=
    invoice_sentId (by decide) hfit
  have hproject : sentOf (invoiceBindings lib xxh3 json.object now) (bytes "project_id") =
      sentId ((jsonId json.object "project_id").filter (· ≠ 0)) := invoice_sentProject hfit
  have hview := invoiceView_row invoice_sentChecksum hcontact hproject
  have hmem := contactId_mem (t := .invoice) (Or.inr rfl)
  have horphaned := fun l hl hmem hmem' => orphaned_invoice (l := l) hl (h.holds .contact) (h.naturalIds hfits .contact contact_key)
    (h.holds .project) (h.naturalIds hfits .project project_key) hmem hmem' hcontact hproject
  have hsend := sendNamed_row invoice_texts (invoiceBindings_fst lib xxh3 json.object now) tables a.persist
    (decide (state = .cacheNotSet))
  have hstored := storedAs_id invoice_texts invoice_key (id_mem (t := .invoice) (by decide)) (h.holds .invoice)
    (h.whole hfits .invoice) hid hview
    (horphaned _ ((columns_nodup .invoice).sublist (List.filter_sublist.map _)) (List.mem_filter.mpr ⟨hmem.1, decide_eq_true hmem.2⟩)
      (List.mem_filter.mpr ⟨projectId_mem.1, decide_eq_true projectId_mem.2⟩))
    (horphaned _ (columns_nodup .invoice) hmem.1 projectId_mem.1) (decide (state = .cacheNotSet)) a.persist
  simp only [decide_eq_true_eq] at hsend hstored
  refine ⟨_, ?_, h.store_row hcall (t := .invoice) (List.mem_singleton_self _) hstored hstored.holds (fun other hother => ?_)
    ⟨fun id row hrow p hp => ?_, fun key hkey => persist_keeps _ _ _ _ _ (h.consistent.invoice key hkey)⟩⟩
  · rw [RowCall.run, persistInvoiceSql, hsend, Option.map_some, hstored.answer]
    rfl
  · cases other <;> first | exact absurd rfl hother | rfl
  · rcases persist_found _ _ _ _ _ hrow with hrow | ⟨rfl, horphan⟩
    · exact h.consistent.project id row hrow p hp
    · have hid : (bxObjectInvoiceDecode lib xxh3 json).projectId.filter (· ≠ 0) = some p := hp
      have hnone := (Bool.or_eq_false_iff.mp horphan).2
      rw [hid, Option.any_some, Option.isNone_eq_false_iff] at hnone
      exact hnone

end

/-! ### Calls that look for their row first -/

/-- What the callers make of the answer to an INSERT or an UPDATE. -/
def writeError : Stmt → BXillError
  | .failed needReconnect => bxDatabaseQueryError needReconnect
  | .done _ => .noError

/-- What is selected is the checksum that the model knows. -/
theorem found_iff {found : List SqlValue} {known : Option Nat}
    (hfound : found = [] ∧ known = none ∨ ∃ c : UInt64, found = [.integer c.toNat] ∧ known = some c.toNat) (c : UInt64) :
    (found.isEmpty = known.isNone) ∧ (found.head?.map SqlValue.iValue = some c ↔ known = some c.toNat) := by
  rcases hfound with ⟨rfl, rfl⟩ | ⟨c', rfl, rfl⟩
  · exact ⟨rfl, by simp⟩
  · refine ⟨rfl, ?_⟩
    rw [List.head?_cons, Option.map_some, iValue_integer, Option.some_inj, Option.some_inj, UInt64.toNat_inj]

/-- The INSERT or the UPDATE of a position. -/
def positionEffect (db : Database) (invoiceId : Nat) (position : BXPosition) (fk cv : Bool) : Option Bool × Table (Nat × Nat) Nat :=
  match position.id with
  | none => (none, db.invoicePosition)
  | some id =>
    if (position.id.bind fun id => db.invoicePosition.lookup (id, invoiceId)).isNone then
      Table.insertRow db.invoicePosition (id, invoiceId) position.checksum (fk || (db.invoice.lookup invoiceId).isNone) cv
    else Table.update db.invoicePosition (some (id, invoiceId)) position.checksum fk cv

theorem persistOnePosition_eq (db : Database) (invoiceId : Nat) (position : BXPosition) {a : PositionAnswers}
    (hselect : a.select = .answered)
    (hne : (position.id.bind fun id => db.invoicePosition.lookup (id, invoiceId)) ≠ some position.checksum)
    {stmt : Stmt × Table (Nat × Nat) Nat} (hstmt : a.write.run db.invoicePosition (positionEffect db invoiceId position) = stmt) :
    persistOnePosition db invoiceId position a = (writeError stmt.1, { db with invoicePosition := stmt.2 }) := by
  subst hstmt
  unfold persistOnePosition
  rw [hselect]
  dsimp only
  rw [if_neg hne]
  split
  · rename_i needReconnect heq
    have hanswer : (a.write.run db.invoicePosition (positionEffect db invoiceId position)).1 = .failed needReconnect := heq
    rw [hanswer]
    rfl
  · rename_i warned heq
    have hanswer : (a.write.run db.invoicePosition (positionEffect db invoiceId position)).1 = .done warned := heq
    rw [hanswer]
    rfl

/-- A position that is found afterwards was found before, or its invoice is known. -/
theorem positionEffect_found {invoiceId : Nat} {position : BXPosition} (exec : Exec) {key : Nat × Nat}
    (hkey : ((exec.run db.invoicePosition (positionEffect db invoiceId position)).2.lookup key).isSome) :
    (db.invoicePosition.lookup key).isSome ∨ (db.invoice.lookup key.2).isSome := by
  revert hkey
  refine exec.run_table (Q := fun t : Table (Nat × Nat) Nat =>
    (t.lookup key).isSome → (db.invoicePosition.lookup key).isSome ∨ (db.invoice.lookup key.2).isSome) Or.inl fun fk cv => ?_
  unfold positionEffect Table.insertRow Table.update
  cases position.id with
  | none => exact Or.inl
  | some id =>
    dsimp only
    split_ifs with hknown hrefused hfound hfk
    · exact Or.inl
    · intro hkey
      rw [Table.lookup_insert_eq] at hkey
      split at hkey
      · rename_i heq
        rw [heq]
        refine Or.inr (Decidable.byContradiction fun horphan => hrefused (Or.inr ?_))
        rw [Option.not_isSome_iff_eq_none.mp horphan, Option.isNone_none, Bool.or_true]
      · exact Or.inl hkey
    · exact Or.inl
    · intro hkey
      rw [Table.lookup_insert_eq] at hkey
      split at hkey
      · rename_i heq
        rw [heq]
        exact Or.inl hfound
      · exact Or.inl hkey
    · exact Or.inl

section

variable {invoiceId : UInt64} {obj : Json} {now : UInt64}

/-- The row that is looked for is the one that is stored. -/
theorem position_selected (xxh3 : List UInt8 → UInt64) (now : UInt64) (hfit : fitKeys ["id"] obj = true) :
    selectColumn tables (positionSelectSql "invoice_position" "_invoice_id")
        [(asciiBytes "id", (readSlot lib obj "id" .uint).bound), boundUint64 "_parent" invoiceId] =
      some (((tables (bytes "invoice_position")).filter
        (Sql.meets sameInteger (valued (keyPairs RowTable.position.name RowTable.position.pairs)
          (sentOf (positionBindings lib xxh3 "invoice_position" invoiceId obj now))))).map (· (bytes "_checksum"))) := by
  have hbinds : BindsAll ([(bytes "id", bytes "id"), (bytes "_invoice_id", bytes "_parent")].map Prod.snd)
      [(asciiBytes "id", (readSlot lib obj "id" .uint).bound), boundUint64 "_parent" invoiceId] :=
    ⟨(by decide : [bytes "id", bytes "_parent"].Nodup), fun _ => Iff.rfl⟩
  have hid : sentOf [(asciiBytes "id", (readSlot lib obj "id" .uint).bound), boundUint64 "_parent" invoiceId] (bytes "id") =
      sentOf (positionBindings lib xxh3 "invoice_position" invoiceId obj now) (bytes "id") :=
    (sent_uint fun n hn => fitKeys_mem hfit List.mem_cons_self hn).trans (position_sentId hfit).symm
  have hparent : sentOf [(asciiBytes "id", (readSlot lib obj "id" .uint).bound), boundUint64 "_parent" invoiceId] (bytes "_parent") =
      sentOf (positionBindings lib xxh3 "invoice_position" invoiceId obj now) (bytes "_parent") :=
    (position_sentParent invoiceId).symm
  rw [position_select.selectColumn hbinds, valued, position_keyPairs]
  simp only [List.map_cons, List.map_nil, hid, hparent]

/-- The SELECT of a position finds the checksum that the model knows. -/
theorem position_found (h : Mirrored lib xxh3 calls tables db) (hfits : ∀ call ∈ calls, call.fits = true)
    (hfit : fitKeys ["id"] obj = true) (invoiceId now c : UInt64) :
    let known := (jsonId obj "id").bind fun id => db.invoicePosition.lookup (id, invoiceId.toNat)
    ∃ found, selectColumn tables (positionSelectSql "invoice_position" "_invoice_id")
        [(asciiBytes "id", (readSlot lib obj "id" .uint).bound), boundUint64 "_parent" invoiceId] = some found ∧
      found.isEmpty = known.isNone ∧ (found.head?.map SqlValue.iValue = some c ↔ known = some c.toNat) := by
  have hid : sentOf (positionBindings lib xxh3 "invoice_position" invoiceId obj now) (bytes "id") = sentId (jsonId obj "id") :=
    position_sentId hfit
  have hparent : sentOf (positionBindings lib xxh3 "invoice_position" invoiceId obj now) (bytes "_parent") =
      sentId (some invoiceId.toNat) := position_sentParent invoiceId
  refine ⟨_, position_selected xxh3 now hfit, found_iff ?_ c⟩
  cases hjson : jsonId obj "id" with
  | none =>
    rw [hjson] at hid
    have hmem : (bytes "id", bytes "id") ∈ keyPairs RowTable.position.name RowTable.position.pairs := by
      rw [position_keyPairs]
      exact List.mem_cons_self
    exact Or.inl ⟨selected_none hmem hid, rfl⟩
  | some n =>
    rw [hjson] at hid
    have hselected := selected_row position_texts position_rowKey (h.holds .position)
      (h.whole hfits .position) (naturalKey_two position_keyPairs hid hparent) (set_two position_keyPairs hid hparent rfl rfl)
      (k := (n, invoiceId.toNat)) (Prod.ext_iff.mpr (row_two position_keyPairs hid hparent rfl rfl)) (bytes "_checksum")
    refine hselected.imp_right ?_
    rintro ⟨row, hrow, hfound, hknown⟩
    obtain ⟨c, hc⟩ := (h.sound hfits .position row hrow).checksum (by decide)
    refine ⟨c, hfound.trans (by rw [hc]), hknown.trans ?_⟩
    rw [rowChecksum, hc]
    rfl

theorem position_stored (h : Mirrored lib xxh3 calls tables db) (hfits : ∀ call ∈ calls, call.fits = true)
    (hfit : fitKeys ["id"] obj = true) (invoiceId now : UInt64) (exec : Exec) :
    StoredAs (bytes "invoice_position") positionRowKey rowChecksum
      (RowTable.position.row (positionBindings lib xxh3 "invoice_position" invoiceId obj now)) tables
      (exec.run tables (rowEffect ((jsonId obj "id").bind fun id => db.invoicePosition.lookup (id, invoiceId.toNat)).isNone false
        (bytes "invoice_position") (pairsOf positionColumns positionNames)
        (positionBindings lib xxh3 "invoice_position" invoiceId obj now) tables))
      (exec.run db.invoicePosition (positionEffect db invoiceId.toNat (decodePosition lib xxh3 obj))) := by
  have hid : sentOf (positionBindings lib xxh3 "invoice_position" invoiceId obj now) (bytes "id") = sentId (jsonId obj "id") :=
    position_sentId hfit
  have hparent : sentOf (positionBindings lib xxh3 "invoice_position" invoiceId obj now) (bytes "_parent") =
      sentId (some invoiceId.toNat) := position_sentParent invoiceId
  have hdecoded : (decodePosition lib xxh3 obj).id = jsonId obj "id" := rfl
  refine .exec (h.holds .position) fun fk cv _ => ?_
  cases hjson : jsonId obj "id" with
  | none =>
    have heffect : positionEffect db invoiceId.toNat (decodePosition lib xxh3 obj) fk cv = (none, db.invoicePosition) := by
      unfold positionEffect
      rw [hdecoded, hjson]
    have hlacks : lacksKey (bytes "invoice_position") RowTable.position.pairs
        (sentOf (positionBindings lib xxh3 "invoice_position" invoiceId obj now)) = true := by
      rw [hjson] at hid
      refine (lacksKey_iff (columns_nodup .position) (columns_keyed .position)).mpr ⟨(bytes "id", bytes "id"), ?_, hid⟩
      rw [position_keyPairs]
      exact List.mem_cons_self
    have hrun : rowEffect true false (bytes "invoice_position") RowTable.position.pairs
        (positionBindings lib xxh3 "invoice_position" invoiceId obj now) tables fk cv = (none, tables) :=
      (run_insertWrite (columns_nodup .position) false fk cv).trans (if_pos (by rw [hlacks]; rfl))
    rw [heffect]
    exact hrun ▸ StoredAs.unchanged (h.holds .position) none
  | some n =>
    rw [hjson] at hid
    have hstored := storedAs_plain position_texts position_rowKey (h.holds .position) (h.whole hfits .position)
      (naturalKey_two position_keyPairs hid hparent) (set_two position_keyPairs hid hparent rfl rfl)
      (k := (n, invoiceId.toNat)) (Prod.ext_iff.mpr (row_two position_keyPairs hid hparent rfl rfl))
      (rowChecksum_row (t := .position) (by decide) (position_sentChecksum invoiceId))
      (orphaned_position (columns_nodup .position) (h.holds .invoice) (h.naturalIds hfits .invoice invoice_key) (by decide) hparent)
      (orphaned_position_sets (by decide)) (db.invoicePosition.lookup (n, invoiceId.toNat)).isNone fk cv
    have heffect : positionEffect db invoiceId.toNat (decodePosition lib xxh3 obj) fk cv =
        if (db.invoicePosition.lookup (n, invoiceId.toNat)).isNone then
          Table.insertRow db.invoicePosition (n, invoiceId.toNat) (positionChecksum lib xxh3 "invoice_position" obj).toNat
            (fk || (db.invoice.lookup invoiceId.toNat).isNone) cv
        else Table.update db.invoicePosition (some (n, invoiceId.toNat)) (positionChecksum lib xxh3 "invoice_position" obj).toNat
          fk cv := by
      unfold positionEffect
      rw [hdecoded, hjson]
      rfl
    rw [heffect]
    exact hstored

theorem positionWriteSql_if (table parentCol : String) (needInsert : Bool) : positionWriteSql table parentCol needInsert =
    if needInsert then positionWriteSql table parentCol true else positionWriteSql table parentCol false := by
  cases needInsert <;> rfl

theorem persistOnePositionSql_eq {a : PositionAnswers} (hselect : a.select = .answered) {found : List SqlValue}
    (hselected : selectColumn tables (positionSelectSql "invoice_position" "_invoice_id")
      [(asciiBytes "id", (readSlot lib obj "id" .uint).bound), boundUint64 "_parent" invoiceId] = some found)
    (hne : found.head?.map SqlValue.iValue ≠ some (positionChecksum lib xxh3 "invoice_position" obj)) {out : Stmt × SqlTables}
    (hsend : sendNamed tables (positionWriteSql "invoice_position" "_invoice_id" found.isEmpty)
      (positionBindings lib xxh3 "invoice_position" invoiceId obj now) a.write = some out) :
    persistOnePositionSql lib xxh3 "invoice_position" "_invoice_id" invoiceId tables obj now a = some (writeError out.1, out.2) := by
  obtain ⟨stmt, tables'⟩ := out
  unfold persistOnePositionSql
  rw [hselect]
  dsimp only
  rw [hselected]
  dsimp only
  rw [if_neg hne, hsend]
  cases stmt <;> rfl

theorem steps_position {a : PositionAnswers} (h : Mirrored lib xxh3 calls tables db) (hfits : ∀ call ∈ calls, call.fits = true)
    (hcall : RowCall.position invoiceId obj now a ∈ calls) : Steps lib xxh3 calls tables db (.position invoiceId obj now a) := by
  have hfit : fitKeys ["id"] obj = true := hfits _ hcall
  cases hselect : a.select with
  | failed needReconnect =>
    have hmodel : persistOnePosition db invoiceId.toNat (decodePosition lib xxh3 obj) a = (bxDatabaseQueryError needReconnect, db) := by
      rw [persistOnePosition, hselect]
    refine ⟨tables, ?_, ?_⟩
    · rw [RowCall.run, RowCall.model, hmodel, persistOnePositionSql, hselect]
      rfl
    · rw [RowCall.model, hmodel]
      exact h
  | answered =>
    obtain ⟨found, hselected, hempty, hequal⟩ := position_found h hfits hfit invoiceId now
      (positionChecksum lib xxh3 "invoice_position" obj)
    by_cases hsame : ((jsonId obj "id").bind fun id => db.invoicePosition.lookup (id, invoiceId.toNat)) =
        some (positionChecksum lib xxh3 "invoice_position" obj).toNat
    · have hmodel : persistOnePosition db invoiceId.toNat (decodePosition lib xxh3 obj) a = (.noError, db) := by
        rw [persistOnePosition, hselect]
        exact if_pos hsame
      refine ⟨tables, ?_, ?_⟩
      · rw [RowCall.run, RowCall.model, hmodel, persistOnePositionSql, hselect]
        dsimp only
        rw [hselected]
        dsimp only
        rw [if_pos (hequal.mpr hsame)]
        rfl
      · rw [RowCall.model, hmodel]
        exact h
    · have hstored := position_stored h hfits hfit invoiceId now a.write
      have hmodel := persistOnePosition_eq db invoiceId.toNat (decodePosition lib xxh3 obj) hselect hsame rfl
      have hsend := sendNamed_row position_texts (positionBindings_fst lib xxh3 "invoice_position" invoiceId obj now) tables
        a.write ((jsonId obj "id").bind fun id => db.invoicePosition.lookup (id, invoiceId.toNat)).isNone
      rw [← positionWriteSql_if] at hsend
      refine ⟨_, ?_, h.store_row hcall (t := .position) (List.mem_singleton_self _) hstored ?_ (fun other hother => ?_) ⟨?_, ?_⟩⟩
      · rw [RowCall.run, persistOnePositionSql_eq hselect hselected (fun heq => hsame (hequal.mp heq)) (by rw [hempty]; exact hsend),
          Option.map_some, hstored.answer, RowCall.model, hmodel]
      · rw [RowCall.model, hmodel]
        exact hstored.holds
      · rw [RowCall.model, hmodel]
        cases other <;> first | exact absurd rfl hother | rfl
      · rw [RowCall.model, hmodel]
        exact h.consistent.project
      · rw [RowCall.model, hmodel]
        intro key hkey
        exact (positionEffect_found a.write hkey).elim (h.consistent.invoice key) id

/-! ### Files -/

section

variable {n : Nat} (hid : sentOf (fileBindings lib xxh3 obj now) (bytes "id") = sentId (some n))
include hid

theorem file_set : ∀ p ∈ keyPairs RowTable.file.name RowTable.file.pairs, sentOf (fileBindings lib xxh3 obj now) p.2 ≠ .null := by
  intro p hp
  rw [file_keyPairs] at hp
  rw [List.mem_singleton.mp hp, hid]
  exact SqlValue.noConfusion

variable (h : Mirrored lib xxh3 calls tables db) (hfits : ∀ call ∈ calls, call.fits = true)
include h hfits

/-- The SELECT of a file finds the checksum that the model knows. -/
theorem file_found (hfit : fitKeys ["id"] obj = true) (c : UInt64) :
    ∃ found, selectColumn tables fileSelectSql [(asciiBytes "id", (readSlot lib obj "id" .uint).bound)] = some found ∧
      found.isEmpty = (db.file.lookup n).isNone ∧ (found.head?.map SqlValue.iValue = some c ↔ db.file.lookup n = some c.toNat) := by
  have hbinds : BindsAll ([(bytes "id", bytes "id")].map Prod.snd) [(asciiBytes "id", (readSlot lib obj "id" .uint).bound)] :=
    ⟨List.nodup_singleton _, fun _ => Iff.rfl⟩
  have hsent : sentOf [(asciiBytes "id", (readSlot lib obj "id" .uint).bound)] (bytes "id") =
      sentOf (fileBindings lib xxh3 obj now) (bytes "id") :=
    (sent_uint fun n hn => fitKeys_mem hfit List.mem_cons_self hn).trans (file_sentId hfit).symm
  have hkeys : [(bytes "id", bytes "id")].map (fun k => (k.1, sentOf [(asciiBytes "id", (readSlot lib obj "id" .uint).bound)] k.2)) =
      valued (keyPairs RowTable.file.name RowTable.file.pairs) (sentOf (fileBindings lib xxh3 obj now)) := by
    rw [valued, file_keyPairs, List.map_singleton, List.map_singleton, hsent]
  refine ⟨_, file_select.selectColumn hbinds, found_iff ?_ c⟩
  rw [hkeys]
  have hselected := selected_row file_texts (rowId_key file_key) (h.holds .file) (h.whole hfits .file)
    (naturalKey_id file_texts file_key (id_mem (t := .file) (by decide)) hid) (file_set hid)
    (rowId_storedRow file_texts file_key (id_mem (t := .file) (by decide)) hid) (bytes "_checksum")
  refine hselected.imp_right ?_
  rintro ⟨row, hrow, hfound, hknown⟩
  obtain ⟨c, hc⟩ := (h.sound hfits .file row hrow).checksum (by decide)
  refine ⟨c, hfound.trans (by rw [hc]), hknown.trans ?_⟩
  rw [rowChecksum, hc]
  rfl

theorem file_stored (exec : Exec) :
    StoredAs (bytes "bx_file") rowId rowChecksum (RowTable.file.row (fileBindings lib xxh3 obj now)) tables
      (exec.run tables (rowEffect (db.file.lookup n).isNone false (bytes "bx_file") (pairsOf fileColumns fileColumns)
        (fileBindings lib xxh3 obj now) tables))
      (exec.run db.file fun fk cv =>
        if (db.file.lookup n).isNone then Table.insertRow db.file n (fieldsChecksum lib xxh3 fileFields obj).toNat fk cv
        else Table.update db.file (some n) (fieldsChecksum lib xxh3 fileFields obj).toNat fk cv) := by
  refine .exec (h.holds .file) fun fk cv _ => ?_
  have hstored := storedAs_plain file_texts (rowId_key file_key) (h.holds .file) (h.whole hfits .file)
    (naturalKey_id file_texts file_key (id_mem (t := .file) (by decide)) hid) (file_set hid)
    (rowId_storedRow file_texts file_key (id_mem (t := .file) (by decide)) hid)
    (rowChecksum_row (t := .file) (by decide) file_sentChecksum) (orphaned_none references_file _) (orphaned_none references_file _)
    (db.file.lookup n).isNone fk cv
  rw [Bool.or_false] at hstored
  exact hstored

end

theorem persistFile_eq (db : Database) (n : Nat) (item : FileItem) (hselect : item.answers.select = .answered)
    (hne : db.file.lookup n ≠ some item.file.checksum) {stmt : Stmt × Table Nat Nat}
    (hstmt : (item.answers.write.run db.file fun fk cv =>
      if (db.file.lookup n).isNone then Table.insertRow db.file n item.file.checksum fk cv
      else Table.update db.file (some n) item.file.checksum fk cv) = stmt) :
    persistFile db n item = (writeError stmt.1, { db with file := stmt.2 }) := by
  unfold persistFile
  rw [hselect]
  dsimp only
  rw [if_neg hne, hstmt]
  cases stmt.1 <;> rfl

theorem persistFileSql_eq {a : FileAnswers} (hselect : a.select = .answered) {found : List SqlValue}
    (hselected : selectColumn tables fileSelectSql [(asciiBytes "id", (readSlot lib obj "id" .uint).bound)] = some found)
    (hne : found.head?.map SqlValue.iValue ≠ some (fieldsChecksum lib xxh3 fileFields obj)) {out : Stmt × SqlTables}
    (hsend : sendParams tables (if found.isEmpty then fileQueryInsert else fileQueryUpdate) (fileBindings lib xxh3 obj now) a.write =
      some out) :
    persistFileSql lib xxh3 tables obj now a = some (writeError out.1, out.2) := by
  obtain ⟨stmt, tables'⟩ := out
  unfold persistFileSql
  rw [hselect]
  dsimp only
  rw [hselected]
  dsimp only
  rw [if_neg hne, hsend]
  cases stmt <;> rfl

theorem steps_file {a : FileAnswers} (h : Mirrored lib xxh3 calls tables db) (hfits : ∀ call ∈ calls, call.fits = true)
    (hcall : RowCall.file obj now a ∈ calls) : Steps lib xxh3 calls tables db (.file obj now a) := by
  have hfit : fitKeys ["id"] obj = true := hfits _ hcall
  cases hjson : bxObjectGetJsonUint obj "id" with
  | none =>
    have hdecoded : (decodeFile lib xxh3 obj).id = none := by rw [decodeFile, hjson]; rfl
    refine ⟨tables, ?_, ?_⟩
    · rw [RowCall.run, RowCall.model, hjson, hdecoded]
      rfl
    · rw [RowCall.model, hdecoded]
      exact h
  | some id =>
    have hdecoded : (decodeFile lib xxh3 obj).id = some id.toNat := by rw [decodeFile, hjson]; rfl
    have hid : sentOf (fileBindings lib xxh3 obj now) (bytes "id") = sentId (jsonId obj "id") := file_sentId hfit
    rw [jsonId, hjson, Option.map_some] at hid
    have hrun : RowCall.run lib xxh3 tables (.file obj now a) =
        (persistFileSql lib xxh3 tables obj now a).map fun r => (.error r.1, r.2) := by
      rw [RowCall.run, hjson]
      rfl
    have hcallModel : RowCall.model lib xxh3 db (.file obj now a) =
        (.error (persistFile db id.toNat { file := decodeFile lib xxh3 obj, answers := a }).1,
          (persistFile db id.toNat { file := decodeFile lib xxh3 obj, answers := a }).2) := by
      rw [RowCall.model, hdecoded]
    unfold Steps
    rw [hrun, hcallModel]
    cases hselect : a.select with
    | failed needReconnect =>
      have hmodel : persistFile db id.toNat { file := decodeFile lib xxh3 obj, answers := a } =
          (bxDatabaseQueryError needReconnect, db) := by
        rw [persistFile, hselect]
      rw [hmodel, persistFileSql, hselect]
      exact ⟨tables, rfl, h⟩
    | answered =>
      obtain ⟨found, hselected, hempty, hequal⟩ := file_found hid h hfits hfit (fieldsChecksum lib xxh3 fileFields obj)
      by_cases hsame : db.file.lookup id.toNat = some (fieldsChecksum lib xxh3 fileFields obj).toNat
      · have hmodel : persistFile db id.toNat { file := decodeFile lib xxh3 obj, answers := a } = (.noError, db) := by
          rw [persistFile, hselect]
          exact if_pos hsame
        rw [hmodel, persistFileSql, hselect]
        dsimp only
        rw [hselected]
        dsimp only
        rw [if_pos (hequal.mpr hsame)]
        exact ⟨tables, rfl, h⟩
      · have hstored := file_stored hid h hfits a.write
        have hmodel := persistFile_eq db id.toNat { file := decodeFile lib xxh3 obj, answers := a } hselect hsame rfl
        have hsend := sendParams_row file_texts (fileBindings_fst lib xxh3 obj now) tables a.write
          (db.file.lookup id.toNat).isNone
        rw [hmodel, persistFileSql_eq hselect hselected (fun heq => hsame (hequal.mp heq)) (by rw [hempty]; exact hsend),
          Option.map_some]
        refine ⟨_, by rw [hstored.answer]; rfl, h.store_row hcall (t := .file) (List.mem_singleton_self _) hstored hstored.holds
          (fun other hother => ?_) ⟨h.consistent.project, h.consistent.invoice⟩⟩
        cases other <;> first | exact absurd rfl hother | rfl

end

end

end BxSync
