import BxSync.Theorems.RowSteps

/-! The rows of contacts, their groups, projects, invoices, positions and files against the tables that the model of the sync
    keeps of them: in every run the statements that are sent do to the rows what the model says, and every row holds the
    values of one call in all its columns. -/

namespace BxSync

open Sql (Name Write bytes)

section

variable {lib : TextLib} {xxh3 : List UInt8 → UInt64} {calls : List RowCall} {tables : SqlTables} {db : Database}

/-! ### The groups of a contact -/

theorem unlink_text : FixedText cg2cDelete [bytes "cid"] (.delete (bytes "cg2c") [(bytes "contact", ())]) := .of_check (by decide)

theorem link_text : FixedText cg2cInsert [bytes "gid", bytes "cid"]
    (.insert true (bytes "cg2c") [bytes "contact_group", bytes "contact"] [(), ()]) := .of_check (by decide)

theorem link_rowKey (row row' : SqlRow) :
    linkKey row = linkKey row' ↔ ∀ c ∈ syncSchema.key (bytes "cg2c"), natOf (row c) = natOf (row' c) := by
  have hkey : syncSchema.key (bytes "cg2c") = [bytes "contact_group", bytes "contact"] := by decide
  rw [hkey]
  simp [linkKey]

theorem unlink_sent (tables : SqlTables) (cid : UInt64) (exec : Exec) : sendNamed tables cg2cDelete [boundUint64 "cid" cid] exec =
    some (exec.run tables fun fk cv =>
      syncSchema.run sameInteger .null tables fk cv (.delete (bytes "cg2c") [(bytes "contact", .integer cid.toNat)])) :=
  unlink_text.sendNamed ⟨List.nodup_singleton _, fun _ => Iff.rfl⟩ rfl

theorem link_row (tables : SqlTables) (gid cid : UInt64) (exec : Exec) :
    sendNamed tables cg2cInsert [boundUint64 "gid" gid, boundUint64 "cid" cid] exec =
      some (exec.run tables fun fk cv => syncSchema.run sameInteger .null tables fk cv
        (insertWrite (bytes "cg2c") RowTable.cg2c.pairs (sentOf [boundUint64 "gid" gid, boundUint64 "cid" cid]) true)) :=
  link_text.sendNamed ⟨(by decide : [bytes "gid", bytes "cid"].Nodup), fun _ => Iff.rfl⟩ rfl

section

variable (h : Mirrored lib xxh3 calls tables db) (hfits : ∀ call ∈ calls, call.fits = true)
include h hfits

theorem link_stored (gid cid : UInt64) (exec : Exec) :
    StoredAs (bytes "cg2c") linkKey (fun _ => ()) (RowTable.cg2c.row [boundUint64 "gid" gid, boundUint64 "cid" cid]) tables
      (exec.run tables fun fk cv => syncSchema.run sameInteger .null tables fk cv
        (insertWrite (bytes "cg2c") RowTable.cg2c.pairs (sentOf [boundUint64 "gid" gid, boundUint64 "cid" cid]) true))
      (exec.run db.cg2c fun fk cv => Table.insertIgnore db.cg2c (gid.toNat, cid.toNat) () fk cv) := by
  obtain ⟨hgid, hcid⟩ := link_sent gid cid
  have hnatural := naturalKey_two link_keyPairs hgid hcid
  have hset := set_two link_keyPairs hgid hcid rfl rfl
  have hkey : linkKey (storedRow (bytes "cg2c") RowTable.cg2c.pairs (sentOf [boundUint64 "gid" gid, boundUint64 "cid" cid])) =
      (gid.toNat, cid.toNat) := Prod.ext_iff.mpr (row_two link_keyPairs hgid hcid rfl rfl)
  have hlacks : lacksKey (bytes "cg2c") RowTable.cg2c.pairs (sentOf [boundUint64 "gid" gid, boundUint64 "cid" cid]) = false :=
    lacksKey_eq_false (columns_nodup .cg2c) (columns_keyed .cg2c) hset
  refine .exec (h.holds .cg2c) fun fk cv _ => ?_
  have hstored := storedAs_insertIgnore (h.holds .cg2c) (columns_nodup .cg2c)
    (sameKey_rows link_rowKey hnatural fun row hrow => (h.sound hfits .cg2c row hrow).key) fk cv
  rw [orphaned_none references_cg2c, hlacks, hkey, Bool.or_false, Bool.or_false] at hstored
  exact hstored

theorem unlink_stored (cid : UInt64) {exec : Exec} (hexec : exec.refused = false) (r : SqlRow) :
    StoredAs (bytes "cg2c") linkKey (fun _ => ()) r tables
      (exec.run tables fun fk cv =>
        syncSchema.run sameInteger .null tables fk cv (.delete (bytes "cg2c") [(bytes "contact", .integer cid.toNat)]))
      (exec.run db.cg2c fun _ _ => (some false, Table.eraseWhere db.cg2c fun key _ => key.2 = cid.toNat)) := by
  refine .exec (h.holds .cg2c) fun fk cv hfk => ?_
  rw [schema_delete_leaf (by decide) (by decide), kept_eq_false (by decide), hfk, hexec, Bool.or_false, if_neg Bool.false_ne_true]
  refine ⟨rfl, ?_, fun other hother => Function.update_of_ne hother _ _, fun row hrow => Or.inl ?_⟩
  · dsimp only
    rw [Function.update_self]
    refine mapOf_eraseWhere (h.holds .cg2c) fun row hrow => ?_
    obtain ⟨n, hn⟩ := (h.sound hfits .cg2c row hrow).key (bytes "contact") (by decide)
    have hmeets : Sql.meets sameInteger [(bytes "contact", .integer cid.toNat)] row = decide ((linkKey row).2 = cid.toNat) := by
      rw [Sql.meets, List.all_cons, List.all_nil, Bool.and_true]
      exact sameInteger_natural ⟨n, hn⟩ ⟨cid.toNat, rfl⟩
    rw [hmeets]
  · dsimp only at hrow
    rw [Function.update_self] at hrow
    exact (List.mem_filter.mp hrow).1

end

theorem Mirrored.store_link (h : Mirrored lib xxh3 calls tables db) {cid : UInt64} {all : List UInt64} {a : ContactAnswers}
    (hcall : RowCall.groups cid all a ∈ calls) {gid : UInt64} (hgid : gid ∈ all) {ω : Type} {out : ω × SqlTables}
    {res : ω × Table (Nat × Nat) Unit}
    (hstored : StoredAs (bytes "cg2c") linkKey (fun _ => ()) (RowTable.cg2c.row [boundUint64 "gid" gid, boundUint64 "cid" cid])
      tables out res) :
    Mirrored lib xxh3 calls out.2 { db with cg2c := res.2 } := by
  refine h.store_row hcall (t := .cg2c) (List.mem_map.mpr ⟨gid, hgid, rfl⟩) hstored hstored.holds (fun other hother => ?_)
    ⟨h.consistent.project, h.consistent.invoice⟩
  cases other <;> first | exact absurd rfl hother | rfl

section

variable {cid gid : UInt64} {gids : List UInt64} {exec : Exec} {execs : List Exec} (hgid : gid ≠ 0)
include hgid

theorem linkGroupsSql_nil : linkGroupsSql cid (gid :: gids) [] tables = some (.errorGeneric, tables) := if_neg hgid

variable {tables' : SqlTables}

theorem linkGroupsSql_failed {needReconnect : Bool}
    (hsend : sendNamed tables cg2cInsert [boundUint64 "gid" gid, boundUint64 "cid" cid] exec = some (.failed needReconnect, tables')) :
    linkGroupsSql cid (gid :: gids) (exec :: execs) tables = some (bxDatabaseQueryError needReconnect, tables') := by
  refine (if_neg hgid).trans ?_
  dsimp only
  rw [hsend]

theorem linkGroupsSql_done {warned : Bool}
    (hsend : sendNamed tables cg2cInsert [boundUint64 "gid" gid, boundUint64 "cid" cid] exec = some (.done warned, tables')) :
    linkGroupsSql cid (gid :: gids) (exec :: execs) tables = linkGroupsSql cid gids execs tables' := by
  refine (if_neg hgid).trans ?_
  dsimp only
  rw [hsend]

end

theorem linkGroups_steps {cid : UInt64} {all : List UInt64} {a : ContactAnswers} (hfits : ∀ call ∈ calls, call.fits = true)
    (hcall : RowCall.groups cid all a ∈ calls) {gids : List UInt64} (hgids : ∀ gid ∈ gids, gid ∈ all) (execs : List Exec)
    (h : Mirrored lib xxh3 calls tables db) :
    ∃ tables', linkGroupsSql cid gids execs tables =
        some ((linkGroups cid.toNat (gids.map UInt64.toNat) execs db).1, tables') ∧
      Mirrored lib xxh3 calls tables' (linkGroups cid.toNat (gids.map UInt64.toNat) execs db).2 := by
  induction gids generalizing execs tables db with
  | nil => exact ⟨tables, rfl, h⟩
  | cons gid gids ih =>
    have hrest : ∀ g ∈ gids, g ∈ all := fun g hg => hgids g (List.mem_cons_of_mem _ hg)
    rw [List.map_cons]
    by_cases hgid : gid = 0
    · subst hgid
      exact ih hrest execs h
    have hne : gid.toNat ≠ 0 := fun h0 => hgid (UInt64.toNat_inj.mp h0)
    cases execs with
    | nil =>
      refine ⟨tables, ?_, ?_⟩
      · rw [linkGroupsSql_nil hgid, linkGroups.eq_3 _ _ _ _ hne]
      · rw [linkGroups.eq_3 _ _ _ _ hne]
        exact h
    | cons exec execs =>
      have hstored := link_stored h hfits gid cid exec
      have hkept := h.store_link hcall (hgids gid List.mem_cons_self) hstored
      have hsend := link_row tables gid cid exec
      have hmodel := linkGroups.eq_4 cid.toNat db gid.toNat (gids.map UInt64.toNat) exec execs hne
      generalize (exec.run tables fun fk cv => _) = out at hstored hkept hsend
      generalize hres : (exec.run db.cg2c fun fk cv => _) = res at hstored hkept hmodel
      obtain ⟨stmt, tables'⟩ := out
      obtain ⟨stmt', cg2c⟩ := res
      obtain rfl : stmt = stmt' := hstored.answer
      rw [hmodel]
      cases stmt with
      | failed needReconnect => exact ⟨tables', linkGroupsSql_failed hgid hsend, hkept⟩
      | done warned =>
        rw [linkGroupsSql_done hgid hsend]
        exact ih hrest execs hkept

section

variable {cid : UInt64} {gids : List UInt64} {a : ContactAnswers} {tables' : SqlTables}

theorem bxContactGroupLinkSql_failed {needReconnect : Bool}
    (hsend : sendNamed tables cg2cDelete [boundUint64 "cid" cid] a.unlinkGroups = some (.failed needReconnect, tables')) :
    bxContactGroupLinkSql cid gids a tables = some (bxDatabaseQueryError needReconnect, tables') := by
  unfold bxContactGroupLinkSql
  rw [hsend]

theorem bxContactGroupLinkSql_done {warned : Bool}
    (hsend : sendNamed tables cg2cDelete [boundUint64 "cid" cid] a.unlinkGroups = some (.done warned, tables')) :
    bxContactGroupLinkSql cid gids a tables = linkGroupsSql cid gids a.linkGroups tables' := by
  unfold bxContactGroupLinkSql
  rw [hsend]

variable {contactId : Nat} {ids : List Nat} {cg2c : Table (Nat × Nat) Unit}

theorem bxContactGroupLink_failed {needReconnect : Bool}
    (hrun : (a.unlinkGroups.run db.cg2c fun _ _ => (some false, Table.eraseWhere db.cg2c fun key _ => key.2 = contactId)) =
      (.failed needReconnect, cg2c)) :
    bxContactGroupLink contactId ids a db = (bxDatabaseQueryError needReconnect, { db with cg2c }) := by
  unfold bxContactGroupLink
  rw [hrun]

theorem bxContactGroupLink_done {warned : Bool}
    (hrun : (a.unlinkGroups.run db.cg2c fun _ _ => (some false, Table.eraseWhere db.cg2c fun key _ => key.2 = contactId)) =
      (.done warned, cg2c)) :
    bxContactGroupLink contactId ids a db = linkGroups contactId ids a.linkGroups { db with cg2c } := by
  unfold bxContactGroupLink
  rw [hrun]

theorem steps_groups (h : Mirrored lib xxh3 calls tables db) (hfits : ∀ call ∈ calls, call.fits = true)
    (hcall : RowCall.groups cid gids a ∈ calls) : Steps lib xxh3 calls tables db (.groups cid gids a) := by
  have hexec : a.unlinkGroups.refused = false := (Bool.not_eq_true' _).mp (hfits _ hcall)
  have hstored := unlink_stored h hfits cid hexec (fun _ => .null)
  have hsend := unlink_sent tables cid a.unlinkGroups
  have hkept : Mirrored lib xxh3 calls _ { db with cg2c := _ } := h.store hcall (t := .cg2c) hstored.holds hstored.others
    (fun row hrow => Or.inl (mem_of_schema_delete a.unlinkGroups hrow))
    (fun other hother => by cases other <;> first | exact absurd rfl hother | rfl) ⟨h.consistent.project, h.consistent.invoice⟩
  generalize (a.unlinkGroups.run tables fun fk cv => _) = out at hstored hkept hsend
  generalize hres : (a.unlinkGroups.run db.cg2c fun _ _ => _) = res at hstored hkept
  obtain ⟨stmt, tables'⟩ := out
  obtain ⟨stmt', cg2c⟩ := res
  obtain rfl : stmt = stmt' := hstored.answer
  have hmodel : RowCall.model lib xxh3 db (.groups cid gids a) =
      (.error (bxContactGroupLink cid.toNat (gids.map UInt64.toNat) a db).1,
        (bxContactGroupLink cid.toNat (gids.map UInt64.toNat) a db).2) := rfl
  unfold Steps
  rw [RowCall.run, hmodel]
  cases stmt with
  | failed needReconnect =>
    rw [bxContactGroupLinkSql_failed hsend, bxContactGroupLink_failed hres]
    exact ⟨tables', rfl, hkept⟩
  | done warned =>
    obtain ⟨tables'', hlink, hmirrored⟩ := linkGroups_steps hfits hcall (fun _ hg => hg) a.linkGroups hkept
    rw [bxContactGroupLinkSql_done hsend, bxContactGroupLink_done hres, hlink]
    exact ⟨tables'', rfl, hmirrored⟩

end

/-! ### Deletes -/

/-- Rows that are taken out of all tables. -/
theorem Mirrored.removed (h : Mirrored lib xxh3 calls tables db) {keep : Name → SqlRow → Bool} {db' : Database}
    (hholds : ∀ t : RowTable, t.Holds (fun table => (tables table).filter (keep table)) db') (hconsistent : db'.Consistent) :
    Mirrored lib xxh3 calls (fun table => (tables table).filter (keep table)) db' where
  holds := hholds
  rows t row hrow := h.rows t row (List.mem_filter.mp hrow).1
  apart table htable := by
    rw [h.apart table htable]
    rfl
  consistent := hconsistent

/-- Rows that take none along are taken out. -/
theorem Mirrored.removed_leaf (h : Mirrored lib xxh3 calls tables db) {t : RowTable} (hproject : t.name ≠ bytes "pr_project")
    (hinvoice : t.name ≠ bytes "invoice") {keys : List (Name × SqlValue)} {db' : Database}
    (hholds : t.Holds (fun table => (tables table).filter fun row => !goneRows tables t.name keys table row) db')
    (hsame : ∀ other ≠ t, other.Same db db') (hconsistent : db'.Consistent) :
    Mirrored lib xxh3 calls (fun table => (tables table).filter fun row => !goneRows tables t.name keys table row) db' := by
  refine h.removed (fun other => ?_) hconsistent
  by_cases ht : other = t
  · exact ht ▸ hholds
  · refine (h.holds other).congr (List.filter_eq_self.mpr fun row _ => ?_) (hsame other ht)
    rw [goneRows_leaf hproject hinvoice, decide_eq_false fun hname => ht (RowTable.name_injective hname)]
    rfl

section

variable (h : Mirrored lib xxh3 calls tables db) (hfits : ∀ call ∈ calls, call.fits = true) {n : Nat}
include h hfits

theorem meets_of_id {t : RowTable} (hid : syncSchema.key t.name = [bytes "id"]) {row : SqlRow} (hrow : row ∈ tables t.name) :
    Sql.meets sameInteger [(bytes "id", .integer n)] row = decide (rowId row = n) :=
  meets_id (h.naturalIds hfits t hid row hrow) n

theorem keeps_leaf {t : RowTable} (hid : syncSchema.key t.name = [bytes "id"]) (hproject : t.name ≠ bytes "pr_project")
    (hinvoice : t.name ≠ bytes "invoice") : ∀ row ∈ tables t.name,
    (!goneRows tables t.name [(bytes "id", .integer n)] t.name row) = !decide (rowId row = n) := by
  intro row hrow
  rw [goneRows_leaf hproject hinvoice, decide_eq_true rfl, Bool.true_and, meets_of_id h hfits hid hrow]

theorem removed_file : Mirrored lib xxh3 calls
    (fun table => (tables table).filter fun row => !goneRows tables (bytes "bx_file") [(bytes "id", .integer n)] table row)
    { db with file := db.file.erase n } := by
  refine h.removed_leaf (t := .file) (by decide) (by decide) ?_ (fun other hother => ?_) ⟨h.consistent.project, h.consistent.invoice⟩
  · exact mapOf_erase (h.holds .file) (keeps_leaf h hfits (t := .file) file_key (by decide) (by decide))
  · cases other <;> first | exact absurd rfl hother | rfl

theorem removed_contact : Mirrored lib xxh3 calls
    (fun table => (tables table).filter fun row => !goneRows tables (bytes "contact") [(bytes "id", .integer n)] table row)
    { db with contact := db.contact.erase n } := by
  refine h.removed_leaf (t := .contact) (by decide) (by decide) ?_ (fun other hother => ?_) ⟨h.consistent.project, h.consistent.invoice⟩
  · exact mapOf_erase (h.holds .contact) (keeps_leaf h hfits (t := .contact) contact_key (by decide) (by decide))
  · cases other <;> first | exact absurd rfl hother | rfl

theorem names_projectContact {row p : SqlRow} (hrow : row ∈ tables (bytes "pr_project")) (hp : p ∈ tables (bytes "contact")) :
    projectContact.names sameInteger .null row p = decide ((projectView row).contactId.getD 0 = rowId p) := by
  obtain ⟨id, hid⟩ := (h.sound hfits .project row hrow).contactId (Or.inl rfl)
  rw [names_zero (r := projectContact) rfl hid (h.naturalIds hfits .contact contact_key p hp) rfl, projectView, hid, idOf_sentId]

theorem names_invoiceContact {row p : SqlRow} (hrow : row ∈ tables (bytes "invoice")) (hp : p ∈ tables (bytes "contact")) :
    invoiceContact.names sameInteger .null row p = decide ((invoiceView row).contactId = some (rowId p)) := by
  obtain ⟨id, hid⟩ := (h.sound hfits .invoice row hrow).contactId (Or.inr rfl)
  rw [names_eq (r := invoiceContact) rfl hid (h.naturalIds hfits .contact contact_key p hp) rfl, invoiceView, hid, idOf_sentId]

theorem names_invoiceProject {row p : SqlRow} (hrow : row ∈ tables (bytes "invoice")) (hp : p ∈ tables (bytes "pr_project")) :
    invoiceProject.names sameInteger .null row p = decide ((invoiceView row).projectId = some (rowId p)) := by
  obtain ⟨id, hid⟩ := (h.sound hfits .invoice row hrow).projectId rfl
  rw [names_eq (r := invoiceProject) rfl hid (h.naturalIds hfits .project project_key p hp) rfl, invoiceView, hid, idOf_sentId]

theorem names_positionInvoice {row i : SqlRow} (hrow : row ∈ tables (bytes "invoice_position")) (hi : i ∈ tables (bytes "invoice")) :
    positionInvoice.names sameInteger .null row i = decide ((positionRowKey row).2 = rowId i) := by
  obtain ⟨m, hm⟩ := (h.sound hfits .position row hrow).key (bytes "_invoice_id") (by decide)
  have hid : row positionInvoice.column = sentId (some m) := hm
  rw [names_eq (r := positionInvoice) rfl hid (h.naturalIds hfits .invoice invoice_key i hi) rfl, positionRowKey, hm, decide_eq_decide,
    Option.some_inj]
  rfl

/-- A contact is kept by the projects and the invoices that name it. -/
theorem kept_contact : syncSchema.kept sameInteger .null tables (goneRows tables (bytes "contact") [(bytes "id", .integer n)]) =
    ((db.contact.lookup n).isSome && db.keepsContact n) := by
  have hgone : ∀ p ∈ tables (bytes "contact"),
      goneRows tables (bytes "contact") [(bytes "id", .integer n)] (bytes "contact") p = decide (rowId p = n) := by
    intro p hp
    rw [goneRows_leaf (by decide) (by decide), decide_eq_true rfl, Bool.true_and, meets_of_id h hfits (t := .contact) contact_key hp]
  have hnamed : ∀ (r : Sql.Reference SqlValue) (q : Nat → Bool),
      (∀ p ∈ tables (bytes "contact"), (tables r.table).any (fun row => r.names sameInteger .null row p) = q (rowId p)) →
        ((tables (bytes "contact")).any fun p => goneRows tables (bytes "contact") [(bytes "id", .integer n)] (bytes "contact") p &&
          (tables r.table).any fun row => r.names sameInteger .null row p) = ((db.contact.lookup n).isSome && q n) := by
    intro r q hq
    have hknown : (db.contact.lookup n).isSome = (tables (bytes "contact")).any fun p => decide (rowId p = n) :=
      (h.holds .contact).known_any n
    rw [hknown, Bool.eq_iff_iff, Bool.and_eq_true, List.any_eq_true, List.any_eq_true]
    constructor
    · rintro ⟨p, hp, hand⟩
      rw [hgone p hp, hq p hp, Bool.and_eq_true] at hand
      exact ⟨⟨p, hp, hand.1⟩, of_decide_eq_true hand.1 ▸ hand.2⟩
    · rintro ⟨⟨p, hp, hid⟩, hqn⟩
      refine ⟨p, hp, ?_⟩
      rw [hgone p hp, hq p hp, Bool.and_eq_true]
      exact ⟨hid, (of_decide_eq_true hid).symm ▸ hqn⟩
  rw [kept_eq, Database.keepsContact, Bool.and_or_distrib_left]
  refine congrArg₂ or (hnamed projectContact (fun m => db.project.entries.any fun e => e.2.contactId.getD 0 = m) fun p hp => ?_)
    (hnamed invoiceContact (fun m => db.invoice.entries.any fun e => e.2.contactId = some m) fun p hp => ?_)
  · rw [← mapOf_any (h.holds .project) fun a => decide (a.contactId.getD 0 = rowId p)]
    exact any_congr_mem fun row hrow => names_projectContact h hfits hrow hp
  · rw [← mapOf_any (h.holds .invoice) fun a => decide (a.contactId = some (rowId p))]
    exact any_congr_mem fun row hrow => names_invoiceContact h hfits hrow hp

/-! ### What goes with an invoice or a project -/

/-- A position goes with its invoice. -/
theorem gone_position {table : Name} {keys : List (Name × SqlValue)} (htable : table ≠ bytes "invoice_position")
    (gone : Nat → InvoiceRow → Bool)
    (hgone : ∀ i ∈ tables (bytes "invoice"), goneRows tables table keys (bytes "invoice") i = gone (rowId i) (invoiceView i)) :
    ∀ row ∈ tables (bytes "invoice_position"), goneRows tables table keys (bytes "invoice_position") row =
      (db.invoice.lookup (positionRowKey row).2).any (gone (positionRowKey row).2) := by
  intro row hrow
  rw [goneRows_position, decide_eq_false htable.symm, Bool.false_and, Bool.false_or, Bool.eq_iff_iff, List.any_eq_true,
    Option.any_eq_true]
  constructor
  · rintro ⟨i, hi, hand⟩
    rw [hgone i hi, names_positionInvoice h hfits hrow hi, Bool.and_eq_true, decide_eq_true_iff] at hand
    rw [hand.2]
    exact ⟨invoiceView i, (h.holds .invoice).get hi, hand.1⟩
  · rintro ⟨a, ha, hand⟩
    obtain ⟨i, hi, hid, rfl⟩ := ((h.holds .invoice).holds _ a).mp ha
    refine ⟨i, hi, ?_⟩
    rw [hgone i hi, names_positionInvoice h hfits hrow hi, hid, Bool.and_eq_true, decide_eq_true_iff]
    exact ⟨hand, rfl⟩

theorem removed_invoice : Mirrored lib xxh3 calls
    (fun table => (tables table).filter fun row => !goneRows tables (bytes "invoice") [(bytes "id", .integer n)] table row)
    { db with
      invoice := db.invoice.erase n
      invoicePosition := Table.eraseWhere db.invoicePosition fun key _ => key.2 = n } := by
  have hinvoices : ∀ i ∈ tables (bytes "invoice"),
      goneRows tables (bytes "invoice") [(bytes "id", .integer n)] (bytes "invoice") i = decide (rowId i = n) := by
    intro i hi
    have hany : ((tables (bytes "pr_project")).any fun p =>
        goneRows tables (bytes "invoice") [(bytes "id", .integer n)] (bytes "pr_project") p &&
          invoiceProject.names sameInteger .null i p) = false := by
      rw [List.any_eq_false]
      intro p _
      rw [goneRows_of_ne (by decide) (by decide), decide_eq_false (by decide), Bool.false_and, Bool.false_and]
      exact Bool.false_ne_true
    rw [goneRows_invoice, hany, decide_eq_true rfl, Bool.true_and, Bool.or_false, meets_of_id h hfits (t := .invoice) invoice_key hi]
  have hpositions := gone_position h hfits (by decide) (fun id _ => decide (id = n)) hinvoices
  refine h.removed (fun t => ?_) ⟨fun id row hrow p hp => ?_, fun key hkey => ?_⟩
  · cases t with
    | contact => exact mapOf_kept (h.holds .contact) (keeps_other (by decide) (by decide) (by decide))
    | cg2c => exact mapOf_kept (h.holds .cg2c) (keeps_other (by decide) (by decide) (by decide))
    | project => exact mapOf_kept (h.holds .project) (keeps_other (by decide) (by decide) (by decide))
    | invoice => exact mapOf_erase (h.holds .invoice) fun i hi => congrArg not (hinvoices i hi)
    | position =>
      refine mapOf_eraseWhere (h.holds .position) fun row hrow => congrArg not ((hpositions row hrow).trans ?_)
      have hknown := h.consistent.invoice _ (((h.holds .position).known_iff _).mpr ⟨row, hrow, rfl⟩)
      obtain ⟨a, ha⟩ := Option.isSome_iff_exists.mp hknown
      rw [ha, Option.any_some]
    | file => exact mapOf_kept (h.holds .file) (keeps_other (by decide) (by decide) (by decide))
  · by_cases hid : id = n
    · rw [hid, AList.lookup_erase] at hrow
      exact absurd hrow.symm (Option.some_ne_none row)
    · rw [AList.lookup_erase_ne hid] at hrow
      exact h.consistent.project id row hrow p hp
  · obtain ⟨c, hc⟩ := Option.isSome_iff_exists.mp hkey
    rw [Table.lookup_eraseWhere, Option.filter_eq_some_iff] at hc
    obtain ⟨hc, hleft⟩ := hc
    rw [Table.isSome_lookup_erase]
    refine ⟨h.consistent.invoice key (Option.isSome_iff_exists.mpr ⟨c, hc⟩), fun heq => ?_⟩
    rw [decide_eq_true heq] at hleft
    exact Bool.false_ne_true hleft

omit hfits h in
theorem mem_invoicesOf {k : Nat} : k ∈ (db.invoice.entries.filter fun e => e.2.projectId = some n).map Sigma.fst ↔
    ∃ a, db.invoice.lookup k = some a ∧ a.projectId = some n := by
  rw [List.mem_map]
  constructor
  · rintro ⟨⟨k', a⟩, he, rfl⟩
    obtain ⟨he, hproject⟩ := List.mem_filter.mp he
    exact ⟨a, AList.mem_lookup_iff.mpr he, of_decide_eq_true hproject⟩
  · rintro ⟨a, ha, hproject⟩
    exact ⟨⟨k, a⟩, List.mem_filter.mpr ⟨AList.mem_lookup_iff.mp ha, decide_eq_true hproject⟩, rfl⟩

theorem removed_project (fk cv : Bool) (hfk : fk = false) : Mirrored lib xxh3 calls
    (fun table => (tables table).filter fun row => !goneRows tables (bytes "pr_project") [(bytes "id", .integer n)] table row)
    (db.deleteProject n fk cv).2 := by
  have hprojects : ∀ p ∈ tables (bytes "pr_project"),
      goneRows tables (bytes "pr_project") [(bytes "id", .integer n)] (bytes "pr_project") p = decide (rowId p = n) := by
    intro p hp
    rw [goneRows_of_ne (by decide) (by decide), decide_eq_true rfl, Bool.true_and, meets_of_id h hfits (t := .project) project_key hp]
  have hinvoices : ∀ i ∈ tables (bytes "invoice"),
      goneRows tables (bytes "pr_project") [(bytes "id", .integer n)] (bytes "invoice") i =
        decide ((invoiceView i).projectId = some n) := by
    intro i hi
    rw [goneRows_invoice, decide_eq_false (by decide), Bool.false_and, Bool.false_or, Bool.eq_iff_iff, List.any_eq_true,
      decide_eq_true_iff]
    constructor
    · rintro ⟨p, hp, hand⟩
      rw [hprojects p hp, names_invoiceProject h hfits hi hp, Bool.and_eq_true, decide_eq_true_iff, decide_eq_true_iff] at hand
      rw [hand.2, hand.1]
    · intro hid
      -- The project of an invoice has a row.
      have hknown := h.consistent.project _ _ ((h.holds .invoice).get hi) n hid
      obtain ⟨p, hp, hpid⟩ := ((h.holds .project).known_iff n).mp hknown
      refine ⟨p, hp, ?_⟩
      rw [hprojects p hp, names_invoiceProject h hfits hi hp, Bool.and_eq_true, decide_eq_true_iff, decide_eq_true_iff, hid, hpid]
      exact ⟨rfl, rfl⟩
  have hpositions := gone_position h hfits (by decide) (fun _ a => decide (a.projectId = some n)) hinvoices
  subst hfk
  refine h.removed (fun t => ?_) ⟨fun id row hrow p hp => ?_, fun key hkey => ?_⟩
  · cases t with
    | contact => exact mapOf_kept (h.holds .contact) (keeps_other (by decide) (by decide) (by decide))
    | cg2c => exact mapOf_kept (h.holds .cg2c) (keeps_other (by decide) (by decide) (by decide))
    | project => exact mapOf_erase (h.holds .project) fun p hp => congrArg not (hprojects p hp)
    | invoice =>
      exact mapOf_eraseWhere (p := fun _ a => decide (a.projectId = some n)) (h.holds .invoice) fun i hi => congrArg not (hinvoices i hi)
    | position =>
      refine mapOf_eraseWhere (h.holds .position) fun row hrow => congrArg not ((hpositions row hrow).trans ?_)
      rw [Bool.eq_iff_iff, Option.any_eq_true, decide_eq_true_iff, mem_invoicesOf]
      exact exists_congr fun a => and_congr_right fun _ => decide_eq_true_iff
    | file => exact mapOf_kept (h.holds .file) (keeps_other (by decide) (by decide) (by decide))
  · have hleft : (Table.eraseWhere db.invoice fun _ a => a.projectId = some n).lookup id = some row := hrow
    rw [Table.lookup_eraseWhere, Option.filter_eq_some_iff] at hleft
    refine (Table.isSome_lookup_erase _ _ _).mpr ⟨h.consistent.project id row hleft.1 p hp, fun heq => ?_⟩
    rw [hp, heq, decide_eq_true rfl] at hleft
    exact Bool.false_ne_true hleft.2
  · obtain ⟨c, hc⟩ := Option.isSome_iff_exists.mp hkey
    have hleft : (Table.eraseWhere db.invoicePosition fun key _ =>
        key.2 ∈ (db.invoice.entries.filter fun e => e.2.projectId = some n).map Sigma.fst).lookup key = some c := hc
    rw [Table.lookup_eraseWhere, Option.filter_eq_some_iff, Bool.not_eq_true', decide_eq_false_iff_not] at hleft
    have hknown := h.consistent.invoice key (Option.isSome_iff_exists.mpr ⟨c, hleft.1⟩)
    have hlookup := Table.lookup_eraseAll db.invoice ((db.invoice.entries.filter fun e => e.2.projectId = some n).map Sigma.fst) key.2
    rw [if_neg hleft.2] at hlookup
    exact (congrArg Option.isSome hlookup).trans hknown

/-- A DELETE by id on the rows and on the tables. -/
theorem pruned_effect (resource : Pruned) (fk cv : Bool) :
    (syncSchema.run sameInteger .null tables fk cv (.delete resource.name [(bytes "id", .integer n)])).1 =
        (resource.delete db n fk cv).1 ∧
      Mirrored lib xxh3 calls (syncSchema.run sameInteger .null tables fk cv (.delete resource.name [(bytes "id", .integer n)])).2
        (resource.delete db n fk cv).2 := by
  rw [schema_delete]
  cases resource with
  | contact =>
    have hkept : syncSchema.kept sameInteger .null tables (goneRows tables Pruned.contact.name [(bytes "id", .integer n)]) =
      ((db.contact.lookup n).isSome && db.keepsContact n) := kept_contact h hfits
    rw [hkept, Pruned.delete, Database.deleteContact]
    by_cases hrefused : (fk || ((db.contact.lookup n).isSome && db.keepsContact n)) = true
    · rw [if_pos hrefused, if_pos hrefused]
      exact ⟨rfl, h⟩
    · rw [if_neg hrefused, if_neg hrefused]
      exact ⟨rfl, removed_contact h hfits⟩
  | project =>
    rw [kept_eq_false (by decide), Bool.or_false, Pruned.delete]
    by_cases hrefused : fk = true
    · rw [if_pos hrefused, Database.deleteProject, if_pos hrefused]
      exact ⟨rfl, h⟩
    · refine ⟨?_, ?_⟩
      · rw [if_neg hrefused, Database.deleteProject, if_neg hrefused]
      · rw [if_neg hrefused]
        exact removed_project h hfits fk cv (Bool.eq_false_iff.mpr hrefused)
  | invoice =>
    rw [kept_eq_false (by decide), Bool.or_false, Pruned.delete, Database.deleteInvoice]
    by_cases hrefused : fk = true
    · rw [if_pos hrefused, if_pos hrefused]
      exact ⟨rfl, h⟩
    · rw [if_neg hrefused, if_neg hrefused]
      exact ⟨rfl, removed_invoice h hfits⟩
  | file =>
    rw [kept_eq_false (by decide), Bool.or_false, Pruned.delete, Database.deleteFile]
    by_cases hrefused : fk = true
    · rw [if_pos hrefused, if_pos hrefused]
      exact ⟨rfl, h⟩
    · rw [if_neg hrefused, if_neg hrefused]
      exact ⟨rfl, removed_file h hfits⟩

theorem steps_pruned (resource : Pruned) (id : UInt64) (exec : Exec) : Steps lib xxh3 calls tables db (.pruned resource id exec) := by
  have hrelated := exec.run_related (R := fun tables' db' => Mirrored lib xxh3 calls tables' db') h
    (fun fk cv _ => pruned_effect h hfits (n := id.toNat) resource fk cv)
  refine ⟨_, ?_, hrelated.2⟩
  rw [RowCall.run, pruneSql_eq, Option.map_some, hrelated.1]
  rfl

/-! ### Runs -/

theorem Mirrored.step {call : RowCall} (hcall : call ∈ calls) : Steps lib xxh3 calls tables db call := by
  cases call with
  | contact archived state countries behind obj now a => exact steps_contact h hfits hcall
  | groups contactId gids a => exact steps_groups h hfits hcall
  | project state obj now a => exact steps_project h hfits hcall
  | invoice state json now a => exact steps_invoice h hfits hcall
  | position invoiceId obj now a => exact steps_position h hfits hcall
  | file obj now a => exact steps_file h hfits hcall
  | pruned resource id exec => exact steps_pruned h hfits resource id exec

end

/-- What a run of calls leaves. -/
theorem Mirrored.run (hfits : ∀ call ∈ calls, call.fits = true) {rest : List RowCall} (hrest : ∀ call ∈ rest, call ∈ calls)
    (h : Mirrored lib xxh3 calls tables db) :
    ∃ tables', runRows lib xxh3 rest tables = some ((runModel lib xxh3 rest db).1, tables') ∧
      Mirrored lib xxh3 calls tables' (runModel lib xxh3 rest db).2 := by
  induction rest generalizing tables db with
  | nil => exact ⟨tables, rfl, h⟩
  | cons call rest ih =>
    obtain ⟨tables', hrun, hstep⟩ := h.step hfits (hrest call List.mem_cons_self)
    obtain ⟨tables'', hruns, hsteps⟩ := ih (fun call hcall => hrest call (List.mem_cons_of_mem _ hcall)) hstep
    refine ⟨tables'', ?_, hsteps⟩
    rw [runRows, hrun]
    dsimp only
    rw [hruns, Option.map_some]
    rfl

end

/-- Every run of calls on the rows answers as the model does, and the rows it leaves are those of the model, each with the
    values of one call in all its columns. -/
theorem rows_refine (lib : TextLib) (xxh3 : List UInt8 → UInt64) (calls : List RowCall) (hfits : ∀ call ∈ calls, call.fits = true) :
    ∃ tables, runRows lib xxh3 calls (fun _ => []) = some ((runModel lib xxh3 calls Database.empty).1, tables) ∧
      Mirrored lib xxh3 calls tables (runModel lib xxh3 calls Database.empty).2 :=
  mirrored_empty.run hfits fun _ hcall => hcall

/-- A contact, a project that names it, and the DELETE of the contact. -/
def keptCalls : List RowCall :=
  [.contact false .cacheNotSet [] [] (.object [("id", .integer 3)]) 100 .quiet,
    .project .cacheNotSet (.object [("id", .integer 5), ("contact_id", .integer 3)]) 100 .quiet,
    .pruned .contact 3 (.ran false false)]

/-- The DELETE is refused. -/
theorem rows_refine_kept :
    ∃ tables, runRows plainText smallHash keptCalls (fun _ => []) =
        some ([.stmt (.done false), .error .noError, .stmt (.failed false)], tables) ∧
      Mirrored plainText smallHash keptCalls tables (runModel plainText smallHash keptCalls Database.empty).2 :=
  rows_refine plainText smallHash keptCalls (by decide)

end BxSync
