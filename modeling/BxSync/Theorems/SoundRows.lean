import BxSync.Theorems.MirrorTexts
import BxSync.Theorems.RowDeletes
import BxSync.Theorems.UpsertAlignment

/-! The rows that the calls of the sync store: the values that are sent for their columns, and what the model reads of
    them. -/

namespace BxSync

open Sql (Name Write bytes)

/-! ### The rows of a call -/

inductive RowTable
  | contact
  | cg2c
  | project
  | invoice
  | position
  | file
deriving DecidableEq

namespace RowTable

def name : RowTable → Name
  | contact => bytes "contact"
  | cg2c => bytes "cg2c"
  | project => bytes "pr_project"
  | invoice => bytes "invoice"
  | position => bytes "invoice_position"
  | file => bytes "bx_file"

/-- The columns that are stored, with the names of their values. -/
def pairs : RowTable → List (Name × Name)
  | contact => pairsOf contactColumns contactColumns
  | cg2c => pairsOf ["contact_group", "contact"] ["gid", "cid"]
  | project => pairsOf projectColumns projectColumns
  | invoice => pairsOf invoiceColumns invoiceColumns
  | position => pairsOf positionColumns positionNames
  | file => pairsOf fileColumns fileColumns

/-- The row with the values of these names in all its columns. -/
def row (t : RowTable) (bindings : List (Name × BoundValue)) : SqlRow := storedRow t.name t.pairs (sentOf bindings)

theorem name_injective {t t' : RowTable} (h : t.name = t'.name) : t = t' := by
  revert t t'
  have hall : ∀ t ∈ [contact, cg2c, project, invoice, position, file],
      ∀ t' ∈ [contact, cg2c, project, invoice, position, file], t.name = t'.name → t = t' := by decide
  intro t t' h
  exact hall t (by cases t <;> simp) t' (by cases t' <;> simp) h

end RowTable

section

variable (lib : TextLib) (xxh3 : List UInt8 → UInt64)

/-- What a call binds for each row it may store. -/
def RowCall.stores : RowCall → List (RowTable × List (Name × BoundValue))
  | contact archived _ countries _ obj now _ =>
    [(.contact, contactBindings lib xxh3 archived (bxCountryCodeLoad lib countries) obj now)]
  | groups contactId gids _ => gids.map fun gid => (.cg2c, [boundUint64 "gid" gid, boundUint64 "cid" contactId])
  | project _ obj now _ => [(.project, projectBindings lib xxh3 obj now)]
  | invoice _ json now _ => [(.invoice, invoiceBindings lib xxh3 json.object now)]
  | position invoiceId obj now _ => [(.position, positionBindings lib xxh3 "invoice_position" invoiceId obj now)]
  | file obj now _ => [(.file, fileBindings lib xxh3 obj now)]
  | pruned _ _ _ => []

end

/-- Numbers are bound as signed ones. -/
def fitKeys (keys : List String) (obj : Json) : Bool := keys.all fun key => (bxObjectGetJsonUint obj key).all fun n => n.toNat < 2 ^ 63

/-- The ids that a call is given are not beyond the sign bit, and no table stands behind the groups. -/
def RowCall.fits : RowCall → Bool
  | contact _ _ _ _ obj _ _ => fitKeys ["id"] obj
  | groups _ _ a => !a.unlinkGroups.refused
  | project _ obj _ _ => fitKeys ["id", "contact_id"] obj
  | invoice _ json _ _ => fitKeys ["id", "contact_id", "project_id"] json.object
  | position _ obj _ _ => fitKeys ["id"] obj
  | file obj _ _ => fitKeys ["id"] obj
  | pruned _ _ _ => true

/-! ### What is sent -/

def jsonId (obj : Json) (key : String) : Option Nat := (bxObjectGetJsonUint obj key).map UInt64.toNat

theorem fitKeys_mem {keys : List String} {obj : Json} (h : fitKeys keys obj = true) {key : String} (hkey : key ∈ keys) {n : UInt64}
    (hn : bxObjectGetJsonUint obj key = some n) : n.toNat < 2 ^ 63 := by
  have := List.all_eq_true.mp h key hkey
  rw [hn, Option.all_some, decide_eq_true_iff] at this
  exact this

theorem sent_uint {value : Option UInt64} (h : ∀ n, value = some n → n.toNat < 2 ^ 63) :
    (BXSlot.uint value).bound.sent = sentId (value.map UInt64.toNat) := by
  rw [sent_bound fun n hn => h n (BXSlot.uint.inj hn)]
  cases value <;> rfl

/-- An id of 0 is unset. -/
theorem sent_unsetIfZero {value : Option UInt64} (h : ∀ n, value = some n → n.toNat < 2 ^ 63) :
    (unsetIfZero (.uint value)).bound.sent = sentId ((value.map UInt64.toNat).filter (· ≠ 0)) := by
  cases value with
  | none => rfl
  | some n =>
    by_cases hn : n = 0
    · subst hn
      rfl
    · have hne : n.toNat ≠ 0 := fun h0 => hn (UInt64.toNat_inj.mp h0)
      have hslot : unsetIfZero (.uint (some n)) = .uint (some n) := by
        unfold unsetIfZero
        split
        · rename_i heq
          exact absurd (Option.some.inj (BXSlot.uint.inj heq)) hn
        · rfl
      rw [hslot, sent_uint h, Option.map_some, Option.filter_some, if_pos (decide_eq_true hne)]

section

variable {insertText updateText : List UInt8} {ignore : Bool} {table : Name} {pairs : List (Name × Name)} {bound : List Name}
  (R : RowTexts insertText updateText ignore table pairs bound) {lib : TextLib} {zeros : List String} {fields : List BXJsonField}
  {obj : Json} {own : List (Name × BoundValue)} (hb : (boundFields lib zeros fields obj ++ own).map Prod.fst = bound)
include R hb

/-- A field is sent under its name. -/
theorem sentOf_field {f : BXJsonField} (hf : f ∈ fields) : sentOf (boundFields lib zeros fields obj ++ own) (fname f) =
    (if f.key ∈ zeros then unsetIfZero (readSlot lib obj f.key f.kind) else readSlot lib obj f.key f.kind).bound.sent :=
  sentOf_of_mem R hb (List.mem_append_left _ (List.mem_map_of_mem hf))

theorem sentOf_own {b : Name × BoundValue} (hmem : b ∈ own) : sentOf (boundFields lib zeros fields obj ++ own) b.1 = b.2.sent :=
  sentOf_of_mem R hb (List.mem_append_right _ hmem)

theorem sentOf_uint {key : String} (hf : ⟨key, none, .uint⟩ ∈ fields) (hzero : key ∉ zeros) {keys : List String}
    (hfits : fitKeys keys obj = true) (hkey : key ∈ keys) :
    sentOf (boundFields lib zeros fields obj ++ own) (asciiBytes key) = sentId (jsonId obj key) := by
  refine (sentOf_field R hb hf).trans ?_
  rw [if_neg hzero]
  exact sent_uint fun n hn => fitKeys_mem hfits hkey hn

theorem sentOf_zero {key : String} (hf : ⟨key, none, .uint⟩ ∈ fields) (hzero : key ∈ zeros) {keys : List String}
    (hfits : fitKeys keys obj = true) (hkey : key ∈ keys) :
    sentOf (boundFields lib zeros fields obj ++ own) (asciiBytes key) = sentId ((jsonId obj key).filter (· ≠ 0)) := by
  refine (sentOf_field R hb hf).trans ?_
  rw [if_pos hzero]
  exact sent_unsetIfZero fun n hn => fitKeys_mem hfits hkey hn

end

/-! ### What is read of a row -/

def idOf : SqlValue → Option Nat
  | .integer n => some n.toNat
  | _ => none

theorem idOf_sentId (id : Option Nat) : idOf (sentId id) = id := by cases id <;> rfl

def rowChecksum (row : SqlRow) : Nat := natOf (row (bytes "_checksum"))

def contactView (row : SqlRow) : ContactRow where
  checksum := rowChecksum row
  archived := row (bytes "_archived") = .integer 1

def projectView (row : SqlRow) : ProjectRow where
  checksum := rowChecksum row
  contactId := idOf (row (bytes "contact_id"))

def invoiceView (row : SqlRow) : InvoiceRow where
  checksum := rowChecksum row
  contactId := idOf (row (bytes "contact_id"))
  projectId := idOf (row (bytes "project_id"))

def linkKey (row : SqlRow) : Nat × Nat := (natOf (row (bytes "contact_group")), natOf (row (bytes "contact")))

def positionRowKey (row : SqlRow) : Nat × Nat := (natOf (row (bytes "id")), natOf (row (bytes "_invoice_id")))

/-- The rows of a table are the map that the model keeps. -/
def RowTable.Holds (tables : SqlTables) (db : Database) : RowTable → Prop
  | contact => MapOf rowId contactView (tables (bytes "contact")) db.contact.lookup
  | cg2c => MapOf linkKey (fun _ => ()) (tables (bytes "cg2c")) db.cg2c.lookup
  | project => MapOf rowId projectView (tables (bytes "pr_project")) db.project.lookup
  | invoice => MapOf rowId invoiceView (tables (bytes "invoice")) db.invoice.lookup
  | position => MapOf positionRowKey rowChecksum (tables (bytes "invoice_position")) db.invoicePosition.lookup
  | file => MapOf rowId rowChecksum (tables (bytes "bx_file")) db.file.lookup

/-- Two databases have one table. -/
def RowTable.Same (db db' : Database) : RowTable → Prop
  | contact => db'.contact = db.contact
  | cg2c => db'.cg2c = db.cg2c
  | project => db'.project = db.project
  | invoice => db'.invoice = db.invoice
  | position => db'.invoicePosition = db.invoicePosition
  | file => db'.file = db.file

theorem RowTable.Holds.congr {t : RowTable} {tables tables' : SqlTables} {db db' : Database} (h : t.Holds tables db)
    (htables : tables' t.name = tables t.name) (hsame : t.Same db db') : t.Holds tables' db' := by
  cases t <;> (unfold RowTable.Holds RowTable.Same RowTable.name at *; dsimp only at *; rw [htables, hsame]; exact h)

/-- What is known of a row that a call stores. -/
structure RowTable.Sound (t : RowTable) (row : SqlRow) : Prop where
  key : NaturalKey t.name row
  contactId : t = .project ∨ t = .invoice → ∃ id, row (bytes "contact_id") = sentId id
  projectId : t = .invoice → ∃ id, row (bytes "project_id") = sentId id
  checksum : t ≠ .cg2c → ∃ c : UInt64, row (bytes "_checksum") = .integer c.toNat

/-! ### Rows that are sound -/

theorem storedRow_column {table : Name} {pairs : List (Name × Name)} {w : Name → SqlValue} (hcolumns : (pairs.map Prod.fst).Nodup)
    {c n : Name} (hp : (c, n) ∈ pairs) (hkey : c ∉ syncSchema.key table) : storedRow table pairs w c = w n :=
  storedRow_of_mem (p := (c, n)) hcolumns hp (Or.inl hkey)

theorem naturalKey_of {table : Name} {pairs : List (Name × Name)} {w : Name → SqlValue} (hcolumns : (pairs.map Prod.fst).Nodup)
    (hkeyed : ∀ c ∈ syncSchema.key table, c ∈ pairs.map Prod.fst)
    (hnatural : ∀ p ∈ keyPairs table pairs, ∃ id, w p.2 = sentId id) : NaturalKey table (storedRow table pairs w) := by
  intro c hc
  obtain ⟨p, hp, rfl⟩ := List.mem_map.mp (hkeyed c hc)
  obtain ⟨id, hid⟩ := hnatural p (List.mem_filter.mpr ⟨hp, decide_eq_true hc⟩)
  cases id with
  | none => exact ⟨0, storedRow_keyless hcolumns hp hc hid⟩
  | some n =>
    refine ⟨n, (storedRow_of_mem hcolumns hp (Or.inr ?_)).trans hid⟩
    rw [hid]
    exact SqlValue.noConfusion

section

variable {lib : TextLib} {xxh3 : List UInt8 → UInt64} {obj : Json} {now : UInt64}

theorem contact_sentId {archived : Bool} {countries : List Country} (h : fitKeys ["id"] obj = true) :
    sentOf (contactBindings lib xxh3 archived countries obj now) (bytes "id") = sentId (jsonId obj "id") :=
  sentOf_uint contact_texts (contactBindings_fst lib xxh3 archived countries obj now) (by decide) (by decide) h (by decide)

theorem project_sentId {key : String} (hkey : key ∈ ["id", "contact_id"]) (h : fitKeys ["id", "contact_id"] obj = true) :
    sentOf (projectBindings lib xxh3 obj now) (asciiBytes key) = sentId (jsonId obj key) := by
  have hmem : ∀ key ∈ ["id", "contact_id"], (⟨key, none, .uint⟩ : BXJsonField) ∈ projectBound := by decide
  exact sentOf_uint project_texts (projectBindings_fst lib xxh3 obj now) (hmem key hkey) List.not_mem_nil h hkey

theorem invoice_sentId {key : String} (hkey : key ∈ ["id", "contact_id"]) (h : fitKeys ["id", "contact_id", "project_id"] obj = true) :
    sentOf (invoiceBindings lib xxh3 obj now) (asciiBytes key) = sentId (jsonId obj key) := by
  have hmem : ∀ key ∈ ["id", "contact_id"],
      (⟨key, none, .uint⟩ : BXJsonField) ∈ invoiceBound ∧ key ∉ ["project_id"] ∧ key ∈ ["id", "contact_id", "project_id"] := by
    decide
  obtain ⟨hbound, hzero, hfit⟩ := hmem key hkey
  exact sentOf_uint invoice_texts (invoiceBindings_fst lib xxh3 obj now) hbound hzero h hfit

theorem invoice_sentProject (h : fitKeys ["id", "contact_id", "project_id"] obj = true) :
    sentOf (invoiceBindings lib xxh3 obj now) (bytes "project_id") = sentId ((jsonId obj "project_id").filter (· ≠ 0)) :=
  sentOf_zero invoice_texts (invoiceBindings_fst lib xxh3 obj now) (by decide) List.mem_cons_self h (by decide)

theorem position_sentId {docId : UInt64} (h : fitKeys ["id"] obj = true) :
    sentOf (positionBindings lib xxh3 "invoice_position" docId obj now) (bytes "id") = sentId (jsonId obj "id") :=
  sentOf_uint position_texts (positionBindings_fst lib xxh3 "invoice_position" docId obj now) (by decide) (by decide) h
    (by decide)

theorem position_sentParent (docId : UInt64) :
    sentOf (positionBindings lib xxh3 "invoice_position" docId obj now) (bytes "_parent") = sentId (some docId.toNat) :=
  sentOf_own position_texts (positionBindings_fst lib xxh3 "invoice_position" docId obj now) (b := boundUint64 "_parent" docId)
    List.mem_cons_self

theorem position_rowKey (row row' : SqlRow) :
    positionRowKey row = positionRowKey row' ↔ ∀ c ∈ syncSchema.key (bytes "invoice_position"), natOf (row c) = natOf (row' c) := by
  have hkey : syncSchema.key (bytes "invoice_position") = [bytes "id", bytes "_invoice_id"] := by decide
  rw [hkey]
  simp [positionRowKey]

theorem file_sentId (h : fitKeys ["id"] obj = true) :
    sentOf (fileBindings lib xxh3 obj now) (bytes "id") = sentId (jsonId obj "id") :=
  sentOf_uint file_texts (fileBindings_fst lib xxh3 obj now) (by decide) List.not_mem_nil h (by decide)

theorem link_sent (gid cid : UInt64) :
    sentOf [boundUint64 "gid" gid, boundUint64 "cid" cid] (bytes "gid") = sentId (some gid.toNat) ∧
      sentOf [boundUint64 "gid" gid, boundUint64 "cid" cid] (bytes "cid") = sentId (some cid.toNat) :=
  ⟨rfl, rfl⟩

/-! ### Columns -/

theorem contact_key : syncSchema.key (bytes "contact") = [bytes "id"] := by decide

theorem project_key : syncSchema.key (bytes "pr_project") = [bytes "id"] := by decide

theorem invoice_key : syncSchema.key (bytes "invoice") = [bytes "id"] := by decide

theorem file_key : syncSchema.key (bytes "bx_file") = [bytes "id"] := by decide

theorem position_keyPairs :
    keyPairs RowTable.position.name RowTable.position.pairs = [(bytes "id", bytes "id"), (bytes "_invoice_id", bytes "_parent")] := by
  decide

theorem file_keyPairs : keyPairs RowTable.file.name RowTable.file.pairs = [(bytes "id", bytes "id")] := by decide

theorem link_keyPairs :
    keyPairs RowTable.cg2c.name RowTable.cg2c.pairs = [(bytes "contact_group", bytes "gid"), (bytes "contact", bytes "cid")] := by
  decide

/-- The id and the checksum are columns of their own names. -/
theorem id_mem {t : RowTable} (h : t ≠ .cg2c) : (bytes "id", bytes "id") ∈ t.pairs := by
  have hall : ∀ t ∈ [RowTable.contact, .project, .invoice, .position, .file], (bytes "id", bytes "id") ∈ t.pairs := by decide
  exact hall t (by cases t <;> simp at h ⊢)

theorem checksum_mem {t : RowTable} (h : t ≠ .cg2c) :
    (bytes "_checksum", bytes "_checksum") ∈ t.pairs ∧ bytes "_checksum" ∉ syncSchema.key t.name := by
  have hall : ∀ t ∈ [RowTable.contact, .project, .invoice, .position, .file],
      (bytes "_checksum", bytes "_checksum") ∈ t.pairs ∧ bytes "_checksum" ∉ syncSchema.key t.name := by decide
  exact hall t (by cases t <;> simp at h ⊢)

theorem contactId_mem {t : RowTable} (h : t = .project ∨ t = .invoice) :
    (bytes "contact_id", bytes "contact_id") ∈ t.pairs ∧ bytes "contact_id" ∉ syncSchema.key t.name := by
  have hall : ∀ t ∈ [RowTable.project, .invoice],
      (bytes "contact_id", bytes "contact_id") ∈ t.pairs ∧ bytes "contact_id" ∉ syncSchema.key t.name := by decide
  exact hall t (by simpa using h)

theorem projectId_mem : (bytes "project_id", bytes "project_id") ∈ RowTable.invoice.pairs ∧
    bytes "project_id" ∉ syncSchema.key (bytes "invoice") := by
  decide

theorem archived_mem : (bytes "_archived", bytes "_archived") ∈ RowTable.contact.pairs ∧
    bytes "_archived" ∉ syncSchema.key (bytes "contact") := by
  decide

theorem columns_nodup (t : RowTable) : (t.pairs.map Prod.fst).Nodup := by
  cases t with
  | contact => exact contact_texts.columns
  | cg2c => decide
  | project => exact project_texts.columns
  | invoice => exact invoice_texts.columns
  | position => exact position_texts.columns
  | file => exact file_texts.columns

theorem columns_keyed (t : RowTable) : ∀ c ∈ syncSchema.key t.name, c ∈ t.pairs.map Prod.fst := by
  cases t with
  | contact => exact contact_texts.keyed
  | cg2c => decide
  | project => exact project_texts.keyed
  | invoice => exact invoice_texts.keyed
  | position => exact position_texts.keyed
  | file => exact file_texts.keyed

/-! ### The checksum -/

theorem contact_sentChecksum (archived : Bool) (countries : List Country) :
    sentOf (contactBindings lib xxh3 archived countries obj now) (bytes "_checksum") =
      .integer (fieldsChecksum lib xxh3 contactFields obj).toNat :=
  sentOf_own contact_texts (contactBindings_fst lib xxh3 archived countries obj now)
    (b := boundUint64 "_checksum" (fieldsChecksum lib xxh3 contactFields obj)) (List.mem_cons_of_mem _ List.mem_cons_self)

theorem contact_sentArchived (archived : Bool) (countries : List Country) :
    sentOf (contactBindings lib xxh3 archived countries obj now) (bytes "_archived") = .integer (if archived then 1 else 0) :=
  sentOf_own contact_texts (contactBindings_fst lib xxh3 archived countries obj now) (b := (asciiBytes "_archived", .tiny archived))
    List.mem_cons_self

theorem project_sentChecksum : sentOf (projectBindings lib xxh3 obj now) (bytes "_checksum") =
    .integer (fieldsChecksum lib xxh3 projectFields obj).toNat :=
  sentOf_own project_texts (projectBindings_fst lib xxh3 obj now)
    (b := boundUint64 "_checksum" (fieldsChecksum lib xxh3 projectFields obj)) List.mem_cons_self

theorem invoice_sentChecksum : sentOf (invoiceBindings lib xxh3 obj now) (bytes "_checksum") =
    .integer (xxh3 (invoiceBytes lib obj)).toNat :=
  sentOf_own invoice_texts (invoiceBindings_fst lib xxh3 obj now) (b := boundUint64 "_checksum" (xxh3 (invoiceBytes lib obj)))
    List.mem_cons_self

theorem position_sentChecksum (docId : UInt64) :
    sentOf (positionBindings lib xxh3 "invoice_position" docId obj now) (bytes "_checksum") =
      .integer (positionChecksum lib xxh3 "invoice_position" obj).toNat :=
  sentOf_own position_texts (positionBindings_fst lib xxh3 "invoice_position" docId obj now)
    (b := boundUint64 "_checksum" (positionChecksum lib xxh3 "invoice_position" obj)) (List.mem_cons_of_mem _ List.mem_cons_self)

theorem file_sentChecksum : sentOf (fileBindings lib xxh3 obj now) (bytes "_checksum") =
    .integer (fieldsChecksum lib xxh3 fileFields obj).toNat :=
  sentOf_own file_texts (fileBindings_fst lib xxh3 obj now)
    (b := boundUint64 "_checksum" (fieldsChecksum lib xxh3 fileFields obj)) List.mem_cons_self

section

variable {t : RowTable} {b : List (Name × BoundValue)}

theorem row_checksum (ht : t ≠ .cg2c) {c : UInt64} (hc : sentOf b (bytes "_checksum") = .integer c.toNat) :
    t.row b (bytes "_checksum") = .integer c.toNat :=
  (storedRow_column (columns_nodup t) (checksum_mem ht).1 (checksum_mem ht).2).trans hc

theorem row_contactId (ht : t = .project ∨ t = .invoice) {id : Option Nat} (hid : sentOf b (bytes "contact_id") = sentId id) :
    t.row b (bytes "contact_id") = sentId id :=
  (storedRow_column (columns_nodup t) (contactId_mem ht).1 (contactId_mem ht).2).trans hid

theorem row_projectId {id : Option Nat} (hid : sentOf b (bytes "project_id") = sentId id) :
    RowTable.invoice.row b (bytes "project_id") = sentId id :=
  (storedRow_column (columns_nodup .invoice) projectId_mem.1 projectId_mem.2).trans hid

theorem row_archived {archived : Bool} (ha : sentOf b (bytes "_archived") = .integer (if archived then 1 else 0)) :
    RowTable.contact.row b (bytes "_archived") = .integer (if archived then 1 else 0) :=
  (storedRow_column (columns_nodup .contact) archived_mem.1 archived_mem.2).trans ha

theorem rowChecksum_row (ht : t ≠ .cg2c) {c : UInt64} (hc : sentOf b (bytes "_checksum") = .integer c.toNat) :
    rowChecksum (t.row b) = c.toNat := by
  rw [rowChecksum, row_checksum ht hc]
  rfl

theorem contactView_row {archived : Bool} {c : UInt64} (hc : sentOf b (bytes "_checksum") = .integer c.toNat)
    (ha : sentOf b (bytes "_archived") = .integer (if archived then 1 else 0)) :
    contactView (RowTable.contact.row b) = { checksum := c.toNat, archived } := by
  rw [contactView, rowChecksum_row (by decide) hc, row_archived ha]
  cases archived <;> rfl

theorem projectView_row {c : UInt64} (hc : sentOf b (bytes "_checksum") = .integer c.toNat) {id : Option Nat}
    (hid : sentOf b (bytes "contact_id") = sentId id) :
    projectView (RowTable.project.row b) = { checksum := c.toNat, contactId := id } := by
  rw [projectView, rowChecksum_row (by decide) hc, row_contactId (Or.inl rfl) hid, idOf_sentId]

theorem invoiceView_row {c : UInt64} (hc : sentOf b (bytes "_checksum") = .integer c.toNat) {id id' : Option Nat}
    (hid : sentOf b (bytes "contact_id") = sentId id) (hid' : sentOf b (bytes "project_id") = sentId id') :
    invoiceView (RowTable.invoice.row b) = { checksum := c.toNat, contactId := id, projectId := id' } := by
  rw [invoiceView, rowChecksum_row (by decide) hc, row_contactId (Or.inr rfl) hid, row_projectId hid', idOf_sentId, idOf_sentId]

/-- The id decides, and what the model reads is what was sent. -/
theorem sound_of_id (ht : t ≠ .cg2c) (hid : syncSchema.key t.name = [bytes "id"]) {id : Option Nat}
    (hb : sentOf b (bytes "id") = sentId id) {c : UInt64} (hc : sentOf b (bytes "_checksum") = .integer c.toNat)
    (hcontact : t = .project ∨ t = .invoice → ∃ id, sentOf b (bytes "contact_id") = sentId id)
    (hproject : t = .invoice → ∃ id, sentOf b (bytes "project_id") = sentId id) : t.Sound (t.row b) where
  key := by
    refine naturalKey_of (columns_nodup t) (columns_keyed t) fun p hp => ?_
    obtain rfl : p = (bytes "id", bytes "id") :=
      List.inj_on_of_nodup_map (columns_nodup t) (List.mem_filter.mp hp).1 (id_mem ht) (fst_of_keyPairs hid hp)
    exact ⟨id, hb⟩
  contactId h := by
    obtain ⟨id, hid⟩ := hcontact h
    exact ⟨id, row_contactId h hid⟩
  projectId h := by
    obtain ⟨projectId, hprojectId⟩ := hproject h
    subst h
    exact ⟨projectId, row_projectId hprojectId⟩
  checksum _ := ⟨c, row_checksum ht hc⟩

end

/-! ### Keys of two columns -/

section

variable {t : RowTable} {b : List (Name × BoundValue)} {c c' p p' : Name} (hpairs : keyPairs t.name t.pairs = [(c, p), (c', p')])
  {id id' : Option Nat} (hid : sentOf b p = sentId id) (hid' : sentOf b p' = sentId id')
include hpairs hid hid'

theorem naturalKey_two : NaturalKey t.name (t.row b) := by
  refine naturalKey_of (columns_nodup t) (columns_keyed t) fun q hq => ?_
  rw [hpairs] at hq
  rcases List.mem_cons.mp hq with rfl | hq
  · exact ⟨id, hid⟩
  · rw [List.mem_singleton.mp hq]
    exact ⟨id', hid'⟩

variable {n n' : Nat} (hn : id = some n) (hn' : id' = some n')
include hn hn'

theorem set_two : ∀ q ∈ keyPairs t.name t.pairs, sentOf b q.2 ≠ .null := by
  intro q hq
  rw [hpairs] at hq
  rcases List.mem_cons.mp hq with rfl | hq
  · rw [hid, hn]
    exact SqlValue.noConfusion
  · rw [List.mem_singleton.mp hq, hid', hn']
    exact SqlValue.noConfusion

theorem row_two : natOf (t.row b c) = n ∧ natOf (t.row b c') = n' := by
  have hset := set_two hpairs hid hid' hn hn'
  have hmem : ∀ q ∈ keyPairs t.name t.pairs, t.row b q.1 = sentOf b q.2 := fun q hq =>
    storedRow_of_mem (columns_nodup t) (List.mem_filter.mp hq).1 (Or.inr (hset q hq))
  rw [hpairs] at hmem
  rw [hmem (c, p) List.mem_cons_self, hmem (c', p') (List.mem_cons_of_mem _ List.mem_cons_self), hid, hid', hn, hn']
  exact ⟨rfl, rfl⟩

end

end

theorem RowCall.sound {lib : TextLib} {xxh3 : List UInt8 → UInt64} {call : RowCall} (hfits : call.fits = true) {t : RowTable}
    {b : List (Name × BoundValue)} (hmem : (t, b) ∈ call.stores lib xxh3) : t.Sound (t.row b) := by
  cases call with
  | contact archived state countries behind obj now a =>
    obtain ⟨rfl, rfl⟩ := Prod.mk.inj (List.mem_singleton.mp hmem)
    exact sound_of_id (by decide) contact_key (contact_sentId hfits) (contact_sentChecksum archived _)
      (fun h => absurd h (by decide)) fun h => absurd h (by decide)
  | groups contactId gids a =>
    obtain ⟨gid, -, heq⟩ := List.mem_map.mp hmem
    obtain ⟨rfl, rfl⟩ := Prod.mk.inj heq
    obtain ⟨hgid, hcid⟩ := link_sent gid contactId
    exact ⟨naturalKey_two link_keyPairs hgid hcid, fun h => absurd h (by decide), fun h => absurd h (by decide),
      fun h => absurd rfl h⟩
  | project state obj now a =>
    obtain ⟨rfl, rfl⟩ := Prod.mk.inj (List.mem_singleton.mp hmem)
    exact sound_of_id (by decide) project_key (project_sentId List.mem_cons_self hfits) project_sentChecksum
      (fun _ => ⟨jsonId _ "contact_id", project_sentId (by decide) hfits⟩) fun h => absurd h (by decide)
  | invoice state json now a =>
    obtain ⟨rfl, rfl⟩ := Prod.mk.inj (List.mem_singleton.mp hmem)
    exact sound_of_id (by decide) invoice_key (invoice_sentId List.mem_cons_self hfits) invoice_sentChecksum
      (fun _ => ⟨jsonId _ "contact_id", invoice_sentId (by decide) hfits⟩) fun _ => ⟨_, invoice_sentProject hfits⟩
  | position invoiceId obj now a =>
    obtain ⟨rfl, rfl⟩ := Prod.mk.inj (List.mem_singleton.mp hmem)
    exact ⟨naturalKey_two position_keyPairs (position_sentId hfits) (position_sentParent invoiceId), fun h => absurd h (by decide),
      fun h => absurd h (by decide), fun h => ⟨_, row_checksum h (position_sentChecksum invoiceId)⟩⟩
  | file obj now a =>
    obtain ⟨rfl, rfl⟩ := Prod.mk.inj (List.mem_singleton.mp hmem)
    exact sound_of_id (by decide) file_key (file_sentId hfits) file_sentChecksum (fun h => absurd h (by decide))
      fun h => absurd h (by decide)
  | pruned resource id exec => exact absurd hmem List.not_mem_nil

end BxSync
