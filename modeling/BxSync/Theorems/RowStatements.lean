import BxSync.Theorems.MirrorTexts
import BxSync.Theorems.StoredRows

/-! Storing a row with the INSERT or the UPDATE of its table: its key, the rows it names, and the table that keeps what is
    read of it. -/

namespace BxSync

open Sql (Name Write bytes)

/-! ### Keys -/

def natOf : SqlValue → Nat
  | .integer n => n.toNat
  | _ => 0

/-- The key of a row is of natural numbers. -/
def NaturalKey (table : Name) (row : SqlRow) : Prop := ∀ c ∈ syncSchema.key table, ∃ n : Nat, row c = .integer n

theorem sameInteger_natural {a b : SqlValue} (ha : ∃ m : Nat, a = .integer m) (hb : ∃ n : Nat, b = .integer n) :
    sameInteger a b = decide (natOf a = natOf b) := by
  obtain ⟨m, rfl⟩ := ha
  obtain ⟨n, rfl⟩ := hb
  rw [Bool.eq_iff_iff, decide_eq_true_iff]
  simp [sameInteger, natOf]

section

variable {κ : Type} [DecidableEq κ] {table : Name} {key : SqlRow → κ}
  (hkey : ∀ row row', key row = key row' ↔ ∀ c ∈ syncSchema.key table, natOf (row c) = natOf (row' c))
include hkey

theorem sameKey_eq {r row : SqlRow} (hr : NaturalKey table r) (hrow : NaturalKey table row) :
    syncSchema.sameKey sameInteger table r row = decide (key row = key r) := by
  rw [Bool.eq_iff_iff, decide_eq_true_iff, hkey, Sql.Schema.sameKey, List.all_eq_true]
  refine forall_congr' fun c => forall_congr' fun hc => ?_
  rw [sameInteger_natural (hr c hc) (hrow c hc), decide_eq_true_iff]
  exact eq_comm

end

section

variable {table : Name} {pairs : List (Name × Name)} {w : Name → SqlValue}

/-- The condition of an UPDATE is that a row has the key of the row that is stored. -/
theorem meets_keyPairs (hcolumns : (pairs.map Prod.fst).Nodup) (hkeyed : ∀ c ∈ syncSchema.key table, c ∈ pairs.map Prod.fst)
    (hset : ∀ p ∈ keyPairs table pairs, w p.2 ≠ .null) (row : SqlRow) :
    Sql.meets sameInteger (valued (keyPairs table pairs) w) row =
      syncSchema.sameKey sameInteger table row (storedRow table pairs w) := by
  have hvalue : ∀ p ∈ keyPairs table pairs, storedRow table pairs w p.1 = w p.2 := fun p hp =>
    storedRow_of_mem hcolumns (List.mem_filter.mp hp).1 (Or.inr (hset p hp))
  rw [Bool.eq_iff_iff, Sql.meets, Sql.Schema.sameKey, List.all_eq_true, List.all_eq_true]
  constructor
  · intro h c hc
    obtain ⟨p, hp, rfl⟩ := List.mem_map.mp (hkeyed c hc)
    have hmem : p ∈ keyPairs table pairs := List.mem_filter.mpr ⟨hp, decide_eq_true hc⟩
    rw [hvalue p hmem]
    exact h (p.1, w p.2) (List.mem_map_of_mem hmem)
  · intro h k hk
    obtain ⟨p, hp, rfl⟩ := List.mem_map.mp hk
    rw [← hvalue p hp]
    exact h p.1 (of_decide_eq_true (List.mem_filter.mp hp).2)

/-- A condition with a NULL meets no row. -/
theorem meets_null {p : Name × Name} (hp : p ∈ keyPairs table pairs) (hnull : w p.2 = .null) (row : SqlRow) :
    Sql.meets sameInteger (valued (keyPairs table pairs) w) row = false := by
  rw [Sql.meets, List.all_eq_false]
  refine ⟨(p.1, w p.2), List.mem_map_of_mem hp, ?_⟩
  rw [hnull]
  simp [sameInteger]

theorem lacksKey_iff (hcolumns : (pairs.map Prod.fst).Nodup) (hkeyed : ∀ c ∈ syncSchema.key table, c ∈ pairs.map Prod.fst) :
    lacksKey table pairs w = true ↔ ∃ p ∈ keyPairs table pairs, w p.2 = .null := by
  have hassign : ∀ p ∈ pairs, Sql.assign (fun _ => .null) (valued pairs w) p.1 = w p.2 := fun p hp =>
    Sql.assign_of_mem _ (by rw [valued_fst]; exact hcolumns) (s := (p.1, w p.2)) (List.mem_map_of_mem hp)
  rw [lacksKey, Sql.Schema.lacksKey, List.any_eq_true]
  constructor
  · rintro ⟨c, hc, hnull⟩
    obtain ⟨p, hp, rfl⟩ := List.mem_map.mp (hkeyed c hc)
    rw [hassign p hp] at hnull
    exact ⟨p, List.mem_filter.mpr ⟨hp, decide_eq_true hc⟩, of_decide_eq_true hnull⟩
  · rintro ⟨p, hp, hnull⟩
    obtain ⟨hp, hkey⟩ := List.mem_filter.mp hp
    refine ⟨p.1, of_decide_eq_true hkey, ?_⟩
    rw [hassign p hp]
    exact decide_eq_true hnull

theorem lacksKey_eq_false (hcolumns : (pairs.map Prod.fst).Nodup) (hkeyed : ∀ c ∈ syncSchema.key table, c ∈ pairs.map Prod.fst)
    (hset : ∀ p ∈ keyPairs table pairs, w p.2 ≠ .null) : lacksKey table pairs w = false := by
  rw [← Bool.not_eq_true, lacksKey_iff hcolumns hkeyed]
  rintro ⟨p, hp, hnull⟩
  exact hset p hp hnull

end

/-! ### References -/

section

variable {table : Name} {pairs : List (Name × Name)} {w : Name → SqlValue} {tables : SqlTables}

theorem any_valued (hcolumns : (pairs.map Prod.fst).Nodup) {p : Name × Name} (hp : p ∈ pairs) (f : SqlValue → Bool) :
    ((valued pairs w).any fun s => s.1 = p.1 && f s.2) = f (w p.2) := by
  rw [Bool.eq_iff_iff, List.any_eq_true]
  constructor
  · rintro ⟨s, hs, h⟩
    obtain ⟨q, hq, rfl⟩ := List.mem_map.mp hs
    rw [Bool.and_eq_true, decide_eq_true_iff] at h
    obtain rfl : q = p := List.inj_on_of_nodup_map hcolumns hq hp h.1
    exact h.2
  · intro h
    refine ⟨(p.1, w p.2), List.mem_map_of_mem hp, ?_⟩
    rw [Bool.and_eq_true, decide_eq_true_iff]
    exact ⟨rfl, h⟩

theorem any_valued_none {c : Name} (hc : c ∉ pairs.map Prod.fst) (f : SqlValue → Bool) :
    ((valued pairs w).any fun s => s.1 = c && f s.2) = false := by
  rw [List.any_eq_false]
  intro s hs
  obtain ⟨q, hq, rfl⟩ := List.mem_map.mp hs
  rw [Bool.and_eq_true, decide_eq_true_iff]
  rintro ⟨rfl, -⟩
  exact hc (List.mem_map_of_mem hq)

/-- The references of one table decide. -/
theorem orphaned_eq (sets : List (Name × SqlValue)) :
    orphaned tables table sets = (syncSchema.references.filter fun r => r.table = table).any fun r =>
      sets.any fun s => s.1 = r.column && r.unnamed sameInteger .null tables s.2 := by
  rw [List.any_filter]
  rfl

theorem references_contact : (syncSchema.references.filter fun r => r.table = bytes "contact") = [] := by decide

theorem references_cg2c : (syncSchema.references.filter fun r => r.table = bytes "cg2c") = [] := by decide

theorem references_file : (syncSchema.references.filter fun r => r.table = bytes "bx_file") = [] := by decide

theorem references_project : (syncSchema.references.filter fun r => r.table = bytes "pr_project") = [projectContact] := by
  decide

theorem references_invoice : (syncSchema.references.filter fun r => r.table = bytes "invoice") = [invoiceContact, invoiceProject] := by
  decide

theorem references_position : (syncSchema.references.filter fun r => r.table = bytes "invoice_position") = [positionInvoice] := by
  decide

end

/-! ### Storing a row -/

/-- What is known of the rows of a table: natural keys, and values in all columns. -/
def WholeRows (table : Name) (pairs : List (Name × Name)) (rows : List SqlRow) : Prop :=
  ∀ row ∈ rows, NaturalKey table row ∧ ∃ w, row = storedRow table pairs w

section

variable {insertText updateText : List UInt8} {ignore : Bool} {table : Name} {pairs : List (Name × Name)} {bound : List Name}
  (R : RowTexts insertText updateText ignore table pairs bound) {bindings : List (Name × BoundValue)}
  (hb : bindings.map Prod.fst = bound)
include R hb

theorem bindsAll_insert : BindsAll (pairs.map Prod.snd) bindings where
  distinct := by
    rw [hb]
    exact R.bound_nodup
  mem_iff n := by
    rw [hb]
    exact R.bound_iff n

theorem bindsAll_update : BindsAll ((setPairs table pairs ++ keyPairs table pairs).map Prod.snd) bindings where
  distinct := by
    rw [hb]
    exact R.bound_nodup
  mem_iff n := by
    rw [hb, R.bound_iff, List.mem_map, List.mem_map]
    refine exists_congr fun p => and_congr_left fun _ => ?_
    rw [List.mem_append, setPairs, keyPairs, List.mem_filter, List.mem_filter, decide_eq_true_iff, decide_eq_true_iff]
    tauto

/-- A name that is bound is sent as its value. -/
theorem sentOf_of_mem {b : Name × BoundValue} (hmem : b ∈ bindings) : sentOf bindings b.1 = b.2.sent := by
  rw [sentOf, valueOf_of_mem (by rw [hb]; exact R.bound_nodup) hmem]

/-- The effect of the INSERT or the UPDATE. -/
abbrev rowEffect (insert ignore : Bool) (table : Name) (pairs : List (Name × Name)) (bindings : List (Name × BoundValue))
    (tables : SqlTables) (fk cv : Bool) : Option Bool × SqlTables :=
  syncSchema.run sameInteger .null tables fk cv
    (if insert then insertWrite table pairs (sentOf bindings) ignore else updateWrite table pairs (sentOf bindings))

theorem sendNamed_row (tables : SqlTables) (exec : Exec) (insert : Bool) :
    sendNamed tables (if insert then insertText else updateText) bindings exec =
      some (exec.run tables (rowEffect insert ignore table pairs bindings tables)) := by
  cases insert with
  | true => exact R.insert.sendNamed (bindsAll_insert R hb) (fill_insert ignore)
  | false => exact R.update.sendNamed (bindsAll_update R hb) fill_update

theorem sendParams_row (tables : SqlTables) (exec : Exec) (insert : Bool) :
    sendParams tables (if insert then insertText else updateText) bindings exec =
      some (exec.run tables (rowEffect insert ignore table pairs bindings tables)) := by
  cases insert with
  | true => exact R.insert.sendParams (bindsAll_insert R hb) (fill_insert ignore)
  | false => exact R.update.sendParams (bindsAll_update R hb) fill_update

end

section

variable {insertText updateText : List UInt8} {ignore : Bool} {table : Name} {pairs : List (Name × Name)} {bound : List Name}
  (R : RowTexts insertText updateText ignore table pairs bound) {κ α : Type} [DecidableEq κ] {key : SqlRow → κ}
  {view : SqlRow → α} {t : Table κ α} {tables : SqlTables} {bindings : List (Name × BoundValue)}
  (hkey : ∀ row row', key row = key row' ↔ ∀ c ∈ syncSchema.key table, natOf (row c) = natOf (row' c))
  (h : MapOf key view (tables table) t.lookup) (hwhole : WholeRows table pairs (tables table))
  (hr : NaturalKey table (storedRow table pairs (sentOf bindings)))
include R hkey h hwhole hr

/-- The UPDATE of a row whose key is set. -/
theorem update_row (hset : ∀ p ∈ keyPairs table pairs, sentOf bindings p.2 ≠ .null) (fk cv : Bool) :
    StoredAs table key view (storedRow table pairs (sentOf bindings)) tables
      (rowEffect false ignore table pairs bindings tables fk cv)
      (t.update (some (key (storedRow table pairs (sentOf bindings)))) (view (storedRow table pairs (sentOf bindings)))
        (fk || orphaned tables table (valued (setPairs table pairs) (sentOf bindings))) cv) := by
  refine storedAs_update h (fun row hrow => ?_) (fun row hrow hsame => ?_) fk cv
  · rw [meets_keyPairs R.columns R.keyed hset, sameKey_eq hkey (hwhole row hrow).1 hr, decide_eq_decide]
    exact eq_comm
  · obtain ⟨hnatural, w', rfl⟩ := hwhole row hrow
    refine assign_sets R.columns R.keyed fun c hc => ?_
    obtain ⟨m, hm⟩ := hnatural c hc
    obtain ⟨n, hn⟩ := hr c hc
    have hmn := (hkey _ _).mp hsame c hc
    rw [hm, hn] at hmn ⊢
    have hmn : m = n := hmn
    rw [hmn]

omit R h hwhole in
theorem sameKey_rows (hnatural : ∀ row ∈ tables table, NaturalKey table row) :
    ∀ row ∈ tables table, syncSchema.sameKey sameInteger table (storedRow table pairs (sentOf bindings)) row =
      decide (key row = key (storedRow table pairs (sentOf bindings))) := fun row hrow =>
  sameKey_eq hkey hr (hnatural row hrow)

end

/-! ### A table whose key is an id -/

def rowId (row : SqlRow) : Nat := natOf (row (bytes "id"))

/-- What an id is sent as. -/
def sentId (id : Option Nat) : SqlValue := id.elim .null fun n => .integer n

section

variable {insertText updateText : List UInt8} {ignore : Bool} {table : Name} {pairs : List (Name × Name)} {bound : List Name}
  (R : RowTexts insertText updateText ignore table pairs bound) (hids : syncSchema.key table = [bytes "id"])
  (hpair : (bytes "id", bytes "id") ∈ pairs) {id : Option Nat}

section

include hids

theorem rowId_key (row row' : SqlRow) : rowId row = rowId row' ↔ ∀ c ∈ syncSchema.key table, natOf (row c) = natOf (row' c) := by
  rw [hids]
  simp [rowId]

theorem fst_of_keyPairs {p : Name × Name} (hp : p ∈ keyPairs table pairs) : p.1 = bytes "id" := by
  have hkey := of_decide_eq_true (List.mem_filter.mp hp).2
  rw [hids] at hkey
  exact List.mem_singleton.mp hkey

include R hpair

theorem eq_of_keyPairs {p : Name × Name} (hp : p ∈ keyPairs table pairs) : p = (bytes "id", bytes "id") :=
  List.inj_on_of_nodup_map R.columns (List.mem_filter.mp hp).1 hpair (fst_of_keyPairs hids hp)

variable {w : Name → SqlValue} (hid : w (bytes "id") = sentId id)
include hid

theorem storedRow_id : storedRow table pairs w (bytes "id") = .integer (id.getD 0 : Nat) := by
  cases id with
  | none => exact storedRow_keyless (p := (bytes "id", bytes "id")) R.columns hpair (by rw [hids]; exact List.mem_cons_self) hid
  | some n =>
    refine (storedRow_of_mem (p := (bytes "id", bytes "id")) R.columns hpair (Or.inr ?_)).trans hid
    rw [hid]
    exact SqlValue.noConfusion

theorem naturalKey_id : NaturalKey table (storedRow table pairs w) := by
  intro c hc
  rw [hids] at hc
  rw [List.mem_singleton.mp hc, storedRow_id R hids hpair hid]
  exact ⟨_, rfl⟩

theorem rowId_storedRow : rowId (storedRow table pairs w) = id.getD 0 := by
  rw [rowId, storedRow_id R hids hpair hid]
  rfl

theorem lacksKey_id : lacksKey table pairs w = id.isNone := by
  have hmem : (bytes "id", bytes "id") ∈ keyPairs table pairs :=
    List.mem_filter.mpr ⟨hpair, decide_eq_true (by rw [hids]; exact List.mem_cons_self)⟩
  rw [Bool.eq_iff_iff, lacksKey_iff R.columns R.keyed]
  constructor
  · rintro ⟨p, hp, hnull⟩
    rw [eq_of_keyPairs R hids hpair hp, hid] at hnull
    cases id with
    | none => rfl
    | some n => exact SqlValue.noConfusion hnull
  · intro hnone
    refine ⟨_, hmem, ?_⟩
    rw [Option.isNone_iff_eq_none.mp hnone] at hid
    exact hid

end

variable {α : Type} {view : SqlRow → α} {t : Table Nat α} {tables : SqlTables} {bindings : List (Name × BoundValue)}
  (h : MapOf rowId view (tables table) t.lookup) (hwhole : WholeRows table pairs (tables table))
  (hid : sentOf bindings (bytes "id") = sentId id) {row : α} (hview : view (storedRow table pairs (sentOf bindings)) = row)
include R hids hpair h hwhole hid hview

theorem storedAs_updateId {orphan : Bool} (horphan : orphaned tables table (valued (setPairs table pairs) (sentOf bindings)) = orphan)
    (fk cv : Bool) :
    StoredAs table rowId view (storedRow table pairs (sentOf bindings)) tables
      (rowEffect false ignore table pairs bindings tables fk cv) (t.update id row (fk || orphan) cv) := by
  cases id with
  | none =>
    have hmem : (bytes "id", bytes "id") ∈ keyPairs table pairs :=
      List.mem_filter.mpr ⟨hpair, decide_eq_true (by rw [hids]; exact List.mem_cons_self)⟩
    exact storedAs_update_none h (fun row => meets_null hmem hid row) _ _ _ _
  | some n =>
    have hset : ∀ p ∈ keyPairs table pairs, sentOf bindings p.2 ≠ .null := by
      intro p hp
      rw [eq_of_keyPairs R hids hpair hp, hid]
      exact SqlValue.noConfusion
    have hstored := update_row R (rowId_key hids) h hwhole (naturalKey_id R hids hpair hid) hset fk cv
    rw [rowId_storedRow R hids hpair hid, hview, horphan] at hstored
    exact hstored

/-- An INSERT IGNORE or an UPDATE by id. -/
theorem storedAs_id {orphan : Bool} (hsets : orphaned tables table (valued (setPairs table pairs) (sentOf bindings)) = orphan)
    (hall : orphaned tables table (valued pairs (sentOf bindings)) = orphan) (insert : Bool) (exec : Exec) :
    StoredAs table rowId view (storedRow table pairs (sentOf bindings)) tables
      (exec.run tables (rowEffect insert true table pairs bindings tables))
      (exec.run t fun fk cv => if insert then insertIgnoreId t id row (fk || orphan) cv else t.update id row (fk || orphan) cv) := by
  refine .exec h fun fk cv _ => ?_
  cases insert with
  | false => exact storedAs_updateId R hids hpair h hwhole hid hview hsets fk cv
  | true =>
    have hstored := storedAs_insertIgnore h R.columns
      (sameKey_rows (rowId_key hids) (naturalKey_id R hids hpair hid) fun row hrow => (hwhole row hrow).1) fk cv
    rw [rowId_storedRow R hids hpair hid, lacksKey_id R hids hpair hid, hview, hall] at hstored
    exact hstored

end

/-! ### A row that is looked for first -/

section

variable {insertText updateText : List UInt8} {table : Name} {pairs : List (Name × Name)} {bound : List Name}
  (R : RowTexts insertText updateText false table pairs bound) {κ α : Type} [DecidableEq κ] {key : SqlRow → κ}
  {view : SqlRow → α} {t : Table κ α} {tables : SqlTables} {bindings : List (Name × BoundValue)}
  (hkey : ∀ row row', key row = key row' ↔ ∀ c ∈ syncSchema.key table, natOf (row c) = natOf (row' c))
  (h : MapOf key view (tables table) t.lookup) (hwhole : WholeRows table pairs (tables table))
  (hr : NaturalKey table (storedRow table pairs (sentOf bindings)))
  (hset : ∀ p ∈ keyPairs table pairs, sentOf bindings p.2 ≠ .null)
include R hkey h hwhole hr hset

/-- An INSERT or an UPDATE whose key is set. -/
theorem storedAs_plain {k : κ} (hk : key (storedRow table pairs (sentOf bindings)) = k) {row : α}
    (hview : view (storedRow table pairs (sentOf bindings)) = row) {orphan : Bool}
    (hall : orphaned tables table (valued pairs (sentOf bindings)) = orphan)
    (hsets : orphaned tables table (valued (setPairs table pairs) (sentOf bindings)) = false) (insert fk cv : Bool) :
    StoredAs table key view (storedRow table pairs (sentOf bindings)) tables
      (rowEffect insert false table pairs bindings tables fk cv)
      (if insert then t.insertRow k row (fk || orphan) cv else t.update (some k) row fk cv) := by
  cases insert with
  | false =>
    have hstored := update_row R hkey h hwhole hr hset fk cv
    rw [hk, hview, hsets, Bool.or_false] at hstored
    exact hstored
  | true =>
    have hlacks := lacksKey_eq_false R.columns R.keyed hset
    have hstored := storedAs_insertRow h R.columns (sameKey_rows hkey hr fun row hrow => (hwhole row hrow).1) hlacks fk cv
    rw [hk, hview, hall] at hstored
    exact hstored

omit hr hset in
/-- What is selected of the row of a key. -/
theorem selected_row {w : Name → SqlValue} (hr : NaturalKey table (storedRow table pairs w))
    (hset : ∀ p ∈ keyPairs table pairs, w p.2 ≠ .null) {k : κ} (hk : key (storedRow table pairs w) = k) (column : Name) :
    let found := ((tables table).filter (Sql.meets sameInteger (valued (keyPairs table pairs) w))).map (· column)
    found = [] ∧ t.lookup k = none ∨ ∃ row ∈ tables table, found = [row column] ∧ t.lookup k = some (view row) := by
  have hmeets : ∀ row ∈ tables table, Sql.meets sameInteger (valued (keyPairs table pairs) w) row = decide (key row = k) := by
    intro row hrow
    rw [meets_keyPairs R.columns R.keyed hset, sameKey_eq hkey (hwhole row hrow).1 hr, decide_eq_decide, hk]
    exact eq_comm
  dsimp only
  rw [List.filter_congr hmeets]
  rcases h.filter_key k with ⟨hnil, hnone⟩ | ⟨row, hrow, hone, hsome⟩
  · rw [hnil]
    exact Or.inl ⟨rfl, hnone⟩
  · rw [hone]
    exact Or.inr ⟨row, hrow, rfl, hsome⟩

end

/-- Nothing is selected for a key that is NULL. -/
theorem selected_none {tables : SqlTables} {table column : Name} {pairs : List (Name × Name)} {w : Name → SqlValue} {p : Name × Name}
    (hp : p ∈ keyPairs table pairs) (hnull : w p.2 = .null) :
    ((tables table).filter (Sql.meets sameInteger (valued (keyPairs table pairs) w))).map (· column) = [] := by
  rw [List.map_eq_nil_iff, List.filter_eq_nil_iff]
  intro row _
  rw [meets_null hp hnull]
  exact Bool.false_ne_true

/-! ### A row that is named -/

/-- Rows whose ids are natural numbers. -/
def NaturalIds (rows : List SqlRow) : Prop := ∀ row ∈ rows, ∃ n : Nat, row (bytes "id") = .integer n

theorem sameInteger_id {row : SqlRow} (hrow : ∃ n : Nat, row (bytes "id") = .integer n) (n : Nat) :
    sameInteger (row (bytes "id")) (.integer n) = decide (rowId row = n) :=
  sameInteger_natural hrow ⟨n, rfl⟩

section

variable {α : Type} {view : SqlRow → α} {t : Table Nat α} {tables : SqlTables} {r : Sql.Reference SqlValue}
  (h : MapOf rowId view (tables r.parent) t.lookup) (hids : NaturalIds (tables r.parent))
include h hids

theorem any_sameId (n : Nat) :
    ((tables r.parent).any fun row => sameInteger (row (bytes "id")) (.integer n)) = (t.lookup n).isSome := by
  rw [h.known_any]
  exact any_congr_mem fun row hrow => sameInteger_id (hids row hrow) n

/-- A value that is sent for an id names no row. -/
theorem unnamed_eq (htarget : r.target = bytes "id") (hnull : r.nullAs = none) (id : Option Nat) :
    r.unnamed sameInteger .null tables (sentId id) = id.any fun n => (t.lookup n).isNone := by
  rw [Sql.Reference.unnamed, Sql.Reference.named, htarget]
  cases id with
  | none =>
    rw [sentId, Option.elim_none, if_pos rfl, hnull]
    rfl
  | some n =>
    rw [sentId, Option.elim_some, if_neg SqlValue.noConfusion, Option.any_some, Option.any_some, any_sameId h hids, Option.not_isSome]

/-- Where NULL is taken for 0. -/
theorem unnamed_zero (htarget : r.target = bytes "id") (hnull : r.nullAs = some (.integer 0)) (id : Option Nat) :
    r.unnamed sameInteger .null tables (sentId id) = (t.lookup (id.getD 0)).isNone := by
  rw [Sql.Reference.unnamed, Sql.Reference.named, htarget]
  cases id with
  | none =>
    rw [sentId, Option.elim_none, if_pos rfl, hnull, Option.any_some, Option.getD_none]
    exact (congrArg not (any_sameId h hids 0)).trans (Option.not_isSome _)
  | some n =>
    rw [sentId, Option.elim_some, if_neg SqlValue.noConfusion, Option.any_some, any_sameId h hids, Option.not_isSome]
    rfl

end

section

variable {table : Name} {l : List (Name × Name)} {w : Name → SqlValue} {tables : SqlTables}

theorem orphaned_none (hnone : (syncSchema.references.filter fun r => r.table = table) = []) (sets : List (Name × SqlValue)) :
    orphaned tables table sets = false := by
  rw [orphaned_eq, hnone]
  rfl

variable (hl : (l.map Prod.fst).Nodup) {contact : Table Nat ContactRow} {view : SqlRow → ContactRow}
  (hcontact : MapOf rowId view (tables (bytes "contact")) contact.lookup) (hcontacts : NaturalIds (tables (bytes "contact")))
include hl

section

include hcontact hcontacts

theorem orphaned_project (hmem : (bytes "contact_id", bytes "contact_id") ∈ l) {id : Option Nat}
    (hw : w (bytes "contact_id") = sentId id) :
    orphaned tables (bytes "pr_project") (valued l w) = (contact.lookup (id.getD 0)).isNone := by
  rw [orphaned_eq, references_project, List.any_cons, List.any_nil, Bool.or_false]
  refine (any_valued hl hmem _).trans ?_
  rw [hw]
  exact unnamed_zero hcontact hcontacts rfl rfl id

theorem orphaned_invoice {project : Table Nat ProjectRow} {view : SqlRow → ProjectRow}
    (hproject : MapOf rowId view (tables (bytes "pr_project")) project.lookup)
    (hprojects : NaturalIds (tables (bytes "pr_project"))) (hmem : (bytes "contact_id", bytes "contact_id") ∈ l)
    (hmem' : (bytes "project_id", bytes "project_id") ∈ l) {id id' : Option Nat} (hw : w (bytes "contact_id") = sentId id)
    (hw' : w (bytes "project_id") = sentId id') :
    orphaned tables (bytes "invoice") (valued l w) =
      ((id.any fun n => (contact.lookup n).isNone) || id'.any fun n => (project.lookup n).isNone) := by
  rw [orphaned_eq, references_invoice, List.any_cons, List.any_cons, List.any_nil, Bool.or_false]
  refine congrArg₂ or ((any_valued hl hmem _).trans ?_) ((any_valued hl hmem' _).trans ?_)
  · rw [hw]
    exact unnamed_eq hcontact hcontacts rfl rfl id
  · rw [hw']
    exact unnamed_eq hproject hprojects rfl rfl id'

end

theorem orphaned_position {invoice : Table Nat InvoiceRow} {view : SqlRow → InvoiceRow}
    (hinvoice : MapOf rowId view (tables (bytes "invoice")) invoice.lookup) (hinvoices : NaturalIds (tables (bytes "invoice")))
    (hmem : (bytes "_invoice_id", bytes "_parent") ∈ l) {n : Nat} (hw : w (bytes "_parent") = .integer n) :
    orphaned tables (bytes "invoice_position") (valued l w) = (invoice.lookup n).isNone := by
  rw [orphaned_eq, references_position, List.any_cons, List.any_nil, Bool.or_false]
  refine (any_valued hl hmem _).trans ?_
  rw [hw]
  exact unnamed_eq hinvoice hinvoices rfl rfl (some n)

omit hl in
theorem orphaned_position_sets (hmem : bytes "_invoice_id" ∉ l.map Prod.fst) :
    orphaned tables (bytes "invoice_position") (valued l w) = false := by
  rw [orphaned_eq, references_position, List.any_cons, List.any_nil, Bool.or_false]
  exact any_valued_none hmem _

end

end BxSync
