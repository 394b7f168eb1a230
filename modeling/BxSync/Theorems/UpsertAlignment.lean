import BxSync.Theorems.UpsertText

/-! Whether the statements of `bx_json_upsert` put each value of an object in its column, in the row of its id. -/

namespace BxSync

open Sql (Name Statement IsName joined pairText place bytes)

/-! ### The property -/

/-- The value of a field as it was read. -/
def fieldValue : BXSlot → SqlValue
  | .uint value => value.elim .null fun n => .integer n.toNat
  | .int value => value.elim .null fun n => .integer n.toInt
  | .str value => value.elim .null .bytes
  | .float value => value.elim .null .real
  | .bool value => value.elim .null fun b => .integer (if b then 1 else 0)
  | .uuid value => value.elim .null fun w => .bytes (Encoding.leBytes 8 w.1.toNat ++ Encoding.leBytes 8 w.2.toNat)

section

variable {κ : Type} [DecidableEq κ] (serverKey : SqlValue → κ) (lib : TextLib) (xxh3 : List UInt8 → UInt64) (t : UpsertTable)
  (slots : List BXSlot) (parentId : UInt64)

/-- The id of the object, and its parent. -/
def keyValues : List (Name × SqlValue) :=
  (t.names.headD [], fieldValue (slots.headD (.uint none))) ::
    t.parent.toList.map fun parent => (parent, .integer parentId.toNat)

/-- A row is the one of the object. -/
def ofObject (row : Sql.Row SqlValue) : Bool := Sql.meets (sameValue serverKey) (keyValues t slots parentId) row

/-- Each column from a place on holds the value of its field. -/
def HoldsFrom (start : Nat) (row : Sql.Row SqlValue) : Prop :=
  ∀ i n slot, start ≤ i → t.names[i]? = some n → slots[i]? = some slot → row n = fieldValue slot

/-- The columns of the sync. -/
def HoldsOwn (checksum now : UInt64) (row : Sql.Row SqlValue) : Prop :=
  ownColumns.map row = [.integer checksum.toNat, .integer now.toNat, .integer 0]

variable (obj : Json)

def objectChecksum : UInt64 := xxh3 (checksumStream t.parentSql parentId (readSlots lib t.fields obj))

/-- In both writes each parameter has a value. Without a row of its own an object gets one that holds its values; with
    one whose checksum differs, these rows are set to its values and no other one changes. Then the next call with the
    object does not write. -/
structure StatementsAligned : Prop where
  bound : ∀ checksum now needInsert, ∃ q, upsertWrite t (readSlots lib t.fields obj) parentId checksum now needInsert = some (some q) ∧
    ∀ p ∈ q.parameters, p.value ≠ none
  inserted : ∀ tables now, (tables (bytes t.table)).find? (ofObject serverKey t (readSlots lib t.fields obj) parentId) = none →
    ∃ row, bxJsonUpsertSql serverKey lib xxh3 t tables obj parentId now allAnswered =
        some (.noError, Function.update tables (bytes t.table) (tables (bytes t.table) ++ [row]), .sent) ∧
      HoldsFrom t (readSlots lib t.fields obj) 0 row ∧ (∀ parent ∈ t.parent, row parent = .integer parentId.toNat) ∧
      HoldsOwn (objectChecksum lib xxh3 t parentId obj) now row
  updated : ∀ tables now first,
    (tables (bytes t.table)).find? (ofObject serverKey t (readSlots lib t.fields obj) parentId) = some first →
    (first (bytes "_checksum")).iValue ≠ objectChecksum lib xxh3 t parentId obj →
    ∃ change, bxJsonUpsertSql serverKey lib xxh3 t tables obj parentId now allAnswered =
        some (.noError, Function.update tables (bytes t.table) ((tables (bytes t.table)).map change), .sent) ∧
      ∀ row, if ofObject serverKey t (readSlots lib t.fields obj) parentId row then
          HoldsFrom t (readSlots lib t.fields obj) 1 (change row) ∧
            HoldsOwn (objectChecksum lib xxh3 t parentId obj) now (change row) ∧
            ∀ c ∉ t.setColumns, change row c = row c
        else change row = row
  repeated : ∀ tables now answers tables' ended,
    bxJsonUpsertSql serverKey lib xxh3 t tables obj parentId now answers = some (.noError, tables', ended) →
    ∀ now' answers', ∃ err ended', ended' ≠ .sent ∧
      bxJsonUpsertSql serverKey lib xxh3 t tables' obj parentId now' answers' = some (err, tables', ended')

/-- Of an object without an id nothing is sent. -/
def UpsertAligned : Prop := pkOk (readSlots lib t.fields obj) → StatementsAligned serverKey lib xxh3 t parentId obj

/-- No field has a name that the function uses itself, and no unsigned value reaches the sign bit. -/
structure OwnNamesFree : Prop where
  columns : t.columns.Nodup
  parent : t.parent.isSome → bytes "_parent" ∉ t.names
  unsigned : ∀ n, .uint (some n) ∈ slots → n.toNat < 2 ^ 63

end

/-! ### What is bound -/

section

variable {t : UpsertTable} {slots : List BXSlot} {parentId checksum now : UInt64}

def fieldBindings (t : UpsertTable) (slots : List BXSlot) : List (Name × BoundValue) := t.names.zip (slots.map BXSlot.bound)

def parentBindings (t : UpsertTable) (parentId : UInt64) : List (Name × BoundValue) :=
  t.parent.toList.map fun _ => (bytes "_parent", .longlong parentId true)

def ownBindings (checksum now : UInt64) : List (Name × BoundValue) :=
  [(bytes "_checksum", .longlong checksum true), (bytes "_last_updated", .longlong now true), (bytes "_deleted", .longlong 0 true)]

def upsertBindings (t : UpsertTable) (slots : List BXSlot) (parentId checksum now : UInt64) : List (Name × BoundValue) :=
  fieldBindings t slots ++ (parentBindings t parentId ++ ownBindings checksum now)

theorem fieldBindings_fst (hlen : slots.length = t.names.length) : (fieldBindings t slots).map Prod.fst = t.names :=
  List.map_fst_zip (by rw [List.length_map, hlen])

theorem upsertBindings_fst (hlen : slots.length = t.names.length) (parentId checksum now : UInt64) :
    (upsertBindings t slots parentId checksum now).map Prod.fst = t.marks := by
  rw [upsertBindings, List.map_append, fieldBindings_fst hlen, List.map_append, parentBindings, List.map_map]
  rfl

theorem parameterName_eq (h : t.Fits) {n : Name} (hn : n ∈ t.names) : parameterName n = namedMark n := by
  have hlen := h.named n hn
  have hmax : maxNameLength = 30 := rfl
  exact List.take_of_length_le (by rw [List.length_append]; change 1 + n.length ≤ 63; omega)

theorem upsertBind_eq (h : t.Fits) (q : BXDatabaseQuery) :
    upsertBind t slots parentId checksum now q = bindAll (upsertBindings t slots parentId checksum now) q := by
  have hfields : ∀ (l : List (Name × BXSlot)) (q : BXDatabaseQuery), (∀ f ∈ l, f.1 ∈ t.names) →
      l.foldl (fun q f => bxDatabaseAddBxtype q (parameterName f.1) f.2) q =
        bindAll (l.map fun f => (f.1, f.2.bound)) q := by
    intro l
    induction l with
    | nil => exact fun _ _ => rfl
    | cons f l ih =>
      intro q hl
      rw [List.foldl_cons, ih _ fun g hg => hl g (List.mem_cons_of_mem _ hg), parameterName_eq h (hl f List.mem_cons_self)]
      rfl
  have hzip : (t.names.zip slots).map (fun f => (f.1, f.2.bound)) = fieldBindings t slots := by
    rw [fieldBindings, List.zip_map_right]
    rfl
  have happend (a b : List (Name × BoundValue)) (q : BXDatabaseQuery) : bindAll (a ++ b) q = bindAll b (bindAll a q) :=
    List.foldl_append
  have hparent : asciiBytes ":_parent" = namedMark (bytes "_parent") := by decide +kernel
  have hchecksum : asciiBytes ":_checksum" = namedMark (bytes "_checksum") := by decide +kernel
  have hupdated : asciiBytes ":_last_updated" = namedMark (bytes "_last_updated") := by decide +kernel
  have hdeleted : asciiBytes ":_deleted" = namedMark (bytes "_deleted") := by decide +kernel
  have hown (q : BXDatabaseQuery) : bindAll (ownBindings checksum now) q =
      addParam (addParam (addParam q (namedMark (bytes "_checksum")) (.longlong checksum true))
        (namedMark (bytes "_last_updated")) (.longlong now true)) (namedMark (bytes "_deleted")) (.longlong 0 true) := by
    simp only [bindAll, ownBindings, List.foldl_cons, List.foldl_nil]
  unfold upsertBind bxDatabaseAddParamUint64
  rw [hfields _ _ fun f hf => (List.of_mem_zip hf).1, hzip, upsertBindings, happend, happend, hown, hparent, hchecksum,
    hupdated, hdeleted]
  unfold parentBindings
  cases t.parent with
  | none => rfl
  | some parent => rfl

theorem parameterName_own {n : Name} (hn : n ∈ bytes "_parent" :: bytes "id" :: ownColumns) : ParameterName n := by
  have hall : ∀ m ∈ bytes "_parent" :: bytes "id" :: ownColumns, IsName m ∧ m.length + 3 ≤ maxNameLength := by decide +kernel
  exact ⟨(hall n hn).1, (hall n hn).2⟩

theorem parameterName_marks (h : t.Fits) : ∀ n ∈ t.marks, ParameterName n := by
  intro n hn
  rcases List.mem_append.mp hn with hn | hn
  · exact ⟨h.words n (List.mem_append_left _ hn), h.named n hn⟩
  · rcases List.mem_append.mp hn with hn | hn
    · obtain ⟨-, -, rfl⟩ := List.mem_map.mp hn
      exact parameterName_own List.mem_cons_self
    · exact parameterName_own (List.mem_cons_of_mem _ (List.mem_cons_of_mem _ hn))

/-! ### The statements are well formed -/

theorem isName_table (h : t.Fits) : IsName (bytes t.table) := by
  have hall : ∀ table ∈ ["country", "account_group", "client_service", "communication_kind", "pr_project_state", "pr_project_type",
      "timesheet_status", "todo_status", "todo_priority", "stock", "stock_place", "bank_account", "company_profile",
      "calendar_year", "business_year", "vat_period", "contact_relation", "additional_address", "article", "note", "task",
      "timesheet", "kb_quote", "kb_order", "kb_delivery", "invoice_payment", "invoice_reminder", "kb_comment",
      "project_milestone", "project_package", "purchase_order", "purchase_bill", "expense", "manual_entry",
      "manual_entry_line"], IsName (bytes table) := by decide +kernel
  exact hall _ (List.contains_iff_mem.mp h.allowed)

theorem isName_own {n : Name} (hn : n ∈ ownColumns) : IsName n :=
  (parameterName_own (List.mem_cons_of_mem _ (List.mem_cons_of_mem _ hn))).isName

theorem whereKeys_isName (h : t.Fits) : ∀ k ∈ whereKeys t, IsName k.1 ∧ ParameterName k.2 := by
  intro k hk
  obtain ⟨names, hnames⟩ := h.names_cons
  rcases List.mem_cons.mp hk with rfl | hk
  · refine ⟨h.words _ (List.mem_append_left _ ?_), parameterName_own (List.mem_cons_of_mem _ List.mem_cons_self)⟩
    rw [hnames]
    exact List.mem_cons_self
  · obtain ⟨parent, hparent, rfl⟩ := List.mem_map.mp hk
    exact ⟨h.words _ (List.mem_append_right _ hparent), parameterName_own List.mem_cons_self⟩

theorem selectNamed_wellFormed (h : t.Fits) : (selectNamed t).WellFormed :=
  ⟨isName_own List.mem_cons_self, isName_table h, List.cons_ne_nil _ _, fun k hk => (whereKeys_isName h k hk).1⟩

theorem insertNamed_wellFormed (h : t.Fits) : (insertNamed t).WellFormed := by
  obtain ⟨names, hnames⟩ := h.names_cons
  refine ⟨isName_table h, ⟨?_, fun c hc => ?_⟩, ?_⟩
  · rw [UpsertTable.columns, hnames]
    exact List.cons_ne_nil _ _
  · rcases List.mem_append.mp hc with hc | hc
    · exact h.words c (List.mem_append_left _ hc)
    · rcases List.mem_append.mp hc with hc | hc
      · exact h.words c (List.mem_append_right _ hc)
      · exact isName_own hc
  · rw [UpsertTable.marks, hnames]
    exact List.cons_ne_nil _ _

theorem mem_setColumns (h : t.Fits) {n : Name} (hn : n ∈ t.setColumns) : n ∈ t.marks ∧ IsName n := by
  rcases List.mem_append.mp hn with hn | hn
  · have hmem := List.mem_of_mem_tail hn
    exact ⟨List.mem_append_left _ hmem, h.words n (List.mem_append_left _ hmem)⟩
  · exact ⟨List.mem_append_right _ (List.mem_append_right _ hn), isName_own hn⟩

theorem updateNamed_wellFormed (h : t.Fits) : (updateNamed t).WellFormed := by
  refine ⟨isName_table h, ⟨?_, fun s hs => ?_⟩, List.cons_ne_nil _ _, fun k hk => (whereKeys_isName h k hk).1⟩
  · simp [UpsertTable.setColumns, ownColumns]
  · obtain ⟨n, hn, rfl⟩ := List.mem_map.mp hs
    exact (mem_setColumns h hn).2

theorem whereKeys_snd : (whereKeys t).map Prod.snd = bytes "id" :: t.parent.toList.map fun _ => bytes "_parent" := by
  rw [whereKeys, List.map_cons, List.map_map]
  rfl

theorem updateNamed_values : (updateNamed t).values = t.setColumns ++ (whereKeys t).map Prod.snd := by
  rw [updateNamed, Statement.values, List.map_map]
  exact congrArg (· ++ _) (List.map_id' _)

/-- The UPDATE has the parameters of the INSERT. -/
theorem updateNamed_perm (h : t.Fits) : (updateNamed t).values.Perm t.marks := by
  obtain ⟨names, hnames⟩ := h.names_cons
  rw [updateNamed_values, whereKeys_snd, UpsertTable.setColumns, UpsertTable.marks, hnames, List.tail_cons, List.cons_append,
    List.append_assoc]
  calc
    names ++ (ownColumns ++ bytes "id" :: t.parent.toList.map fun _ => bytes "_parent")
    _ = (names ++ ownColumns) ++ bytes "id" :: t.parent.toList.map fun _ => bytes "_parent" := (List.append_assoc ..).symm
    List.Perm _ (bytes "id" :: ((names ++ ownColumns) ++ t.parent.toList.map fun _ => bytes "_parent")) := List.perm_middle
    List.Perm _ (bytes "id" :: (names ++ ((t.parent.toList.map fun _ => bytes "_parent") ++ ownColumns))) := by
      rw [List.append_assoc]
      exact (List.perm_append_comm.append_left names).cons _

theorem writeNamed_perm (h : t.Fits) (needInsert : Bool) :
    (if needInsert then insertNamed t else updateNamed t).values.Perm t.marks := by
  cases needInsert
  · exact updateNamed_perm h
  · exact List.Perm.refl _

theorem writeNamed_wellFormed (h : t.Fits) (needInsert : Bool) :
    (if needInsert then insertNamed t else updateNamed t).WellFormed := by
  cases needInsert
  · exact updateNamed_wellFormed h
  · exact insertNamed_wellFormed h

/-! ### What is sent -/

/-- The values of the conditions as they are sent. -/
def sentKeys (t : UpsertTable) (slots : List BXSlot) (parentId : UInt64) : List (Name × SqlValue) :=
  (t.names.headD [], (slots.headD (.uint none)).bound.sent) :: t.parent.toList.map fun parent => (parent, .integer parentId.toNat)

theorem upsertSelect_statement (h : t.Fits) (slots : List BXSlot) (parentId : UInt64) :
    ∃ q, upsertSelect t slots parentId = some (some q) ∧
      q.statement = some (.select (bytes "_checksum") (bytes t.table) (sentKeys t slots parentId)) := by
  have hvalues : (selectNamed t).values = bytes "id" :: t.parent.toList.map fun _ => bytes "_parent" := whereKeys_snd
  have hnames : ∀ n ∈ (selectNamed t).values, ParameterName n := by
    intro n hn
    obtain ⟨k, hk, rfl⟩ := List.mem_map.mp hn
    exact (whereKeys_isName h k hk).2
  have hshort : ((selectNamed t).text namedMark).length < intMax := Nat.lt_trans h.select_lt (by decide)
  obtain ⟨q, hq, hquery, hnamed, hnone⟩ := bxDatabaseNewQuery_statement (selectNamed_wellFormed h) hnames hshort
  have hbindings : ((bytes "id", (slots.headD (.uint none)).bound) :: parentBindings t parentId).map Prod.fst =
      (selectNamed t).values := by
    rw [hvalues, List.map_cons, parentBindings, List.map_map]
    rfl
  have hnodup : (selectNamed t).values.Nodup := by
    rw [hvalues]
    cases t.parent with
    | none => exact List.nodup_singleton _
    | some => exact (by decide : [bytes "id", bytes "_parent"].Nodup)
  have hstatement := statement_bindAll (hbindings ▸ hnodup) (selectNamed_wellFormed h) hnames hquery hnamed hnone
    (fun _ hb => hnames _ (hbindings ▸ List.mem_map_of_mem hb)) hnodup fun n hn => hbindings ▸ hn
  refine ⟨_, ?_, hstatement.trans (congrArg some ?_)⟩
  · unfold upsertSelect
    rw [upsertSelectSql_eq h, hq]
    unfold parentBindings
    cases t.parent <;> rfl
  · have hid := valueOf_of_mem (hbindings ▸ hnodup)
      (List.mem_cons_self (a := (bytes "id", (slots.headD (.uint none)).bound)) (l := parentBindings t parentId))
    have hparent : ∀ parent ∈ t.parent.toList,
        valueOf ((bytes "id", (slots.headD (.uint none)).bound) :: parentBindings t parentId) (bytes "_parent") =
          .longlong parentId true := fun parent hparent =>
      valueOf_of_mem (hbindings ▸ hnodup) (b := (bytes "_parent", .longlong parentId true))
        (List.mem_cons_of_mem _ (List.mem_map.mpr ⟨parent, hparent, rfl⟩))
    rw [selectNamed, Statement.map, whereKeys, List.map_cons, List.map_map, hid, sentKeys]
    refine congrArg _ (congrArg _ (List.map_congr_left fun parent hmem => ?_))
    exact congrArg (fun v => (parent, BoundValue.sent v)) (hparent parent hmem)

theorem upsertWrite_query (h : t.Fits) (slots : List BXSlot) (parentId checksum now : UInt64) (needInsert : Bool) :
    ∃ q, upsertWrite t slots parentId checksum now needInsert =
        some (some (bindAll (upsertBindings t slots parentId checksum now) q)) ∧
      cString q.query = (if needInsert then insertNamed t else updateNamed t).text place ∧
      Named q (if needInsert then insertNamed t else updateNamed t).values ∧
      q.values = (if needInsert then insertNamed t else updateNamed t).values.map fun _ => none := by
  obtain ⟨htext, hshort⟩ := upsertWriteSql_eq h needInsert
  have hnames : ∀ n ∈ (if needInsert then insertNamed t else updateNamed t).values, ParameterName n := fun n hn =>
    parameterName_marks h n ((writeNamed_perm h needInsert).mem_iff.mp hn)
  obtain ⟨q, hq, hquery, hnamed, hnone⟩ :=
    bxDatabaseNewQuery_statement (writeNamed_wellFormed h needInsert) hnames (Nat.lt_trans hshort (by decide))
  refine ⟨q, ?_, hquery, hnamed, hnone⟩
  unfold upsertWrite
  rw [upsertBuffers_eq h]
  dsimp only
  rw [htext, hq, Option.map_some, Option.map_some, upsertBind_eq h]

theorem upsertBindings_parameterName (h : t.Fits) (hlen : slots.length = t.names.length) (parentId checksum now : UInt64) :
    ∀ b ∈ upsertBindings t slots parentId checksum now, ParameterName b.1 := fun _ hb =>
  parameterName_marks h _ (upsertBindings_fst hlen _ _ _ ▸ List.mem_map_of_mem hb)

/-- What the UPDATE sets. -/
def setBindings (t : UpsertTable) (slots : List BXSlot) (checksum now : UInt64) : List (Name × BoundValue) :=
  (fieldBindings t slots).tail ++ ownBindings checksum now

theorem setBindings_fst (hlen : slots.length = t.names.length) (checksum now : UInt64) :
    (setBindings t slots checksum now).map Prod.fst = t.setColumns := by
  rw [setBindings, List.map_append, List.map_tail, fieldBindings_fst hlen]
  rfl

theorem mem_upsertBindings_of_mem_set {b : Name × BoundValue} (hb : b ∈ setBindings t slots checksum now) :
    b ∈ upsertBindings t slots parentId checksum now := by
  rcases List.mem_append.mp hb with hb | hb
  · exact List.mem_append_left _ (List.mem_of_mem_tail hb)
  · exact List.mem_append_right _ (List.mem_append_right _ hb)

/-- The statement of a write, when no name occurs twice. -/
def writeStatement (t : UpsertTable) (slots : List BXSlot) (parentId checksum now : UInt64) (needInsert : Bool) :
    Statement SqlValue :=
  if needInsert then
    .insert (bytes t.table) t.columns ((upsertBindings t slots parentId checksum now).map fun b => b.2.sent)
  else
    .update (bytes t.table) ((setBindings t slots checksum now).map fun b => (b.1, b.2.sent)) (sentKeys t slots parentId)

theorem fieldBindings_cons (h : t.Fits) (hlen : slots.length = t.names.length) :
    (bytes "id", (slots.headD (.uint none)).bound) ∈ fieldBindings t slots := by
  obtain ⟨names, hnames⟩ := h.names_cons
  cases slots with
  | nil => exact absurd hlen (by rw [hnames]; exact nofun)
  | cons slot slots =>
    rw [fieldBindings, hnames]
    exact List.mem_cons_self

theorem upsertWrite_statement (h : t.Fits) (hlen : slots.length = t.names.length) (hmarks : t.marks.Nodup)
    (parentId checksum now : UInt64) (needInsert : Bool) :
    ∃ q, upsertWrite t slots parentId checksum now needInsert = some (some q) ∧
      q.statement = some (writeStatement t slots parentId checksum now needInsert) := by
  obtain ⟨q, hq, hquery, hnamed, hnone⟩ := upsertWrite_query h slots parentId checksum now needInsert
  have hperm := writeNamed_perm h needInsert
  have hfst : (upsertBindings t slots parentId checksum now).map Prod.fst = t.marks := upsertBindings_fst hlen _ _ _
  have hkeys : ((upsertBindings t slots parentId checksum now).map Prod.fst).Nodup := hfst ▸ hmarks
  have hstatement := statement_bindAll hkeys (writeNamed_wellFormed h needInsert)
    (fun n hn => parameterName_marks h n (hperm.mem_iff.mp hn)) hquery hnamed hnone (upsertBindings_parameterName h hlen _ _ _)
    (hperm.nodup_iff.mpr hmarks) fun _ hn => hfst ▸ hperm.mem_iff.mp hn
  refine ⟨_, hq, hstatement.trans (congrArg some ?_)⟩
  have hvalue : ∀ b ∈ upsertBindings t slots parentId checksum now,
      valueOf (upsertBindings t slots parentId checksum now) b.1 = b.2 := fun b hb => valueOf_of_mem hkeys hb
  cases needInsert with
  | true =>
    refine congrArg (Statement.insert _ _) ?_
    rw [← hfst, List.map_map]
    exact List.map_congr_left fun b hb => congrArg BoundValue.sent (hvalue b hb)
  | false =>
    have hsets : (t.setColumns.map fun n => (n, n)).map (fun s => (s.1, (valueOf (upsertBindings t slots parentId checksum now) s.2).sent)) =
        (setBindings t slots checksum now).map fun b => (b.1, b.2.sent) := by
      rw [← setBindings_fst hlen checksum now, List.map_map, List.map_map]
      refine List.map_congr_left fun b hb => ?_
      exact congrArg (fun v => (b.1, BoundValue.sent v)) (hvalue b (mem_upsertBindings_of_mem_set hb))
    have hwhere : (whereKeys t).map (fun k => (k.1, (valueOf (upsertBindings t slots parentId checksum now) k.2).sent)) =
        sentKeys t slots parentId := by
      rw [whereKeys, List.map_cons, List.map_map, hvalue _ (List.mem_append_left _ (fieldBindings_cons h hlen)), sentKeys]
      refine congrArg _ (List.map_congr_left fun parent hmem => ?_)
      have hparent : (bytes "_parent", BoundValue.longlong parentId true) ∈ upsertBindings t slots parentId checksum now :=
        List.mem_append_right _ (List.mem_append_left _ (List.mem_map.mpr ⟨parent, hmem, rfl⟩))
      exact congrArg (fun v => (parent, BoundValue.sent v)) (hvalue _ hparent)
    show Statement.update _ _ _ = Statement.update _ _ _
    rw [hsets, hwhere]

/-! ### The call -/

section

variable {κ : Type} [DecidableEq κ] {serverKey : SqlValue → κ} {lib : TextLib} {xxh3 : List UInt8 → UInt64}

/-- What a write leaves. -/
def sendStatement (serverKey : SqlValue → κ) (stmt : Statement SqlValue) (tables : SqlTables) (a : UpsertAnswers) :
    BXillError × SqlTables × UpsertEnd :=
  if !a.writePrepared then (.errorGeneric, tables, .sent)
  else
    match a.write.run tables (runStatement serverKey stmt tables) with
    | (.failed needReconnect, tables) => (bxDatabaseQueryError needReconnect, tables, .sent)
    | (.done _, tables) => (.noError, tables, .sent)

theorem upsertSend_eq (h : t.Fits) (hlen : slots.length = t.names.length) (hmarks : t.marks.Nodup) (tables : SqlTables)
    (needInsert : Bool) (a : UpsertAnswers) :
    upsertSend serverKey t tables slots parentId checksum now needInsert a =
      some (sendStatement serverKey (writeStatement t slots parentId checksum now needInsert) tables a) := by
  obtain ⟨q, hq, hstatement⟩ := upsertWrite_statement h hlen hmarks parentId checksum now needInsert
  unfold upsertSend sendStatement
  rw [hq]
  dsimp only
  split
  · rfl
  · rw [hstatement]
    dsimp only
    rcases a.write.run tables (runStatement serverKey (writeStatement t slots parentId checksum now needInsert) tables)
      with ⟨result, next⟩
    cases result <;> rfl

theorem length_readSlots (lib : TextLib) (t : UpsertTable) (obj : Json) : (readSlots lib t.fields obj).length = t.names.length := by
  rw [readSlots, UpsertTable.names, List.length_map, List.length_map]

theorem UpsertTable.Fits.not_refused (h : t.Fits) :
    ¬(t.fields = [] ∨ bxUpsertMaxFields < t.fields.length ∨ !tableAllowed t.table) := by
  obtain ⟨names, hnames⟩ := h.names_cons
  rintro (hnil | hmany | htable)
  · rw [UpsertTable.names, hnil] at hnames
    exact nomatch hnames
  · exact absurd h.count (Nat.not_le.mpr hmany)
  · rw [h.allowed] at htable
    exact nomatch htable

theorem bxJsonUpsertSql_unkeyed (h : t.Fits) {obj : Json} (hpk : ¬pkOk (readSlots lib t.fields obj)) (tables : SqlTables)
    (a : UpsertAnswers) :
    bxJsonUpsertSql serverKey lib xxh3 t tables obj parentId now a = some (.errorGeneric, tables, .unread) := by
  unfold bxJsonUpsertSql
  dsimp only
  rw [if_neg h.not_refused, if_pos (by simpa using hpk)]

/-- What the SELECT finds decides about the write. -/
theorem bxJsonUpsertSql_eq (h : t.Fits) {obj : Json} (hpk : pkOk (readSlots lib t.fields obj)) (tables : SqlTables) (a : UpsertAnswers) :
    bxJsonUpsertSql serverKey lib xxh3 t tables obj parentId now a =
      if !a.selectPrepared then some (.errorGeneric, tables, .unread)
      else
        match a.select with
        | .failed needReconnect => some (bxDatabaseQueryError needReconnect, tables, .unread)
        | .answered =>
          match (tables (bytes t.table)).find?
              (Sql.meets (sameValue serverKey) (sentKeys t (readSlots lib t.fields obj) parentId)) with
          | none =>
            upsertSend serverKey t tables (readSlots lib t.fields obj) parentId (objectChecksum lib xxh3 t parentId obj) now true a
          | some row =>
            if (row (bytes "_checksum")).iValue = objectChecksum lib xxh3 t parentId obj then some (.noError, tables, .skipped)
            else
              upsertSend serverKey t tables (readSlots lib t.fields obj) parentId (objectChecksum lib xxh3 t parentId obj) now false a := by
  obtain ⟨q, hq, hstatement⟩ := upsertSelect_statement h (readSlots lib t.fields obj) parentId
  unfold bxJsonUpsertSql
  dsimp only
  rw [if_neg h.not_refused, if_neg (by rw [hpk]; exact nofun), hq]
  dsimp only
  split
  · rfl
  · cases a.select with
    | failed needReconnect => rfl
    | answered =>
      dsimp only
      rw [hstatement]
      dsimp only [Statement.run]
      rw [← List.head?_filter]
      cases (tables (bytes t.table)).filter
        (Sql.meets (sameValue serverKey) (sentKeys t (readSlots lib t.fields obj) parentId)) <;> rfl

/-! ### Values -/

theorem sent_bound {slot : BXSlot} (h : ∀ n, slot = .uint (some n) → n.toNat < 2 ^ 63) : slot.bound.sent = fieldValue slot := by
  cases slot with
  | uint value =>
    cases value with
    | none => rfl
    | some n =>
      have hn := h n rfl
      refine congrArg SqlValue.integer ?_
      exact BitVec.toInt_eq_toNat_of_lt (x := n.toBitVec) (by change 2 * n.toNat < 2 ^ 64; omega)
  | int value =>
    cases value with
    | none => rfl
    | some n => exact congrArg SqlValue.integer (by simp)
  | str value => cases value <;> rfl
  | float value => cases value <;> rfl
  | bool value => cases value <;> rfl
  | uuid value => cases value <;> rfl

/-- An unsigned value beyond the sign bit is sent as a negative one. -/
theorem sent_bound_ne {n : UInt64} (h : ¬n.toNat < 2 ^ 63) : (BXSlot.uint (some n)).bound.sent ≠ fieldValue (.uint (some n)) := by
  intro heq
  have hint : n.toInt64.toInt = (n.toNat : Int) := SqlValue.integer.inj heq
  have hlt : n.toInt64.toInt < 2 ^ 63 := Int64.toInt_lt _
  omega

/-! ### When the names are free -/

theorem value_ne_none {q : BXDatabaseQuery} {stmt : Statement SqlValue} (h : q.statement = some stmt) :
    ∀ p ∈ q.parameters, p.value ≠ none := by
  unfold BXDatabaseQuery.statement at h
  split at h
  · rename_i hall
    rw [List.all_eq_true] at hall
    intro p hp hnone
    have hsome := hall p hp
    rw [hnone] at hsome
    exact nomatch hsome
  · exact nomatch h

theorem marks_nodup (h : t.Fits) (hfree : OwnNamesFree t slots) : t.marks.Nodup := by
  have hcolumns := hfree.columns
  have hparent := hfree.parent
  rw [UpsertTable.columns, List.nodup_append] at hcolumns
  obtain ⟨-, -, hdisjoint⟩ := hcolumns
  have howns : ∀ n ∈ t.names, n ∉ ownColumns := fun n hn hown => hdisjoint n hn n (List.mem_append_right _ hown) rfl
  rw [UpsertTable.marks, List.nodup_append]
  refine ⟨h.distinct, ?_, fun n hn m hm heq => ?_⟩
  · cases t.parent with
    | none => exact (by decide : ownColumns.Nodup)
    | some => exact (by decide : (bytes "_parent" :: ownColumns).Nodup)
  · subst heq
    rcases List.mem_append.mp hm with hm | hm
    · obtain ⟨parent, hmem, rfl⟩ := List.mem_map.mp hm
      exact hparent (by rw [Option.mem_toList.mp hmem]; rfl) hn
    · exact howns n hn hm

theorem setColumns_nodup (h : t.Fits) (hmarks : t.marks.Nodup) : t.setColumns.Nodup := by
  have hvalues := (updateNamed_perm h).nodup_iff.mpr hmarks
  rw [updateNamed_values] at hvalues
  exact hvalues.of_append_left

theorem headD_mem (h : t.Fits) (hlen : slots.length = t.names.length) : slots.headD (.uint none) ∈ slots := by
  obtain ⟨names, hnames⟩ := h.names_cons
  cases slots with
  | nil => exact absurd hlen (by rw [hnames]; exact nofun)
  | cons => exact List.mem_cons_self

theorem sentKeys_eq (h : t.Fits) (hlen : slots.length = t.names.length) (hfree : OwnNamesFree t slots) (parentId : UInt64) :
    sentKeys t slots parentId = keyValues t slots parentId := by
  have hid := sent_bound fun n hn => hfree.unsigned n (hn ▸ headD_mem h hlen)
  rw [sentKeys, keyValues, hid]

/-- The columns of the INSERT with their values. -/
theorem insertPairs_eq (hlen : slots.length = t.names.length) :
    t.columns.zip ((upsertBindings t slots parentId checksum now).map fun b => b.2.sent) =
      (fieldBindings t slots).map (fun b => (b.1, b.2.sent)) ++
        ((t.parent.toList.map fun parent => (parent, .integer parentId.toNat)) ++
          (ownBindings checksum now).map fun b => (b.1, b.2.sent)) := by
  have hzip (l : List (Name × BoundValue)) : (l.map Prod.fst).zip (l.map fun b => b.2.sent) = l.map fun b => (b.1, b.2.sent) := by
    rw [List.zip_map']
  have hnames := fieldBindings_fst hlen
  have hparent : t.parent.toList.zip ((parentBindings t parentId).map fun b => b.2.sent) =
      t.parent.toList.map fun parent => (parent, .integer parentId.toNat) := by
    unfold parentBindings
    cases t.parent <;> rfl
  have hlenFields : t.names.length = ((fieldBindings t slots).map fun b => b.2.sent).length := by
    rw [← hnames, List.length_map, List.length_map]
  have hlenParent : t.parent.toList.length = ((parentBindings t parentId).map fun b => b.2.sent).length := by
    rw [parentBindings, List.length_map, List.length_map]
  rw [UpsertTable.columns, upsertBindings, List.map_append, List.zip_append hlenFields, List.map_append, List.zip_append hlenParent,
    hparent, ← hzip, hnames]
  rfl

theorem columns_length (hlen : slots.length = t.names.length) (parentId checksum now : UInt64) :
    t.columns.length = ((upsertBindings t slots parentId checksum now).map fun b => b.2.sent).length := by
  have hfst := congrArg List.length (upsertBindings_fst hlen parentId checksum now)
  rw [List.length_map] at hfst
  rw [List.length_map, hfst, UpsertTable.columns, UpsertTable.marks]
  simp only [List.length_append, List.length_map]

/-- The row of the INSERT. -/
def insertedRow (t : UpsertTable) (slots : List BXSlot) (parentId checksum now : UInt64) : Sql.Row SqlValue :=
  Sql.assign (fun _ => .null) (t.columns.zip ((upsertBindings t slots parentId checksum now).map fun b => b.2.sent))

theorem insertedRow_of_mem (hlen : slots.length = t.names.length) (hcolumns : t.columns.Nodup) {p : Name × SqlValue}
    (hp : p ∈ (fieldBindings t slots).map (fun b => (b.1, b.2.sent)) ++
        ((t.parent.toList.map fun parent => (parent, .integer parentId.toNat)) ++
          (ownBindings checksum now).map fun b => (b.1, b.2.sent))) :
    insertedRow t slots parentId checksum now p.1 = p.2 := by
  have hfst := List.map_fst_zip (Nat.le_of_eq (columns_length hlen parentId checksum now))
  exact Sql.assign_of_mem _ (hfst.symm ▸ hcolumns) (by rw [insertPairs_eq hlen]; exact hp)

theorem mem_fieldBindings {i : Nat} {n : Name} {slot : BXSlot} (hn : t.names[i]? = some n) (hslot : slots[i]? = some slot) :
    (fieldBindings t slots)[i]? = some (n, slot.bound) := by
  rw [fieldBindings, List.getElem?_zip_eq_some]
  exact ⟨hn, by rw [List.getElem?_map, hslot]; rfl⟩

theorem insertedRow_field (hlen : slots.length = t.names.length) (hcolumns : t.columns.Nodup) {i : Nat} {n : Name} {slot : BXSlot}
    (hn : t.names[i]? = some n) (hslot : slots[i]? = some slot) :
    insertedRow t slots parentId checksum now n = slot.bound.sent :=
  insertedRow_of_mem hlen hcolumns (p := (n, slot.bound.sent))
    (List.mem_append_left _ (List.mem_map_of_mem (List.mem_of_getElem? (mem_fieldBindings hn hslot))))

theorem insertedRow_parent (hlen : slots.length = t.names.length) (hcolumns : t.columns.Nodup) {parent : Name}
    (hparent : parent ∈ t.parent) : insertedRow t slots parentId checksum now parent = .integer parentId.toNat :=
  insertedRow_of_mem hlen hcolumns (p := (parent, .integer parentId.toNat)) (List.mem_append_right _
    (List.mem_append_left _ (List.mem_map_of_mem (Option.mem_toList.mpr hparent))))

theorem runStatement_insert (hlen : slots.length = t.names.length) (hcolumns : t.columns.Nodup) (tables : SqlTables) (converted : Bool) :
    runStatement serverKey (writeStatement t slots parentId checksum now true) tables false converted =
      (some converted, Function.update tables (bytes t.table)
        (tables (bytes t.table) ++ [insertedRow t slots parentId checksum now])) := by
  unfold runStatement writeStatement
  dsimp only [Statement.run]
  rw [if_neg (by decide), if_pos rfl]
  dsimp only [Statement.run]
  rw [if_pos ⟨hcolumns, columns_length hlen _ _ _⟩]
  rfl

/-- What the UPDATE makes of a row. -/
def updatedRow (serverKey : SqlValue → κ) (t : UpsertTable) (slots : List BXSlot) (parentId checksum now : UInt64)
    (row : Sql.Row SqlValue) : Sql.Row SqlValue :=
  if Sql.meets (sameValue serverKey) (sentKeys t slots parentId) row then
    Sql.assign row ((setBindings t slots checksum now).map fun b => (b.1, b.2.sent))
  else row

theorem runStatement_update (tables : SqlTables) (converted : Bool) :
    runStatement serverKey (writeStatement t slots parentId checksum now false) tables false converted =
      (some converted, Function.update tables (bytes t.table)
        ((tables (bytes t.table)).map (updatedRow serverKey t slots parentId checksum now))) := rfl

/-- The id of an object and its parent equal themselves. -/
theorem meets_self (hpk : pkOk slots) {row : Sql.Row SqlValue}
    (hid : row (t.names.headD []) = (slots.headD (.uint none)).bound.sent)
    (hparent : ∀ parent ∈ t.parent, row parent = .integer parentId.toNat) :
    Sql.meets (sameValue serverKey) (sentKeys t slots parentId) row := by
  have hne : (slots.headD (.uint none)).bound.sent ≠ .null := by
    cases slots with
    | nil => exact absurd hpk (by decide)
    | cons slot slots => cases slot with
      | uint value | int value | str value | uuid value =>
        cases value with
        | none => exact absurd hpk (by simp [pkOk])
        | some value =>
          intro hnull
          cases hnull
      | float | bool => exact absurd hpk (by simp [pkOk])
  have hsame : ∀ v : SqlValue, v ≠ .null → sameValue serverKey v v = true := fun v hv => by simp [sameValue, hv]
  rw [Sql.meets, List.all_eq_true]
  intro k hk
  rcases List.mem_cons.mp hk with rfl | hk
  · dsimp only
    rw [hid]
    exact hsame _ hne
  · obtain ⟨parent, hmem, rfl⟩ := List.mem_map.mp hk
    dsimp only
    rw [hparent parent (Option.mem_toList.mp hmem)]
    exact hsame _ (by simp)

/-- The keys of a row are not set. -/
theorem keys_notMem_setColumns (h : t.Fits) (hfree : OwnNamesFree t slots) :
    ∀ k ∈ sentKeys t slots parentId, k.1 ∉ t.setColumns := by
  have hcolumns := hfree.columns
  obtain ⟨names, hnames⟩ := h.names_cons
  rw [UpsertTable.columns, hnames, List.cons_append, List.nodup_cons, List.nodup_append] at hcolumns
  obtain ⟨hid, -, hrest, hdisjoint⟩ := hcolumns
  intro k hk hset
  rw [UpsertTable.setColumns, hnames, List.tail_cons] at hset
  rcases List.mem_cons.mp hk with rfl | hk
  · rw [hnames] at hset
    exact hid (List.mem_append.mpr ((List.mem_append.mp hset).imp id (List.mem_append_right _)))
  · obtain ⟨parent, hmem, rfl⟩ := List.mem_map.mp hk
    rcases List.mem_append.mp hset with hset | hset
    · exact hdisjoint _ hset _ (List.mem_append_left _ hmem) rfl
    · rw [List.nodup_append] at hrest
      exact hrest.2.2 _ hmem _ hset rfl

theorem sets_fst (hlen : slots.length = t.names.length) (checksum now : UInt64) :
    ((setBindings t slots checksum now).map fun b => (b.1, b.2.sent)).map Prod.fst = t.setColumns := by
  rw [← setBindings_fst hlen checksum now, List.map_map]
  rfl

theorem updatedRow_of_notMem (hlen : slots.length = t.names.length) (row : Sql.Row SqlValue) {c : Name} (hc : c ∉ t.setColumns) :
    updatedRow serverKey t slots parentId checksum now row c = row c := by
  unfold updatedRow
  split
  · exact Sql.assign_of_notMem row (by rw [sets_fst hlen checksum now]; exact hc)
  · rfl

theorem meets_updatedRow (h : t.Fits) (hlen : slots.length = t.names.length) (hfree : OwnNamesFree t slots) (row : Sql.Row SqlValue) :
    Sql.meets (sameValue serverKey) (sentKeys t slots parentId) (updatedRow serverKey t slots parentId checksum now row) =
      Sql.meets (sameValue serverKey) (sentKeys t slots parentId) row :=
  Sql.meets_congr _ fun k hk => updatedRow_of_notMem hlen row (keys_notMem_setColumns h hfree k hk)

/-- A row of the object has the values. -/
theorem updatedRow_of_mem (h : t.Fits) (hlen : slots.length = t.names.length) (hfree : OwnNamesFree t slots)
    {row : Sql.Row SqlValue} (hrow : Sql.meets (sameValue serverKey) (sentKeys t slots parentId) row) {b : Name × BoundValue}
    (hb : b ∈ setBindings t slots checksum now) : updatedRow serverKey t slots parentId checksum now row b.1 = b.2.sent := by
  have hnodup := setColumns_nodup h (marks_nodup h hfree)
  rw [← sets_fst hlen checksum now] at hnodup
  unfold updatedRow
  rw [if_pos hrow]
  exact Sql.assign_of_mem row hnodup (List.mem_map_of_mem hb)

/-- The object has a row, and the first one carries its checksum. -/
def Settled (serverKey : SqlValue → κ) (t : UpsertTable) (slots : List BXSlot) (parentId checksum : UInt64) (tables : SqlTables) : Prop :=
  ∃ row, (tables (bytes t.table)).find? (Sql.meets (sameValue serverKey) (sentKeys t slots parentId)) = some row ∧
    (row (bytes "_checksum")).iValue = checksum

theorem iValue_integer (n : UInt64) : (SqlValue.integer n.toNat).iValue = n := by
  have hlt := n.toNat_lt
  have hmod : ((n.toNat : Int) % 2 ^ 64).toNat = n.toNat := by omega
  rw [SqlValue.iValue, UInt64.ofInt, hmod, UInt64.ofNat_toNat]

theorem settled_inserted (h : t.Fits) (hlen : slots.length = t.names.length) (hfree : OwnNamesFree t slots) (hpk : pkOk slots)
    (tables : SqlTables) (hnone : (tables (bytes t.table)).find? (Sql.meets (sameValue serverKey) (sentKeys t slots parentId)) = none) :
    Settled serverKey t slots parentId checksum (Function.update tables (bytes t.table)
      (tables (bytes t.table) ++ [insertedRow t slots parentId checksum now])) := by
  obtain ⟨names, hnames⟩ := h.names_cons
  have hmeets : Sql.meets (sameValue serverKey) (sentKeys t slots parentId) (insertedRow t slots parentId checksum now) := by
    refine meets_self hpk ?_ fun parent hparent => ?_
    · cases slots with
      | nil => exact absurd hpk (by decide)
      | cons slot slots => exact insertedRow_field hlen hfree.columns (i := 0) (by rw [hnames]; rfl) rfl
    · exact insertedRow_parent hlen hfree.columns hparent
  refine ⟨insertedRow t slots parentId checksum now, ?_, ?_⟩
  · rw [Function.update_self, List.find?_append, hnone, List.find?_cons_of_pos hmeets]
    rfl
  · have hvalue : insertedRow t slots parentId checksum now (bytes "_checksum") = .integer checksum.toNat :=
      insertedRow_of_mem hlen hfree.columns (p := (bytes "_checksum", .integer checksum.toNat))
        (List.mem_append_right _ (List.mem_append_right _ List.mem_cons_self))
    rw [hvalue]
    exact iValue_integer checksum

theorem settled_updated (h : t.Fits) (hlen : slots.length = t.names.length) (hfree : OwnNamesFree t slots)
    (tables : SqlTables) {first : Sql.Row SqlValue}
    (hfirst : (tables (bytes t.table)).find? (Sql.meets (sameValue serverKey) (sentKeys t slots parentId)) = some first) :
    Settled serverKey t slots parentId checksum (Function.update tables (bytes t.table)
      ((tables (bytes t.table)).map (updatedRow serverKey t slots parentId checksum now))) := by
  refine ⟨updatedRow serverKey t slots parentId checksum now first, ?_, ?_⟩
  · have hsame : Sql.meets (sameValue serverKey) (sentKeys t slots parentId) ∘ updatedRow serverKey t slots parentId checksum now =
        Sql.meets (sameValue serverKey) (sentKeys t slots parentId) := funext fun row => meets_updatedRow h hlen hfree row
    rw [Function.update_self, List.find?_map, hsame, hfirst]
    rfl
  · have hvalue : updatedRow serverKey t slots parentId checksum now first (bytes "_checksum") = .integer checksum.toNat :=
      updatedRow_of_mem (b := (bytes "_checksum", .longlong checksum true)) h hlen hfree (List.find?_some hfirst)
        (List.mem_append_right _ List.mem_cons_self)
    rw [hvalue]
    exact iValue_integer checksum

theorem sendStatement_allAnswered (stmt : Statement SqlValue) (tables : SqlTables) :
    sendStatement serverKey stmt tables allAnswered =
      match runStatement serverKey stmt tables false false with
      | (some _, left) => (.noError, left, .sent)
      | (none, left) => (.errorGeneric, left, .sent) := by
  unfold sendStatement allAnswered Exec.run
  dsimp only
  rcases runStatement serverKey stmt tables false false with ⟨warned, left⟩
  cases warned <;> rfl

theorem bxJsonUpsertSql_allAnswered (h : t.Fits) {obj : Json} (hpk : pkOk (readSlots lib t.fields obj)) (tables : SqlTables) :
    bxJsonUpsertSql serverKey lib xxh3 t tables obj parentId now allAnswered =
      match (tables (bytes t.table)).find? (Sql.meets (sameValue serverKey) (sentKeys t (readSlots lib t.fields obj) parentId)) with
      | none =>
        upsertSend serverKey t tables (readSlots lib t.fields obj) parentId (objectChecksum lib xxh3 t parentId obj) now true
          allAnswered
      | some row =>
        if (row (bytes "_checksum")).iValue = objectChecksum lib xxh3 t parentId obj then some (.noError, tables, .skipped)
        else
          upsertSend serverKey t tables (readSlots lib t.fields obj) parentId (objectChecksum lib xxh3 t parentId obj) now false
            allAnswered :=
  bxJsonUpsertSql_eq h hpk tables allAnswered

/-- A write whose call ends well has run. -/
theorem sendStatement_noError {stmt : Statement SqlValue} {tables tables' : SqlTables} {a : UpsertAnswers} {ended : UpsertEnd}
    (h : sendStatement serverKey stmt tables a = (.noError, tables', ended)) :
    ∃ converted, ∃ warned, runStatement serverKey stmt tables false converted = (some warned, tables') := by
  unfold sendStatement at h
  split at h
  · exact nomatch h
  · split at h
    · exact absurd (congrArg Prod.fst h) (bxDatabaseQueryError_ne _)
    · rename_i warned left hrun
      obtain ⟨-, rfl, -⟩ : BXillError.noError = .noError ∧ left = tables' ∧ UpsertEnd.sent = ended := by simpa using h
      cases hwrite : a.write with
      | unsent needReconnect =>
        rw [hwrite] at hrun
        exact nomatch hrun
      | unreported fkError converted needReconnect =>
        rw [hwrite] at hrun
        exact nomatch hrun
      | ran fkError converted =>
        rw [hwrite] at hrun
        unfold Exec.run at hrun
        dsimp only at hrun
        split at hrun
        · rename_i warned written heq
          obtain ⟨-, rfl⟩ := Prod.mk.inj hrun
          cases fkError with
          | true => exact nomatch heq
          | false => exact ⟨converted, warned, heq⟩
        · exact nomatch hrun

theorem settled_of_noError (h : t.Fits) {obj : Json} (hfree : OwnNamesFree t (readSlots lib t.fields obj))
    (hpk : pkOk (readSlots lib t.fields obj)) {tables tables' : SqlTables} {a : UpsertAnswers} {ended : UpsertEnd}
    (hcall : bxJsonUpsertSql serverKey lib xxh3 t tables obj parentId now a = some (.noError, tables', ended)) :
    Settled serverKey t (readSlots lib t.fields obj) parentId (objectChecksum lib xxh3 t parentId obj) tables' := by
  have hlen := length_readSlots lib t obj
  have hmarks := marks_nodup h hfree
  rw [bxJsonUpsertSql_eq h hpk] at hcall
  split at hcall
  · exact nomatch hcall
  · cases hselect : a.select with
    | failed needReconnect =>
      rw [hselect] at hcall
      exact absurd (congrArg Prod.fst (Option.some.inj hcall)) (bxDatabaseQueryError_ne _)
    | answered =>
      rw [hselect] at hcall
      dsimp only at hcall
      split at hcall
      · rename_i hnone
        rw [upsertSend_eq h hlen hmarks] at hcall
        obtain ⟨converted, warned, hrun⟩ := sendStatement_noError (Option.some.inj hcall)
        rw [runStatement_insert hlen hfree.columns] at hrun
        rw [← (Prod.mk.inj hrun).2]
        exact settled_inserted h hlen hfree hpk tables hnone
      · rename_i first hfirst
        split at hcall
        · rename_i hsame
          obtain ⟨-, rfl, -⟩ : BXillError.noError = .noError ∧ tables = tables' ∧ UpsertEnd.skipped = ended := by simpa using hcall
          exact ⟨first, hfirst, hsame⟩
        · rw [upsertSend_eq h hlen hmarks] at hcall
          obtain ⟨converted, warned, hrun⟩ := sendStatement_noError (Option.some.inj hcall)
          rw [runStatement_update] at hrun
          rw [← (Prod.mk.inj hrun).2]
          exact settled_updated h hlen hfree tables hfirst

/-- With its row settled an object is not written. -/
theorem not_sent_of_settled (h : t.Fits) {obj : Json} (hpk : pkOk (readSlots lib t.fields obj)) {tables : SqlTables}
    (hsettled : Settled serverKey t (readSlots lib t.fields obj) parentId (objectChecksum lib xxh3 t parentId obj) tables)
    (a : UpsertAnswers) :
    ∃ err ended, ended ≠ UpsertEnd.sent ∧
      bxJsonUpsertSql serverKey lib xxh3 t tables obj parentId now a = some (err, tables, ended) := by
  obtain ⟨row, hrow, hsame⟩ := hsettled
  rw [bxJsonUpsertSql_eq h hpk]
  split
  · exact ⟨.errorGeneric, .unread, nofun, rfl⟩
  · cases a.select with
    | failed needReconnect => exact ⟨bxDatabaseQueryError needReconnect, .unread, nofun, rfl⟩
    | answered =>
      dsimp only
      rw [hrow]
      dsimp only
      rw [if_pos hsame]
      exact ⟨.noError, .skipped, nofun, rfl⟩

/-- The columns of the sync, by what is written to each. -/
theorem holdsOwn_of_bindings {row : Sql.Row SqlValue} (h : ∀ b ∈ ownBindings checksum now, row b.1 = b.2.sent) :
    HoldsOwn checksum now row := by
  have hchecksum := h (bytes "_checksum", .longlong checksum true) List.mem_cons_self
  have hupdated := h (bytes "_last_updated", .longlong now true) (List.mem_cons_of_mem _ List.mem_cons_self)
  have hdeleted := h (bytes "_deleted", .longlong 0 true) (List.mem_cons_of_mem _ (List.mem_cons_of_mem _ List.mem_cons_self))
  unfold HoldsOwn ownColumns
  rw [List.map_cons, List.map_cons, List.map_cons, hchecksum, hupdated, hdeleted]
  rfl

theorem fieldValue_of_getElem? (hfree : OwnNamesFree t slots) {i : Nat} {slot : BXSlot} (hslot : slots[i]? = some slot) :
    slot.bound.sent = fieldValue slot :=
  sent_bound fun n hn => hfree.unsigned n (hn ▸ List.mem_of_getElem? hslot)

theorem holdsFrom_insertedRow (hlen : slots.length = t.names.length) (hfree : OwnNamesFree t slots) :
    HoldsFrom t slots 0 (insertedRow t slots parentId checksum now) := by
  intro i n slot _ hn hslot
  rw [insertedRow_field hlen hfree.columns hn hslot]
  exact fieldValue_of_getElem? hfree hslot

theorem holdsFrom_updatedRow (h : t.Fits) (hlen : slots.length = t.names.length) (hfree : OwnNamesFree t slots)
    {row : Sql.Row SqlValue} (hrow : Sql.meets (sameValue serverKey) (sentKeys t slots parentId) row) :
    HoldsFrom t slots 1 (updatedRow serverKey t slots parentId checksum now row) := by
  intro i n slot hi hn hslot
  obtain ⟨i, rfl⟩ := Nat.exists_eq_succ_of_ne_zero (Nat.ne_of_gt hi)
  have htail : (fieldBindings t slots).tail[i]? = some (n, slot.bound) := by
    rw [List.getElem?_tail]
    exact mem_fieldBindings hn hslot
  rw [updatedRow_of_mem h hlen hfree hrow (b := (n, slot.bound)) (List.mem_append_left _ (List.mem_of_getElem? htail))]
  exact fieldValue_of_getElem? hfree hslot

theorem statementsAligned_of_free (h : t.Fits) {obj : Json} (hpk : pkOk (readSlots lib t.fields obj))
    (hfree : OwnNamesFree t (readSlots lib t.fields obj)) (parentId : UInt64) :
    StatementsAligned serverKey lib xxh3 t parentId obj := by
  have hlen := length_readSlots lib t obj
  have hmarks := marks_nodup h hfree
  have hkeys := sentKeys_eq h hlen hfree parentId
  refine ⟨fun checksum now needInsert => ?_, fun tables now hnone => ?_, fun tables now first hfirst hchecksum => ?_,
    fun tables now answers tables' ended hcall now' answers' => ?_⟩
  · obtain ⟨q, hq, hstatement⟩ :=
      upsertWrite_statement h hlen hmarks parentId checksum now needInsert
    exact ⟨q, hq, value_ne_none hstatement⟩
  · refine ⟨insertedRow t (readSlots lib t.fields obj) parentId (objectChecksum lib xxh3 t parentId obj) now, ?_, ?_, ?_, ?_⟩
    · unfold ofObject at hnone
      rw [← hkeys] at hnone
      rw [bxJsonUpsertSql_allAnswered h hpk, hnone]
      dsimp only
      rw [upsertSend_eq h hlen hmarks, sendStatement_allAnswered, runStatement_insert hlen hfree.columns]
    · exact holdsFrom_insertedRow hlen hfree
    · exact fun parent hparent => insertedRow_parent hlen hfree.columns hparent
    · exact holdsOwn_of_bindings fun b hb => insertedRow_of_mem hlen hfree.columns (p := (b.1, b.2.sent))
        (List.mem_append_right _ (List.mem_append_right _ (List.mem_map_of_mem hb)))
  · refine ⟨updatedRow serverKey t (readSlots lib t.fields obj) parentId (objectChecksum lib xxh3 t parentId obj) now, ?_,
      fun row => ?_⟩
    · unfold ofObject at hfirst
      rw [← hkeys] at hfirst
      rw [bxJsonUpsertSql_allAnswered h hpk, hfirst]
      dsimp only
      rw [if_neg hchecksum, upsertSend_eq h hlen hmarks, sendStatement_allAnswered, runStatement_update]
    · unfold ofObject
      rw [← hkeys]
      split
      · rename_i hrow
        refine ⟨holdsFrom_updatedRow h hlen hfree hrow, ?_, fun c hc => updatedRow_of_notMem hlen row hc⟩
        · exact holdsOwn_of_bindings fun b hb => updatedRow_of_mem h hlen hfree hrow (List.mem_append_right _ hb)
      · rename_i hrow
        exact if_neg hrow
  · exact not_sent_of_settled h hpk (settled_of_noError h hfree hpk hcall) answers'

/-! ### Only when they are free -/

/-- A name that occurs twice has one value for two places. -/
theorem marks_nodup_of_bound (h : t.Fits) (hlen : slots.length = t.names.length)
    (hbound : ∃ q, upsertWrite t slots parentId checksum now true = some (some q) ∧ ∀ p ∈ q.parameters, p.value ≠ none) :
    t.marks.Nodup := by
  by_contra hdup
  obtain ⟨q, hq, hvalues⟩ := hbound
  obtain ⟨taken, htaken, -, hnamed, hnone⟩ := upsertWrite_query h slots parentId checksum now true
  obtain ⟨p, hp, hvalue⟩ := statement_repeated (s := insertNamed t) (parameterName_marks h) hnamed hnone
    (upsertBindings_parameterName h hlen parentId checksum now) hdup
  rw [htaken] at hq
  obtain rfl := Option.some.inj (Option.some.inj hq)
  exact hvalues p hp hvalue

theorem free_of_statementsAligned (h : t.Fits) {obj : Json} (hpk : pkOk (readSlots lib t.fields obj))
    (haligned : StatementsAligned serverKey lib xxh3 t parentId obj) : OwnNamesFree t (readSlots lib t.fields obj) := by
  have hlen := length_readSlots lib t obj
  have hmarks := marks_nodup_of_bound h hlen (haligned.bound 0 0 true)
  -- The first object of an empty table is inserted.
  obtain ⟨row, hcall, hfields, -, -⟩ := haligned.inserted (fun _ => []) 0 rfl
  have hsend := hcall.symm
  rw [bxJsonUpsertSql_allAnswered h hpk] at hsend
  dsimp only [List.find?_nil] at hsend
  rw [upsertSend_eq h hlen hmarks, sendStatement_allAnswered] at hsend
  have hcolumns : t.columns.Nodup := by
    by_contra hdup
    have hrun : runStatement serverKey (writeStatement t (readSlots lib t.fields obj) parentId
        (objectChecksum lib xxh3 t parentId obj) 0 true) (fun _ => []) false false = (none, fun _ => []) := by
      unfold runStatement writeStatement
      rw [if_neg (by decide), if_pos rfl]
      dsimp only [Statement.run]
      rw [if_neg fun hboth => hdup hboth.1]
    rw [hrun] at hsend
    exact nomatch hsend
  refine ⟨hcolumns, fun hparent hmem => ?_, fun n hn => ?_⟩
  · rw [UpsertTable.marks, List.nodup_append] at hmarks
    obtain ⟨parent, hsome⟩ := Option.isSome_iff_exists.mp hparent
    refine hmarks.2.2 _ hmem _ (List.mem_append_left _ ?_) rfl
    rw [hsome]
    exact List.mem_singleton_self _
  · rw [runStatement_insert hlen hcolumns] at hsend
    have htables := congrArg (fun r : BXillError × SqlTables × UpsertEnd => r.2.1 (bytes t.table)) (Option.some.inj hsend)
    dsimp only at htables
    rw [Function.update_self, Function.update_self] at htables
    obtain rfl : row = insertedRow t (readSlots lib t.fields obj) parentId (objectChecksum lib xxh3 t parentId obj) 0 := by
      simpa using htables
    obtain ⟨i, hi⟩ := List.mem_iff_getElem?.mp hn
    obtain ⟨hlt, -⟩ := List.getElem?_eq_some_iff.mp hi
    have hname : t.names[i]? = some t.names[i] := List.getElem?_eq_getElem (hlen ▸ hlt)
    have hrow := hfields i _ _ (Nat.zero_le i) hname hi
    rw [insertedRow_field hlen hcolumns hname hi] at hrow
    by_contra hbig
    exact sent_bound_ne hbig hrow

/-- The statements are aligned exactly when no field has a name of the function's own and no unsigned value is negative
    to the server. -/
theorem upsertAligned_iff (serverKey : SqlValue → κ) (lib : TextLib) (xxh3 : List UInt8 → UInt64) {t : UpsertTable} (h : t.Fits)
    (parentId : UInt64) (obj : Json) :
    UpsertAligned serverKey lib xxh3 t parentId obj ↔
      (pkOk (readSlots lib t.fields obj) → OwnNamesFree t (readSlots lib t.fields obj)) :=
  forall_congr' fun hpk => ⟨free_of_statementsAligned h hpk, fun hfree => statementsAligned_of_free h hpk hfree parentId⟩

end

end

/-! ### Lines of an entry -/

def lineObject (debitAccountId : Int64) : Json :=
  .object [("id", .integer 7), ("description", .string (bytes "rent")), ("debit_account_id", .integer debitAccountId)]

theorem fits_manualEntryLine : manualEntryLineTable.Fits where
  allowed := by decide
  count := by decide
  first := by decide
  distinct := by decide
  words := by decide +kernel
  named := by decide
  select_lt := by decide +kernel
  cols_lt := by decide +kernel
  vals_lt := by decide +kernel
  sets_lt := by decide +kernel

theorem readSlots_line (debitAccountId : Int64) :
    readSlots plainText manualEntryLineTable.fields (lineObject debitAccountId) =
      [.uint (some 7), .str none, .uint (some debitAccountId.toUInt64), .uint none, .uint none, .str (some (bytes "rent")),
        .float none, .uint none] := by
  rfl

theorem upsertAligned_line : UpsertAligned id plainText (fun _ => 5) manualEntryLineTable 3 (lineObject 1020) := by
  refine (upsertAligned_iff id plainText (fun _ => 5) fits_manualEntryLine 3 (lineObject 1020)).mpr fun _ => ?_
  rw [readSlots_line]
  refine ⟨by decide +kernel, fun _ => by decide +kernel, fun n hn => ?_⟩
  rcases (by simpa using hn : n = 7 ∨ n = (1020 : Int64).toUInt64) with rfl | rfl <;> decide

/-- A negative number of the JSON is an unsigned value that the statements send as a negative one. -/
theorem upsertAligned_negative :
    manualEntryLineTable.Fits ∧ ¬UpsertAligned id plainText (fun _ => 5) manualEntryLineTable 3 (lineObject (-1)) := by
  refine ⟨fits_manualEntryLine, fun haligned => ?_⟩
  have hpk : pkOk (readSlots plainText manualEntryLineTable.fields (lineObject (-1))) := rfl
  have hfree := free_of_statementsAligned fits_manualEntryLine hpk (haligned hpk)
  have hbig := hfree.unsigned (-1 : Int64).toUInt64 (by rw [readSlots_line]; simp)
  exact absurd hbig (by decide)

end BxSync
