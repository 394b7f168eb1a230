import BxSync.Documents
import BxSync.Lookups

/-! What the lists do to the tables is made of rows that are stored, where the result of one decides on the next. Each list
    is such a program over the tables it names. -/

namespace BxSync

variable {κ : Type} [DecidableEq κ] (lib : TextLib) (serverKey : BXSlot → κ) (xxh3 : List UInt8 → UInt64)

/-- Programs that store rows in the tables of a set. -/
inductive RowProgram (F : Set String) : {β : Type} → (Records κ → β × Records κ) → Prop
  | pure {β : Type} (b : β) : RowProgram F fun s => (b, s)
  | store (table : String) (htable : table ∈ F) (statements : RowStatements) (key nullKey : Option (κ × UInt64))
      (row : UpsertRow) (a : UpsertAnswers) (hnull : nullKey = none ∨ statements = .ignoring) :
    RowProgram F fun s =>
      (((storeRow statements (s.tables table) key nullKey row a).1, (storeRow statements (s.tables table) key nullKey row a).2.2),
        (s.store table statements key nullKey row a).2)
  | upsert (t : UpsertTable) (htable : t.table ∈ F) (obj : Json) (parentId : UInt64) (a : UpsertAnswers) :
    RowProgram F fun s => s.jsonUpsert lib serverKey xxh3 t obj parentId a
  | bind {β γ : Type} {f : Records κ → β × Records κ} {g : β → Records κ → γ × Records κ} (hf : RowProgram F f)
      (hg : ∀ b, RowProgram F (g b)) :
    RowProgram F fun s => g (f s).1 (f s).2

variable {lib serverKey xxh3} {F G : Set String} {β γ ρ : Type} {f : Records κ → β × Records κ}

theorem RowProgram.mono (h : RowProgram lib serverKey xxh3 F f) (hsub : F ⊆ G) : RowProgram lib serverKey xxh3 G f := by
  induction h with
  | pure b => exact .pure b
  | store table htable statements key nullKey row a hnull => exact .store table (hsub htable) statements key nullKey row a hnull
  | upsert t htable obj parentId a => exact .upsert t (hsub htable) obj parentId a
  | bind _ _ ihf ihg => exact .bind ihf ihg

/-- The result of a program, read through a function. -/
theorem RowProgram.map (h : RowProgram lib serverKey xxh3 F f) (r : β → γ) :
    RowProgram lib serverKey xxh3 F fun s => (r (f s).1, (f s).2) :=
  h.bind fun b => .pure (r b)

theorem RowProgram.storeError {table : String} (htable : table ∈ F) (statements : RowStatements) (key nullKey : Option (κ × UInt64))
    (row : UpsertRow) (a : UpsertAnswers) (hnull : nullKey = none ∨ statements = .ignoring) :
    RowProgram lib serverKey xxh3 F fun s => s.store table statements key nullKey row a :=
  (RowProgram.store table htable statements key nullKey row a hnull).map Prod.fst

/-! ### One list -/

theorem rowProgram_syncSteps {l : RecordList κ ρ} (hl : ∀ row, RowProgram lib serverKey xxh3 F fun s => l.sync s row)
    (rows : List ρ) :
    RowProgram lib serverKey xxh3 F fun s => ((l.walker.syncSteps rows s).1, (l.walker.syncSteps rows s).2.1) := by
  induction rows with
  | nil => exact .pure _
  | cons row rest ih =>
    have hbind := (hl row).bind (g := fun e s =>
      if e ≠ .noError then (e, s) else ((l.walker.syncSteps rest s).1, (l.walker.syncSteps rest s).2.1)) fun e => by
        split
        · exact .pure e
        · exact ih
    refine (congrArg (RowProgram lib serverKey xxh3 F) (funext fun s => ?_)).mp hbind
    by_cases h : (l.walker.sync s row).1 ≠ .noError
    · rw [Walker.syncSteps, if_pos h]
      exact if_pos h
    · rw [Walker.syncSteps, if_neg h]
      exact if_neg h

/-- A walk is made of what its rows are made of. -/
theorem rowProgram_walk {l : RecordList κ ρ} (hl : ∀ row, RowProgram lib serverKey xxh3 F fun s => l.sync s row)
    (connected : Bool) (replies : List (Option (PageReply ρ))) : RowProgram lib serverKey xxh3 F (l.walk connected replies) := by
  have hsteps : ∀ (replies : List (Option (PageReply ρ))) (pos : Nat), RowProgram lib serverKey xxh3 F fun s =>
      ((l.walker.walkSteps (pagingOf l.path) replies pos s ()).error, (l.walker.walkSteps (pagingOf l.path) replies pos s ()).store) := by
    intro replies
    induction replies with
    | nil => exact fun _ => .pure _
    | cons reply rest ih =>
      intro pos
      cases reply with
      | none => exact .pure _
      | some reply =>
        cases hrows : reply.rows with
        | none =>
          simp only [Walker.walkSteps, hrows]
          exact .pure _
        | some rows =>
          have hbind := (rowProgram_syncSteps hl rows).bind (g := fun e s =>
            if e ≠ .noError then (e, s)
            else if rows.isEmpty ∨ pagingOf l.path = .single then (.noError, s)
            else
              ((l.walker.walkSteps (pagingOf l.path) rest (pos + (pagingOf l.path).stride) s ()).error,
                (l.walker.walkSteps (pagingOf l.path) rest (pos + (pagingOf l.path).stride) s ()).store)) fun e => by
              split
              · exact .pure e
              split
              · exact .pure _
              · exact ih _
          refine (congrArg (RowProgram lib serverKey xxh3 F) (funext fun s => ?_)).mp hbind
          have hpage : ∀ next save, l.walker.onPage () next save = (.noError, (), none) := fun _ _ => rfl
          simp only [Walker.walkSteps, hrows, hpage]
          by_cases he : (l.walker.syncSteps rows s).1 ≠ .noError
          · simp [he]
          by_cases hempty : rows.isEmpty
          · simp [he, hempty]
          by_cases hsingle : pagingOf l.path = .single
          · simp [he, hempty, hsingle]
          · simp [he, hempty, hsingle]
  unfold RecordList.walk
  cases connected
  · exact .pure _
  · exact hsteps replies _

/-- Walks one after the other. -/
theorem rowProgram_walkLists {lists : List (RecordList κ ρ)}
    (hl : ∀ l ∈ lists, ∀ row, RowProgram lib serverKey xxh3 F fun s => l.sync s row) (connected : Bool)
    (replies : List (List (Option (PageReply ρ)))) : RowProgram lib serverKey xxh3 F (walkLists connected lists replies) := by
  induction lists generalizing replies with
  | nil => exact .pure _
  | cons l lists ih =>
    obtain ⟨hl, hlists⟩ := List.forall_mem_cons.mp hl
    refine (rowProgram_walk hl connected (replies.headD [])).bind (g := fun e s =>
      if keepGoing e ≠ .noError then (keepGoing e, s) else walkLists connected lists replies.tail s) fun e => ?_
    split
    · exact .pure _
    · exact ih hlists replies.tail

/-! ### Rows -/

theorem rowProgram_up (t : UpsertTable) (item : RecordItem) :
    RowProgram lib serverKey xxh3 {t.table} fun s : Records κ => up lib serverKey xxh3 t s item :=
  .upsert t (Set.mem_singleton _) item.object 0 item.answers

theorem rowProgram_namedListItem (table : String) (item : RecordItem) :
    RowProgram lib serverKey xxh3 {table} fun s : Records κ => namedListItem lib serverKey xxh3 table s item :=
  .storeError (Set.mem_singleton _) _ _ _ _ _ (Or.inl rfl)

theorem rowProgram_upsertAll (t : UpsertTable) (parentId : UInt64) (counts : BXillError → Bool) (rows : List (Json × UpsertAnswers)) :
    RowProgram lib serverKey xxh3 {t.table} (upsertAll (κ := κ) lib serverKey xxh3 t parentId counts rows) := by
  induction rows with
  | nil => exact .pure _
  | cons row rest ih =>
    refine (RowProgram.upsert t (Set.mem_singleton _) row.1 parentId row.2).bind
      (g := fun e s => if counts e then (e, s) else upsertAll lib serverKey xxh3 t parentId counts rest s) fun e => ?_
    cases counts e
    · exact ih
    · exact .pure e

/-- The head of a manual entry and its lines. -/
theorem rowProgram_manualOne (item : RecordItem) :
    RowProgram lib serverKey xxh3 {"manual_entry", "manual_entry_line"} fun s : Records κ => manualOne lib serverKey xxh3 s item := by
  have hhead : RowProgram lib serverKey xxh3 {"manual_entry", "manual_entry_line"} fun s : Records κ =>
      up lib serverKey xxh3 manualEntryTable s item :=
    (rowProgram_up manualEntryTable item).mono (Set.singleton_subset_iff.mpr (Or.inl rfl))
  unfold manualOne
  cases item.entries with
  | none =>
    refine hhead.bind (g := fun e s => if e ≠ .noError then (e, s) else (.noError, s)) fun e => ?_
    split
    · exact .pure e
    · exact .pure _
  | some lines =>
    refine hhead.bind (g := fun e s =>
      if e ≠ .noError then (e, s)
      else upsertAll lib serverKey xxh3 manualEntryLineTable (jsonIntegerValue (item.object.get "id")) (· ≠ .noError) lines s) fun e => ?_
    split
    · exact .pure e
    · exact (rowProgram_upsertAll manualEntryLineTable _ _ _).mono (Set.singleton_subset_iff.mpr (Or.inr rfl))

/-- A user that is dropped touches nothing, and one that is stored its table only. -/
theorem rowProgram_userPageItem (item : RecordItem) :
    RowProgram lib serverKey xxh3 {"user"} fun s : Records κ => userPageItem lib serverKey xxh3 s item := by
  unfold userPageItem
  split
  · exact .pure _
  · rename_i obj _
    have hpersist : RowProgram lib serverKey xxh3 {"user"} fun s : Records κ =>
        persistUser lib serverKey xxh3 s obj item.answers := by
      unfold persistUser
      split
      · exact .pure _
      · exact .storeError (Set.mem_singleton _) _ _ _ _ _ (Or.inl rfl)
    exact hpersist.map keepGoing

theorem rowProgram_loadLanguages (rows : List RecordItem) :
    RowProgram lib serverKey xxh3 {"language"} (loadLanguages (κ := κ) lib serverKey xxh3 rows) := by
  induction rows with
  | nil => exact .pure _
  | cons item rest ih =>
    refine (RowProgram.store "language" (Set.mem_singleton _) .ignoring (some (languageKey serverKey item.object)) none
      (upsertRow lib xxh3 languageTable 0 item.object) item.answers (Or.inl rfl)).bind (g := fun ended s =>
        if ended.1 ≠ .noError ∧ (ended.2 = .unread ∨ ended.1 = .errorSQLReconnect) then (ended.1, s)
        else loadLanguages lib serverKey xxh3 rest s) fun ended => ?_
    split
    · exact .pure _
    · exact ih

theorem rowProgram_bxLanguageLoad (reply : Option (Nat × List RecordItem)) :
    RowProgram lib serverKey xxh3 {"language"} (bxLanguageLoad (κ := κ) lib serverKey xxh3 reply) := by
  unfold bxLanguageLoad
  split
  · exact .pure _
  split
  · exact .pure _
  · exact rowProgram_loadLanguages _

/-! ### Lists -/

/-- The tables of the lists of `bx_lookups_walk_more`. -/
def lookupTables : List (List String) :=
  [["country"], ["account_group"], ["communication_kind"], ["pr_project_state"], ["pr_project_type"], ["timesheet_status"],
    ["todo_status"], ["todo_priority"], ["stock"], ["stock_place"], ["client_service"], ["bank_account"], ["company_profile"],
    ["calendar_year"], ["business_year"], ["vat_period"]]

/-- The tables of the lists of `bx_records_walk_more`. -/
def recordTables : List (List String) :=
  [["contact_relation"], ["article"], ["note"], ["task"], ["timesheet"], ["purchase_order"], ["purchase_bill"], ["expense"],
    ["manual_entry", "manual_entry_line"]]

/-- The tables of the loads of `main`. -/
def bootstrapTables : List (List String) :=
  [["unit"], ["account"], ["salutation"], ["title"], ["payment_type"], ["currency"], ["contact_group"], ["language"],
    lookupTables.flatten, ["user"]]

/-- Lists, each over tables of its own. -/
def ListPrograms (lib : TextLib) (serverKey : BXSlot → κ) (xxh3 : List UInt8 → UInt64) (lists : List (RecordList κ ρ))
    (tables : List (List String)) : Prop :=
  List.Forall₂ (fun l names => ∀ row, RowProgram lib serverKey xxh3 {table | table ∈ names} fun s => l.sync s row) lists tables

theorem rowProgram_single {table : String} {f : Records κ → β × Records κ} (h : RowProgram lib serverKey xxh3 {table} f) :
    RowProgram lib serverKey xxh3 {name | name ∈ [table]} f :=
  h.mono (Set.singleton_subset_iff.mpr List.mem_cons_self)

theorem listPrograms_lookupLists :
    ListPrograms lib serverKey xxh3 (lookupLists (κ := κ) lib serverKey xxh3) lookupTables := by
  have hup := fun t item => rowProgram_single (@rowProgram_up κ _ lib serverKey xxh3 t item)
  have hnamed := fun table item => rowProgram_single (@rowProgram_namedListItem κ _ lib serverKey xxh3 table item)
  exact .cons (hup countryTable) <| .cons (hup accountGroupTable) <| .cons (hnamed "communication_kind") <|
    .cons (hnamed "pr_project_state") <| .cons (hnamed "pr_project_type") <| .cons (hnamed "timesheet_status") <|
    .cons (hnamed "todo_status") <| .cons (hnamed "todo_priority") <| .cons (hnamed "stock") <|
    .cons (hnamed "stock_place") <| .cons (hup clientServiceTable) <| .cons (hup bankAccountTable) <|
    .cons (hup companyTable) <| .cons (hup calendarTable) <| .cons (hup businessYearTable) <| .cons (hup vatPeriodTable) .nil

theorem listPrograms_recordLists :
    ListPrograms lib serverKey xxh3 (recordLists (κ := κ) lib serverKey xxh3) recordTables := by
  have hup := fun t item => rowProgram_single (@rowProgram_up κ _ lib serverKey xxh3 t item)
  refine .cons (hup relationTable) <| .cons (hup articleTable) <| .cons (hup noteTable) <| .cons (hup taskTable) <|
    .cons (hup timesheetTable) <| .cons (hup purchaseOrderTable) <| .cons (hup billTable) <| .cons (hup expenseTable) <|
    .cons (fun item => ?_) .nil
  refine (rowProgram_manualOne item).mono ?_
  rintro table (rfl | rfl)
  · exact List.mem_cons_self
  · exact List.mem_cons_of_mem _ List.mem_cons_self

/-- Lists over tables, as programs over all of them. -/
theorem ListPrograms.walkLists {lists : List (RecordList κ ρ)} {tables : List (List String)}
    (h : ListPrograms lib serverKey xxh3 lists tables) (connected : Bool) (replies : List (List (Option (PageReply ρ)))) :
    RowProgram lib serverKey xxh3 {table | table ∈ tables.flatten} (BxSync.walkLists connected lists replies) := by
  refine rowProgram_walkLists ?_ connected replies
  induction h with
  | nil => exact fun l hl => absurd hl List.not_mem_nil
  | @cons l names lists tables hl _ ih =>
    refine List.forall_mem_cons.mpr ⟨fun row => (hl row).mono ?_, fun l' hl' row => (ih l' hl' row).mono ?_⟩
    · exact fun table htable => List.mem_append_left _ htable
    · exact fun table htable => List.mem_append_right _ htable

theorem rowProgram_bxUserWalkItems (connected : Bool) (users fictional : List (Option (PageReply RecordItem))) :
    RowProgram lib serverKey xxh3 {"user"} (bxUserWalkItems (κ := κ) lib serverKey xxh3 connected users fictional) := by
  refine rowProgram_walkLists (fun l hl row => ?_) connected [users, fictional]
  rcases List.mem_cons.mp hl with rfl | hl
  · exact rowProgram_userPageItem row
  · obtain rfl := List.mem_singleton.mp hl
    exact rowProgram_userPageItem row

/-- The loads of `main`. -/
theorem rowProgram_bootstrapLoads (i : BootstrapInput) :
    List.Forall₂ (fun load names => RowProgram lib serverKey xxh3 {table | table ∈ names} load)
      (bootstrapLoads (κ := κ) lib serverKey xxh3 i) bootstrapTables := by
  have hwalk : ∀ {table : String} {l : RecordList κ RecordItem},
      (∀ row, RowProgram lib serverKey xxh3 {table} fun s => l.sync s row) → ∀ replies,
        RowProgram lib serverKey xxh3 {name | name ∈ [table]} (l.walk true replies) := fun hl replies =>
    rowProgram_single (rowProgram_walk hl true replies)
  exact .cons (hwalk (rowProgram_namedListItem "unit") i.unit) <|
    .cons (hwalk (fun _ => .storeError (Set.mem_singleton "account") _ _ _ _ _ (Or.inl rfl)) i.account) <|
    .cons (hwalk (rowProgram_namedListItem "salutation") i.salutation) <|
    .cons (hwalk (rowProgram_namedListItem "title") i.title) <|
    .cons (hwalk (rowProgram_namedListItem "payment_type") i.paymentType) <|
    .cons (hwalk (fun _ => .storeError (Set.mem_singleton "currency") _ _ _ _ _ (Or.inl rfl)) i.currency) <|
    .cons (hwalk (rowProgram_namedListItem "contact_group") i.contactGroup) <|
    .cons (rowProgram_single (rowProgram_bxLanguageLoad i.language)) <|
    .cons (listPrograms_lookupLists.walkLists true i.extraLookups) <|
    .cons (rowProgram_single (rowProgram_bxUserWalkItems true i.users i.fictionalUsers)) .nil

theorem rowProgram_bxTaxesWalk (connected : Bool) (active inactive : List (Option (PageReply RecordItem))) :
    RowProgram lib serverKey xxh3 {"taxes"} (bxTaxesWalk (κ := κ) lib serverKey xxh3 connected active inactive) := by
  have hwalk : ∀ replies, RowProgram lib serverKey xxh3 {"taxes"} ((taxList (κ := κ) lib serverKey xxh3).walk connected replies) :=
    rowProgram_walk (fun item => .storeError (Set.mem_singleton "taxes") _ _ _ _ _ (Or.inr rfl)) connected
  refine (hwalk active).bind (g := fun e s =>
    if e ≠ .noError then (e, s) else (taxList lib serverKey xxh3).walk connected inactive s) fun e => ?_
  split
  · exact .pure e
  · exact hwalk inactive

/-! ### Documents and extras -/

theorem rowProgram_storePositionRows (table : String) (docId : UInt64) (positions : List (Json × UpsertAnswers)) :
    RowProgram lib serverKey xxh3 {table} (storePositionRows (κ := κ) lib serverKey xxh3 table docId positions) := by
  induction positions with
  | nil => exact .pure _
  | cons position rest ih =>
    refine (RowProgram.storeError (Set.mem_singleton table) _ _ _ _ _ (Or.inl rfl)).bind (g := fun e s =>
      if e ≠ .noError then (e, s) else storePositionRows lib serverKey xxh3 table docId rest s) fun e => ?_
    split
    · exact .pure e
    · exact ih

theorem rowProgram_bxKbPositionsStore (table : String) (docId : UInt64) (positions : PositionArray) :
    RowProgram lib serverKey xxh3 {table} (bxKbPositionsStore (κ := κ) lib serverKey xxh3 table docId positions) := by
  cases positions with
  | absent => exact .pure _
  | notArray => exact .pure _
  | array positions => exact rowProgram_storePositionRows table docId positions

theorem rowProgram_storeComments (documentType : DocumentType) (documentId : UInt64) (rows : List (Json × UpsertAnswers))
    (e : BXillError) :
    RowProgram lib serverKey xxh3 {"kb_comment"} (storeComments (κ := κ) lib serverKey xxh3 documentType documentId rows e) := by
  induction rows generalizing e with
  | nil => exact .pure e
  | cons row rest ih =>
    refine (RowProgram.upsert commentTable (Set.mem_singleton _) _ documentId row.2).bind (g := fun e s =>
      if e = .errorSQLReconnect then (e, s) else storeComments lib serverKey xxh3 documentType documentId rest e s) fun e => ?_
    split
    · exact .pure e
    · exact ih e

/-- A document is stored with its positions and its comments. -/
theorem rowProgram_kbDocOne {t : UpsertTable} {positionTable : Option String} (ht : t.table ∈ F)
    (hpositions : ∀ table ∈ positionTable, table ∈ F) (hcomments : "kb_comment" ∈ F) (documentType : DocumentType)
    (item : KbItem) :
    RowProgram lib serverKey xxh3 F fun s : Records κ => kbDocOne lib serverKey xxh3 t positionTable documentType s item := by
  unfold kbDocOne
  split
  · exact .pure _
  rename_i src _
  split
  · exact .pure _
  have hcommented : ∀ e, RowProgram lib serverKey xxh3 F fun s : Records κ =>
      if e ≠ .noError then (e, s)
      else storeComments lib serverKey xxh3 documentType (jsonIntegerValue ((item.source src).1.get "id"))
        (item.comments.getD []) .noError s := fun e => by
    split
    · exact .pure e
    · exact (rowProgram_storeComments documentType _ _ _).mono (Set.singleton_subset_iff.mpr hcomments)
  have hdocument : ∀ positioned : BXillError → Records κ → BXillError × Records κ,
      (∀ e, RowProgram lib serverKey xxh3 F (positioned e)) → ∀ e, RowProgram lib serverKey xxh3 F fun s : Records κ =>
        if e ≠ .noError then (e, s)
        else if (positioned e s).1 ≠ .noError then positioned e s
        else storeComments lib serverKey xxh3 documentType (jsonIntegerValue ((item.source src).1.get "id"))
          (item.comments.getD []) .noError (positioned e s).2 := fun positioned hpositioned e => by
    split
    · exact .pure e
    · exact (hpositioned e).bind hcommented
  have hhead : RowProgram lib serverKey xxh3 F fun s : Records κ =>
      s.jsonUpsert lib serverKey xxh3 t (item.source src).1 0 item.answers :=
    .upsert t ht (item.source src).1 0 item.answers
  cases positionTable with
  | none => exact hhead.bind (hdocument (fun e s => (e, s)) RowProgram.pure)
  | some table =>
    have hpositioned := fun docId positions => (@rowProgram_bxKbPositionsStore κ _ lib serverKey xxh3 table docId positions).mono
      (Set.singleton_subset_iff.mpr (hpositions table rfl))
    exact hhead.bind (hdocument (fun _ => bxKbPositionsStore lib serverKey xxh3 table
      (jsonIntegerValue ((item.source src).1.get "id")) (item.source src).2) fun _ => hpositioned _ _)

/-- The tables of the documents. -/
def salesTables : List String := ["kb_quote", "quote_position", "kb_order", "order_position", "kb_delivery", "kb_comment"]

theorem rowProgram_bxKbSalesWalkItems (connected : Bool) (replies : List (List (Option (PageReply KbItem)))) :
    RowProgram lib serverKey xxh3 {table | table ∈ salesTables} (bxKbSalesWalkItems (κ := κ) lib serverKey xxh3 connected replies) := by
  have hcomment : "kb_comment" ∈ salesTables := by decide +kernel
  have hdocument : ∀ (t : UpsertTable) (positionTable : Option String), t.table ∈ salesTables →
      (∀ table ∈ positionTable, table ∈ salesTables) → ∀ documentType item,
        RowProgram lib serverKey xxh3 {table | table ∈ salesTables} fun s : Records κ =>
          kbDocOne lib serverKey xxh3 t positionTable documentType s item := fun t positionTable ht hpositions documentType item =>
    rowProgram_kbDocOne ht hpositions hcomment documentType item
  refine rowProgram_walkLists (fun l hl item => ?_) connected replies
  rcases List.mem_cons.mp hl with rfl | hl
  · exact hdocument kbQuoteTable (some "quote_position") (by decide +kernel) (by decide +kernel) _ item
  rcases List.mem_cons.mp hl with rfl | hl
  · exact hdocument kbOrderTable (some "order_position") (by decide +kernel) (by decide +kernel) _ item
  obtain rfl := List.mem_singleton.mp hl
  exact hdocument kbDeliveryTable none (by decide +kernel) (by decide +kernel) _ item

theorem rowProgram_bxContactExtraSync (contactId : UInt64) (reply : Option (Option (List (Json × UpsertAnswers)))) :
    RowProgram lib serverKey xxh3 {"additional_address"} (bxContactExtraSync (κ := κ) lib serverKey xxh3 contactId reply) := by
  unfold bxContactExtraSync
  split
  · exact .pure _
  · exact .pure _
  · exact rowProgram_upsertAll additionalAddressTable contactId _ _

/-- The parts of the extras, each unless the one before it lost the connection. -/
theorem rowProgram_afterExtras {f g : Records κ → BXillError × Records κ} (hf : RowProgram lib serverKey xxh3 F f)
    (hg : RowProgram lib serverKey xxh3 F g) :
    RowProgram lib serverKey xxh3 F fun s => if (f s).1 ≠ .noError then f s else g (f s).2 :=
  hf.bind (g := fun e s => if e ≠ .noError then (e, s) else g s) fun e => by
    split
    · exact .pure e
    · exact hg

theorem rowProgram_upsertExtras {t : UpsertTable} (ht : t.table ∈ F) (parentId : UInt64)
    (objects : Option (List (Json × UpsertAnswers))) :
    RowProgram lib serverKey xxh3 F (upsertExtras (κ := κ) lib serverKey xxh3 t parentId objects) :=
  (rowProgram_upsertAll t parentId _ _).mono (Set.singleton_subset_iff.mpr ht)

theorem rowProgram_bxInvoiceExtraSync (invoiceId : UInt64) (payments reminders comments : Option (List (Json × UpsertAnswers))) :
    RowProgram lib serverKey xxh3 {table | table ∈ ["invoice_payment", "invoice_reminder", "kb_comment"]}
      (bxInvoiceExtraSync (κ := κ) lib serverKey xxh3 invoiceId payments reminders comments) :=
  rowProgram_afterExtras (rowProgram_upsertExtras List.mem_cons_self invoiceId payments) <|
    rowProgram_afterExtras (rowProgram_upsertExtras (List.mem_cons_of_mem _ List.mem_cons_self) invoiceId reminders)
      (rowProgram_upsertExtras (List.mem_cons_of_mem _ (List.mem_cons_of_mem _ List.mem_cons_self)) invoiceId _)

theorem rowProgram_bxProjectExtraSync (projectId : UInt64) (milestones packages : Option (List (Json × UpsertAnswers))) :
    RowProgram lib serverKey xxh3 {table | table ∈ ["project_milestone", "project_package"]}
      (bxProjectExtraSync (κ := κ) lib serverKey xxh3 projectId milestones packages) :=
  rowProgram_afterExtras (rowProgram_upsertExtras List.mem_cons_self projectId milestones)
    (rowProgram_upsertExtras (List.mem_cons_of_mem _ List.mem_cons_self) projectId packages)

end BxSync
