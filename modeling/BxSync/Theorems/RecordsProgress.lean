import BxSync.Lib.Puts
import BxSync.Theorems.RowPrograms

/-! What the programs that store rows without a cache come to over runs, whatever fails in between: a row that was stored
    stands, and when each row of an unchanged source was stored once, nothing is written any more. -/

namespace BxSync

open Puts

section

variable {κ : Type}

/-! ### Rows under keys -/

/-- The row of a call, under its key. -/
def RecordCall.put (call : RecordCall κ) : Option ((String × κ × UInt64) × UpsertRow) :=
  call.key.map fun k => ((call.table, k), call.row)

/-- A call without an error, of statements that do not drop a row. -/
def RecordCall.stored (call : RecordCall κ) : Prop := call.error = .noError ∧ call.statements ≠ .ignoring

/-- The rows of calls. -/
def servedBy (calls : List (RecordCall κ)) (p : (String × κ × UInt64) × UpsertRow) : Prop := ∃ call ∈ calls, call.put = some p

variable {calls calls' : List (RecordCall κ)}

theorem servedBy_append_left {p : (String × κ × UInt64) × UpsertRow} (h : servedBy calls p) : servedBy (calls ++ calls') p := by
  obtain ⟨call, hcall, hput⟩ := h
  exact ⟨call, List.mem_append_left _ hcall, hput⟩

theorem servedBy_append_right {p : (String × κ × UInt64) × UpsertRow} (h : servedBy calls' p) : servedBy (calls ++ calls') p := by
  obtain ⟨call, hcall, hput⟩ := h
  exact ⟨call, List.mem_append_right _ hcall, hput⟩

/-- The calls since a state. -/
def callsSince (s s' : Records κ) : List (RecordCall κ) := s'.calls.drop s.calls.length

theorem callsSince_of_append {s s' : Records κ} (h : s'.calls = s.calls ++ calls) : callsSince s s' = calls := by
  rw [callsSince, h, List.drop_left]

variable [DecidableEq κ]

/-- The row under a key of a table. -/
def Records.row (s : Records κ) (k : String × κ × UInt64) : Option UpsertRow := (s.tables k.1).lookup k.2

/-- What calls come to. -/
structure Outcome (s s' : Records κ) (calls : List (RecordCall κ)) : Prop where
  leads : Leads UpsertRow.checksum (servedBy calls) s.row s'.row
  /-- What one of them stored is held at their end, if they agree on the rows. -/
  stored : Consistent UpsertRow.checksum (servedBy calls) → ∀ call ∈ calls, call.stored →
    ∃ p, call.put = some p ∧ Holds UpsertRow.checksum s'.row p
  /-- Where all of it is held, no statement is sent. -/
  quiet : (∀ p, servedBy calls p → Holds UpsertRow.checksum s.row p) → ∀ call ∈ calls, call.statements ≠ .ignoring →
    call.put ≠ none → call.ended ≠ .sent

variable {s s' s'' : Records κ}

theorem Outcome.refl (s : Records κ) : Outcome s s [] where
  leads := .refl s.row
  stored _ _ hcall := absurd hcall List.not_mem_nil
  quiet _ _ hcall := absurd hcall List.not_mem_nil

theorem Outcome.trans (h : Outcome s s' calls) (h' : Outcome s' s'' calls') : Outcome s s'' (calls ++ calls') where
  leads := (h.leads.mono fun _ => servedBy_append_left).trans (h'.leads.mono fun _ => servedBy_append_right)
  stored hc call hcall hstored := by
    rcases List.mem_append.mp hcall with hcall | hcall
    · have hc₁ : Consistent UpsertRow.checksum (servedBy calls) := fun p q hp hq =>
        hc p q (servedBy_append_left hp) (servedBy_append_left hq)
      obtain ⟨p, hput, hholds⟩ := h.stored hc₁ call hcall hstored
      refine ⟨p, hput, (h'.leads.mono fun _ => servedBy_append_right).holds hc ?_ hholds⟩
      exact servedBy_append_left ⟨call, hcall, hput⟩
    · exact h'.stored (fun p q hp hq => hc p q (servedBy_append_right hp) (servedBy_append_right hq)) call hcall hstored
  quiet hholds call hcall := by
    have hfirst : ∀ p, servedBy calls p → Holds UpsertRow.checksum s.row p := fun p hp => hholds p (servedBy_append_left hp)
    rcases List.mem_append.mp hcall with hcall | hcall
    · exact h.quiet hfirst call hcall
    · refine h'.quiet (fun p hp => ?_) call hcall
      rw [h.leads.eq_of_holds hfirst]
      exact hholds p (servedBy_append_right hp)

/-! ### One call -/

/-- What a call makes of the rows of its table. -/
structure CallOutcome (rows rows' : UpsertRows κ) (call : RecordCall κ) : Prop where
  written : rows' = rows ∨
    ∃ k, call.key = some k ∧ (rows.lookup k).map UpsertRow.checksum ≠ some call.row.checksum ∧ rows' = rows.insert k call.row
  stored : call.stored → ∃ k, call.key = some k ∧ (rows'.lookup k).map UpsertRow.checksum = some call.row.checksum
  quiet : ∀ k, call.key = some k → (rows.lookup k).map UpsertRow.checksum = some call.row.checksum →
    call.statements ≠ .ignoring → call.ended ≠ .sent

theorem row_add (s : Records κ) (call : RecordCall κ) (rows : UpsertRows κ) (k : String × κ × UInt64) :
    (s.add call rows).row k = if k.1 = call.table then rows.lookup k.2 else s.row k := by
  show (Function.update s.tables call.table rows k.1).lookup k.2 = _
  by_cases h : k.1 = call.table
  · rw [if_pos h, h, Function.update_self]
  · rw [if_neg h, Function.update_of_ne h]
    rfl

/-- A call that leaves the rows of its table leaves all. -/
theorem row_add_same (s : Records κ) (call : RecordCall κ) : (s.add call (s.tables call.table)).row = s.row := by
  funext k
  rw [row_add]
  split
  · rename_i h
    rw [← h]
    rfl
  · rfl

theorem row_add_insert (s : Records κ) (call : RecordCall κ) (k : κ × UInt64) (row : UpsertRow) :
    (s.add call ((s.tables call.table).insert k row)).row = Function.update s.row (call.table, k) (some row) := by
  funext j
  rw [row_add]
  by_cases h : j = (call.table, k)
  · rw [h, if_pos rfl, AList.lookup_insert, Function.update_self]
  · rw [Function.update_of_ne h]
    split
    · rename_i htable
      have hk : j.2 ≠ k := fun hk => h (Prod.ext htable hk)
      rw [AList.lookup_insert_ne hk, ← htable]
      rfl
    · rfl

theorem CallOutcome.outcome {call : RecordCall κ} {rows' : UpsertRows κ} (h : CallOutcome (s.tables call.table) rows' call) :
    Outcome s (s.add call rows') [call] where
  leads := by
    obtain hrows | ⟨k, hkey, hnew, hrows⟩ := h.written
    · rw [hrows, row_add_same]
      exact .refl s.row
    · rw [hrows, row_add_insert]
      refine (Leads.refl s.row).put (p := ((call.table, k), call.row)) ⟨call, List.mem_singleton_self call, ?_⟩ hnew
      rw [RecordCall.put, hkey]
      rfl
  stored _ c hc hstored := by
    obtain rfl := List.mem_singleton.mp hc
    obtain ⟨k, hkey, hholds⟩ := h.stored hstored
    refine ⟨((c.table, k), c.row), ?_, ?_⟩
    · rw [RecordCall.put, hkey]
      rfl
    · rw [Holds, row_add, if_pos rfl]
      exact hholds
  quiet hholds c hc hstatements hput := by
    obtain rfl := List.mem_singleton.mp hc
    cases hkey : c.key with
    | none => exact absurd (by rw [RecordCall.put, hkey]; rfl) hput
    | some k =>
      have hput : c.put = some ((c.table, k), c.row) := by
        rw [RecordCall.put, hkey]
        rfl
      exact h.quiet k hkey (hholds _ ⟨c, List.mem_singleton_self c, hput⟩) hstatements

/-- The INSERT or the UPDATE of `storeRow`. -/
def sendRow (statements : RowStatements) (rows : UpsertRows κ) (key nullKey : Option (κ × UInt64)) (row : UpsertRow)
    (fk cv : Bool) : Option Bool × UpsertRows κ :=
  match key.or nullKey with
  | none => (none, rows)
  | some k =>
    if (key.bind rows.lookup).isSome then Table.update rows (some k) row fk cv
    else if statements.insertIgnore then Table.insertIgnore rows k row fk cv
    else Table.insertRow rows k row fk cv

/-- It is refused, or it drops the row with a warning, or the row is there in the end. -/
theorem sendRow_cases (statements : RowStatements) (nullKey : Option (κ × UInt64)) {rows : UpsertRows κ} {key : Option (κ × UInt64)}
    {row : UpsertRow}
    (hnew : (key.bind rows.lookup).map UpsertRow.checksum ≠ some row.checksum) (fk cv : Bool) :
    sendRow statements rows key nullKey row fk cv = (none, rows) ∨
    (statements.insertIgnore = true ∧ sendRow statements rows key nullKey row fk cv = (some true, rows)) ∨
    ∃ k warned, key.or nullKey = some k ∧ (rows.lookup k).map UpsertRow.checksum ≠ some row.checksum ∧
      sendRow statements rows key nullKey row fk cv = (some warned, rows.insert k row) := by
  unfold sendRow
  cases hkey : key.or nullKey with
  | none => exact Or.inl rfl
  | some k =>
    dsimp only
    by_cases hfound : (key.bind rows.lookup).isSome
    · obtain ⟨k', rfl⟩ : ∃ k', key = some k' := by
        cases key with
        | none => cases hfound
        | some k' => exact ⟨k', rfl⟩
      obtain rfl : k' = k := Option.some.inj hkey
      have hknown : (rows.lookup k').isSome := hfound
      rw [if_pos hfound, Table.update, if_pos hknown]
      cases fk
      · exact Or.inr (Or.inr ⟨k', cv, rfl, hnew, rfl⟩)
      · exact Or.inl rfl
    rw [if_neg hfound]
    by_cases hdropped : (rows.lookup k).isSome ∨ fk
    · by_cases hignore : statements.insertIgnore
      · rw [if_pos hignore, Table.insertIgnore, if_pos hdropped]
        exact Or.inr (Or.inl ⟨hignore, rfl⟩)
      · rw [if_neg hignore, Table.insertRow, if_pos hdropped]
        exact Or.inl rfl
    have hnone : rows.lookup k = none := Option.not_isSome_iff_eq_none.mp fun h => hdropped (Or.inl h)
    refine Or.inr (Or.inr ⟨k, cv, rfl, ?_, ?_⟩)
    · rw [hnone]
      exact nofun
    · split
      · rw [Table.insertIgnore, if_neg hdropped]
      · rw [Table.insertRow, if_neg hdropped]

/-- However the statement runs, the rows are as they were or the row is there. -/
theorem sendRow_written (statements : RowStatements) (nullKey : Option (κ × UInt64)) {rows : UpsertRows κ} {key : Option (κ × UInt64)}
    {row : UpsertRow}
    (hnew : (key.bind rows.lookup).map UpsertRow.checksum ≠ some row.checksum) (write : Exec) :
    (write.run rows (sendRow statements rows key nullKey row)).2 = rows ∨
    ∃ k, key.or nullKey = some k ∧ (rows.lookup k).map UpsertRow.checksum ≠ some row.checksum ∧
      (write.run rows (sendRow statements rows key nullKey row)).2 = rows.insert k row := by
  refine Exec.run_table write (Q := fun rows' => rows' = rows ∨ ∃ k, key.or nullKey = some k ∧
    (rows.lookup k).map UpsertRow.checksum ≠ some row.checksum ∧ rows' = rows.insert k row) (Or.inl rfl) fun fk cv => ?_
  obtain h | ⟨-, h⟩ | ⟨k, warned, hkey, hk, h⟩ := sendRow_cases statements nullKey hnew fk cv
  · exact Or.inl (congrArg Prod.snd h)
  · exact Or.inl (congrArg Prod.snd h)
  · exact Or.inr ⟨k, hkey, hk, congrArg Prod.snd h⟩

/-- A statement that is done has dropped the row with a warning, or the row is there. -/
theorem sendRow_done (statements : RowStatements) (nullKey : Option (κ × UInt64)) {rows : UpsertRows κ} {key : Option (κ × UInt64)}
    {row : UpsertRow}
    (hnew : (key.bind rows.lookup).map UpsertRow.checksum ≠ some row.checksum) {write : Exec} {warned : Bool}
    (hdone : (write.run rows (sendRow statements rows key nullKey row)).1 = .done warned) :
    (statements.insertIgnore = true ∧ warned = true) ∨
    ∃ k, key.or nullKey = some k ∧ (write.run rows (sendRow statements rows key nullKey row)).2 = rows.insert k row := by
  obtain ⟨fk, cv, heffect⟩ := Exec.run_done hdone
  obtain h | ⟨hignore, h⟩ | ⟨k, warned', hkey, -, h⟩ := sendRow_cases statements nullKey hnew fk cv
  · cases heffect.symm.trans h
  · exact Or.inl ⟨hignore, Option.some.inj (congrArg Prod.fst (heffect.symm.trans h))⟩
  · exact Or.inr ⟨k, hkey, congrArg Prod.snd (heffect.symm.trans h)⟩

/-- A call that reports an error and sends nothing. -/
theorem callOutcome_failed (rows : UpsertRows κ) {call : RecordCall κ} (herror : call.error ≠ .noError)
    (hended : call.ended ≠ .sent) : CallOutcome rows rows call where
  written := Or.inl rfl
  stored h := absurd h.1 herror
  quiet _ _ _ _ := hended

/-- The statements of a row. -/
theorem callOutcome_storeRow (statements : RowStatements) (rows : UpsertRows κ) (key nullKey : Option (κ × UInt64))
    (row : UpsertRow) (a : UpsertAnswers) (hnull : nullKey = none ∨ statements = .ignoring) (table : String) :
    CallOutcome rows (storeRow statements rows key nullKey row a).2.1
      { table, statements, key := key.or nullKey, row, error := (storeRow statements rows key nullKey row a).1,
        ended := (storeRow statements rows key nullKey row a).2.2 } := by
  unfold storeRow
  split
  · exact callOutcome_failed rows BXillError.noConfusion UpsertEnd.noConfusion
  split
  · exact callOutcome_failed rows (bxDatabaseQueryError_ne _) UpsertEnd.noConfusion
  dsimp only
  split
  · rename_i hheld
    refine ⟨Or.inl rfl, fun _ => ?_, fun _ _ _ _ => UpsertEnd.noConfusion⟩
    cases key with
    | none => cases hheld
    | some k => exact ⟨k, rfl, hheld⟩
  rename_i hnew
  -- A row that is held was found by the SELECT.
  have hquiet : ∀ k, key.or nullKey = some k → (rows.lookup k).map UpsertRow.checksum = some row.checksum →
      statements ≠ .ignoring → UpsertEnd.sent ≠ .sent := by
    intro k hkey hholds hstatements
    rcases hnull with rfl | h
    · rw [Option.or_none] at hkey
      rw [hkey] at hnew
      exact absurd hholds hnew
    · exact absurd h hstatements
  split
  · exact ⟨Or.inl rfl, fun h => absurd h.1 BXillError.noConfusion, hquiet⟩
  generalize hstmt : Exec.run a.write rows _ = stmt
  change a.write.run rows (sendRow statements rows key nullKey row) = stmt at hstmt
  have hwritten := sendRow_written statements nullKey hnew a.write
  rw [hstmt] at hwritten
  split
  · exact ⟨hwritten, fun h => absurd h.1 (bxDatabaseQueryError_ne _), hquiet⟩
  rename_i warned hdone
  refine ⟨hwritten, fun h => ?_, hquiet⟩
  obtain ⟨herror, hstatements⟩ := h
  rw [← hstmt] at hdone
  obtain ⟨hignore, rfl⟩ | ⟨k, hkey, hrows⟩ := sendRow_done statements nullKey hnew hdone
  · exfalso
    obtain ⟨insertIgnore, persistOk⟩ := statements
    cases persistOk
    · exact hstatements (congrArg (RowStatements.mk · false) hignore)
    · cases herror
  · refine ⟨k, hkey, ?_⟩
    rw [← hstmt, hrows, AList.lookup_insert]
    rfl

variable {lib : TextLib} {serverKey : BXSlot → κ} {xxh3 : List UInt8 → UInt64}

/-- `bx_json_upsert` stores a row that has a key with plain statements. -/
theorem bxJsonUpsert_eq_storeRow {t : UpsertTable} {obj : Json}
    (ht : ¬(t.fields = [] ∨ bxUpsertMaxFields < t.fields.length ∨ !tableAllowed t.table))
    (hpk : pkOk (readSlots lib t.fields obj) = true) (rows : UpsertRows κ) (parentId : UInt64) (a : UpsertAnswers) :
    bxJsonUpsert lib serverKey xxh3 t rows obj parentId a =
      storeRow .plain rows (objectKey lib serverKey t parentId obj) none (upsertRow lib xxh3 t parentId obj) a := by
  have hkey : objectKey lib serverKey t parentId obj = some (upsertKey serverKey t parentId (readSlots lib t.fields obj)) := if_pos hpk
  have heffect : ∀ key row fk cv, (if (rows.lookup key).isNone then Table.insertRow rows key row fk cv
      else Table.update rows (some key) row fk cv) = sendRow .plain rows (some key) none row fk cv := by
    intro key row fk cv
    have hbind : (some key).bind rows.lookup = rows.lookup key := rfl
    unfold sendRow
    rw [hbind]
    cases rows.lookup key <;> rfl
  rw [hkey, bxJsonUpsert, if_neg ht]
  simp only [hpk, heffect]
  rfl

/-- One JSON object. -/
theorem callOutcome_jsonUpsert (t : UpsertTable) (rows : UpsertRows κ) (obj : Json) (parentId : UInt64) (a : UpsertAnswers) :
    CallOutcome rows (bxJsonUpsert lib serverKey xxh3 t rows obj parentId a).2.1
      { table := t.table, statements := .plain, key := objectKey lib serverKey t parentId obj,
        row := upsertRow lib xxh3 t parentId obj, error := (bxJsonUpsert lib serverKey xxh3 t rows obj parentId a).1,
        ended := (bxJsonUpsert lib serverKey xxh3 t rows obj parentId a).2.2 } := by
  by_cases ht : t.fields = [] ∨ bxUpsertMaxFields < t.fields.length ∨ !tableAllowed t.table
  · rw [bxJsonUpsert, if_pos ht]
    exact callOutcome_failed rows BXillError.noConfusion UpsertEnd.noConfusion
  by_cases hpk : pkOk (readSlots lib t.fields obj) = true
  · rw [bxJsonUpsert_eq_storeRow ht hpk]
    have h := callOutcome_storeRow .plain rows (objectKey lib serverKey t parentId obj) none (upsertRow lib xxh3 t parentId obj) a
      (Or.inl rfl) t.table
    rwa [Option.or_none] at h
  · rw [bxJsonUpsert, if_neg ht]
    simp only [hpk]
    exact callOutcome_failed rows BXillError.noConfusion UpsertEnd.noConfusion

/-! ### Programs -/

/-- A state that calls lead to. -/
def Advances (s s' : Records κ) : Prop := s'.calls = s.calls ++ callsSince s s' ∧ Outcome s s' (callsSince s s')

theorem advances_of_append (h : s'.calls = s.calls ++ calls) (houtcome : Outcome s s' calls) : Advances s s' := by
  rw [Advances, callsSince_of_append h]
  exact ⟨h, houtcome⟩

theorem Advances.refl (s : Records κ) : Advances s s := advances_of_append (List.append_nil _).symm (Outcome.refl s)

theorem Advances.calls_append (h : Advances s s') (h' : Advances s' s'') : callsSince s s'' = callsSince s s' ++ callsSince s' s'' :=
  callsSince_of_append (by rw [h'.1, h.1, List.append_assoc])

theorem Advances.trans (h : Advances s s') (h' : Advances s' s'') : Advances s s'' := by
  refine advances_of_append ?_ (h.2.trans h'.2)
  rw [h'.1, h.1, List.append_assoc]

/-- What holds of each call holds of a program. -/
theorem RowProgram.advances {F : Set String} {β : Type} {f : Records κ → β × Records κ} (h : RowProgram lib serverKey xxh3 F f)
    (s : Records κ) : Advances s (f s).2 := by
  induction h generalizing s with
  | pure b => exact Advances.refl s
  | store table _ statements key nullKey row a hnull =>
    exact advances_of_append rfl (callOutcome_storeRow statements (s.tables table) key nullKey row a hnull table).outcome
  | upsert t _ obj parentId a => exact advances_of_append rfl (callOutcome_jsonUpsert t (s.tables t.table) obj parentId a).outcome
  | bind _ _ ihf ihg => exact (ihf s).trans (ihg _ _)

/-! ### Runs -/

/-- A program that stores rows without a cache, and what it meets. -/
inductive RecordsInput
  | bootstrap (input : BootstrapInput)
  | taxes (connected : Bool) (active inactive : List (Option (PageReply RecordItem)))
  | records (connected : Bool) (replies : List (List (Option (PageReply RecordItem))))
  | sales (connected : Bool) (replies : List (List (Option (PageReply KbItem))))
  | contactExtra (contactId : UInt64) (reply : Option (Option (List (Json × UpsertAnswers))))
  | invoiceExtra (invoiceId : UInt64) (payments reminders comments : Option (List (Json × UpsertAnswers)))
  | projectExtra (projectId : UInt64) (milestones packages : Option (List (Json × UpsertAnswers)))

variable (lib serverKey xxh3)

def recordsStep (s : Records κ) : RecordsInput → Records κ
  | .bootstrap input => (bootstrap lib serverKey xxh3 input s).2
  | .taxes connected active inactive => (bxTaxesWalk lib serverKey xxh3 connected active inactive s).2
  | .records connected replies => (bxRecordsWalkMore lib serverKey xxh3 connected replies s).2
  | .sales connected replies => (bxKbSalesWalkItems lib serverKey xxh3 connected replies s).2
  | .contactExtra contactId reply => (bxContactExtraSync lib serverKey xxh3 contactId reply s).2
  | .invoiceExtra invoiceId payments reminders comments =>
    (bxInvoiceExtraSync lib serverKey xxh3 invoiceId payments reminders comments s).2
  | .projectExtra projectId milestones packages => (bxProjectExtraSync lib serverKey xxh3 projectId milestones packages s).2

def recordsRun (s : Records κ) (inputs : List RecordsInput) : Records κ := inputs.foldl (recordsStep lib serverKey xxh3) s

variable {lib serverKey xxh3}

theorem runLoads_advances (reconnected : Nat → Bool) {loads : List (Records κ → BXillError × Records κ)}
    {tables : List (List String)}
    (h : List.Forall₂ (fun load names => RowProgram lib serverKey xxh3 {table | table ∈ names} load) loads tables) (n : Nat)
    (s : Records κ) : Advances s (runLoads reconnected n loads s).2 := by
  induction h generalizing n s with
  | nil => exact Advances.refl s
  | cons hload _ ih =>
    rw [runLoads]
    split
    · exact (hload.advances s).trans (ih (n + 1) _)
    · exact hload.advances s

theorem recordsStep_advances (s : Records κ) (input : RecordsInput) : Advances s (recordsStep lib serverKey xxh3 s input) := by
  cases input with
  | bootstrap input =>
    rw [recordsStep, bootstrap]
    split
    · exact runLoads_advances _ (rowProgram_bootstrapLoads input) 0 s
    · exact Advances.refl s
  | taxes connected active inactive => exact (rowProgram_bxTaxesWalk connected active inactive).advances s
  | records connected replies => exact (listPrograms_recordLists.walkLists connected replies).advances s
  | sales connected replies => exact (rowProgram_bxKbSalesWalkItems connected replies).advances s
  | contactExtra contactId reply => exact (rowProgram_bxContactExtraSync contactId reply).advances s
  | invoiceExtra invoiceId payments reminders comments =>
    exact (rowProgram_bxInvoiceExtraSync invoiceId payments reminders comments).advances s
  | projectExtra projectId milestones packages => exact (rowProgram_bxProjectExtraSync projectId milestones packages).advances s

theorem recordsRun_advances (s : Records κ) (inputs : List RecordsInput) : Advances s (recordsRun lib serverKey xxh3 s inputs) := by
  induction inputs generalizing s with
  | nil => exact Advances.refl s
  | cons input inputs ih => exact (recordsStep_advances s input).trans (ih _)

variable (lib serverKey xxh3)

/-- Two runs, whatever fails in them, against a source that does not change its rows. What a call of the first has stored is
    held after both, a row that no call is about is left, and when all that the second is about was stored in the first,
    the second writes nothing. -/
theorem records_progress (s : Records κ) (first second : List RecordsInput) (s' s'' : Records κ)
    (hfirst : s' = recordsRun lib serverKey xxh3 s first) (hsecond : s'' = recordsRun lib serverKey xxh3 s' second)
    (hsteady : Consistent UpsertRow.checksum (servedBy (callsSince s s''))) :
    (∀ call ∈ callsSince s s', call.stored →
      ∃ p, call.put = some p ∧ Holds UpsertRow.checksum s'.row p ∧ Holds UpsertRow.checksum s''.row p) ∧
    (∀ k, (∀ p, servedBy (callsSince s s'') p → p.1 ≠ k) → s''.row k = s.row k) ∧
    ((∀ p, servedBy (callsSince s' s'') p → ∃ call ∈ callsSince s s', call.stored ∧ ∃ q, call.put = some q ∧ q.1 = p.1) →
      s''.row = s'.row ∧
      ∀ call ∈ callsSince s' s'', call.statements ≠ .ignoring → call.put ≠ none → call.ended ≠ .sent) := by
  have h₁ : Advances s s' := hfirst ▸ recordsRun_advances s first
  have h₂ : Advances s' s'' := hsecond ▸ recordsRun_advances s' second
  have hcalls := h₁.calls_append h₂
  rw [hcalls] at hsteady
  have hsteady₁ : Consistent UpsertRow.checksum (servedBy (callsSince s s')) := fun p q hp hq =>
    hsteady p q (servedBy_append_left hp) (servedBy_append_left hq)
  have hstands : ∀ call ∈ callsSince s s', call.stored →
      ∃ p, call.put = some p ∧ Holds UpsertRow.checksum s'.row p ∧ Holds UpsertRow.checksum s''.row p := by
    intro call hcall hstored
    obtain ⟨p, hput, hholds⟩ := h₁.2.stored hsteady₁ call hcall hstored
    refine ⟨p, hput, hholds, (h₂.2.leads.mono fun _ => servedBy_append_right).holds hsteady ?_ hholds⟩
    exact servedBy_append_left ⟨call, hcall, hput⟩
  refine ⟨hstands, fun k hk => (h₁.trans h₂).2.leads.frame hk, fun hall => ?_⟩
  have hheld : ∀ p, servedBy (callsSince s' s'') p → Holds UpsertRow.checksum s'.row p := by
    intro p hp
    obtain ⟨call, hcall, hstored, q, hput, hkey⟩ := hall p hp
    obtain ⟨q', hput', hholds, -⟩ := hstands call hcall hstored
    obtain rfl : q = q' := Option.some.inj (hput.symm.trans hput')
    have htag := hsteady q p (servedBy_append_left ⟨call, hcall, hput⟩) (servedBy_append_right hp) hkey
    rw [Holds, ← hkey, ← htag]
    exact hholds
  exact ⟨h₂.2.leads.eq_of_holds hheld, h₂.2.quiet hheld⟩

end

/-! ### A relation, twice -/

def noRecords : Records BXSlot := { tables := fun _ => ∅, calls := [] }

def relationRun : RecordsInput :=
  .records true
    [[some
        { httpCode := 200
          rows := some [{ object := .object [("id", .integer 5), ("contact_id", .integer 3)], answers := allAnswered }]
          save := .failed },
      some { httpCode := 200, rows := some [], save := .failed }]]

theorem records_progress_relation :
    (recordsRun plainText id smallHash (recordsRun plainText id smallHash noRecords [relationRun]) [relationRun]).row =
      (recordsRun plainText id smallHash noRecords [relationRun]).row := by
  have hsteady : ∀ c ∈ callsSince noRecords
        (recordsRun plainText id smallHash (recordsRun plainText id smallHash noRecords [relationRun]) [relationRun]),
      ∀ c' ∈ callsSince noRecords
        (recordsRun plainText id smallHash (recordsRun plainText id smallHash noRecords [relationRun]) [relationRun]),
      ∀ p ∈ c.put, ∀ q ∈ c'.put, p.1 = q.1 → p.2.checksum = q.2.checksum := by
    decide +kernel
  have hall : ∀ c ∈ callsSince (recordsRun plainText id smallHash noRecords [relationRun])
        (recordsRun plainText id smallHash (recordsRun plainText id smallHash noRecords [relationRun]) [relationRun]),
      ∀ p ∈ c.put, ∃ call ∈ callsSince noRecords (recordsRun plainText id smallHash noRecords [relationRun]),
        (call.error = .noError ∧ call.statements ≠ .ignoring) ∧ ∃ q ∈ call.put, q.1 = p.1 := by
    decide +kernel
  refine ((records_progress plainText id smallHash noRecords [relationRun] [relationRun] _ _ rfl rfl ?_).2.2 ?_).1
  · rintro p q ⟨c, hc, hp⟩ ⟨c', hc', hq⟩
    exact hsteady c hc c' hc' p hp q hq
  · rintro p ⟨c, hc, hp⟩
    exact hall c hc p hp

end BxSync
