import BxSync.Comment
import BxSync.Theorems.UpsertAlignment

/-! Whether the comments of documents of different types stay apart. The key of a comment has the type of its document in
    it, and the SELECT and the UPDATE only know the id of the document. -/

namespace BxSync

open Machine
open Sql (Name Statement bytes)

/-! ### The property -/

section

variable (lib : TextLib)

def CommentInput.slots (c : CommentInput) : List BXSlot := readSlots lib commentTable.fields c.object

/-- Two comments have one key. -/
structure SameComment (c d : CommentInput) : Prop where
  id : fieldValue ((c.slots lib).headD (.uint none)) = fieldValue ((d.slots lib).headD (.uint none))
  documentType : c.documentType = d.documentType
  documentId : c.documentId = d.documentId

/-- A row has the values of a comment, its key among them. -/
structure HoldsComment (c : CommentInput) (row : Sql.Row SqlValue) : Prop where
  values : HoldsFrom commentTable (c.slots lib) 0 row
  documentId : row (bytes "_document_id") = .integer c.documentId.toNat

/-- The comment is the last one with its key that was stored. -/
def LastStored (calls : List CommentCall) (c : CommentInput) : Prop :=
  ∃ before call after, calls = before ++ call :: after ∧ call.input = c ∧ call.stored ∧
    ∀ later ∈ after, later.stored → ¬SameComment lib later.input c

/-- Every row holds the last comment that was stored with its key, and every key has a row. -/
structure CommentsFollow (calls : List CommentCall) (tables : SqlTables) : Prop where
  rows : ∀ row ∈ tables (bytes "kb_comment"), ∃ c, LastStored lib calls c ∧ HoldsComment lib c row
  comments : ∀ c, LastStored lib calls c → ∃ row ∈ tables (bytes "kb_comment"), HoldsComment lib c row

variable {κ : Type} [DecidableEq κ] (serverKey : SqlValue → κ) (xxh3 : List UInt8 → UInt64)

/-- The rows of the id and the document of a comment. -/
def CommentInput.sameRow (c : CommentInput) : Sql.Row SqlValue → Bool :=
  ofObject serverKey commentTable (c.slots lib) c.documentId

def CommentInput.checksum (c : CommentInput) : UInt64 := objectChecksum lib xxh3 commentTable c.documentId c.object

/-- A row of the id and the document of a comment, of whatever type, is one of its own type before it is updated, and
    has its values before it is left for its checksum. The numbers of the comment do not reach the sign bit. -/
def CommentCondition (call : CommentCall) : Prop :=
  pkOk (call.input.slots lib) → call.input.answers.selectPrepared → call.input.answers.select = .answered →
    (∀ n, .uint (some n) ∈ call.input.slots lib → n.toNat < 2 ^ 63) ∧
    ∀ row ∈ call.pre (bytes "kb_comment"), call.input.sameRow lib serverKey row →
      if (row (bytes "_checksum")).iValue = call.input.checksum lib xxh3 then HoldsComment lib call.input row
      else call.input.answers.wrote → row (bytes "_document_type") = .bytes call.input.documentType.text

end

/-! ### One comment -/

theorem fits_comment : commentTable.Fits where
  allowed := by decide
  count := by decide
  first := by decide
  distinct := by decide
  words := by decide +kernel
  named := by decide
  select_lt := by decide +kernel
  cols_lt := by decide +kernel
  vals_lt := by decide +kernel
  sets_lt := by decide +kernel

theorem free_comment {slots : List BXSlot} (h : ∀ n, .uint (some n) ∈ slots → n.toNat < 2 ^ 63) : OwnNamesFree commentTable slots where
  columns := by decide +kernel
  parent _ := by decide +kernel
  unsigned := h

theorem marks_comment : commentTable.marks.Nodup := by decide +kernel

section

variable {κ : Type} [DecidableEq κ] {serverKey : SqlValue → κ} {lib : TextLib} {xxh3 : List UInt8 → UInt64}

/-- A write that ran left what its statement makes of the tables. -/
theorem sendStatement_tables {stmt : Statement SqlValue} {tables next : SqlTables}
    (hrun : ∀ converted, runStatement serverKey stmt tables false converted = (some converted, next)) (a : UpsertAnswers) :
    ∃ err, sendStatement serverKey stmt tables a = (err, if a.wrote then next else tables, .sent) := by
  have hrefused (converted : Bool) : runStatement serverKey stmt tables true converted = (none, tables) := rfl
  unfold sendStatement UpsertAnswers.wrote
  cases a.writePrepared with
  | false => exact ⟨.errorGeneric, rfl⟩
  | true =>
    rw [if_neg (by decide)]
    cases a.write with
    | unsent needReconnect => exact ⟨bxDatabaseQueryError needReconnect, rfl⟩
    | ran fkError converted =>
      cases fkError with
      | true => exact ⟨bxDatabaseQueryError false, rfl⟩
      | false =>
        refine ⟨.noError, ?_⟩
        dsimp only [Exec.run]
        rw [hrun]
        rfl
    | unreported fkError converted needReconnect =>
      refine ⟨bxDatabaseQueryError needReconnect, ?_⟩
      dsimp only [Exec.run]
      cases fkError with
      | true => rfl
      | false =>
        rw [hrun]
        rfl

def CommentInput.inserted (lib : TextLib) (xxh3 : List UInt8 → UInt64) (c : CommentInput) : Sql.Row SqlValue :=
  insertedRow commentTable (c.slots lib) c.documentId (c.checksum lib xxh3) c.now

def CommentInput.updated (serverKey : SqlValue → κ) (lib : TextLib) (xxh3 : List UInt8 → UInt64) (c : CommentInput) :
    Sql.Row SqlValue → Sql.Row SqlValue :=
  updatedRow serverKey commentTable (c.slots lib) c.documentId (c.checksum lib xxh3) c.now

/-- What storing a comment can do. -/
inductive CommentOutcome (serverKey : SqlValue → κ) (lib : TextLib) (xxh3 : List UInt8 → UInt64) (tables : SqlTables)
    (c : CommentInput) : Bool → SqlTables → Prop
  | left : CommentOutcome serverKey lib xxh3 tables c false tables
  | skipped (first : Sql.Row SqlValue) (hfirst : (tables (bytes "kb_comment")).find? (c.sameRow lib serverKey) = some first)
      (hsame : (first (bytes "_checksum")).iValue = c.checksum lib xxh3) : CommentOutcome serverKey lib xxh3 tables c true tables
  | inserted (hnone : (tables (bytes "kb_comment")).find? (c.sameRow lib serverKey) = none) :
      CommentOutcome serverKey lib xxh3 tables c true
        (Function.update tables (bytes "kb_comment") (tables (bytes "kb_comment") ++ [c.inserted lib xxh3]))
  | updated (first : Sql.Row SqlValue) (hfirst : (tables (bytes "kb_comment")).find? (c.sameRow lib serverKey) = some first)
      (hdiffers : (first (bytes "_checksum")).iValue ≠ c.checksum lib xxh3) (hwrote : c.answers.wrote) :
      CommentOutcome serverKey lib xxh3 tables c true
        (Function.update tables (bytes "kb_comment") ((tables (bytes "kb_comment")).map (c.updated serverKey lib xxh3)))

/-- The call got to its SELECT. -/
structure Selects (lib : TextLib) (c : CommentInput) : Prop where
  pkOk : pkOk (c.slots lib)
  prepared : c.answers.selectPrepared
  answered : c.answers.select = .answered

theorem commentStep_of_call {tables next : SqlTables} {c : CommentInput} {err : BXillError} {ended : UpsertEnd}
    (h : bxJsonUpsertSql serverKey lib xxh3 commentTable tables c.object c.documentId c.now c.answers = some (err, next, ended)) :
    commentStep serverKey lib xxh3 tables c =
      ({ pre := tables, input := c, stored := ended = .skipped || (ended = .sent && c.answers.wrote) }, next) := by
  unfold commentStep
  rw [h]

theorem commentStep_call (tables : SqlTables) (c : CommentInput) :
    (commentStep serverKey lib xxh3 tables c).1.pre = tables ∧ (commentStep serverKey lib xxh3 tables c).1.input = c := by
  unfold commentStep
  split <;> exact ⟨rfl, rfl⟩

/-- The call once its SELECT is answered. -/
theorem commentStep_selected {tables next : SqlTables} {c : CommentInput} {err : BXillError} {ended : UpsertEnd}
    (hselects : Selects lib c) (hunsigned : ∀ n, .uint (some n) ∈ c.slots lib → n.toNat < 2 ^ 63)
    (hend : (match (tables (bytes "kb_comment")).find? (c.sameRow lib serverKey) with
      | none => upsertSend serverKey commentTable tables (c.slots lib) c.documentId (c.checksum lib xxh3) c.now true c.answers
      | some row =>
        if (row (bytes "_checksum")).iValue = c.checksum lib xxh3 then some (.noError, tables, .skipped)
        else upsertSend serverKey commentTable tables (c.slots lib) c.documentId (c.checksum lib xxh3) c.now false c.answers) =
      some (err, next, ended)) :
    commentStep serverKey lib xxh3 tables c =
      ({ pre := tables, input := c, stored := ended = .skipped || (ended = .sent && c.answers.wrote) }, next) := by
  have hkeys : Sql.meets (sameValue serverKey) (sentKeys commentTable (c.slots lib) c.documentId) =
      c.sameRow lib serverKey := by
    have hlen : (c.slots lib).length = commentTable.names.length := length_readSlots ..
    rw [sentKeys_eq fits_comment hlen (free_comment hunsigned)]
    rfl
  have hcall : bxJsonUpsertSql serverKey lib xxh3 commentTable tables c.object c.documentId c.now c.answers = _ :=
    bxJsonUpsertSql_eq fits_comment hselects.pkOk tables c.answers
  rw [if_neg (by rw [hselects.prepared]; decide), hselects.answered] at hcall
  change _ = match (tables (bytes "kb_comment")).find?
    (Sql.meets (sameValue serverKey) (sentKeys commentTable (c.slots lib) c.documentId)) with | none => _ | some _ => _ at hcall
  rw [hkeys] at hcall
  exact commentStep_of_call (hcall.trans hend)

/-- A comment without a row is inserted. -/
theorem commentStep_inserted {tables : SqlTables} {c : CommentInput} (hselects : Selects lib c)
    (hunsigned : ∀ n, .uint (some n) ∈ c.slots lib → n.toNat < 2 ^ 63)
    (hfind : (tables (bytes "kb_comment")).find? (c.sameRow lib serverKey) = none) :
    commentStep serverKey lib xxh3 tables c = ({ pre := tables, input := c, stored := c.answers.wrote },
      if c.answers.wrote then
        Function.update tables (bytes "kb_comment") (tables (bytes "kb_comment") ++ [c.inserted lib xxh3])
      else tables) := by
  have hlen : (c.slots lib).length = commentTable.names.length := length_readSlots ..
  have hrun (converted : Bool) : runStatement serverKey
      (writeStatement commentTable (c.slots lib) c.documentId (c.checksum lib xxh3) c.now true) tables false converted = _ :=
    runStatement_insert hlen (free_comment hunsigned).columns tables converted
  obtain ⟨err, hsend⟩ := sendStatement_tables hrun c.answers
  have hdone := (upsertSend_eq fits_comment hlen marks_comment tables true c.answers).trans (congrArg some hsend)
  rw [commentStep_selected hselects hunsigned (by rw [hfind]; exact hdone)]
  rfl

/-- A comment whose row has another checksum is updated. -/
theorem commentStep_updated {tables : SqlTables} {c : CommentInput} {first : Sql.Row SqlValue} (hselects : Selects lib c)
    (hunsigned : ∀ n, .uint (some n) ∈ c.slots lib → n.toNat < 2 ^ 63)
    (hfind : (tables (bytes "kb_comment")).find? (c.sameRow lib serverKey) = some first)
    (hdiffers : (first (bytes "_checksum")).iValue ≠ c.checksum lib xxh3) :
    commentStep serverKey lib xxh3 tables c = ({ pre := tables, input := c, stored := c.answers.wrote },
      if c.answers.wrote then
        Function.update tables (bytes "kb_comment") ((tables (bytes "kb_comment")).map (c.updated serverKey lib xxh3))
      else tables) := by
  have hlen : (c.slots lib).length = commentTable.names.length := length_readSlots ..
  have hrun (converted : Bool) : runStatement serverKey
      (writeStatement commentTable (c.slots lib) c.documentId (c.checksum lib xxh3) c.now false) tables false converted = _ :=
    runStatement_update tables converted
  obtain ⟨err, hsend⟩ := sendStatement_tables hrun c.answers
  have hdone := (upsertSend_eq fits_comment hlen marks_comment tables false c.answers).trans (congrArg some hsend)
  rw [commentStep_selected hselects hunsigned (by rw [hfind]; exact (if_neg hdiffers).trans hdone)]
  rfl

theorem commentStep_outcome (serverKey : SqlValue → κ) (xxh3 : List UInt8 → UInt64) (tables : SqlTables) (c : CommentInput)
    (hunsigned : Selects lib c → ∀ n, .uint (some n) ∈ c.slots lib → n.toNat < 2 ^ 63) :
    ((commentStep serverKey lib xxh3 tables c).1.stored → Selects lib c) ∧
    CommentOutcome serverKey lib xxh3 tables c (commentStep serverKey lib xxh3 tables c).1.stored
      (commentStep serverKey lib xxh3 tables c).2 := by
  by_cases hpk : pkOk (c.slots lib) = true
  · have hcall : bxJsonUpsertSql serverKey lib xxh3 commentTable tables c.object c.documentId c.now c.answers = _ :=
      bxJsonUpsertSql_eq fits_comment hpk tables c.answers
    by_cases hprepared : c.answers.selectPrepared = true
    · rw [if_neg (by rw [hprepared]; decide)] at hcall
      cases hselect : c.answers.select with
      | failed needReconnect =>
        rw [hselect] at hcall
        rw [commentStep_of_call hcall]
        exact ⟨nofun, .left⟩
      | answered =>
        have hselects : Selects lib c := ⟨hpk, hprepared, hselect⟩
        refine ⟨fun _ => hselects, ?_⟩
        cases hfind : (tables (bytes "kb_comment")).find? (c.sameRow lib serverKey) with
        | none =>
          rw [commentStep_inserted hselects (hunsigned hselects) hfind]
          cases c.answers.wrote with
          | false => exact .left
          | true => exact .inserted hfind
        | some first =>
          by_cases hsame : (first (bytes "_checksum")).iValue = c.checksum lib xxh3
          · rw [commentStep_selected hselects (hunsigned hselects) (by rw [hfind]; exact if_pos hsame)]
            exact .skipped first hfind hsame
          · rw [commentStep_updated hselects (hunsigned hselects) hfind hsame]
            cases hwrote : c.answers.wrote with
            | false => exact .left
            | true => exact .updated first hfind hsame hwrote
    · rw [if_pos (by simpa using hprepared)] at hcall
      rw [commentStep_of_call hcall]
      exact ⟨nofun, .left⟩
  · rw [commentStep_of_call (bxJsonUpsertSql_unkeyed fits_comment hpk tables c.answers)]
    exact ⟨nofun, .left⟩

/-! ### The key of a comment -/

def CommentInput.idValue (lib : TextLib) (c : CommentInput) : SqlValue := fieldValue ((c.slots lib).headD (.uint none))

theorem idValue_integer {c : CommentInput} (hpk : pkOk (c.slots lib)) : ∃ n : Int, c.idValue lib = .integer n := by
  have hslots : c.slots lib = .uint (bxObjectGetJsonUint c.object "id") :: (c.slots lib).tail := rfl
  unfold CommentInput.idValue
  rw [hslots] at hpk ⊢
  cases hid : bxObjectGetJsonUint c.object "id" with
  | none =>
    rw [hid] at hpk
    exact nomatch hpk
  | some n => exact ⟨n.toNat, rfl⟩

/-- A stored comment is an object, and its type is among its fields. -/
theorem documentType_slot {c : CommentInput} (hpk : pkOk (c.slots lib)) :
    (c.slots lib)[6]? = some (.str (some (lib.htmlEntitiesReplaces c.documentType.text))) := by
  have hslot : (c.slots lib)[6]? = some (.str (bxObjectGetJsonString lib c.object "_document_type")) := rfl
  have hid : pkOk (.uint (bxObjectGetJsonUint c.object "id") :: (c.slots lib).tail) := hpk
  rw [hslot]
  unfold bxObjectGetJsonString
  unfold CommentInput.object at hid ⊢
  cases hcomment : c.comment with
  | object fields => simp [Json.set, Json.get]
  | _ =>
    rw [hcomment] at hid
    cases hid

/-- The values of a row that holds a comment. -/
structure KeyOf (lib : TextLib) (c : CommentInput) (row : Sql.Row SqlValue) : Prop where
  id : row (bytes "id") = c.idValue lib
  documentId : row (bytes "_document_id") = .integer c.documentId.toNat

theorem HoldsComment.key {c : CommentInput} {row : Sql.Row SqlValue} (h : HoldsComment lib c row) : KeyOf lib c row :=
  ⟨h.values 0 (bytes "id") _ (Nat.le_refl 0) rfl rfl, h.documentId⟩

theorem HoldsComment.documentType {c : CommentInput} {row : Sql.Row SqlValue} (h : HoldsComment lib c row)
    (hpk : pkOk (c.slots lib)) : row (bytes "_document_type") = .bytes (lib.htmlEntitiesReplaces c.documentType.text) :=
  h.values 6 (bytes "_document_type") _ (Nat.zero_le 6) rfl (documentType_slot hpk)

/-- The server tells integers apart, and the types of documents are texts without entities. -/
structure Distinguishes (serverKey : SqlValue → κ) (lib : TextLib) : Prop where
  integers : ∀ m n : Int, serverKey (.integer m) = serverKey (.integer n) → m = n
  types : ∀ t : DocumentType, lib.htmlEntitiesReplaces t.text = t.text

theorem sameRow_iff (hserver : Distinguishes serverKey lib) {c d : CommentInput} {row : Sql.Row SqlValue} (hrow : KeyOf lib d row)
    (hd : pkOk (d.slots lib)) (hc : pkOk (c.slots lib)) : c.sameRow lib serverKey row = true ↔ KeyOf lib c row := by
  obtain ⟨m, hm⟩ := idValue_integer hd
  obtain ⟨n, hn⟩ := idValue_integer hc
  have hsame (a b : Int) : sameValue serverKey (.integer a) (.integer b) = true ↔ (SqlValue.integer a = .integer b) := by
    unfold sameValue
    constructor
    · intro h
      exact congrArg SqlValue.integer (hserver.integers a b (by simpa using h))
    · intro h
      rw [h]
      simp
  have hkeys : keyValues commentTable (c.slots lib) c.documentId =
      [(bytes "id", c.idValue lib), (bytes "_document_id", .integer c.documentId.toNat)] := rfl
  unfold CommentInput.sameRow ofObject Sql.meets
  rw [hkeys, List.all_cons, List.all_cons, List.all_nil, Bool.and_true, Bool.and_eq_true]
  dsimp only
  rw [hn, hrow.id, hm, hrow.documentId, hsame, hsame]
  constructor
  · rintro ⟨hid, hdocument⟩
    exact ⟨hrow.id.trans (hm.trans (hid.trans hn.symm)), hrow.documentId.trans hdocument⟩
  · intro h
    exact ⟨by rw [← hm, ← hrow.id, h.id, hn], by rw [← hrow.documentId, h.documentId]⟩

/-! ### What was stored last -/

theorem lastStored_concat {calls : List CommentCall} {call : CommentCall} {c : CommentInput} :
    LastStored lib (calls ++ [call]) c ↔
      (call.stored ∧ call.input = c) ∨ (LastStored lib calls c ∧ (call.stored → ¬SameComment lib call.input c)) := by
  constructor
  · rintro ⟨before, x, after, heq, hinput, hstored, hlater⟩
    rcases List.eq_nil_or_concat after with rfl | ⟨front, last, rfl⟩
    · obtain ⟨-, hlast⟩ := List.append_inj' heq rfl
      obtain rfl := (List.cons.inj hlast).1
      exact Or.inl ⟨hstored, hinput⟩
    · rw [List.concat_eq_append, ← List.cons_append, ← List.append_assoc] at heq
      obtain ⟨hfront, hlast⟩ := List.append_inj' heq rfl
      obtain rfl := (List.cons.inj hlast).1
      rw [List.concat_eq_append] at hlater
      refine Or.inr ⟨⟨before, x, front, hfront, hinput, hstored, fun later hmem => ?_⟩, ?_⟩
      · exact hlater later (List.mem_append_left _ hmem)
      · exact hlater call (List.mem_append_right _ (List.mem_singleton_self _))
  · rintro (⟨hstored, hinput⟩ | ⟨⟨before, x, after, rfl, hinput, hstored, hlater⟩, hlast⟩)
    · exact ⟨calls, call, [], rfl, hinput, hstored, fun _ hmem => absurd hmem List.not_mem_nil⟩
    · refine ⟨before, x, after ++ [call], by simp, hinput, hstored, fun later hmem => ?_⟩
      rcases List.mem_append.mp hmem with hmem | hmem
      · exact hlater later hmem
      · rw [List.mem_singleton.mp hmem]
        exact hlast

/-- One row for each id and document, each row holds the last comment with its key, and only objects were stored. -/
structure CommentsInv (lib : TextLib) (calls : List CommentCall) (tables : SqlTables) : Prop where
  follow : CommentsFollow lib calls tables
  keyed : ∀ c, LastStored lib calls c → pkOk (c.slots lib)
  single : (tables (bytes "kb_comment")).Pairwise fun row row' =>
    ¬(row (bytes "id") = row' (bytes "id") ∧ row (bytes "_document_id") = row' (bytes "_document_id"))

theorem CommentsInv.eq_of_key {calls : List CommentCall} {tables : SqlTables} (h : CommentsInv lib calls tables) {c : CommentInput}
    {row row' : Sql.Row SqlValue} (hrow : row ∈ tables (bytes "kb_comment")) (hrow' : row' ∈ tables (bytes "kb_comment"))
    (hkey : KeyOf lib c row) (hkey' : KeyOf lib c row') : row = row' := by
  by_contra hne
  have hsymm : Std.Symm fun row row' : Sql.Row SqlValue =>
      ¬(row (bytes "id") = row' (bytes "id") ∧ row (bytes "_document_id") = row' (bytes "_document_id")) :=
    ⟨fun _ _ hdiffer hsame => hdiffer ⟨hsame.1.symm, hsame.2.symm⟩⟩
  exact h.single.forall hrow hrow' hne
    ⟨hkey.id.trans hkey'.id.symm, hkey.documentId.trans hkey'.documentId.symm⟩

theorem SameComment.key {c d : CommentInput} (h : SameComment lib c d) {row : Sql.Row SqlValue} (hrow : KeyOf lib d row) :
    KeyOf lib c row :=
  ⟨hrow.id.trans h.id.symm, hrow.documentId.trans (by rw [h.documentId])⟩

theorem sameComment_of_key {c d : CommentInput} {row : Sql.Row SqlValue} (hc : KeyOf lib c row) (hd : KeyOf lib d row)
    (htype : c.documentType = d.documentType) : SameComment lib c d := by
  refine ⟨hc.id.symm.trans hd.id, htype, ?_⟩
  have hdocument : SqlValue.integer c.documentId.toNat = .integer d.documentId.toNat := hc.documentId.symm.trans hd.documentId
  have hnat : c.documentId.toNat = d.documentId.toNat := Int.ofNat.inj (SqlValue.integer.inj hdocument)
  exact UInt64.toNat.inj hnat

theorem documentType_inj {s t : DocumentType} (h : s.text = t.text) : s = t := by
  revert h
  cases s <;> cases t <;> decide

/-! ### The run -/

variable {calls : List CommentCall} {tables : SqlTables} {c : CommentInput}

/-- A call that stored nothing is no part of what follows. -/
theorem CommentsInv.left (h : CommentsInv lib calls tables) (call : CommentCall) (hstored : ¬call.stored) :
    CommentsInv lib (calls ++ [call]) tables := by
  have hsame (c : CommentInput) : LastStored lib (calls ++ [call]) c ↔ LastStored lib calls c := by
    rw [lastStored_concat]
    exact ⟨fun hor => hor.elim (fun h => absurd h.1 hstored) And.left, fun h => Or.inr ⟨h, fun hs => absurd hs hstored⟩⟩
  refine ⟨⟨fun row hrow => ?_, fun c hc => h.follow.comments c ((hsame c).mp hc)⟩, fun c hc => h.keyed c ((hsame c).mp hc), h.single⟩
  obtain ⟨c, hc, hholds⟩ := h.follow.rows row hrow
  exact ⟨c, (hsame c).mpr hc, hholds⟩

/-- What a comment that is stored has to find in the rows: it has one, the other ones are as they were, and none of them
    had its key. -/
theorem CommentsInv.stored (h : CommentsInv lib calls tables) {call : CommentCall} (hstored : call.stored)
    (hpk : pkOk (call.input.slots lib)) {next : SqlTables}
    (hrow : ∃ row ∈ next (bytes "kb_comment"), HoldsComment lib call.input row)
    (hnext : ∀ row ∈ next (bytes "kb_comment"), HoldsComment lib call.input row ∨
      (row ∈ tables (bytes "kb_comment") ∧ ∀ d, HoldsComment lib d row → ¬SameComment lib call.input d))
    (hkept : ∀ row ∈ tables (bytes "kb_comment"), ∀ d, LastStored lib calls d → HoldsComment lib d row →
      ¬SameComment lib call.input d → row ∈ next (bytes "kb_comment"))
    (hsingle : (next (bytes "kb_comment")).Pairwise fun row row' =>
      ¬(row (bytes "id") = row' (bytes "id") ∧ row (bytes "_document_id") = row' (bytes "_document_id"))) :
    CommentsInv lib (calls ++ [call]) next := by
  refine ⟨⟨fun row hmem => ?_, fun d hd => ?_⟩, fun d hd => ?_, hsingle⟩
  · rcases hnext row hmem with hholds | ⟨hold, hother⟩
    · exact ⟨call.input, lastStored_concat.mpr (Or.inl ⟨hstored, rfl⟩), hholds⟩
    · obtain ⟨d, hd, hholds⟩ := h.follow.rows row hold
      exact ⟨d, lastStored_concat.mpr (Or.inr ⟨hd, fun _ => hother d hholds⟩), hholds⟩
  · rcases lastStored_concat.mp hd with ⟨-, rfl⟩ | ⟨hlast, hother⟩
    · exact hrow
    · obtain ⟨row, hmem, hholds⟩ := h.follow.comments d hlast
      exact ⟨row, hkept row hmem d hlast hholds (hother hstored), hholds⟩
  · rcases lastStored_concat.mp hd with ⟨-, rfl⟩ | ⟨hlast, -⟩
    · exact hpk
    · exact h.keyed d hlast

theorem holdsComment_inserted (hunsigned : ∀ n, .uint (some n) ∈ c.slots lib → n.toNat < 2 ^ 63) :
    HoldsComment lib c (c.inserted lib xxh3) := by
  have hlen : (c.slots lib).length = commentTable.names.length := length_readSlots ..
  exact ⟨holdsFrom_insertedRow hlen (free_comment hunsigned), insertedRow_parent hlen (free_comment hunsigned).columns rfl⟩

theorem updated_of_sameRow {row : Sql.Row SqlValue} (hunsigned : ∀ n, .uint (some n) ∈ c.slots lib → n.toNat < 2 ^ 63)
    (hsame : c.sameRow lib serverKey row) (hkey : KeyOf lib c row) : HoldsComment lib c (c.updated serverKey lib xxh3 row) := by
  have hlen : (c.slots lib).length = commentTable.names.length := length_readSlots ..
  have hfree := free_comment hunsigned
  have hmeets : Sql.meets (sameValue serverKey) (sentKeys commentTable (c.slots lib) c.documentId) row := by
    rw [sentKeys_eq fits_comment hlen hfree]
    exact hsame
  have hkeep : ∀ n ∉ commentTable.setColumns, c.updated serverKey lib xxh3 row n = row n := fun n hn =>
    updatedRow_of_notMem hlen row hn
  refine ⟨fun i n slot _ hn hslot => ?_, ?_⟩
  · cases i with
    | zero =>
      obtain rfl : bytes "id" = n := Option.some.inj hn
      rw [hkeep _ (by decide +kernel), hkey.id]
      obtain rfl : (c.slots lib).headD (.uint none) = slot := Option.some.inj hslot
      rfl
    | succ i => exact holdsFrom_updatedRow fits_comment hlen hfree hmeets (i + 1) n slot (Nat.succ_pos i) hn hslot
  · rw [hkeep _ (by decide +kernel)]
    exact hkey.documentId

theorem updated_of_other {row : Sql.Row SqlValue} (hunsigned : ∀ n, .uint (some n) ∈ c.slots lib → n.toNat < 2 ^ 63)
    (hsame : ¬c.sameRow lib serverKey row) : c.updated serverKey lib xxh3 row = row := by
  have hlen : (c.slots lib).length = commentTable.names.length := length_readSlots ..
  have hkeys := sentKeys_eq fits_comment hlen (free_comment hunsigned) c.documentId
  unfold CommentInput.updated updatedRow
  rw [hkeys]
  exact if_neg hsame

/-- The id and the document of a row are not set. -/
theorem updated_key (c : CommentInput) (row : Sql.Row SqlValue) :
    c.updated serverKey lib xxh3 row (bytes "id") = row (bytes "id") ∧
      c.updated serverKey lib xxh3 row (bytes "_document_id") = row (bytes "_document_id") :=
  ⟨updatedRow_of_notMem (length_readSlots ..) row (by decide +kernel), updatedRow_of_notMem (length_readSlots ..) row (by decide +kernel)⟩

/-- A comment whose condition is met follows those before it. -/
theorem CommentsInv.step (hserver : Distinguishes serverKey lib) (h : CommentsInv lib calls tables) (c : CommentInput)
    (hC : CommentCondition lib serverKey xxh3 (commentStep serverKey lib xxh3 tables c).1) :
    CommentsInv lib (calls ++ [(commentStep serverKey lib xxh3 tables c).1]) (commentStep serverKey lib xxh3 tables c).2 := by
  have hcall : (commentStep serverKey lib xxh3 tables c).1.pre = tables ∧ (commentStep serverKey lib xxh3 tables c).1.input = c :=
    commentStep_call tables c
  unfold CommentCondition at hC
  rw [hcall.1, hcall.2] at hC
  obtain ⟨hselects, houtcome⟩ := commentStep_outcome serverKey xxh3 tables c
    fun hs => (hC hs.pkOk hs.prepared hs.answered).1
  generalize (commentStep serverKey lib xxh3 tables c).2 = next at houtcome ⊢
  generalize hcallEq : (commentStep serverKey lib xxh3 tables c).1 = call at hcall hselects houtcome ⊢
  obtain ⟨-, hinput⟩ := hcall
  subst hinput
  clear hcallEq
  generalize hstored : call.stored = stored at hselects houtcome
  cases houtcome with
  | left => exact h.left call (by rw [hstored]; decide)
  | skipped first hfirst hsame =>
    have hs := hselects rfl
    obtain ⟨-, hrows⟩ := hC hs.pkOk hs.prepared hs.answered
    have hmem := List.mem_of_find?_eq_some hfirst
    have hholds := hrows first hmem (List.find?_some hfirst)
    rw [if_pos hsame] at hholds
    refine h.stored hstored hs.pkOk ⟨first, hmem, hholds⟩ (fun row hrow => ?_) (fun row hrow _ _ _ _ => hrow) h.single
    by_cases hkey : KeyOf lib call.input row
    · rw [h.eq_of_key hrow hmem hkey hholds.key]
      exact Or.inl hholds
    · exact Or.inr ⟨hrow, fun d hd hsameKey => hkey (hsameKey.key hd.key)⟩
  | inserted hnone =>
    have hs := hselects rfl
    obtain ⟨hunsigned, -⟩ := hC hs.pkOk hs.prepared hs.answered
    have hholds : HoldsComment lib call.input (call.input.inserted lib xxh3) := holdsComment_inserted hunsigned
    have hother : ∀ row ∈ tables (bytes "kb_comment"), ¬KeyOf lib call.input row := by
      intro row hrow hkey
      obtain ⟨d, hd, hheld⟩ := h.follow.rows row hrow
      exact List.find?_eq_none.mp hnone row hrow ((sameRow_iff hserver hheld.key (h.keyed d hd) hs.pkOk).mpr hkey)
    have hnext : Function.update tables (bytes "kb_comment") (tables (bytes "kb_comment") ++ [call.input.inserted lib xxh3])
        (bytes "kb_comment") = tables (bytes "kb_comment") ++ [call.input.inserted lib xxh3] := Function.update_self ..
    refine h.stored hstored hs.pkOk ?_ ?_ ?_ ?_ <;> rw [hnext]
    · exact ⟨_, List.mem_append_right _ (List.mem_singleton_self _), hholds⟩
    · intro row hrow
      rcases List.mem_append.mp hrow with hrow | hrow
      · exact Or.inr ⟨hrow, fun d hd hsameKey => hother row hrow (hsameKey.key hd.key)⟩
      · rw [List.mem_singleton.mp hrow]
        exact Or.inl hholds
    · exact fun row hrow _ _ _ _ => List.mem_append_left _ hrow
    · rw [List.pairwise_append]
      refine ⟨h.single, List.pairwise_singleton _ _, fun row hrow new hnew hsame => hother row hrow ?_⟩
      rw [List.mem_singleton.mp hnew] at hsame
      exact ⟨hsame.1.trans hholds.key.id, hsame.2.trans hholds.documentId⟩
  | updated first hfirst hdiffers hwrote =>
    have hs := hselects rfl
    obtain ⟨hunsigned, hrows⟩ := hC hs.pkOk hs.prepared hs.answered
    have hmem := List.mem_of_find?_eq_some hfirst
    have hiff : ∀ row ∈ tables (bytes "kb_comment"), call.input.sameRow lib serverKey row = true ↔ KeyOf lib call.input row := by
      intro row hrow
      obtain ⟨d, hd, hheld⟩ := h.follow.rows row hrow
      exact sameRow_iff hserver hheld.key (h.keyed d hd) hs.pkOk
    -- All rows of the id and the document are the first one, which has the type of the comment.
    have htype : ∀ row ∈ tables (bytes "kb_comment"), KeyOf lib call.input row →
        row (bytes "_document_type") = .bytes call.input.documentType.text := by
      intro row hrow hkey
      have hfirstKey := (hiff first hmem).mp (List.find?_some hfirst)
      have hcondition := hrows first hmem (List.find?_some hfirst)
      rw [if_neg hdiffers] at hcondition
      rw [h.eq_of_key hrow hmem hkey hfirstKey]
      exact hcondition hwrote
    have hnext : Function.update tables (bytes "kb_comment") ((tables (bytes "kb_comment")).map (call.input.updated serverKey lib xxh3))
        (bytes "kb_comment") = (tables (bytes "kb_comment")).map (call.input.updated serverKey lib xxh3) := Function.update_self ..
    refine h.stored hstored hs.pkOk ?_ ?_ ?_ ?_ <;> rw [hnext]
    · exact ⟨_, List.mem_map_of_mem hmem,
        updated_of_sameRow hunsigned (List.find?_some hfirst) ((hiff first hmem).mp (List.find?_some hfirst))⟩
    · intro row hrow
      obtain ⟨old, hold, rfl⟩ := List.mem_map.mp hrow
      by_cases hsame : call.input.sameRow lib serverKey old = true
      · exact Or.inl (updated_of_sameRow hunsigned hsame ((hiff old hold).mp hsame))
      · rw [updated_of_other hunsigned hsame]
        exact Or.inr ⟨hold, fun d hd hsameKey => hsame ((hiff old hold).mpr (hsameKey.key hd.key))⟩
    · intro row hrow d hd hheld hother
      have hsame : ¬call.input.sameRow lib serverKey row := by
        intro hsame
        have hkey := (hiff row hrow).mp hsame
        have hdType := hheld.documentType (h.keyed d hd)
        rw [hserver.types, htype row hrow hkey] at hdType
        exact hother (sameComment_of_key hkey hheld.key (documentType_inj (SqlValue.bytes.inj hdType)))
      exact List.mem_map.mpr ⟨row, hrow, updated_of_other hunsigned hsame⟩
    · rw [List.pairwise_map]
      refine h.single.imp fun {row row'} hdiffer hsame => hdiffer ?_
      rw [(updated_key call.input row).1, (updated_key call.input row).2, (updated_key call.input row').1,
        (updated_key call.input row').2] at hsame
      exact hsame

/-- In a run whose comments all meet the condition each row holds the last comment that was stored with its key. -/
theorem comments_follow (hserver : Distinguishes serverKey lib) {start : SqlTables} (hstart : start (bytes "kb_comment") = [])
    (inputs : List CommentInput)
    (hC : ∀ call ∈ outputs (commentStep serverKey lib xxh3) start inputs, CommentCondition lib serverKey xxh3 call) :
    CommentsFollow lib (outputs (commentStep serverKey lib xxh3) start inputs) (final (commentStep serverKey lib xxh3) start inputs) := by
  have hnone (c : CommentInput) : ¬LastStored lib [] c := by
    rintro ⟨before, call, after, heq, -⟩
    simp at heq
  have hempty : CommentsInv lib [] start := by
    refine ⟨⟨fun row hrow => ?_, fun c hc => absurd hc (hnone c)⟩, fun c hc => absurd hc (hnone c), ?_⟩
    · rw [hstart] at hrow
      exact absurd hrow List.not_mem_nil
    · rw [hstart]
      exact List.Pairwise.nil
  have hrun := history_inv (commentStep serverKey lib xxh3) (I := CommentsInv lib)
    (C := CommentCondition lib serverKey xxh3) (fun _ _ c h hc => h.step hserver c hc) inputs [] start hempty hC
  exact hrun.follow

end

/-! ### Two documents -/

def commentOf (documentType : DocumentType) (documentId : UInt64) (text : String) : CommentInput where
  documentType
  documentId
  comment := .object [("id", .integer 1), ("text", .string (bytes text))]
  now := 100
  answers := allAnswered

theorem slots_commentOf (documentType : DocumentType) (documentId : UInt64) (text : String) :
    (commentOf documentType documentId text).slots plainText =
      [.uint (some 1), .str (some (bytes text)), .uint none, .str none, .str none, .bool none,
        .str (some documentType.text)] := rfl

theorem selects_commentOf (documentType : DocumentType) (documentId : UInt64) (text : String) :
    Selects plainText (commentOf documentType documentId text) := ⟨rfl, rfl, rfl⟩

theorem unsigned_commentOf {documentType : DocumentType} {documentId : UInt64} {text : String} :
    ∀ n, .uint (some n) ∈ (commentOf documentType documentId text).slots plainText → n.toNat < 2 ^ 63 := by
  intro n hn
  rw [slots_commentOf] at hn
  obtain rfl : n = 1 := by simpa using hn
  decide

theorem distinguishes_asIs : Distinguishes id plainText := ⟨fun _ _ => SqlValue.integer.inj, fun _ => rfl⟩

/-- The first comment of an empty table. -/
theorem commentStep_first (documentType : DocumentType) (documentId : UInt64) (text : String) :
    commentStep id plainText smallHash (fun _ => []) (commentOf documentType documentId text) =
      ({ pre := fun _ => [], input := commentOf documentType documentId text, stored := true },
        Function.update (fun _ => []) (bytes "kb_comment") [(commentOf documentType documentId text).inserted plainText smallHash]) :=
  commentStep_inserted (selects_commentOf ..) unsigned_commentOf rfl

/-- Where no row has the id and the document, nothing stands in the way. -/
theorem commentCondition_of_fresh {tables : SqlTables} {documentType : DocumentType} {documentId : UInt64} {text : String}
    (hfresh : (tables (bytes "kb_comment")).all fun row => !(commentOf documentType documentId text).sameRow plainText id row) :
    CommentCondition plainText id smallHash (commentStep id plainText smallHash tables (commentOf documentType documentId text)).1 := by
  unfold CommentCondition
  rw [(commentStep_call ..).1, (commentStep_call ..).2]
  refine fun _ _ _ => ⟨unsigned_commentOf, fun row hrow hsame => ?_⟩
  have hother := List.all_eq_true.mp hfresh row hrow
  rw [hsame] at hother
  exact nomatch hother

theorem comments_follow_two :
    CommentsFollow plainText
      (outputs (commentStep id plainText smallHash) (fun _ => []) [commentOf .kbOffer 5 "first", commentOf .kbOrder 6 "second"])
      (final (commentStep id plainText smallHash) (fun _ => []) [commentOf .kbOffer 5 "first", commentOf .kbOrder 6 "second"]) := by
  refine comments_follow distinguishes_asIs ?_ _ fun call hcall => ?_
  · rfl
  simp only [outputs, List.mem_cons, List.not_mem_nil, or_false] at hcall
  rcases hcall with hcall | hcall
  · rw [hcall]
    refine commentCondition_of_fresh ?_
    exact List.all_nil
  · rw [hcall]
    refine commentCondition_of_fresh ?_
    rw [commentStep_first]
    decide +kernel

/-- The tables after the comment of an offer. -/
def offerTables : SqlTables :=
  Function.update (fun _ => []) (bytes "kb_comment") [(commentOf .kbOffer 5 "first").inserted plainText smallHash]

/-- The comment of an order with the same id takes the row of the offer. -/
theorem commentStep_order : commentStep id plainText smallHash offerTables (commentOf .kbOrder 5 "second") =
    ({ pre := offerTables, input := commentOf .kbOrder 5 "second", stored := true },
      Function.update offerTables (bytes "kb_comment") [(commentOf .kbOrder 5 "second").updated id plainText smallHash
        ((commentOf .kbOffer 5 "first").inserted plainText smallHash)]) := by
  have hfind : (offerTables (bytes "kb_comment")).find? ((commentOf .kbOrder 5 "second").sameRow plainText id) =
      some ((commentOf .kbOffer 5 "first").inserted plainText smallHash) := List.find?_cons_of_pos (by decide +kernel)
  exact commentStep_updated (selects_commentOf ..) unsigned_commentOf hfind (by decide +kernel)

theorem comments_follow_retyped :
    ¬CommentsFollow plainText
      (outputs (commentStep id plainText smallHash) (fun _ => []) [commentOf .kbOffer 5 "first", commentOf .kbOrder 5 "second"])
      (final (commentStep id plainText smallHash) (fun _ => []) [commentOf .kbOffer 5 "first", commentOf .kbOrder 5 "second"]) := by
  intro hfollow
  rw [outputs, outputs, outputs, final, final, final, commentStep_first] at hfollow
  change CommentsFollow plainText [_, (commentStep id plainText smallHash offerTables _).1]
    (commentStep id plainText smallHash offerTables _).2 at hfollow
  rw [commentStep_order] at hfollow
  obtain ⟨row, hrow, hholds⟩ := hfollow.comments (commentOf .kbOffer 5 "first") (by
    refine ⟨[], _, _, rfl, rfl, rfl, fun later hlater _ hsame => ?_⟩
    rw [List.mem_singleton] at hlater
    subst later
    exact absurd hsame.documentType (by decide))
  obtain rfl := List.mem_singleton.mp hrow
  have htype := hholds.documentType (by decide +kernel)
  exact absurd htype (by decide +kernel)

end BxSync
