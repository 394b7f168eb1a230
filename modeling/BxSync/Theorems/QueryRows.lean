import BxSync.Lib.Machine
import BxSync.QueryRun

/-! Which rows a query holds. Whatever the calls on it meet and in whatever order they come, they are rows of its last
    execution: all of them after a first reading that succeeded, the first ones after one that failed. -/

namespace BxSync

open Machine

/-! ### The property -/

/-- The rows of a dataset as they are read, where some of the texts could not be fetched. -/
def readRows (fails : Nat → Nat → Bool) (rows : List (List Field)) : List BXDatabaseRow :=
  rows.mapIdx fun i row => fetchRow (fails i) i row

/-- What a query is there for: the dataset of its last execution is to be read, read, or read in part. -/
inductive Reading
  | nothing
  | unread (data : Dataset)
  | complete (data : Dataset)
  | cut (data : Dataset)

/-- The dataset that an execution opens. -/
def QueryRun.opens (q : QueryRun) (a : ExecuteAnswers) : Option Dataset :=
  if (q.prepare a).1 && a.bind = .ok && a.execute = .ok then
    match a.metadata with
    | .dataset data => some data
    | _ => none
  else none

/-- Only the first reading of a dataset reads, and only an execution opens one. -/
def Reading.after (r : Reading) (call : QueryCall) : Reading :=
  match call.input, r with
  | .execute a, _ =>
    match call.pre.opens a with
    | some data => .unread data
    | none => .nothing
  | .results _, .unread data => if call.ok then .complete data else .cut data
  | .results _, r => r
  | .freeResult, .unread data => .unread data
  | .freeResult, _ => .nothing

/-- The rows of the query are those of the reading. -/
def Reading.Holds (q : QueryRun) : Reading → Prop
  | .nothing => q.results = []
  | .unread _ => q.results = []
  | .complete data => ∃ fails, q.results = readRows fails data.rows ∧ q.rowCount = data.rows.length
  | .cut data => ∃ fails, q.results <+: readRows fails data.rows

/-! ### The loop -/

theorem fetchLoop_prefix (a : Nat → FetchAnswers) (rows : List (List Field)) (turn : Nat) :
    (fetchLoop a rows turn).2 <+: rows.mapIdx (fun i row => fetchRow (a (turn + i)).columnFails (turn + i) row) ∧
      ((fetchLoop a rows turn).1 = .ok →
        (fetchLoop a rows turn).2 = rows.mapIdx fun i row => fetchRow (a (turn + i)).columnFails (turn + i) row) := by
  induction rows generalizing turn with
  | nil => exact ⟨List.nil_prefix, fun _ => rfl⟩
  | cons row rest ih =>
    obtain ⟨hfront, hall⟩ := ih (turn + 1)
    have hshift : (fun i row => fetchRow (a (turn + 1 + i)).columnFails (turn + 1 + i) row) =
        fun i row => fetchRow (a (turn + (i + 1))).columnFails (turn + (i + 1)) row := by
      funext i row
      rw [Nat.add_assoc, Nat.add_comm 1 i]
    rw [hshift] at hfront hall
    rw [fetchLoop, List.mapIdx_cons]
    cases (a turn).reply with
    | ok => exact ⟨List.cons_prefix_cons.mpr ⟨rfl, hfront⟩, fun h => congrArg _ (hall h)⟩
    | failed lost => exact ⟨List.nil_prefix, fun h => by cases h⟩

/-! ### One call -/

/-- The warnings leave the rows and the dataset. -/
theorem QueryRun.warn_frame {q : QueryRun} {a : ExecuteAnswers} :
    ∃ fk mark, (q.warn a).2 = { q with executed := true, warningRows := a.warnings, hadFkError := fk, needReconnect := mark } := by
  unfold warn bxDatabasePrintWarnings
  dsimp only
  split
  · split <;> exact ⟨_, _, rfl⟩
  · exact ⟨_, _, rfl⟩

theorem QueryRun.freeQueryMetadata_of_some {q : QueryRun} {names : List (List UInt8)} (h : q.resultMetadata = some names) :
    q.freeQueryMetadata = { q with resultMetadata := none, hasDataset := false } :=
  if_neg (by rw [h]; exact Option.some_ne_none _)

/-- How the flags of a query go with its rows. Only an unread dataset can be read, and a stale mark of one reads nothing. -/
structure ReadAs (r : Reading) (q : QueryRun) : Prop where
  holds : r.Holds q
  fresh : q.executed = false → q.results = [] ∧ q.cursor = none
  unread : ∀ data, r = .unread data → q.hasDataset = true ∧ q.hasFailed = false ∧ q.resultMetadata = some data.names ∧
    q.cursor = some data.rows
  stale : q.hasDataset = true → (∃ data, r = .unread data) ∨ (r = .nothing ∧ q.cursor = none)

namespace ReadAs

variable {r : Reading} {q : QueryRun}

theorem empty (hresults : q.results = []) (hcursor : q.cursor = none) : ReadAs .nothing q where
  holds := hresults
  fresh _ := ⟨hresults, hcursor⟩
  unread _ h := by cases h
  stale _ := Or.inr ⟨rfl, hcursor⟩

theorem closed (hholds : r.Holds q) (hexecuted : q.executed = true) (hdataset : q.hasDataset = false) (hr : ∀ data, r ≠ .unread data) :
    ReadAs r q where
  holds := hholds
  fresh h := absurd hexecuted (by rw [h]; decide)
  unread data h := absurd h (hr data)
  stale h := absurd h (by rw [hdataset]; decide)

theorem prepare (h : ReadAs r q) (a : ExecuteAnswers) : (q.prepare a).2.results = [] ∧ (q.prepare a).2.cursor = none := by
  unfold QueryRun.prepare
  split
  · exact ⟨rfl, rfl⟩
  · rename_i hexecuted
    exact h.fresh (Bool.eq_false_iff.mpr hexecuted)

theorem execute (h : ReadAs r q) (a : ExecuteAnswers) :
    ReadAs (match q.opens a with | some data => .unread data | none => .nothing) (q.bxDatabaseExecute a).2 := by
  obtain ⟨hresults, hcursor⟩ := h.prepare a
  unfold QueryRun.opens QueryRun.bxDatabaseExecute
  dsimp only
  cases hprepared : (q.prepare a).1 with
  | false => exact empty hresults hcursor
  | true =>
    by_cases hbind : a.bind = .ok
    · by_cases hexecute : a.execute = .ok
      · simp only [hbind, hexecute, ne_eq, not_true_eq_false, if_false, Bool.not_true, Bool.false_eq_true, decide_true, Bool.and_self,
          if_true]
        cases a.metadata with
        | none =>
          obtain ⟨fk, mark, hwarn⟩ := QueryRun.warn_frame (q := { (q.prepare a).2 with
            hasFailed := false, affectedRows := a.affected, resultMetadata := none, hasDataset := false }) (a := a)
          dsimp only
          rw [hwarn]
          exact empty hresults hcursor
        | failed lost => exact empty hresults hcursor
        | dataset data =>
          obtain ⟨fk, mark, hwarn⟩ := QueryRun.warn_frame (q := { (q.prepare a).2 with
            hasFailed := false, affectedRows := a.affected, hasDataset := true, resultMetadata := some data.names,
            cursor := some data.rows }) (a := a)
          dsimp only
          rw [hwarn]
          refine ⟨hresults, fun hno => (by cases hno), fun d hd => ?_, fun _ => Or.inl ⟨data, rfl⟩⟩
          cases hd
          exact ⟨rfl, rfl, rfl, rfl⟩
      · simp [hbind, hexecute]
        exact empty hresults hcursor
    · simp [hbind]
      exact empty hresults hcursor

theorem results (h : ReadAs r q) (a : Nat → FetchAnswers) :
    ReadAs (match r with | .unread data => if (q.bxDatabaseResults a).1 then .complete data else .cut data | r => r)
      (q.bxDatabaseResults a).2 := by
  cases hdataset : q.hasDataset with
  | false =>
    rw [QueryRun.results_of_noDataset hdataset]
    cases r with
    | unread data => exact absurd (h.unread data rfl).1 (by rw [hdataset]; decide)
    | nothing | complete | cut => exact h
  | true =>
    rcases h.stale hdataset with ⟨data, rfl⟩ | ⟨rfl, hcursor⟩
    · obtain ⟨-, hfailed, hmetadata, hcursor⟩ := h.unread data rfl
      have hnone : q.results = [] := h.holds
      obtain ⟨hfront, hall⟩ := fetchLoop_prefix a data.rows 0
      simp only [Nat.zero_add] at hfront hall
      have hexecuted : q.executed = true := by
        by_contra hno
        rw [(h.fresh (Bool.eq_false_iff.mpr hno)).2] at hcursor
        cases hcursor
      unfold QueryRun.bxDatabaseResults
      simp only [hdataset, hmetadata, hfailed, hcursor, fetchCursor, hnone, List.nil_append, Bool.not_true, Bool.false_eq_true, if_false]
      split
      · rw [QueryRun.freeQueryMetadata_of_some hmetadata]
        exact closed ⟨fun _ _ => false, hnone ▸ List.nil_prefix⟩ hexecuted rfl fun _ hd => by cases hd
      · cases hreply : (fetchLoop a data.rows 0).1 with
        | ok =>
          refine closed ⟨fun i => (a i).columnFails, hall hreply, ?_⟩ hexecuted rfl fun _ hd => by cases hd
          rw [hall hreply, List.length_mapIdx]
          rfl
        | failed lost =>
          exact closed ⟨fun i => (a i).columnFails, hfront⟩ hexecuted rfl fun _ hd => by cases hd
    · have hnone : q.results = [] := h.holds
      unfold QueryRun.bxDatabaseResults
      simp only [hdataset, Bool.not_true, Bool.false_eq_true, if_false]
      cases hmetadata : q.resultMetadata with
      | none => exact empty hnone hcursor
      | some names =>
        dsimp only
        split
        · exact empty hnone hcursor
        split
        · rw [QueryRun.freeQueryMetadata_of_some hmetadata]
          exact empty hnone hcursor
        · have hrefused : ∃ lost, fetchCursor a q.cursor = (.failed lost, []) := by
            rw [hcursor]
            unfold fetchCursor
            cases (a 0).reply <;> exact ⟨_, rfl⟩
          obtain ⟨lost, hrefused⟩ := hrefused
          simp only [hrefused, hnone, List.nil_append]
          exact empty rfl rfl

theorem freeResult (h : ReadAs r q) :
    ReadAs (match r with | .unread data => .unread data | _ => .nothing) q.bxDatabaseFreeResult := by
  have hcursor : q.executed = false → q.cursor = none := fun hno => (h.fresh hno).2
  have hfreed : (∀ data, r ≠ .unread data) → ReadAs .nothing q.bxDatabaseFreeResult := by
    intro hr
    refine ⟨rfl, fun hno => ⟨rfl, hcursor hno⟩, fun _ hd => (by cases hd), fun hdataset => Or.inr ⟨rfl, ?_⟩⟩
    rcases h.stale hdataset with ⟨data, hdata⟩ | ⟨-, hc⟩
    · exact absurd hdata (hr data)
    · exact hc
  cases r with
  | unread data =>
    refine ⟨rfl, fun hno => ⟨rfl, hcursor hno⟩, fun d hd => ?_, fun _ => Or.inl ⟨data, rfl⟩⟩
    cases hd
    exact h.unread data rfl
  | nothing | complete | cut => exact hfreed fun _ hd => by cases hd

end ReadAs

end BxSync
