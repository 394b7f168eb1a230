import BxSync.QueryRun

/-! A statement through its query. Whatever the client library answers, the caller learns one of the three outcomes of an
    `Exec`, and each of them can be met. -/

namespace BxSync

/-! ### The property -/

/-- What an INSERT, an UPDATE or a DELETE meets on its way: the calls of the client library, whether it reaches the
    server, and what `fkError` and `converted` are there. A reply with warnings counts at least one. -/
structure Meeting where
  prepare : Reply
  bind : Reply
  reached : Bool
  fkError : Bool
  converted : Bool
  reply : Reply
  metadata : Reply
  affected : Nat
  moreWarnings : Nat
  shown : ShowWarnings

/-- The answers of the client library, given the reply of the server. No warning count is an error reply. -/
def Meeting.answers (m : Meeting) (warned : Option Bool) : ExecuteAnswers where
  prepare := m.prepare
  bind := m.bind
  execute :=
    if m.reached then if m.reply = .ok then if warned = none then .failed false else .ok else m.reply
    else .failed m.reply.lost
  affected := m.affected
  metadata := if m.metadata = .ok then .none else .failed m.metadata.lost
  warnings := if warned = some true then m.moreWarnings + 1 else 0
  shown := m.shown

/-- `bx_database_execute`, then `bx_database_results`, and the table of the server. The caller learns
    `bx_database_persist_ok` if both returned true, and the reconnect mark otherwise. -/
def QueryRun.meet {τ : Type} (q : QueryRun) (m : Meeting) (fetch : Nat → FetchAnswers) (table : τ)
    (effect : Bool → Bool → Option Bool × τ) : Stmt × τ :=
  let done := effect m.fkError m.converted
  let executed := q.bxDatabaseExecute (m.answers done.1)
  let results := executed.2.bxDatabaseResults fetch
  (if executed.1 && results.1 then .done (!results.2.persistOk)
    else .failed (if executed.1 then results.2 else executed.2).needReconnect,
    if (q.prepare (m.answers done.1)).1 && m.bind = .ok && m.reached then done.2 else table)

/-! ### One statement -/

namespace QueryRun

variable {τ : Type} {q : QueryRun} {m : Meeting} {fetch : Nat → FetchAnswers} {table : τ} {effect : Bool → Bool → Option Bool × τ}

/-- The warnings of a statement that was executed. A mark that is there already fails it. -/
theorem warn_cases (q : QueryRun) (a : ExecuteAnswers) (hdataset : q.hasDataset = false) (hfailed : q.hasFailed = false) :
    (q.warn a).2.hasDataset = false ∧ (q.warn a).2.hasFailed = false ∧
      (((q.warn a).1 = true ∧ (q.warn a).2.persistOk = decide (a.warnings = 0)) ∨
        ((q.warn a).1 = false ∧ 0 < a.warnings ∧ (q.warn a).2.needReconnect = true)) := by
  unfold warn
  dsimp only
  split
  · rename_i hpos
    have hframe : ∀ q : QueryRun, (q.bxDatabasePrintWarnings a.shown).hasDataset = q.hasDataset ∧
        (q.bxDatabasePrintWarnings a.shown).hasFailed = q.hasFailed ∧
        (q.bxDatabasePrintWarnings a.shown).warningRows = q.warningRows := by
      intro q
      unfold bxDatabasePrintWarnings
      split <;> exact ⟨rfl, rfl, rfl⟩
    obtain ⟨hd, hf, hw⟩ := hframe { q with executed := true, warningRows := a.warnings, hadFkError := false }
    refine ⟨hd.trans hdataset, hf.trans hfailed, ?_⟩
    unfold persistOk
    dsimp only at hw ⊢
    rw [hw]
    cases (bxDatabasePrintWarnings { q with executed := true, warningRows := a.warnings, hadFkError := false } a.shown).needReconnect
    · left
      simp [Nat.pos_iff_ne_zero.mp hpos]
    · right
      simp [hpos]
  · rename_i hpos
    refine ⟨hdataset, hfailed, Or.inl ⟨rfl, ?_⟩⟩
    simp [persistOk, hfailed, Nat.eq_zero_of_not_pos hpos]

/-- Warnings that are read mark nothing. -/
theorem warn_quiet {a : ExecuteAnswers} {codes : List (Option Nat)} (hshown : a.shown = .codes codes) (hq : q.needReconnect = false) :
    (q.warn a).1 = true := by
  unfold warn
  dsimp only
  split
  · rw [hshown]
    simp [bxDatabasePrintWarnings, hq]
  · rfl

/-- A statement that is bound is executed. -/
theorem bxDatabaseExecute_bound {q : QueryRun} {a : ExecuteAnswers} (hprepare : (q.prepare a).1 = true) (hbind : a.bind = .ok) :
    q.bxDatabaseExecute a =
      if a.execute ≠ .ok then (false, { (q.prepare a).2.mark a.execute with hasFailed := true })
      else
        let q := { (q.prepare a).2 with hasFailed := false, affectedRows := a.affected, hasDataset := true }
        match a.metadata with
        | .dataset data => warn { q with resultMetadata := some data.names, cursor := some data.rows } a
        | .none => warn { q with resultMetadata := none, hasDataset := false } a
        | .failed lost => (false, { q.mark (.failed lost) with resultMetadata := none, hasFailed := true }) := by
  unfold bxDatabaseExecute
  dsimp only
  rw [hprepare, hbind]
  rfl

theorem meet_failed (hfailed : (q.bxDatabaseExecute (m.answers (effect m.fkError m.converted).1)).1 = false) :
    q.meet m fetch table effect =
      (.failed (q.bxDatabaseExecute (m.answers (effect m.fkError m.converted).1)).2.needReconnect,
        if (q.prepare (m.answers (effect m.fkError m.converted).1)).1 && m.bind = .ok && m.reached
        then (effect m.fkError m.converted).2 else table) := by
  unfold meet
  dsimp only
  rw [hfailed]
  rfl

theorem meet_done (h : (q.prepare (m.answers (effect m.fkError m.converted).1)).1 = true ∧ m.bind = .ok ∧ m.reached = true)
    {q' : QueryRun} (hexecuted : q.bxDatabaseExecute (m.answers (effect m.fkError m.converted).1) = (true, q'))
    (hdataset : q'.hasDataset = false) (hfailed : q'.hasFailed = false) :
    q.meet m fetch table effect = (.done (!q'.persistOk), (effect m.fkError m.converted).2) := by
  unfold meet
  dsimp only
  rw [hexecuted, results_of_noDataset hdataset, hfailed, h.1, h.2.1, h.2.2]
  rfl

variable (fetch table) in
/-- A statement that does not reach the server fails and changes nothing. -/
theorem meet_unsent (h : ¬((q.prepare (m.answers (effect m.fkError m.converted).1)).1 = true ∧ m.bind = .ok ∧ m.reached = true)) :
    ∃ needReconnect, q.meet m fetch table effect = (.failed needReconnect, table) := by
  have hstmt : (q.bxDatabaseExecute (m.answers (effect m.fkError m.converted).1)).1 = false := by
    unfold bxDatabaseExecute
    dsimp only
    split
    · rfl
    split
    · rfl
    split
    · rfl
    · rename_i hprepare hbind hexecute
      refine absurd ⟨by simpa using hprepare, not_not.mp hbind, ?_⟩ h
      by_contra hreached
      exact hexecute (by simp [Meeting.answers, hreached])
  have hsent : ((q.prepare (m.answers (effect m.fkError m.converted).1)).1 && decide (m.bind = .ok) && m.reached) = false := by
    rw [← Bool.not_eq_true]
    simpa [and_assoc] using h
  rw [meet_failed hstmt, hsent]
  exact ⟨_, rfl⟩

variable (fetch table) in
/-- A statement that reaches the server is done as the server says, or fails. -/
theorem meet_sent (h : (q.prepare (m.answers (effect m.fkError m.converted).1)).1 = true ∧ m.bind = .ok ∧ m.reached = true) :
    (∃ needReconnect, q.meet m fetch table effect = (.failed needReconnect, (effect m.fkError m.converted).2)) ∨
      ∃ warned, (effect m.fkError m.converted).1 = some warned ∧
        q.meet m fetch table effect = (.done warned, (effect m.fkError m.converted).2) := by
  cases hexecuted : (q.bxDatabaseExecute (m.answers (effect m.fkError m.converted).1)).1 with
  | false =>
    left
    rw [meet_failed hexecuted, h.1, h.2.1, h.2.2]
    exact ⟨_, rfl⟩
  | true =>
    have hbound := bxDatabaseExecute_bound (a := m.answers (effect m.fkError m.converted).1) h.1 h.2.1
    rw [hbound] at hexecuted
    split at hexecuted
    · cases hexecuted
    rename_i hexecute
    rw [if_neg hexecute] at hbound
    have hreply : m.reply = .ok ∧ (effect m.fkError m.converted).1 ≠ none := by
      simp only [Meeting.answers, h.2.2, if_true, not_not] at hexecute
      split_ifs at hexecute with hok hnone
      · exact ⟨hok, hnone⟩
      · exact absurd hexecute hok
    obtain ⟨warned, hwarned⟩ := Option.ne_none_iff_exists'.mp hreply.2
    right
    refine ⟨warned, hwarned, ?_⟩
    have hmetadata : (m.answers (effect m.fkError m.converted).1).metadata = .none ∨
        ∃ lost, (m.answers (effect m.fkError m.converted).1).metadata = .failed lost := by
      simp only [Meeting.answers]
      split
      · exact Or.inl rfl
      · exact Or.inr ⟨_, rfl⟩
    rcases hmetadata with hmetadata | ⟨lost, hmetadata⟩
    · rw [hmetadata] at hbound hexecuted
      obtain ⟨hd, hf, hcases⟩ := warn_cases { (q.prepare (m.answers (effect m.fkError m.converted).1)).2 with
        hasFailed := false, affectedRows := (m.answers (effect m.fkError m.converted).1).affected, resultMetadata := none,
        hasDataset := false } (m.answers (effect m.fkError m.converted).1) rfl rfl
      rcases hcases with ⟨hok, hpersist⟩ | ⟨hno, -⟩
      · rw [meet_done h (hbound.trans (Prod.ext hok rfl)) hd hf, hpersist]
        simp only [Meeting.answers, hwarned]
        cases warned <;> simp
      · exact absurd (hexecuted.symm.trans hno) (by decide)
    · rw [hmetadata] at hexecuted
      cases hexecuted

theorem prepare_ok {a : ExecuteAnswers} (h : a.prepare = .ok) : (q.prepare a).1 = true ∧ (q.prepare a).2.needReconnect = q.needReconnect := by
  unfold prepare
  split
  · exact ⟨rfl, rfl⟩
  · rw [h]
    exact ⟨rfl, Bool.or_false _⟩

end QueryRun

/-- How an outcome is met. -/
def Exec.meeting (exec : Exec) : Meeting where
  prepare := .ok
  bind := .ok
  reached := match exec with
    | .unsent _ => false
    | _ => true
  fkError := match exec with
    | .unsent _ => false
    | .ran fkError _ => fkError
    | .unreported fkError _ _ => fkError
  converted := match exec with
    | .unsent _ => false
    | .ran _ converted => converted
    | .unreported _ converted _ => converted
  reply := match exec with
    | .unsent needReconnect => .failed needReconnect
    | .ran _ _ => .ok
    | .unreported _ _ needReconnect => .failed needReconnect
  metadata := .ok
  affected := 0
  moreWarnings := 0
  shown := .codes []

/-- Without a mark from before every outcome can be met. -/
theorem meet_meeting {τ : Type} {q : QueryRun} (hq : q.needReconnect = false) (fetch : Nat → FetchAnswers) (exec : Exec) (table : τ)
    (effect : Bool → Bool → Option Bool × τ) : q.meet exec.meeting fetch table effect = exec.run table effect := by
  obtain ⟨hprepare, hmark⟩ := QueryRun.prepare_ok (q := q)
    (a := exec.meeting.answers (effect exec.meeting.fkError exec.meeting.converted).1) rfl
  have hbound := QueryRun.bxDatabaseExecute_bound hprepare rfl
  rw [hq] at hmark
  have herror : ∀ lost, (exec.meeting.answers (effect exec.meeting.fkError exec.meeting.converted).1).execute = .failed lost →
      q.meet exec.meeting fetch table effect =
        (.failed lost, if exec.meeting.reached then (effect exec.meeting.fkError exec.meeting.converted).2 else table) := by
    intro lost hlost
    rw [if_pos (by rw [hlost]; exact Reply.noConfusion), hlost] at hbound
    rw [QueryRun.meet_failed (by rw [hbound]), hbound, hprepare]
    simp only [QueryRun.mark, hmark, Reply.lost, Bool.false_or]
    rfl
  cases exec with
  | unsent needReconnect => exact herror needReconnect rfl
  | unreported fkError converted needReconnect => exact herror needReconnect rfl
  | ran fkError converted =>
    rcases hdone : effect fkError converted with ⟨_ | warned, table'⟩
    · refine (herror false ?_).trans ?_
      · simp [Meeting.answers, Exec.meeting, hdone]
      · simp [Exec.run, Exec.meeting, hdone]
    · rw [if_neg (by simp [Meeting.answers, Exec.meeting, hdone])] at hbound
      let a := (Exec.ran fkError converted).meeting.answers (effect fkError converted).1
      let sent : QueryRun :=
        { (q.prepare a).2 with hasFailed := false, affectedRows := a.affected, resultMetadata := none, hasDataset := false }
      obtain ⟨hdataset, hfailed, hcases⟩ := QueryRun.warn_cases sent a rfl rfl
      have hok : (sent.warn a).1 = true := QueryRun.warn_quiet (show a.shown = .codes [] from rfl) hmark
      have hexecuted : q.bxDatabaseExecute a = (true, (sent.warn a).2) := hbound.trans (Prod.ext hok rfl)
      refine (QueryRun.meet_done ⟨hprepare, rfl, rfl⟩ hexecuted hdataset hfailed).trans ?_
      rcases hcases with ⟨-, hpersist⟩ | ⟨hno, -⟩
      · rw [hpersist]
        simp only [Exec.run, hdone]
        cases warned <;> simp [a, Meeting.answers, Exec.meeting, hdone]
      · exact absurd (hok.symm.trans hno) (by decide)

/-- The statements of a query come to the outcomes of `Exec`, and without a mark from before to each of them. -/
theorem statement_exec {τ : Type} (q : QueryRun) (fetch : Nat → FetchAnswers) (table : τ) (effect : Bool → Bool → Option Bool × τ) :
    (∀ m, ∃ exec : Exec, q.meet m fetch table effect = exec.run table effect) ∧
      (q.needReconnect = false → ∀ exec : Exec, ∃ m, q.meet m fetch table effect = exec.run table effect) := by
  refine ⟨fun m => ?_, fun hq exec => ⟨exec.meeting, meet_meeting hq fetch exec table effect⟩⟩
  by_cases hsent : (q.prepare (m.answers (effect m.fkError m.converted).1)).1 = true ∧ m.bind = .ok ∧ m.reached = true
  · rcases q.meet_sent fetch table hsent with ⟨needReconnect, hmeet⟩ | ⟨warned, hwarned, hmeet⟩
    · exact ⟨.unreported m.fkError m.converted needReconnect, hmeet⟩
    · refine ⟨.ran m.fkError m.converted, hmeet.trans ?_⟩
      unfold Exec.run
      dsimp only
      rw [show effect m.fkError m.converted = (some warned, (effect m.fkError m.converted).2) from Prod.ext hwarned rfl]
  · obtain ⟨needReconnect, hmeet⟩ := q.meet_unsent fetch table hsent
    exact ⟨.unsent needReconnect, hmeet⟩

end BxSync
