import Mathlib.Data.List.TakeWhile
import BxSync.NamedParameters

/-! Whether the two passes over a statement agree on its parameters, and whether a name stays in its buffer. -/

namespace BxSync

/-! ### The property -/

/-- As many parameters were counted as were taken out, they have the names of the text in its order, the text has a
    question mark for each of them and is otherwise the same, and each name ends in its buffer. -/
structure Translates (text : List UInt8) (q : BXDatabaseQuery) : Prop where
  counted : q.paramCount = q.parameters.length
  query : cString q.query = sentText text
  names : q.parameters.map (fun p => cString p.name) = parameterNames text
  terminated : ∀ p ∈ q.parameters, p.name.length = maxNameLength ∧ 0 ∈ p.name

/-- No write leaves a buffer, and the text is translated. An empty one has no query. -/
def TextTranslated (text : List UInt8) : Prop :=
  match bxDatabaseNewQuery text with
  | none => False
  | some none => cString text = []
  | some (some q) => Translates (cString text) q

/-- Two bytes of the buffer are left behind each name, which begins with its colon, and the indices are ints. -/
structure NamesFit (text : List UInt8) : Prop where
  name : ∀ name ∈ parameterNames (cString text), name.length + 2 ≤ maxNameLength
  length_lt : (cString text).length < intMax

/-! ### Pieces -/

/-- Neither a colon nor a NUL is part of a name. -/
theorem isVariableChar_colon : isVariableChar 58 = false := by decide

theorem sqlPiecesFrom_eq (skip : Nat) (s : List UInt8) : sqlPiecesFrom skip s = sqlPieces (s.drop skip) := by
  induction s generalizing skip with
  | nil => cases skip <;> rfl
  | cons c s ih =>
    cases skip with
    | zero => rfl
    | succ skip => exact ih skip

/-- The piece a text starts with. -/
def firstSqlPiece (c : UInt8) (s : List UInt8) : SqlPiece :=
  if c = 58 && startsName s then .param (c :: s.takeWhile isVariableChar) else .byte c

theorem firstSqlPiece_written (c : UInt8) (s : List UInt8) :
    (firstSqlPiece c s).written <+: c :: s ∧ 0 < (firstSqlPiece c s).written.length := by
  unfold firstSqlPiece
  split
  · exact ⟨List.cons_prefix_cons.mpr ⟨rfl, List.takeWhile_prefix _⟩, Nat.succ_pos _⟩
  · exact ⟨by simp [SqlPiece.written], Nat.one_pos⟩

theorem sqlPieces_cons (c : UInt8) (s : List UInt8) :
    sqlPieces (c :: s) = firstSqlPiece c s :: sqlPieces ((c :: s).drop (firstSqlPiece c s).written.length) := by
  unfold firstSqlPiece
  rw [sqlPieces, sqlPiecesFrom]
  split
  · rw [sqlPiecesFrom_eq]
    rfl
  · rfl

/-- A text is nothing, or a piece and a text. -/
theorem sqlInduction {motive : List UInt8 → Prop} (nil : motive [])
    (cons : ∀ c s, motive ((c :: s).drop (firstSqlPiece c s).written.length) → motive (c :: s)) (s : List UInt8) :
    motive s := by
  induction hn : s.length using Nat.strongRecOn generalizing s with
  | ind n ih =>
    cases s with
    | nil => exact nil
    | cons c s =>
      have hpos := (firstSqlPiece_written c s).2
      refine cons c s (ih _ ?_ _ rfl)
      rw [← hn, List.length_drop, List.length_cons]
      omega

/-- Outside the names nothing is changed. -/
theorem flatMap_written (s : List UInt8) : (sqlPieces s).flatMap SqlPiece.written = s := by
  induction s using sqlInduction with
  | nil => rfl
  | cons c s ih =>
    obtain ⟨rest, hrest⟩ := (firstSqlPiece_written c s).1
    rw [sqlPieces_cons, List.flatMap_cons, ih, ← hrest, List.drop_left' rfl]

theorem sqlPieces_byte {c : UInt8} (s : List UInt8) (hc : c ≠ 58) : sqlPieces (c :: s) = .byte c :: sqlPieces s := by
  rw [sqlPieces_cons, firstSqlPiece, if_neg (by simp [hc])]
  rfl

/-- A text without a colon has no name. -/
theorem sqlPieces_append {a : List UInt8} (b : List UInt8) (h : ∀ c ∈ a, c ≠ 58) :
    sqlPieces (a ++ b) = a.map SqlPiece.byte ++ sqlPieces b := by
  induction a with
  | nil => rfl
  | cons c a ih =>
    rw [List.cons_append, sqlPieces_byte _ (h c List.mem_cons_self), ih fun d hd => h d (List.mem_cons_of_mem _ hd)]
    rfl

theorem sqlPieces_param {name : List UInt8} (b : List UInt8) (hne : name ≠ []) (hname : ∀ c ∈ name, isVariableChar c)
    (hb : startsName b = false) : sqlPieces (58 :: (name ++ b)) = .param (58 :: name) :: sqlPieces b := by
  have htake : (name ++ b).takeWhile isVariableChar = name := by
    rw [List.takeWhile_append_of_pos hname]
    cases b with
    | nil => simp
    | cons c b =>
      have hc : isVariableChar c = false := by simpa [startsName] using hb
      rw [List.takeWhile_cons_of_neg (by rw [hc]; exact nofun), List.append_nil]
  have hstarts : startsName (name ++ b) = true := by
    cases name with
    | nil => exact absurd rfl hne
    | cons c name => exact hname c List.mem_cons_self
  rw [sqlPieces_cons, firstSqlPiece, htake, if_pos (by simp [hstarts])]
  simp [SqlPiece.written]

/-- What goes on with no name ends the last piece in front of it. -/
theorem sqlPieces_append_of_startsName (s : List UInt8) {b : List UInt8} (hb : startsName b = false) :
    sqlPieces (s ++ b) = sqlPieces s ++ sqlPieces b := by
  induction s using sqlInduction with
  | nil => rfl
  | cons c s ih =>
    have hstarts : startsName (s ++ b) = startsName s := by
      cases s with
      | nil => exact hb
      | cons => rfl
    have hnone : b.takeWhile isVariableChar = [] := by
      cases b with
      | nil => rfl
      | cons d b =>
        have hd : isVariableChar d = false := hb
        exact List.takeWhile_cons_of_neg (by rw [hd]; exact nofun)
    have htake : (s ++ b).takeWhile isVariableChar = s.takeWhile isVariableChar := by
      rw [List.takeWhile_append]
      split
      · rename_i hall
        rw [hnone, List.append_nil]
        exact (List.takeWhile_prefix _).eq_of_length hall |>.symm
      · rfl
    have hfirst : firstSqlPiece c (s ++ b) = firstSqlPiece c s := by rw [firstSqlPiece, firstSqlPiece, hstarts, htake]
    have hlen := (firstSqlPiece_written c s).1.length_le
    rw [List.cons_append, sqlPieces_cons, sqlPieces_cons c s, hfirst, ← List.cons_append,
      List.drop_append_of_le_length hlen, ih]
    rfl

/-- The NUL behind the text is a byte of its own. -/
theorem sqlPieces_nul (s : List UInt8) : sqlPieces (s ++ [0]) = sqlPieces s ++ [.byte 0] :=
  sqlPieces_append_of_startsName s (by decide)

/-! ### Counting -/

theorem isVariableChar_ne_colon {c : UInt8} (h : isVariableChar c = true) : c ≠ 58 := by
  rintro rfl
  exact absurd h (by decide)

theorem isVariableChar_ne_nul {c : UInt8} (h : isVariableChar c = true) : c ≠ 0 := by
  rintro rfl
  exact absurd h (by decide)

theorem parameterNames_cons (c : UInt8) (s : List UInt8) :
    (parameterNames (c :: s)).length = (if c = 58 && startsName s then 1 else 0) + (parameterNames s).length := by
  unfold parameterNames
  rw [sqlPieces_cons]
  unfold firstSqlPiece
  split
  · -- What is behind the colon up to the end of the name has no name of its own.
    have hnames : ∀ d ∈ s.takeWhile isVariableChar, d ≠ 58 := fun d hd =>
      isVariableChar_ne_colon (List.mem_takeWhile_imp hd)
    have hskip := sqlPieces_append (s.dropWhile isVariableChar) hnames
    rw [List.takeWhile_append_dropWhile] at hskip
    have hdrop : s.drop (s.takeWhile isVariableChar).length = s.dropWhile isVariableChar := by
      conv_lhs => rw [← List.takeWhile_append_dropWhile (p := isVariableChar) (l := s)]
      exact List.drop_left' (by rw [List.takeWhile_append_dropWhile])
    have hbytes (a : List UInt8) : (a.map SqlPiece.byte).filterMap SqlPiece.name = [] := by
      rw [List.filterMap_eq_nil_iff]
      rintro p hp
      obtain ⟨c, -, rfl⟩ := List.mem_map.mp hp
      rfl
    have hlen : (c :: s.takeWhile isVariableChar).length = (s.takeWhile isVariableChar).length + 1 := rfl
    simp only [SqlPiece.written, hlen, List.drop_succ_cons, hdrop, List.filterMap_cons, SqlPiece.name, hskip,
      List.filterMap_append, hbytes, List.nil_append, List.length_cons]
    exact Nat.add_comm _ _
  · exact (Nat.zero_add _).symm

/-- The name is counted at its first character, and the state is cleared there. -/
theorem CountState.turn_eq (colon : Bool) (n : Nat) (c : UInt8) :
    CountState.turn ⟨colon, false, n⟩ c =
      ⟨decide (c = 58), false, n + if colon && isVariableChar c then 1 else 0⟩ := by
  unfold CountState.turn
  by_cases hc : c = 58
  · subst hc
    cases colon <;> simp [isVariableChar_colon]
  · cases colon <;> cases hvar : isVariableChar c <;> simp [hc]

theorem foldl_countTurn (s : List UInt8) (colon : Bool) (n : Nat) :
    (s.foldl CountState.turn ⟨colon, false, n⟩).count =
      n + (if colon && startsName s then 1 else 0) + (parameterNames s).length := by
  induction s generalizing colon n with
  | nil => simp [startsName, parameterNames, sqlPieces, sqlPiecesFrom]
  | cons c s ih =>
    have hstarts : startsName (c :: s) = isVariableChar c := rfl
    rw [List.foldl_cons, CountState.turn_eq, ih, parameterNames_cons, hstarts]
    simp only [Nat.add_assoc]

theorem countParameters_eq (s : List UInt8) : countParameters s = (parameterNames s).length := by
  rw [countParameters, foldl_countTurn]
  simp

/-! ### One turn -/

/-- A name in its zeroed buffer. -/
def takenParameter (name : List UInt8) : BXDatabaseParameter :=
  { name := name ++ List.replicate (maxNameLength - name.length) 0, nameLength := name.length, value := none }

theorem putName_fits {name : List UInt8} (h : name.length + 2 ≤ maxNameLength) :
    putName name = some (takenParameter name).name := by
  have hwrite : Block.write (List.replicate maxNameLength (0 : UInt8)) 0 name =
      name ++ List.replicate (maxNameLength - name.length) 0 := by
    simp [Block.write, List.drop_replicate]
  have hnul : (name ++ List.replicate (maxNameLength - name.length) (0 : UInt8))[name.length + 1]? = some 0 := by
    rw [List.getElem?_append_right (by omega), List.getElem?_replicate, if_pos (by omega)]
  obtain ⟨hlt, hget⟩ := List.getElem?_eq_some_iff.mp hnul
  unfold putName
  rw [if_neg (by omega), hwrite]
  refine congrArg some ?_
  calc
    (name ++ List.replicate (maxNameLength - name.length) 0).set (name.length + 1) 0
    _ = (name ++ List.replicate (maxNameLength - name.length) 0).set (name.length + 1)
          (name ++ List.replicate (maxNameLength - name.length) 0)[name.length + 1] := by rw [hget]
    _ = name ++ List.replicate (maxNameLength - name.length) 0 := List.set_getElem_self hlt

theorem putName_unfit {name : List UInt8} (h : ¬name.length + 2 ≤ maxNameLength) : putName name = none := by
  unfold putName
  rw [if_pos (by omega)]

/-- The state after the next piece was put at the write index. -/
def TakeState.after (t : TakeState) (p : SqlPiece) : TakeState :=
  { query := t.query.set t.j (p.sent.headD 0)
    i := t.i + p.written.length
    j := t.j + 1
    parameters := t.parameters ++ p.name.toList.map takenParameter }

section

variable {t : TakeState} {c : UInt8} {s : List UInt8}

theorem TakeState.turn_piece (hrest : t.query.drop t.i = c :: s) (hj : t.j ≤ t.i) (paramCount : Nat)
    (hcount : t.parameters.length + (parameterNames (c :: s)).length ≤ paramCount) :
    t.turn paramCount =
      if ∀ name ∈ (firstSqlPiece c s).name, name.length + 2 ≤ maxNameLength then some (t.after (firstSqlPiece c s))
      else none := by
  have hlen : t.i < t.query.length := by
    by_contra hge
    rw [List.drop_eq_nil_of_le (Nat.le_of_not_lt hge)] at hrest
    exact nomatch hrest
  have hread : t.query[t.i]? = some c := by rw [← List.head?_drop, hrest]; rfl
  have hbehind : (t.query.set t.j c).drop (t.i + 1) = s := by
    rw [List.drop_set_of_lt (by omega), ← List.drop_drop, hrest]
    rfl
  have hnext : (t.query.set t.j c)[t.i + 1]?.any isVariableChar = startsName s := by
    rw [← List.head?_drop, hbehind]
    rfl
  have hnames : firstSqlPiece c s = .param (c :: s.takeWhile isVariableChar) → t.parameters.length < paramCount := by
    intro hfirst
    have : 0 < (parameterNames (c :: s)).length := by
      rw [parameterNames, sqlPieces_cons, hfirst]
      exact Nat.succ_pos _
    omega
  unfold TakeState.turn
  rw [hread]
  dsimp only
  rw [if_neg (by omega), hnext, hbehind]
  unfold firstSqlPiece at *
  split
  · rename_i hcolon
    rw [if_pos hcolon] at hnames
    rw [if_neg (Nat.not_le.mpr (hnames rfl))]
    by_cases hfit : (c :: s.takeWhile isVariableChar).length + 2 ≤ maxNameLength
    · rw [putName_fits hfit, if_pos fun name hname => by cases hname; exact hfit]
      simp [TakeState.after, SqlPiece.sent, SqlPiece.written, SqlPiece.name, takenParameter]
    · rw [putName_unfit hfit, if_neg fun h => hfit (h _ rfl)]
  · rw [if_pos nofun]
    simp [TakeState.after, SqlPiece.sent, SqlPiece.written, SqlPiece.name]

/-- What is not read yet is left as it is, because the write index is not past the read index. -/
theorem TakeState.drop_after (hrest : t.query.drop t.i = c :: s) (hj : t.j ≤ t.i) :
    (t.after (firstSqlPiece c s)).query.drop (t.after (firstSqlPiece c s)).i =
      (c :: s).drop (firstSqlPiece c s).written.length := by
  have hpos := (firstSqlPiece_written c s).2
  unfold TakeState.after
  dsimp only
  rw [List.drop_set_of_lt (by omega), ← List.drop_drop, hrest]

end

/-! ### The loop -/

theorem parameterNames_piece (c : UInt8) (s : List UInt8) :
    parameterNames (c :: s) =
      (firstSqlPiece c s).name.toList ++ parameterNames ((c :: s).drop (firstSqlPiece c s).written.length) := by
  unfold parameterNames
  rw [sqlPieces_cons, List.filterMap_cons]
  cases (firstSqlPiece c s).name <;> rfl

/-- The loop puts the pieces one after the other, until a name does not fit. -/
theorem takeLoop_eq (paramCount turns : Nat) (t : TakeState) (hj : t.j ≤ t.i) (hturns : (t.query.drop t.i).length ≤ turns)
    (hcount : t.parameters.length + (parameterNames (t.query.drop t.i)).length ≤ paramCount) :
    takeLoop paramCount turns t =
      if ∀ name ∈ parameterNames (t.query.drop t.i), name.length + 2 ≤ maxNameLength then
        some ((sqlPieces (t.query.drop t.i)).foldl TakeState.after t)
      else none := by
  induction turns generalizing t with
  | zero =>
    have hrest : t.query.drop t.i = [] := List.length_eq_zero_iff.mp (Nat.le_zero.mp hturns)
    rw [takeLoop, if_neg (by rw [List.drop_eq_nil_iff] at hrest; omega), hrest, if_pos nofun]
    rfl
  | succ turns ih =>
    rw [takeLoop]
    cases hrest : t.query.drop t.i with
    | nil =>
      rw [if_neg (by rw [List.drop_eq_nil_iff] at hrest; omega), if_pos nofun]
      rfl
    | cons c s =>
      obtain ⟨hstart, hpos⟩ := firstSqlPiece_written c s
      have hlt : t.i < t.query.length := by
        by_contra hge
        rw [List.drop_eq_nil_of_le (Nat.le_of_not_lt hge)] at hrest
        exact nomatch hrest
      rw [hrest] at hturns hcount
      have hsplit := parameterNames_piece c s
      have hafter := TakeState.drop_after hrest hj
      rw [if_pos hlt, TakeState.turn_piece hrest hj paramCount hcount]
      by_cases hfit : ∀ name ∈ (firstSqlPiece c s).name, name.length + 2 ≤ maxNameLength
      · rw [if_pos hfit]
        dsimp only
        rw [ih _ ?_ ?_ ?_, hafter, sqlPieces_cons, List.foldl_cons, hsplit]
        · refine if_congr ?_ rfl rfl
          rw [List.forall_mem_append]
          exact ⟨fun h => ⟨fun name hname => hfit name (by simpa using hname), h⟩, And.right⟩
        · simp only [TakeState.after]
          omega
        · rw [hafter, List.length_drop]
          omega
        · rw [hafter]
          rw [hsplit, List.length_append] at hcount
          simp only [TakeState.after, List.length_append, List.length_map]
          omega
      · rw [if_neg hfit, if_neg]
        intro h
        rw [hsplit, List.forall_mem_append] at h
        exact hfit fun name hname => h.1 name (by simpa using hname)

theorem foldl_after (ps : List SqlPiece) (t : TakeState) (h : t.j + ps.length ≤ t.query.length) :
    (ps.foldl TakeState.after t).j = t.j + ps.length ∧
    (ps.foldl TakeState.after t).query.length = t.query.length ∧
    (ps.foldl TakeState.after t).query.take (t.j + ps.length) = t.query.take t.j ++ ps.flatMap SqlPiece.sent ∧
    (ps.foldl TakeState.after t).parameters = t.parameters ++ (ps.filterMap SqlPiece.name).map takenParameter := by
  induction ps generalizing t with
  | nil => simp
  | cons p ps ih =>
    rw [List.length_cons] at h
    have hlen : (t.after p).query.length = t.query.length := List.length_set ..
    have hj : (t.after p).j = t.j + 1 := rfl
    have hsent : p.sent = [p.sent.headD 0] := by cases p <;> rfl
    have htake : (t.after p).query.take (t.j + 1) = t.query.take t.j ++ p.sent := by
      rw [hsent]
      exact Block.take_set_succ (by omega) _
    have hparam : (t.after p).parameters = t.parameters ++ p.name.toList.map takenParameter := rfl
    obtain ⟨hlast, hsame, hquery, hparams⟩ := ih (t.after p) (by rw [hlen, hj]; omega)
    rw [hj] at hlast hquery
    rw [List.foldl_cons, List.length_cons]
    refine ⟨by rw [hlast]; omega, hsame.trans hlen, ?_, ?_⟩
    · rw [show t.j + (ps.length + 1) = t.j + 1 + ps.length by omega, hquery, htake, List.flatMap_cons, List.append_assoc]
    · rw [hparams, hparam, List.filterMap_cons]
      cases p.name <;> simp

/-! ### The whole text -/

theorem length_sqlPieces_le (s : List UInt8) : (sqlPieces s).length ≤ s.length := by
  induction s using sqlInduction with
  | nil => exact Nat.le_refl _
  | cons c s ih =>
    have hpos := (firstSqlPiece_written c s).2
    rw [List.length_drop] at ih
    rw [sqlPieces_cons, List.length_cons]
    rw [List.length_cons] at ih ⊢
    omega

theorem mem_of_mem_written {s : List UInt8} {p : SqlPiece} {c : UInt8} (hp : p ∈ sqlPieces s) (hc : c ∈ p.written) : c ∈ s := by
  rw [← flatMap_written s]
  exact List.mem_flatMap.mpr ⟨p, hp, hc⟩

theorem nul_notMem_name {s name : List UInt8} (hs : 0 ∉ s) (hname : name ∈ parameterNames s) : 0 ∉ name := by
  obtain ⟨p, hp, heq⟩ := List.mem_filterMap.mp hname
  cases p with
  | byte => exact nomatch heq
  | param =>
    cases heq
    exact fun hc => hs (mem_of_mem_written hp hc)

theorem nul_notMem_sentText {s : List UInt8} (hs : 0 ∉ s) : 0 ∉ sentText s := by
  intro hc
  obtain ⟨p, hp, hc⟩ := List.mem_flatMap.mp hc
  cases p with
  | byte => exact hs (mem_of_mem_written hp hc)
  | param =>
    have hmark : (0 : UInt8) ∈ [63] := hc
    exact absurd hmark (by decide)

theorem parameterNames_nul (s : List UInt8) : parameterNames (s ++ [0]) = parameterNames s := by
  rw [parameterNames, sqlPieces_nul, List.filterMap_append]
  exact List.append_nil _

theorem sentText_nul (s : List UInt8) : sentText (s ++ [0]) = sentText s ++ [0] := by
  rw [sentText, sqlPieces_nul, List.flatMap_append]
  rfl

/-- The loop starts with the buffer that holds the text and its NUL. -/
theorem takeLoop_text (s : List UInt8) :
    takeLoop (countParameters (s ++ [0])) (s ++ [0]).length { query := s ++ [0], i := 0, j := 0, parameters := [] } =
      if ∀ name ∈ parameterNames s, name.length + 2 ≤ maxNameLength then
        some ((sqlPieces (s ++ [0])).foldl TakeState.after { query := s ++ [0], i := 0, j := 0, parameters := [] })
      else none := by
  have hloop := takeLoop_eq (countParameters (s ++ [0])) (s ++ [0]).length
    { query := s ++ [0], i := 0, j := 0, parameters := [] } (Nat.le_refl _) (Nat.le_refl _)
    (by rw [countParameters_eq]; exact Nat.le_of_eq (Nat.zero_add _))
  rw [List.drop_zero, parameterNames_nul] at hloop
  exact hloop

/-- `bx_database_new_query`. -/
theorem bxDatabaseNewQuery_fits {text : List UInt8} (h : NamesFit text) (hne : cString text ≠ []) :
    ∃ q, bxDatabaseNewQuery text = some (some q) ∧
      cString q.query = sentText (cString text) ∧ q.paramCount = (parameterNames (cString text)).length ∧
      q.parameters = (parameterNames (cString text)).map takenParameter := by
  have hnul := nul_notMem_cString text
  have hpos := List.length_pos_iff.mpr hne
  have hpieces := length_sqlPieces_le (cString text ++ [0])
  have hlen : (cString text ++ [0]).length = (cString text).length + 1 := List.length_append
  obtain ⟨hj, hsame, htake, hparams⟩ :=
    foldl_after (sqlPieces (cString text ++ [0])) { query := cString text ++ [0], i := 0, j := 0, parameters := [] }
      (by simpa using hpieces)
  have hshort := h.length_lt
  unfold bxDatabaseNewQuery
  dsimp only
  rw [if_neg (by omega), if_neg (by omega), takeLoop_text, if_pos h.name]
  refine ⟨_, rfl, ?_, ?_, ?_⟩
  · -- The NUL that ended the text ends the translated one.
    dsimp only at hj hsame htake ⊢
    rw [Nat.zero_add] at hj htake
    have hend : ∀ query : List UInt8, query.take (sqlPieces (cString text ++ [0])).length = sentText (cString text ++ [0]) →
        cString query = sentText (cString text) := by
      intro query hquery
      rw [← List.take_append_drop (sqlPieces (cString text ++ [0])).length query, hquery, sentText_nul, List.append_assoc]
      exact cString_append_nul (nul_notMem_sentText hnul) _
    split
    · exact hend _ (by rw [hj, List.take_set_of_le (Nat.le_refl _)]; exact htake)
    · exact hend _ htake
  · exact (countParameters_eq _).trans (congrArg List.length (parameterNames_nul _))
  · exact hparams.trans (congrArg (List.map takenParameter) (parameterNames_nul _))

theorem bxDatabaseNewQuery_unfit {text : List UInt8} (h : ¬NamesFit text) : bxDatabaseNewQuery text = none := by
  have hlen : (cString text ++ [0]).length = (cString text).length + 1 := List.length_append
  have hne : 0 < (cString text).length := by
    by_contra hzero
    have hnil : cString text = [] := List.length_eq_zero_iff.mp (by omega)
    refine h ⟨?_, ?_⟩
    · rw [hnil]
      exact nofun
    · rw [hnil]
      decide
  unfold bxDatabaseNewQuery
  dsimp only
  rw [if_neg (by omega)]
  split
  · rfl
  · rename_i hshort
    rw [takeLoop_text, if_neg fun hname => h ⟨hname, by omega⟩]

theorem takenParameter_name {name : List UInt8} (hnul : 0 ∉ name) (hfit : name.length + 2 ≤ maxNameLength) :
    cString (takenParameter name).name = name ∧ (takenParameter name).name.length = maxNameLength ∧
      0 ∈ (takenParameter name).name := by
  obtain ⟨n, hn⟩ : ∃ n, maxNameLength - name.length = n + 1 := ⟨maxNameLength - name.length - 1, by omega⟩
  unfold takenParameter
  dsimp only
  refine ⟨?_, ?_, ?_⟩
  · rw [hn, List.replicate_succ]
    exact cString_append_nul hnul _
  · rw [List.length_append, List.length_replicate]
    omega
  · rw [hn, List.replicate_succ]
    exact List.mem_append_right _ List.mem_cons_self

/-- A text is translated exactly when its names fit. -/
theorem textTranslated_iff (text : List UInt8) : TextTranslated text ↔ NamesFit text := by
  by_cases h : NamesFit text
  · refine iff_of_true ?_ h
    unfold TextTranslated
    by_cases hne : cString text = []
    · have hnone : bxDatabaseNewQuery text = some none := by
        unfold bxDatabaseNewQuery
        dsimp only
        rw [hne, if_pos (by decide)]
      rw [hnone]
      exact hne
    · obtain ⟨q, hq, hquery, hcount, hparams⟩ := bxDatabaseNewQuery_fits h hne
      have hnul := nul_notMem_cString text
      rw [hq]
      refine ⟨by rw [hcount, hparams, List.length_map], hquery, ?_, ?_⟩
      · rw [hparams, List.map_map]
        conv_rhs => rw [← List.map_id (parameterNames (cString text))]
        exact List.map_congr_left fun name hname =>
          (takenParameter_name (nul_notMem_name hnul hname) (h.name name hname)).1
      · intro p hp
        rw [hparams] at hp
        obtain ⟨name, hname, rfl⟩ := List.mem_map.mp hp
        exact (takenParameter_name (nul_notMem_name hnul hname) (h.name name hname)).2
  · refine iff_of_false ?_ h
    unfold TextTranslated
    rw [bxDatabaseNewQuery_unfit h]
    exact id

/-- 28 letters and their colon are fewer bytes than a name may have, and their NUL is put behind the buffer. -/
theorem textTranslated_unfit :
    (∀ name ∈ parameterNames (cString (58 :: List.replicate 28 97)), name.length ≤ maxNameLength) ∧
    ¬TextTranslated (58 :: List.replicate 28 97) := by
  have hname : 58 :: List.replicate 28 97 ∈ parameterNames (cString (58 :: List.replicate 28 97)) := by decide
  have hunfit : ¬NamesFit (58 :: List.replicate 28 97) := fun h => absurd (h.name _ hname) (by decide)
  constructor
  · decide
  · unfold TextTranslated
    rw [bxDatabaseNewQuery_unfit hunfit]
    exact id

end BxSync
