import BxSync.Theorems.NamedStatement

/-! The texts `bx_json_upsert` prints are the texts of statements, when they fit their buffers. -/

namespace BxSync

open Sql (Name Statement IsName joined joinedTo pairText place bytes)

/-! ### The statements by their names -/

def ownColumns : List Name := [bytes "_checksum", bytes "_last_updated", bytes "_deleted"]

section

variable (t : UpsertTable)

/-- The columns of the INSERT. -/
def UpsertTable.columns : List Name := t.names ++ (t.parent.toList ++ ownColumns)

/-- The names of its values. -/
def UpsertTable.marks : List Name := t.names ++ (t.parent.toList.map (fun _ => bytes "_parent") ++ ownColumns)

/-- The columns the UPDATE sets. -/
def UpsertTable.setColumns : List Name := t.names.tail ++ ownColumns

def whereKeys : List (Name × Name) := (t.names.headD [], bytes "id") :: t.parent.toList.map fun parent => (parent, bytes "_parent")

def selectNamed : Statement Name := .select (bytes "_checksum") (bytes t.table) (whereKeys t)

def insertNamed : Statement Name := .insert (bytes t.table) t.columns t.marks

def updateNamed : Statement Name := .update (bytes t.table) (t.setColumns.map fun n => (n, n)) (whereKeys t)

def setText (n : Name) : List UInt8 := pairText namedMark (n, n)

/-- A field list that starts with the id, has one name for each field and fits the buffers. -/
structure UpsertTable.Fits : Prop where
  allowed : tableAllowed t.table
  count : t.fields.length ≤ bxUpsertMaxFields
  first : t.names.head? = some (bytes "id")
  distinct : t.names.Nodup
  words : ∀ n ∈ t.names ++ t.parent.toList, IsName n
  named : ∀ n ∈ t.names, n.length + 3 ≤ maxNameLength
  select_lt : ((selectNamed t).text namedMark).length < 256
  cols_lt : (joined (bytes ", ") t.columns).length < upsertBufferSize
  vals_lt : (joined (bytes ", ") (t.marks.map namedMark)).length < upsertBufferSize
  sets_lt : (joined (bytes ", ") (t.setColumns.map setText)).length < upsertBufferSize

end

/-! ### Buffers -/

/-- A buffer that holds all that was printed. -/
def Printed.ofText (s : List UInt8) : Printed := { text := s, length := s.length }

def UpsertBuffers.ofTexts (cols vals sets : List UInt8) : UpsertBuffers :=
  { cols := .ofText cols, vals := .ofText vals, sets := .ofText sets }

theorem append_ofText {size : Nat} {s piece : List UInt8} (h : (s ++ piece).length < size) :
    (Printed.ofText s).append size piece = some (.ofText (s ++ piece)) := by
  rw [List.length_append] at h
  unfold Printed.append Printed.ofText
  dsimp only
  rw [if_neg (by omega), List.take_of_length_le (by omega), List.length_append]

theorem append_ofTexts {c v s c' v' s' : List UInt8} (hc : (c ++ c').length < upsertBufferSize)
    (hv : (v ++ v').length < upsertBufferSize) (hs : (s ++ s').length < upsertBufferSize) :
    (UpsertBuffers.ofTexts c v s).append c' v' s' = some (.ofTexts (c ++ c') (v ++ v') (s ++ s')) := by
  unfold UpsertBuffers.append UpsertBuffers.ofTexts
  rw [append_ofText hc, append_ofText hv, append_ofText hs]

theorem separator_ofText (s : List UInt8) : (Printed.ofText s).separator = if s = [] then [] else bytes ", " := by
  unfold Printed.separator Printed.ofText
  cases s <;> rfl

theorem setText_ne_nil (n : Name) : setText n ≠ [] := by simp [setText, pairText, namedMark]

/-- The three texts grow side by side. Only the first field is not set. -/
theorem putFields_ofTexts {names : List Name} (hne : ∀ n ∈ names, n ≠ []) (i : Nat) (c v s : List UInt8) (hc : c = [] ↔ i = 0)
    (hv : v = [] ↔ i = 0) (hcols : (joinedTo (bytes ", ") c names).length < upsertBufferSize)
    (hvals : (joinedTo (bytes ", ") v (names.map namedMark)).length < upsertBufferSize)
    (hsets : (joinedTo (bytes ", ") s ((names.drop (1 - i)).map setText)).length < upsertBufferSize) :
    UpsertBuffers.putFields i names (.ofTexts c v s) =
      some (.ofTexts (joinedTo (bytes ", ") c names) (joinedTo (bytes ", ") v (names.map namedMark))
        (joinedTo (bytes ", ") s ((names.drop (1 - i)).map setText))) := by
  induction names generalizing i c v s with
  | nil => simp [UpsertBuffers.putFields, Sql.joinedTo_nil]
  | cons n names ih =>
    have hn := hne n List.mem_cons_self
    have hcsep : (if i = 0 then [] else asciiBytes ", ") = if c = [] then [] else bytes ", " := by simp only [hc]; rfl
    have hvsep : (if c = [] then [] else bytes ", ") = if v = [] then [] else bytes ", " := by simp only [hc, hv]
    rw [Sql.joinedTo_cons _ c hn] at hcols ⊢
    rw [List.map_cons, Sql.joinedTo_cons _ v (a := namedMark n) (by simp [namedMark]), ← hvsep] at hvals ⊢
    have hcne : c ++ ((if c = [] then [] else bytes ", ") ++ n) ≠ [] := by simp [hn]
    have hvne : v ++ ((if c = [] then [] else bytes ", ") ++ namedMark n) ≠ [] := by simp [namedMark]
    have hcfit := Nat.lt_of_le_of_lt (Sql.length_le_joinedTo _ _ _) hcols
    have hvfit := Nat.lt_of_le_of_lt (Sql.length_le_joinedTo _ _ _) hvals
    have hrest : ∀ m ∈ names, m ≠ [] := fun m hm => hne m (List.mem_cons_of_mem _ hm)
    have hmark : asciiBytes ":" ++ n = namedMark n := rfl
    unfold UpsertBuffers.putFields
    dsimp only
    rw [hcsep, hmark]
    by_cases hi : i = 0
    · subst hi
      have hsfit := Nat.lt_of_le_of_lt (Sql.length_le_joinedTo _ _ _) hsets
      rw [if_pos rfl, append_ofTexts hcfit hvfit (by rwa [List.append_nil]), List.append_nil]
      exact ih hrest 1 _ _ _ (iff_of_false hcne (Nat.succ_ne_zero _)) (iff_of_false hvne (Nat.succ_ne_zero _)) hcols hvals hsets
    · have hdrop : (n :: names).drop (1 - i) = n :: names.drop (1 - (i + 1)) := by
        rw [show 1 - i = 0 by omega, show 1 - (i + 1) = 0 by omega]
        rfl
      rw [hdrop, List.map_cons, Sql.joinedTo_cons _ s (setText_ne_nil n)] at hsets ⊢
      have hsfit := Nat.lt_of_le_of_lt (Sql.length_le_joinedTo _ _ _) hsets
      have hset : (UpsertBuffers.ofTexts c v s).sets.separator ++ (n ++ (asciiBytes " = :" ++ n)) =
          (if s = [] then [] else bytes ", ") ++ setText n := by
        rw [← separator_ofText]
        rfl
      rw [if_neg hi, hset, append_ofTexts hcfit hvfit hsfit]
      exact ih hrest (i + 1) _ _ _ (iff_of_false hcne (Nat.succ_ne_zero _)) (iff_of_false hvne (Nat.succ_ne_zero _)) hcols hvals hsets

section

variable {t : UpsertTable}

theorem UpsertTable.Fits.names_ne (h : t.Fits) : ∀ n ∈ t.names, n ≠ [] := fun n hn =>
  (h.words n (List.mem_append_left _ hn)).ne_nil

/-- The list starts with the id. -/
theorem UpsertTable.Fits.names_cons (h : t.Fits) : ∃ names, t.names = bytes "id" :: names := by
  cases hnames : t.names with
  | nil => exact absurd h.first (by rw [hnames]; exact nofun)
  | cons n names =>
    have hfirst := h.first
    rw [hnames] at hfirst
    exact ⟨names, by rw [Option.some.inj hfirst]⟩

/-- The end of the three lists. -/
theorem putOwn_ofTexts {c v s : List UInt8} (hc : c ≠ []) (hv : v ≠ [])
    (hcols : (joinedTo (bytes ", ") c ownColumns).length < upsertBufferSize)
    (hvals : (joinedTo (bytes ", ") v (ownColumns.map namedMark)).length < upsertBufferSize)
    (hsets : (joinedTo (bytes ", ") s (ownColumns.map setText)).length < upsertBufferSize) :
    (UpsertBuffers.ofTexts c v s).putOwn =
      some (.ofTexts (joinedTo (bytes ", ") c ownColumns) (joinedTo (bytes ", ") v (ownColumns.map namedMark))
        (joinedTo (bytes ", ") s (ownColumns.map setText))) := by
  have hc' := Sql.joinedTo_eq (bytes ", ") c (l := ownColumns) (by decide)
  have hv' := Sql.joinedTo_eq (bytes ", ") v (l := ownColumns.map namedMark) (by decide)
  have hs' := Sql.joinedTo_eq (bytes ", ") s (l := ownColumns.map setText) (by decide)
  rw [if_neg hc] at hc'
  rw [if_neg hv] at hv'
  rw [hc'] at hcols ⊢
  rw [hv'] at hvals ⊢
  rw [hs'] at hsets ⊢
  have hsep : (UpsertBuffers.ofTexts c v s).sets.separator = if s = [] then [] else bytes ", " := separator_ofText s
  have hcolumns : asciiBytes ", _checksum, _last_updated, _deleted" = bytes ", " ++ joined (bytes ", ") ownColumns := by
    decide +kernel
  have hmarks : asciiBytes ", :_checksum, :_last_updated, :_deleted" =
      bytes ", " ++ joined (bytes ", ") (ownColumns.map namedMark) := by decide +kernel
  have hpairs : asciiBytes "_checksum = :_checksum, _last_updated = :_last_updated, _deleted = :_deleted" =
      joined (bytes ", ") (ownColumns.map setText) := by decide +kernel
  unfold UpsertBuffers.putOwn
  rw [hsep, hcolumns, hmarks, hpairs]
  exact append_ofTexts hcols hvals hsets

theorem putParent_ofTexts {c v s parent : List UInt8} (hc : c ≠ []) (hv : v ≠ [])
    (hcols : (joinedTo (bytes ", ") c [parent]).length < upsertBufferSize)
    (hvals : (joinedTo (bytes ", ") v [namedMark (bytes "_parent")]).length < upsertBufferSize)
    (hsets : s.length < upsertBufferSize) :
    (UpsertBuffers.ofTexts c v s).putParent parent =
      some (.ofTexts (joinedTo (bytes ", ") c [parent]) (joinedTo (bytes ", ") v [namedMark (bytes "_parent")]) s) := by
  have hone (s a : List UInt8) (hs : s ≠ []) : joinedTo (bytes ", ") s [a] = s ++ (bytes ", " ++ a) := by
    rw [Sql.joinedTo_eq _ s (by simp), if_neg hs, joined, List.flatMap_nil, List.append_nil]
  rw [hone c _ hc] at hcols ⊢
  rw [hone v _ hv] at hvals ⊢
  have happend := append_ofTexts hcols hvals (by rwa [List.append_nil])
  rw [List.append_nil] at happend
  exact happend

/-- The buffers hold the lists. -/
theorem upsertBuffers_eq (h : t.Fits) :
    upsertBuffers t = some (.ofTexts (joined (bytes ", ") t.columns) (joined (bytes ", ") (t.marks.map namedMark))
      (joined (bytes ", ") (t.setColumns.map setText))) := by
  obtain ⟨names, hnames⟩ := h.names_cons
  have hstart (l : List (List UInt8)) : joined (bytes ", ") l = joinedTo (bytes ", ") [] l := (if_pos rfl).symm
  have hmarkNe (l : List Name) : ∀ a ∈ l.map namedMark, a ≠ [] := by
    intro a ha
    obtain ⟨n, -, rfl⟩ := List.mem_map.mp ha
    exact nofun
  have hsetNe (l : List Name) : ∀ a ∈ l.map setText, a ≠ [] := by
    intro a ha
    obtain ⟨n, -, rfl⟩ := List.mem_map.mp ha
    exact setText_ne_nil n
  have hparentNe : ∀ a ∈ t.parent.toList, a ≠ [] := fun a ha => (h.words a (List.mem_append_right _ ha)).ne_nil
  -- The lists are what the loop printed, the parent and the columns of the sync, one behind the other.
  have hcols : joined (bytes ", ") t.columns = joinedTo (bytes ", ")
      (joinedTo (bytes ", ") (joinedTo (bytes ", ") [] t.names) t.parent.toList) ownColumns := by
    rw [hstart, UpsertTable.columns, Sql.joinedTo_append _ _ h.names_ne, Sql.joinedTo_append, List.append_assoc]
    intro a ha
    rcases List.mem_append.mp ha with ha | ha
    · exact h.names_ne a ha
    · exact hparentNe a ha
  have hvals : joined (bytes ", ") (t.marks.map namedMark) = joinedTo (bytes ", ")
      (joinedTo (bytes ", ") (joinedTo (bytes ", ") [] (t.names.map namedMark))
        ((t.parent.toList.map fun _ => bytes "_parent").map namedMark)) (ownColumns.map namedMark) := by
    rw [hstart, UpsertTable.marks, Sql.joinedTo_append _ _ (hmarkNe _), ← List.map_append, Sql.joinedTo_append _ _ (hmarkNe _),
      ← List.map_append]
  have hsets : joined (bytes ", ") (t.setColumns.map setText) = joinedTo (bytes ", ")
      (joinedTo (bytes ", ") [] ((t.names.drop 1).map setText)) (ownColumns.map setText) := by
    rw [hstart, UpsertTable.setColumns, Sql.joinedTo_append _ _ (hsetNe _), ← List.map_append, List.drop_one]
  have hcolsLt := h.cols_lt
  have hvalsLt := h.vals_lt
  have hsetsLt := h.sets_lt
  rw [hcols] at hcolsLt ⊢
  rw [hvals] at hvalsLt ⊢
  rw [hsets] at hsetsLt ⊢
  have hle := @Sql.length_le_joinedTo (bytes ", ")
  have hcolsParent := Nat.lt_of_le_of_lt (hle _ _) hcolsLt
  have hvalsParent := Nat.lt_of_le_of_lt (hle _ _) hvalsLt
  have hfields := putFields_ofTexts h.names_ne 0 [] [] [] (iff_of_true rfl rfl) (iff_of_true rfl rfl)
    (Nat.lt_of_le_of_lt (hle _ _) hcolsParent) (Nat.lt_of_le_of_lt (hle _ _) hvalsParent) (Nat.lt_of_le_of_lt (hle _ _) hsetsLt)
  have hcne : joinedTo (bytes ", ") [] t.names ≠ [] := by
    rw [hnames, ← hstart, joined]
    simp [bytes]
  have hvne : joinedTo (bytes ", ") [] (t.names.map namedMark) ≠ [] := by
    rw [hnames, ← hstart, List.map_cons, joined]
    simp [namedMark]
  unfold upsertBuffers
  rw [show UpsertBuffers.mk ⟨[], 0⟩ ⟨[], 0⟩ ⟨[], 0⟩ = .ofTexts [] [] [] from rfl, hfields]
  dsimp only
  cases hparent : t.parent with
  | none =>
    rw [hparent] at hcolsLt hvalsLt
    simp only [Option.toList_none, List.map_nil, Sql.joinedTo_nil] at hcolsLt hvalsLt ⊢
    exact putOwn_ofTexts hcne hvne hcolsLt hvalsLt hsetsLt
  | some parent =>
    rw [hparent] at hcolsLt hvalsLt hcolsParent hvalsParent
    have hne (s l : List UInt8) (hs : s ≠ []) : joinedTo (bytes ", ") s [l] ≠ [] := by
      rw [joinedTo, if_neg hs]
      simp [hs]
    dsimp only
    rw [putParent_ofTexts hcne hvne hcolsParent hvalsParent (Nat.lt_of_le_of_lt (hle _ _) hsetsLt)]
    exact putOwn_ofTexts (hne _ _ hcne) (hne _ _ hvne) hcolsLt hvalsLt hsetsLt

/-! ### Texts -/

theorem upsertWhere_eq (t : UpsertTable) : upsertWhere t = joined (bytes " AND ") ((whereKeys t).map (pairText namedMark)) := by
  unfold upsertWhere whereKeys
  cases t.parent with
  | none =>
    simp only [Option.elim, Option.toList_none, List.map_nil, List.map_cons, joined, List.flatMap_nil, List.append_nil]
    rfl
  | some parent =>
    have hid (n : Name) : pairText namedMark (n, bytes "id") = n ++ asciiBytes " = :id" := rfl
    have hparent : pairText namedMark (parent, bytes "_parent") = parent ++ asciiBytes " = :_parent" := rfl
    have hand : bytes " AND " = asciiBytes " AND " := rfl
    simp only [Option.elim, Option.toList_some, List.map_nil, List.map_cons, joined, List.flatMap_cons, List.flatMap_nil,
      List.append_nil, hid, hparent, hand, List.append_assoc]

theorem upsertSelectSql_eq (h : t.Fits) : upsertSelectSql t = (selectNamed t).text namedMark := by
  have htext : (selectNamed t).text namedMark =
      asciiBytes "SELECT _checksum FROM " ++ (asciiBytes t.table ++ (asciiBytes " WHERE " ++ upsertWhere t)) := by
    rw [upsertWhere_eq]
    rfl
  have hlt := h.select_lt
  rw [htext] at hlt ⊢
  exact List.take_of_length_le (by omega)

/-- The texts of the writes are the statements, and the buffer holds them. -/
theorem upsertWriteSql_eq (h : t.Fits) (needInsert : Bool) :
    upsertWriteSql t (.ofTexts (joined (bytes ", ") t.columns) (joined (bytes ", ") (t.marks.map namedMark))
        (joined (bytes ", ") (t.setColumns.map setText))) needInsert =
      (if needInsert then insertNamed t else updateNamed t).text namedMark ∧
    ((if needInsert then insertNamed t else updateNamed t).text namedMark).length < 2800 := by
  have hcols := h.cols_lt
  have hvals := h.vals_lt
  have hsets := h.sets_lt
  have hselect := h.select_lt
  have hselectText : (selectNamed t).text namedMark =
      bytes "SELECT _checksum FROM " ++ (bytes t.table ++ (bytes " WHERE " ++ upsertWhere t)) := by
    rw [upsertWhere_eq]
    rfl
  have hsetsMap : t.setColumns.map setText = (t.setColumns.map fun n => (n, n)).map (pairText namedMark) := by
    rw [List.map_map]
    rfl
  have hliterals : (bytes "SELECT _checksum FROM ").length = 22 ∧ (bytes " WHERE ").length = 7 ∧
      (bytes "INSERT INTO ").length = 12 ∧ (bytes " (").length = 2 ∧ (bytes ") VALUES (").length = 10 ∧
      (bytes ")").length = 1 ∧ (bytes "UPDATE ").length = 7 ∧ (bytes " SET ").length = 5 := by decide
  have hsize : upsertBufferSize = 1024 := rfl
  rw [hselectText] at hselect
  simp only [List.length_append] at hselect
  unfold upsertWriteSql UpsertBuffers.ofTexts Printed.ofText
  dsimp only
  cases needInsert with
  | true =>
    have htext : (insertNamed t).text namedMark = bytes "INSERT INTO " ++ (bytes t.table ++ (bytes " (" ++
        (joined (bytes ", ") t.columns ++ (bytes ") VALUES (" ++
          (joined (bytes ", ") (t.marks.map namedMark) ++ bytes ")"))))) := rfl
    have hlt : ((insertNamed t).text namedMark).length < 2800 := by
      rw [htext]
      simp only [List.length_append]
      omega
    exact ⟨List.take_of_length_le (Nat.le_of_lt_succ hlt), hlt⟩
  | false =>
    have htext : (updateNamed t).text namedMark = bytes "UPDATE " ++ (bytes t.table ++ (bytes " SET " ++
        (joined (bytes ", ") (t.setColumns.map setText) ++ (bytes " WHERE " ++ upsertWhere t)))) := by
      rw [upsertWhere_eq, hsetsMap]
      rfl
    have hlt : ((updateNamed t).text namedMark).length < 2800 := by
      rw [htext]
      simp only [List.length_append]
      omega
    refine ⟨?_, hlt⟩
    rw [if_neg (by decide), if_neg (by decide), htext] at *
    exact List.take_of_length_le (Nat.le_of_lt_succ hlt)

end

end BxSync
