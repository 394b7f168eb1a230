import BxSync.Lib.KeyedRows
import BxSync.Theorems.FixedTexts

/-! The INSERT and the UPDATE of a whole row against the table that keeps what is read of each row. -/

namespace BxSync

open Sql (Name Write bytes)

abbrev SqlRow := Sql.Row SqlValue

/-! ### Whole rows -/

section

variable (table : Name) (pairs : List (Name × Name)) (w : Name → SqlValue)

/-- Each column with the value of its name. -/
def valued : List (Name × SqlValue) := pairs.map fun p => (p.1, w p.2)

/-- The row that an INSERT of these columns stores. -/
def storedRow : SqlRow := syncSchema.complete .null table (Sql.assign (fun _ => .null) (valued pairs w))

def insertWrite (ignore : Bool) : Write SqlValue := .insert ignore table (pairs.map Prod.fst) (pairs.map fun p => w p.2)

def updateWrite : Write SqlValue := .update table (valued (setPairs table pairs) w) (valued (keyPairs table pairs) w)

variable {table pairs w}

theorem valued_fst : (valued pairs w).map Prod.fst = pairs.map Prod.fst := by
  rw [valued, List.map_map]
  rfl

theorem fill_insert (ignore : Bool) :
    (Write.insert ignore table (pairs.map Prod.fst) (pairs.map fun _ => ())).fill ((pairs.map Prod.snd).map w) =
      some (insertWrite table pairs w ignore) := by
  rw [Write.fill, if_pos (by rw [List.length_map, List.length_map, List.length_map]), List.map_map]
  rfl

theorem fill_update :
    (Write.update table (placed (setPairs table pairs)) (placed (keyPairs table pairs))).fill
        (((setPairs table pairs ++ keyPairs table pairs).map Prod.snd).map w) = some (updateWrite table pairs w) := by
  have hzip : ∀ l : List (Name × Name), ((placed l).map Prod.fst).zip ((l.map Prod.snd).map w) = valued l w := by
    intro l
    rw [placed, List.map_map, List.map_map, List.zip_map', valued]
    rfl
  have hlen : ∀ l : List (Name × Name), (placed l).length = ((l.map Prod.snd).map w).length := by
    intro l
    rw [placed, List.length_map, List.length_map, List.length_map]
  rw [Write.fill, List.map_append, List.map_append, if_pos (by rw [List.length_append, hlen, hlen]), List.take_left' (hlen _).symm,
    List.drop_left' (hlen _).symm, hzip, hzip]
  rfl

theorem storedRow_of_mem (hcolumns : (pairs.map Prod.fst).Nodup) {p : Name × Name} (hp : p ∈ pairs)
    (hkey : p.1 ∉ syncSchema.key table ∨ w p.2 ≠ .null) : storedRow table pairs w p.1 = w p.2 := by
  have hassign : Sql.assign (fun _ => .null) (valued pairs w) p.1 = w p.2 :=
    Sql.assign_of_mem _ (by rw [valued_fst]; exact hcolumns) (s := (p.1, w p.2)) (List.mem_map_of_mem hp)
  rw [storedRow, Sql.Schema.complete, hassign, if_neg fun h => hkey.elim (fun hk => hk h.1) fun hk => hk h.2]

theorem storedRow_keyless (hcolumns : (pairs.map Prod.fst).Nodup) {p : Name × Name} (hp : p ∈ pairs)
    (hkey : p.1 ∈ syncSchema.key table) (hnull : w p.2 = .null) : storedRow table pairs w p.1 = .integer 0 := by
  have hassign : Sql.assign (fun _ => .null) (valued pairs w) p.1 = w p.2 :=
    Sql.assign_of_mem _ (by rw [valued_fst]; exact hcolumns) (s := (p.1, w p.2)) (List.mem_map_of_mem hp)
  rw [storedRow, Sql.Schema.complete, hassign, if_pos ⟨hkey, hnull⟩]
  rfl

theorem storedRow_of_notMem (hkeyed : ∀ c ∈ syncSchema.key table, c ∈ pairs.map Prod.fst) {c : Name} (hc : c ∉ pairs.map Prod.fst) :
    storedRow table pairs w c = .null := by
  have hassign : Sql.assign (fun _ => .null) (valued pairs w) c = .null := Sql.assign_of_notMem _ (by rw [valued_fst]; exact hc)
  rw [storedRow, Sql.Schema.complete, hassign, if_neg fun h => hc (hkeyed c h.1)]

/-- An UPDATE makes a row of the same key the whole row. -/
theorem assign_sets (hcolumns : (pairs.map Prod.fst).Nodup) (hkeyed : ∀ c ∈ syncSchema.key table, c ∈ pairs.map Prod.fst)
    {w' : Name → SqlValue}
    (hsame : ∀ c ∈ syncSchema.key table, storedRow table pairs w' c = storedRow table pairs w c) :
    Sql.assign (storedRow table pairs w') (valued (setPairs table pairs) w) = storedRow table pairs w := by
  have hsets : ((valued (setPairs table pairs) w).map Prod.fst).Nodup := by
    rw [valued_fst]
    exact hcolumns.sublist (List.filter_sublist.map _)
  funext c
  by_cases hkey : c ∈ syncSchema.key table
  · have hnot : c ∉ (valued (setPairs table pairs) w).map Prod.fst := by
      rw [valued_fst]
      intro hc
      obtain ⟨p, hp, rfl⟩ := List.mem_map.mp hc
      exact of_decide_eq_true (List.mem_filter.mp hp).2 hkey
    rw [Sql.assign_of_notMem _ hnot, hsame c hkey]
  by_cases hc : c ∈ pairs.map Prod.fst
  · obtain ⟨p, hp, rfl⟩ := List.mem_map.mp hc
    have hmem : p ∈ setPairs table pairs := List.mem_filter.mpr ⟨hp, decide_eq_true hkey⟩
    rw [Sql.assign_of_mem _ hsets (s := (p.1, w p.2)) (List.mem_map_of_mem hmem), storedRow_of_mem hcolumns hp (Or.inl hkey)]
  · have hnot : c ∉ (valued (setPairs table pairs) w).map Prod.fst := by
      rw [valued_fst]
      intro hc'
      obtain ⟨p, hp, rfl⟩ := List.mem_map.mp hc'
      exact hc (List.mem_map_of_mem (List.mem_filter.mp hp).1)
    rw [Sql.assign_of_notMem _ hnot, storedRow_of_notMem hkeyed hc, storedRow_of_notMem hkeyed hc]

end

/-! ### A statement on two states -/

/-- A row of another table stands in the way of a statement. -/
def Exec.refused : Exec → Bool
  | .unsent _ => false
  | .ran fkError _ => fkError
  | .unreported fkError _ _ => fkError

/-- Two effects that answer alike keep what relates two states. -/
theorem Exec.run_related {σ τ : Type} {R : σ → τ → Prop} {exec : Exec} {s : σ} {t : τ} {effect : Bool → Bool → Option Bool × σ}
    {effect' : Bool → Bool → Option Bool × τ} (hbase : R s t)
    (h : ∀ fk cv, fk = exec.refused → (effect fk cv).1 = (effect' fk cv).1 ∧ R (effect fk cv).2 (effect' fk cv).2) :
    (exec.run s effect).1 = (exec.run t effect').1 ∧ R (exec.run s effect).2 (exec.run t effect').2 := by
  cases exec with
  | unsent needReconnect => exact ⟨rfl, hbase⟩
  | unreported fk cv needReconnect => exact ⟨rfl, (h fk cv rfl).2⟩
  | ran fk cv =>
    obtain ⟨hanswer, hrelated⟩ := h fk cv rfl
    unfold Exec.run
    dsimp only
    revert hanswer hrelated
    generalize effect fk cv = out
    generalize effect' fk cv = res
    obtain ⟨x, out⟩ := out
    obtain ⟨y, res⟩ := res
    rintro rfl hrelated
    cases x with
    | none => exact ⟨rfl, hrelated⟩
    | some warned => exact ⟨rfl, hrelated⟩

/-! ### A row and its table -/

section

variable {ω κ α : Type} [DecidableEq κ]

/-- What a statement about one row comes to, in the rows and in the table of what is read of them. -/
structure StoredAs (table : Name) (key : SqlRow → κ) (view : SqlRow → α) (r : SqlRow) (tables : SqlTables)
    (out : ω × SqlTables) (res : ω × Table κ α) : Prop where
  answer : out.1 = res.1
  holds : MapOf key view (out.2 table) res.2.lookup
  others : ∀ other, other ≠ table → out.2 other = tables other
  rows : ∀ row ∈ out.2 table, row ∈ tables table ∨ row = r

variable {table : Name} {key : SqlRow → κ} {view : SqlRow → α} {r : SqlRow} {tables : SqlTables} {t : Table κ α}

theorem StoredAs.unchanged (h : MapOf key view (tables table) t.lookup) (x : ω) : StoredAs table key view r tables (x, tables) (x, t) :=
  ⟨rfl, h, fun _ _ => rfl, fun _ hrow => Or.inl hrow⟩

theorem StoredAs.exec {effect : Bool → Bool → Option Bool × SqlTables} {effect' : Bool → Bool → Option Bool × Table κ α} {exec : Exec}
    (hbase : MapOf key view (tables table) t.lookup)
    (h : ∀ fk cv, fk = exec.refused → StoredAs table key view r tables (effect fk cv) (effect' fk cv)) :
    StoredAs table key view r tables (exec.run tables effect) (exec.run t effect') := by
  obtain ⟨hanswer, hholds, hothers, hrows⟩ := exec.run_related
    (R := fun tables' t' => MapOf key view (tables' table) t'.lookup ∧ (∀ other, other ≠ table → tables' other = tables other) ∧
      ∀ row ∈ tables' table, row ∈ tables table ∨ row = r)
    ⟨hbase, fun _ _ => rfl, fun _ hrow => Or.inl hrow⟩
    fun fk cv hfk => ⟨(h fk cv hfk).answer, (h fk cv hfk).holds, (h fk cv hfk).others, (h fk cv hfk).rows⟩
  exact ⟨hanswer, hholds, hothers, hrows⟩

/-- A row of a new key is stored. -/
theorem StoredAs.insert (h : MapOf key view (tables table) t.lookup) (hnew : t.lookup (key r) = none) (x : ω) :
    StoredAs table key view r tables (x, Function.update tables table (tables table ++ [r])) (x, t.insert (key r) (view r)) where
  answer := rfl
  holds := by
    dsimp only
    rw [Function.update_self]
    refine (h.append hnew).congr fun k => ?_
    rw [Table.lookup_insert_eq, Function.update_apply]
  others other hother := Function.update_of_ne hother _ _
  rows row hrow := by
    dsimp only at hrow
    rw [Function.update_self] at hrow
    exact (List.mem_append.mp hrow).imp_right List.mem_singleton.mp

/-- The row of a known key is replaced. -/
theorem StoredAs.replace (h : MapOf key view (tables table) t.lookup) {matched : SqlRow → Bool} {change : SqlRow → SqlRow}
    (hmatched : ∀ row ∈ tables table, matched row = decide (key row = key r))
    (hchange : ∀ row ∈ tables table, key row = key r → change row = r) (hknown : (t.lookup (key r)).isSome) (x : ω) :
    StoredAs table key view r tables
      (x, Function.update tables table ((tables table).map fun row => if matched row then change row else row))
      (x, t.insert (key r) (view r)) where
  answer := rfl
  holds := by
    dsimp only
    have hrows : ((tables table).map fun row => if matched row then change row else row) =
        (tables table).map fun row => if key row = key r then change row else row := by
      refine List.map_congr_left fun row hrow => ?_
      rw [hmatched row hrow]
      simp only [decide_eq_true_eq]
    rw [Function.update_self, hrows]
    refine (h.modify (a := view r) hknown fun row hrow hk => ?_).congr fun k => ?_
    · rw [hchange row hrow hk]
      exact ⟨rfl, rfl⟩
    · rw [Table.lookup_insert_eq, Function.update_apply]
  others other hother := Function.update_of_ne hother _ _
  rows row hrow := by
    dsimp only at hrow
    rw [Function.update_self] at hrow
    obtain ⟨row', hrow', rfl⟩ := List.mem_map.mp hrow
    split
    · rename_i hm
      rw [hmatched row' hrow'] at hm
      exact Or.inr (hchange row' hrow' (of_decide_eq_true hm))
    · exact Or.inl hrow'

variable {pairs : List (Name × Name)} {w : Name → SqlValue}

/-- A value names no row. -/
abbrev orphaned (tables : SqlTables) (table : Name) (sets : List (Name × SqlValue)) : Bool :=
  syncSchema.orphan sameInteger .null tables table sets

/-- A value of the key is NULL. -/
def lacksKey (table : Name) (pairs : List (Name × Name)) (w : Name → SqlValue) : Bool :=
  syncSchema.lacksKey .null table (Sql.assign (fun _ => .null) (valued pairs w))

theorem run_insertWrite (hcolumns : (pairs.map Prod.fst).Nodup) (ignore fk cv : Bool) :
    syncSchema.run sameInteger .null tables fk cv (insertWrite table pairs w ignore) =
      if !ignore && lacksKey table pairs w then (none, tables)
      else if (tables table).any (syncSchema.sameKey sameInteger table (storedRow table pairs w)) ||
          (fk || orphaned tables table (valued pairs w)) then
        (if ignore then some true else none, tables)
      else (some (cv || lacksKey table pairs w), Function.update tables table (tables table ++ [storedRow table pairs w])) := by
  have hzip : (pairs.map Prod.fst).zip (pairs.map fun p => w p.2) = valued pairs w := by
    rw [List.zip_map', valued]
  have hlen : (pairs.map Prod.fst).length = (pairs.map fun p => w p.2).length := by rw [List.length_map, List.length_map]
  have hguard : (¬((pairs.map Prod.fst).Nodup ∧ (pairs.map Prod.fst).length = (pairs.map fun p => w p.2).length) ∨
      (!ignore && lacksKey table pairs w) = true) ↔ (!ignore && lacksKey table pairs w) = true :=
    ⟨fun h => h.resolve_left fun hnot => hnot ⟨hcolumns, hlen⟩, Or.inr⟩
  rw [insertWrite, Sql.Schema.run, hzip]
  exact if_congr hguard rfl (if_congr (Bool.or_eq_true _ _ ▸ Iff.rfl) rfl rfl)

/-- Rows have the key of the row that is stored as the table has it. -/
theorem any_sameKey (h : MapOf key view (tables table) t.lookup) {r : SqlRow}
    (hsame : ∀ row ∈ tables table, syncSchema.sameKey sameInteger table r row = decide (key row = key r)) :
    (tables table).any (syncSchema.sameKey sameInteger table r) = (t.lookup (key r)).isSome := by
  rw [h.known_any]
  exact any_congr_mem hsame

section

variable (h : MapOf key view (tables table) t.lookup) (hcolumns : (pairs.map Prod.fst).Nodup)
  (hsame : ∀ row ∈ tables table,
    syncSchema.sameKey sameInteger table (storedRow table pairs w) row = decide (key row = key (storedRow table pairs w)))
include h hcolumns hsame

theorem storedAs_insertIgnore (fk cv : Bool) :
    StoredAs table key view (storedRow table pairs w) tables
      (syncSchema.run sameInteger .null tables fk cv (insertWrite table pairs w true))
      (t.insertIgnore (key (storedRow table pairs w)) (view (storedRow table pairs w)) (fk || orphaned tables table (valued pairs w))
        (cv || lacksKey table pairs w)) := by
  rw [run_insertWrite hcolumns, if_neg (by simp), any_sameKey h hsame, Table.insertIgnore]
  by_cases hdropped : (t.lookup (key (storedRow table pairs w))).isSome ∨ (fk || orphaned tables table (valued pairs w)) = true
  · rw [if_pos (by rw [Bool.or_eq_true]; exact hdropped), if_pos hdropped]
    exact .unchanged h _
  · rw [if_neg (by rw [Bool.or_eq_true]; exact hdropped), if_neg hdropped]
    exact .insert h (by simpa using fun hk => hdropped (Or.inl hk)) _

theorem storedAs_insertRow (hkey : lacksKey table pairs w = false) (fk cv : Bool) :
    StoredAs table key view (storedRow table pairs w) tables
      (syncSchema.run sameInteger .null tables fk cv (insertWrite table pairs w false))
      (t.insertRow (key (storedRow table pairs w)) (view (storedRow table pairs w)) (fk || orphaned tables table (valued pairs w)) cv) := by
  rw [run_insertWrite hcolumns, if_neg (by simp [hkey]), any_sameKey h hsame, Table.insertRow, hkey, Bool.or_false]
  by_cases hdropped : (t.lookup (key (storedRow table pairs w))).isSome ∨ (fk || orphaned tables table (valued pairs w)) = true
  · rw [if_pos (by rw [Bool.or_eq_true]; exact hdropped), if_pos hdropped]
    exact .unchanged h _
  · rw [if_neg (by rw [Bool.or_eq_true]; exact hdropped), if_neg hdropped]
    exact .insert h (by simpa using fun hk => hdropped (Or.inl hk)) _

end

theorem storedAs_update (h : MapOf key view (tables table) t.lookup) {r : SqlRow}
    (hmeets : ∀ row ∈ tables table, Sql.meets sameInteger (valued (keyPairs table pairs) w) row = decide (key row = key r))
    (hchange : ∀ row ∈ tables table, key row = key r → Sql.assign row (valued (setPairs table pairs) w) = r) (fk cv : Bool) :
    StoredAs table key view r tables (syncSchema.run sameInteger .null tables fk cv (updateWrite table pairs w))
      (t.update (some (key r)) (view r) (fk || orphaned tables table (valued (setPairs table pairs) w)) cv) := by
  have hany : (tables table).any (Sql.meets sameInteger (valued (keyPairs table pairs) w)) = (t.lookup (key r)).isSome := by
    rw [h.known_any]
    exact any_congr_mem hmeets
  rw [updateWrite, Sql.Schema.run, hany, Table.update]
  by_cases hknown : (t.lookup (key r)).isSome
  · rw [hknown, if_neg (by simp), if_pos rfl]
    split
    · exact .unchanged h _
    · exact .replace h hmeets hchange hknown _
  · rw [Bool.eq_false_iff.mpr hknown, Bool.not_false, if_pos rfl, if_neg Bool.false_ne_true]
    exact .unchanged h _

/-- An UPDATE whose key is NULL meets no row. -/
theorem storedAs_update_none (h : MapOf key view (tables table) t.lookup) {r : SqlRow}
    (hmeets : ∀ row, Sql.meets sameInteger (valued (keyPairs table pairs) w) row = false) (a : α) (fk fk' cv : Bool) :
    StoredAs table key view r tables (syncSchema.run sameInteger .null tables fk cv (updateWrite table pairs w))
      (t.update none a fk' cv) := by
  have hany : (tables table).any (Sql.meets sameInteger (valued (keyPairs table pairs) w)) = false := by
    rw [List.any_eq_false]
    intro row _
    rw [hmeets row]
    exact Bool.false_ne_true
  rw [updateWrite, Sql.Schema.run, hany, Bool.not_false, if_pos rfl]
  exact .unchanged h _

end

end BxSync
