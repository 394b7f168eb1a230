import BxSync.MirrorSql
import BxSync.Theorems.NamedStatement

/-! What the server is sent for a text that is fixed: the statement of the text, with the values that were bound to its
    names. The facts about a text are closed, and are evaluated over its characters. -/

namespace BxSync

open Sql (Name Write IsName bytes)

/-! ### Characters -/

def charBytes (cs : List Char) : List UInt8 := cs.map fun c => UInt8.ofNat c.toNat

theorem asciiBytes_ofList (cs : List Char) : asciiBytes (String.ofList cs) = charBytes cs := by
  rw [asciiBytes, String.toList_ofList]
  rfl

/-- The characters of each string. -/
inductive Spelled : List String → List (List Char) → Prop
  | nil : Spelled [] []
  | cons (cs : List Char) {strings : List String} {css : List (List Char)} (h : Spelled strings css) :
      Spelled (String.ofList cs :: strings) (cs :: css)

namespace Spelled

variable {strings : List String} {css : List (List Char)}

theorem map_asciiBytes (h : Spelled strings css) : strings.map asciiBytes = css.map charBytes := by
  induction h with
  | nil => rfl
  | cons cs _ ih => rw [List.map_cons, List.map_cons, ih, asciiBytes_ofList]

theorem sqlText_eq (h : Spelled strings css) : sqlText strings = css.flatMap charBytes := by
  rw [sqlText, List.flatMap_def, h.map_asciiBytes, ← List.flatMap_def]

end Spelled

/-! ### Texts -/

instance (n : Name) : Decidable (ParameterName n) :=
  decidable_of_iff (IsName n ∧ n.length + 3 ≤ maxNameLength) ⟨fun h => ⟨h.1, h.2⟩, fun h => ⟨h.1, h.2⟩⟩

/-- A text is this statement, with these names in its places. -/
structure FixedText (text : List UInt8) (names : List Name) (places : Write Unit) : Prop where
  reads : Reads text (sentText text) (names.map namedMark)
  named : ∀ n ∈ names, ParameterName n
  distinct : names.Nodup
  places : Sql.readWrite (sentText text) = some places
  length_lt : text.length < intMax
  ne_nil : text ≠ []

/-- What is evaluated of a text. -/
def checksText (text : List UInt8) (names : List Name) (places : Write Unit) : Bool :=
  decide (parameterNames text = names.map namedMark) && decide (0 ∉ text) &&
    names.all (fun n => decide (ParameterName n)) && decide names.Nodup &&
    decide (Sql.readWrite (sentText text) = some places) && decide (text.length < intMax) && decide (text ≠ [])

theorem FixedText.of_check {text : List UInt8} {names : List Name} {places : Write Unit} (h : checksText text names places = true) :
    FixedText text names places := by
  unfold checksText at h
  simp only [Bool.and_eq_true, decide_eq_true_eq, List.all_eq_true] at h
  obtain ⟨⟨⟨⟨⟨⟨hnames, hnul⟩, hnamed⟩, hdistinct⟩, hplaces⟩, hlen⟩, hne⟩ := h
  exact ⟨⟨rfl, hnames, hnul⟩, hnamed, hdistinct, hplaces, hlen, hne⟩

/-- An empty statement for values that are bound by name. -/
theorem FixedText.query {text : List UInt8} {names : List Name} {places : Write Unit} (h : FixedText text names places) :
    ∃ q, bxDatabaseNewQuery text = some (some q) ∧ cString q.query = sentText text ∧ Named q names ∧
      q.values = names.map fun _ => none := by
  have htext : cString text = text :=
    List.takeWhile_eq_self_iff.mpr fun c hc => decide_eq_true fun h0 => h.reads.nul_notMem (h0 ▸ hc)
  have hfit : NamesFit text := by
    refine ⟨?_, by rw [htext]; exact h.length_lt⟩
    rw [htext, h.reads.names]
    intro name hname
    obtain ⟨n, hn, rfl⟩ := List.mem_map.mp hname
    have := (h.named n hn).fits
    rw [namedMark, List.length_cons]
    omega
  obtain ⟨q, hq, hquery, hcount, hparams⟩ := bxDatabaseNewQuery_fits hfit (by rw [htext]; exact h.ne_nil)
  rw [htext] at hquery hcount hparams
  rw [h.reads.names, List.map_map] at hparams
  refine ⟨q, hq, hquery, ⟨?_, ?_⟩, ?_⟩
  · rw [hcount, hparams, h.reads.names, List.length_map, List.length_map]
  · rw [hparams, List.map_map]
    rfl
  · rw [BXDatabaseQuery.values, hparams, List.map_map]
    rfl

section

variable {text : List UInt8} {names : List Name} {places : Write Unit} {bindings : List (Name × BoundValue)}

/-- What a name is sent as. -/
def sentOf (bindings : List (Name × BoundValue)) (n : Name) : SqlValue := (valueOf bindings n).sent

/-- The names that are bound differ, fit, and are those of the text. -/
structure BindsAll (names : List Name) (bindings : List (Name × BoundValue)) : Prop where
  distinct : (bindings.map Prod.fst).Nodup
  mem_iff : ∀ n, n ∈ bindings.map Prod.fst ↔ n ∈ names

theorem FixedText.bindNamed_write (h : FixedText text names places) (hb : BindsAll names bindings) {q : BXDatabaseQuery}
    (hquery : cString q.query = sentText text) (hnamed : Named q names) (hnone : q.values = names.map fun _ => none) :
    (bindNamed q bindings).write = places.fill (names.map (sentOf bindings)) := by
  have hparameters : ∀ b ∈ bindings, ParameterName b.1 := fun b hmem =>
    h.named _ ((hb.mem_iff _).mp (List.mem_map_of_mem hmem))
  have hvalues : (bindAll bindings q).values = names.map fun n => some (valueOf bindings n) := by
    rw [bindAll_distinct hnamed h.named hparameters h.distinct hnone]
    refine List.map_congr_left fun n hn => ?_
    obtain ⟨b, hmem, rfl⟩ := List.mem_map.mp ((hb.mem_iff n).mpr hn)
    rw [assign_bindings hb.distinct hmem, valueOf_of_mem hb.distinct hmem]
  have hall : (bindAll bindings q).parameters.all (fun p => p.value.isSome) = true := by
    rw [List.all_eq_true]
    intro p hp
    have hmem : p.value ∈ (bindAll bindings q).values := List.mem_map_of_mem hp
    rw [hvalues] at hmem
    obtain ⟨n, -, hn⟩ := List.mem_map.mp hmem
    rw [← hn]
    rfl
  have hsent : (bindAll bindings q).parameters.filterMap (fun p => p.value.map BoundValue.sent) = names.map (sentOf bindings) := by
    have hcomp : (bindAll bindings q).parameters.filterMap (fun p => p.value.map BoundValue.sent) =
        (bindAll bindings q).values.filterMap fun v => v.map BoundValue.sent := by
      rw [BXDatabaseQuery.values, List.filterMap_map]
      rfl
    rw [hcomp, hvalues, List.filterMap_map, ← List.filterMap_eq_map]
    rfl
  change (bindAll bindings q).write = _
  unfold BXDatabaseQuery.write
  rw [if_pos hall, bindAll_query, hquery, h.places, hsent]
  rfl

theorem bindParams_eq (hnamed : ∀ n ∈ names, ParameterName n) {q : BXDatabaseQuery} (hq : Named q names)
    (hb : ∀ b ∈ bindings, b.1 ∈ names) : bindParams bindings q = some (bindNamed q bindings) := by
  induction bindings generalizing q with
  | nil => rfl
  | cons b bindings ih =>
    have hmem : b.1 ∈ names := hb b List.mem_cons_self
    have hfound : (findParam q (58 :: b.1)).isNone = false := by
      change (findParam q (namedMark b.1)).isNone = false
      rw [hq.findParam hnamed (hnamed _ hmem), Option.isNone_eq_false_iff, List.findIdx?_isSome, List.any_eq_true]
      exact ⟨b.1, hmem, decide_eq_true rfl⟩
    rw [bindParams, hfound, if_neg Bool.false_ne_true, ih (hq.addParam _ _) fun c hc => hb c (List.mem_cons_of_mem _ hc)]
    rfl

variable {tables : SqlTables} {exec : Exec} {w : Write SqlValue}

/-- A fixed text is sent as its statement with the values that were bound. -/
theorem FixedText.sendNamed (h : FixedText text names places) (hb : BindsAll names bindings)
    (hw : places.fill (names.map (sentOf bindings)) = some w) :
    sendNamed tables text bindings exec = some (exec.run tables fun fk cv => syncSchema.run sameInteger .null tables fk cv w) := by
  obtain ⟨q, hq, hquery, hnamed, hnone⟩ := h.query
  unfold BxSync.sendNamed
  simp only [hq, h.bindNamed_write hb hquery hnamed hnone, hw, Option.bind_eq_bind, Option.bind_some, Option.pure_def]

theorem FixedText.sendParams (h : FixedText text names places) (hb : BindsAll names bindings)
    (hw : places.fill (names.map (sentOf bindings)) = some w) :
    sendParams tables text bindings exec = some (exec.run tables fun fk cv => syncSchema.run sameInteger .null tables fk cv w) := by
  obtain ⟨q, hq, hquery, hnamed, hnone⟩ := h.query
  have hparams := bindParams_eq h.named hnamed fun b hmem => (hb.mem_iff _).mp (List.mem_map_of_mem hmem)
  unfold BxSync.sendParams
  simp only [hq, hparams, h.bindNamed_write hb hquery hnamed hnone, hw, Option.bind_eq_bind, Option.bind_some, Option.pure_def]

end

/-- A text is a SELECT of one column. -/
structure SelectText (text : List UInt8) (column table : Name) (keys : List (Name × Name)) : Prop where
  text_eq : text = (Sql.Statement.select column table keys).text namedMark
  wellFormed : (Sql.Statement.select column table keys).WellFormed
  named : ∀ n ∈ keys.map Prod.snd, ParameterName n
  distinct : (keys.map Prod.snd).Nodup
  length_lt : text.length < intMax

/-- What is selected. -/
theorem SelectText.selectColumn {text : List UInt8} {column table : Name} {keys : List (Name × Name)}
    (h : SelectText text column table keys) {tables : SqlTables} {bindings : List (Name × BoundValue)}
    (hb : BindsAll (keys.map Prod.snd) bindings) :
    selectColumn tables text bindings =
      some (((tables table).filter (Sql.meets sameInteger (keys.map fun k => (k.1, sentOf bindings k.2)))).map (· column)) := by
  obtain ⟨htext, hwell, hnamed, hdistinct, hlen⟩ := h
  rw [htext] at hlen
  obtain ⟨q, hq, hquery, hparams, hnone⟩ := bxDatabaseNewQuery_statement hwell hnamed hlen
  have hstatement := statement_bindAll hb.distinct hwell hnamed hquery hparams hnone
    (fun b hmem => hnamed _ ((hb.mem_iff _).mp (List.mem_map_of_mem hmem))) hdistinct fun n hn => (hb.mem_iff n).mpr hn
  have hbound : (bindNamed q bindings).statement =
      some ((Sql.Statement.select column table keys).map fun n => (valueOf bindings n).sent) := hstatement
  unfold BxSync.selectColumn
  rw [htext]
  simp only [hq, hbound, Option.bind_eq_bind, Option.bind_some, Option.pure_def]
  rfl

/-! ### The two texts of a table -/

instance (table c : Name) : Decidable (c ∈ syncSchema.key table) :=
  decidable_of_iff ((syncSchema.key table).contains c = true) List.contains_iff_mem

/-- The columns of a table with the names in their places, and the parts of an UPDATE. -/
def keyPairs (table : Name) (pairs : List (Name × Name)) : List (Name × Name) := pairs.filter fun p => p.1 ∈ syncSchema.key table

def setPairs (table : Name) (pairs : List (Name × Name)) : List (Name × Name) := pairs.filter fun p => p.1 ∉ syncSchema.key table

def placed (pairs : List (Name × Name)) : List (Name × Unit) := pairs.map fun p => (p.1, ())

/-- An INSERT of all columns of a table, an UPDATE of those that are not of its key, and the names that are bound for
    either. -/
structure RowTexts (insertText updateText : List UInt8) (ignore : Bool) (table : Name) (pairs : List (Name × Name))
    (bound : List Name) : Prop where
  insert : FixedText insertText (pairs.map Prod.snd) (.insert ignore table (pairs.map Prod.fst) (pairs.map fun _ => ()))
  update : FixedText updateText ((setPairs table pairs ++ keyPairs table pairs).map Prod.snd)
    (.update table (placed (setPairs table pairs)) (placed (keyPairs table pairs)))
  columns : (pairs.map Prod.fst).Nodup
  bound_nodup : bound.Nodup
  bound_iff : ∀ n, n ∈ bound ↔ n ∈ pairs.map Prod.snd
  keyed : ∀ c ∈ syncSchema.key table, c ∈ pairs.map Prod.fst

def checksRows (insertText updateText : List UInt8) (ignore : Bool) (table : Name) (pairs : List (Name × Name)) (bound : List Name) :
    Bool :=
  checksText insertText (pairs.map Prod.snd) (.insert ignore table (pairs.map Prod.fst) (pairs.map fun _ => ())) &&
    checksText updateText ((setPairs table pairs ++ keyPairs table pairs).map Prod.snd)
      (.update table (placed (setPairs table pairs)) (placed (keyPairs table pairs))) &&
    decide (pairs.map Prod.fst).Nodup && decide bound.Nodup && bound.all (pairs.map Prod.snd).contains &&
    (pairs.map Prod.snd).all bound.contains && (syncSchema.key table).all (pairs.map Prod.fst).contains

theorem RowTexts.of_check {insertText updateText : List UInt8} {ignore : Bool} {table : Name} {pairs : List (Name × Name)}
    {bound : List Name} (h : checksRows insertText updateText ignore table pairs bound = true) :
    RowTexts insertText updateText ignore table pairs bound := by
  unfold checksRows at h
  simp only [Bool.and_eq_true, decide_eq_true_eq, List.all_eq_true, List.contains_iff_mem] at h
  obtain ⟨⟨⟨⟨⟨⟨hinsert, hupdate⟩, hcolumns⟩, hnodup⟩, hbound⟩, hpairs⟩, hkeyed⟩ := h
  exact ⟨.of_check hinsert, .of_check hupdate, hcolumns, hnodup, fun n => ⟨hbound n, hpairs n⟩, hkeyed⟩

/-- The pairs of columns and names. -/
def pairsOf (columns names : List String) : List (Name × Name) := (columns.map asciiBytes).zip (names.map asciiBytes)

theorem RowTexts.of_spelled {inserted updated columns names bound : List String} {ics ucs ccs ncs bcs : List (List Char)}
    {table : Name} {ignore : Bool} (hi : Spelled inserted ics) (hu : Spelled updated ucs) (hc : Spelled columns ccs)
    (hn : Spelled names ncs) (hb : Spelled bound bcs)
    (h : checksRows (ics.flatMap charBytes) (ucs.flatMap charBytes) ignore table ((ccs.map charBytes).zip (ncs.map charBytes))
      (bcs.map charBytes) = true) :
    RowTexts (sqlText inserted) (sqlText updated) ignore table (pairsOf columns names) (bound.map asciiBytes) := by
  rw [hi.sqlText_eq, hu.sqlText_eq, pairsOf, hc.map_asciiBytes, hn.map_asciiBytes, hb.map_asciiBytes]
  exact .of_check h

end BxSync
