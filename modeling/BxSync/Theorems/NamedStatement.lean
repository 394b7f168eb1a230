import BxSync.Theorems.ParameterNames
import BxSync.UpsertSql

/-! From the text of a statement with named parameters to the statement the server runs: each name becomes a place, a
    value is bound to the first place of its name, and the places are filled in order. -/

namespace BxSync

open Sql (Name Statement IsName joined pairText place bytes)

/-! ### Translation -/

/-- A text is sent as another one and has these parameters, and no NUL ends it. -/
structure Reads (text sent : List UInt8) (names : List (List UInt8)) : Prop where
  sent : sentText text = sent
  names : parameterNames text = names
  nul_notMem : 0 ∉ text

/-- Neither a colon nor a NUL. -/
def plain (c : UInt8) : Bool := c ≠ 58 && c ≠ 0

theorem plain_iff (c : UInt8) : plain c = true ↔ c ≠ 58 ∧ c ≠ 0 := by simp [plain]

namespace Reads

variable {a b a' b' : List UInt8} {ns ms : List (List UInt8)}

theorem literal (h : ∀ c ∈ a, plain c) : Reads a a [] := by
  have hcolon : ∀ c ∈ a, c ≠ 58 := fun c hc => ((plain_iff c).mp (h c hc)).1
  have hpieces : sqlPieces a = a.map SqlPiece.byte := by
    have happend := sqlPieces_append [] hcolon
    rw [List.append_nil] at happend
    exact happend.trans (List.append_nil _)
  refine ⟨?_, ?_, fun hnul => ((plain_iff 0).mp (h 0 hnul)).2 rfl⟩
  · rw [sentText, hpieces, List.flatMap_map]
    exact List.flatMap_singleton' a
  · rw [parameterNames, hpieces, List.filterMap_map]
    exact List.filterMap_eq_nil_iff.mpr fun _ _ => rfl

theorem ofPieces (ha : Reads a a' ns) (hb : Reads b b' ms) (h : sqlPieces (a ++ b) = sqlPieces a ++ sqlPieces b) :
    Reads (a ++ b) (a' ++ b') (ns ++ ms) := by
  refine ⟨?_, ?_, fun hnul => (List.mem_append.mp hnul).elim ha.nul_notMem hb.nul_notMem⟩
  · rw [sentText, h, List.flatMap_append, ← ha.sent, ← hb.sent]
    rfl
  · rw [parameterNames, h, List.filterMap_append, ← ha.names, ← hb.names]
    rfl

/-- The second text starts with no name. -/
theorem append (ha : Reads a a' ns) (hb : Reads b b' ms) (h : startsName b = false) :
    Reads (a ++ b) (a' ++ b') (ns ++ ms) :=
  ha.ofPieces hb (sqlPieces_append_of_startsName a h)

theorem literal_append (h : ∀ c ∈ a, plain c) (hb : Reads b b' ms) : Reads (a ++ b) (a ++ b') ms := by
  have hcolon : ∀ c ∈ a, c ≠ 58 := fun c hc => ((plain_iff c).mp (h c hc)).1
  have hpieces := sqlPieces_append [] hcolon
  rw [List.append_nil] at hpieces
  refine (literal h).ofPieces hb ?_
  rw [sqlPieces_append b hcolon, hpieces]
  exact congrArg (· ++ sqlPieces b) (List.append_nil _).symm

/-- The mark of a named value. -/
theorem named {n : Name} (hn : IsName n) : Reads (58 :: n) [63] [58 :: n] := by
  have hpieces : sqlPieces (58 :: n) = [.param (58 :: n)] := by
    have hparam := sqlPieces_param [] hn.ne_nil hn.word rfl
    rwa [List.append_nil] at hparam
  refine ⟨?_, ?_, fun hnul => ?_⟩
  · rw [sentText, hpieces]
    rfl
  · rw [parameterNames, hpieces]
    rfl
  · rcases List.mem_cons.mp hnul with hnul | hnul
    · exact absurd hnul (by decide)
    · exact isVariableChar_ne_nul (hn.word 0 hnul) rfl

theorem joined {α : Type} {sep : List UInt8} (hsep : ∀ c ∈ sep, plain c) (hstart : startsName sep = false) (hne : sep ≠ [])
    {f g : α → List UInt8} {names : α → List (List UInt8)} {l : List α} (h : ∀ x ∈ l, Reads (f x) (g x) (names x)) :
    Reads (joined sep (l.map f)) (joined sep (l.map g)) (l.flatMap names) := by
  have hrest : ∀ l : List α, startsName ((l.map f).flatMap (sep ++ ·)) = false := by
    intro l
    cases l with
    | nil => rfl
    | cons x l =>
      cases sep with
      | nil => exact absurd rfl hne
      | cons => exact hstart
  have htail : ∀ l : List α, (∀ x ∈ l, Reads (f x) (g x) (names x)) →
      Reads ((l.map f).flatMap (sep ++ ·)) ((l.map g).flatMap (sep ++ ·)) (l.flatMap names) := by
    intro l hl
    induction l with
    | nil => exact literal nofun
    | cons x l ih =>
      exact (literal_append hsep (hl x List.mem_cons_self)).append (ih fun y hy => hl y (List.mem_cons_of_mem _ hy)) (hrest l)
  cases l with
  | nil => exact literal nofun
  | cons x l => exact (h x List.mem_cons_self).append (htail l fun y hy => h y (List.mem_cons_of_mem _ hy)) (hrest l)

end Reads

theorem isName_plain {n : Name} (h : IsName n) : ∀ c ∈ n, plain c := fun c hc =>
  (plain_iff c).mpr ⟨isVariableChar_ne_colon (h.word c hc), isVariableChar_ne_nul (h.word c hc)⟩

/-- The mark of a value by its name. -/
def namedMark (n : Name) : List UInt8 := 58 :: n

theorem reads_pairs {sep : List UInt8} (hsep : ∀ c ∈ sep, plain c) (hstart : startsName sep = false) (hne : sep ≠ [])
    {ps : List (Name × Name)} (h : ∀ p ∈ ps, IsName p.1 ∧ IsName p.2) :
    Reads (joined sep (ps.map (pairText namedMark))) (joined sep (ps.map (pairText place))) ((ps.map Prod.snd).map namedMark) := by
  have hpair : ∀ p ∈ ps, Reads (pairText namedMark p) (pairText place p) [namedMark p.2] := fun p hp =>
    Reads.literal_append (isName_plain (h p hp).1) (Reads.literal_append (by decide +kernel) (Reads.named (h p hp).2))
  have hall := Reads.joined hsep hstart hne hpair
  rw [← List.map_eq_flatMap] at hall
  rw [List.map_map]
  exact hall

theorem joined_plain {columns : List Name} (h : ∀ n ∈ columns, IsName n) : ∀ c ∈ joined (bytes ", ") columns, plain c := by
  have hcomma : ∀ c ∈ bytes ", ", plain c := by decide +kernel
  have htail : ∀ l : List Name, (∀ n ∈ l, IsName n) → ∀ c ∈ l.flatMap (bytes ", " ++ ·), plain c := by
    intro l hl c hc
    obtain ⟨n, hn, hc⟩ := List.mem_flatMap.mp hc
    rcases List.mem_append.mp hc with hc | hc
    · exact hcomma c hc
    · exact isName_plain (hl n hn) c hc
  cases columns with
  | nil => exact nofun
  | cons n columns =>
    intro c hc
    rcases List.mem_append.mp hc with hc | hc
    · exact isName_plain (h n List.mem_cons_self) c hc
    · exact htail columns (fun m hm => h m (List.mem_cons_of_mem _ hm)) c hc

/-- The text of a statement is sent with its places. -/
theorem reads_text {s : Statement Name} (h : s.WellFormed) (hnames : ∀ n ∈ s.values, IsName n) :
    Reads (s.text namedMark) (s.text place) (s.values.map namedMark) := by
  cases s with
  | select column table keys =>
    obtain ⟨hcolumn, htable, -, hkeys⟩ := h
    have hpairs : ∀ p ∈ keys, IsName p.1 ∧ IsName p.2 := fun p hp => ⟨hkeys p hp, hnames _ (List.mem_map_of_mem hp)⟩
    exact Reads.literal_append (by decide +kernel) (Reads.literal_append (isName_plain hcolumn) (Reads.literal_append (by decide +kernel)
      (Reads.literal_append (isName_plain htable) (Reads.literal_append (by decide +kernel)
        (reads_pairs (by decide +kernel) (by decide +kernel) (by decide +kernel) hpairs)))))
  | insert table columns values =>
    obtain ⟨htable, ⟨-, hcolumns⟩, -⟩ := h
    have hmarks : Reads (joined (bytes ", ") (values.map namedMark)) (joined (bytes ", ") (values.map place))
        (values.map namedMark) := by
      have hall : Reads (joined (bytes ", ") (values.map namedMark)) (joined (bytes ", ") (values.map place))
          (values.flatMap fun n => [namedMark n]) :=
        Reads.joined (by decide +kernel) (by decide +kernel) (by decide +kernel) fun n hn => Reads.named (hnames n hn)
      rwa [← List.map_eq_flatMap] at hall
    have hend := hmarks.append (Reads.literal (a := bytes ")") (by decide +kernel)) (by decide +kernel)
    rw [List.append_nil] at hend
    exact Reads.literal_append (by decide +kernel) (Reads.literal_append (isName_plain htable) (Reads.literal_append (by decide +kernel)
      (Reads.literal_append (joined_plain hcolumns) (Reads.literal_append (by decide +kernel) hend))))
  | update table sets keys =>
    obtain ⟨htable, ⟨-, hsets⟩, -, hkeys⟩ := h
    have hsetPairs : ∀ p ∈ sets, IsName p.1 ∧ IsName p.2 := fun p hp =>
      ⟨hsets p hp, hnames _ (List.mem_append_left _ (List.mem_map_of_mem hp))⟩
    have hkeyPairs : ∀ p ∈ keys, IsName p.1 ∧ IsName p.2 := fun p hp =>
      ⟨hkeys p hp, hnames _ (List.mem_append_right _ (List.mem_map_of_mem hp))⟩
    have hbehind := Reads.literal_append (a := bytes " WHERE ") (by decide +kernel)
      (reads_pairs (by decide +kernel : ∀ c ∈ bytes " AND ", plain c) (by decide +kernel) (by decide +kernel) hkeyPairs)
    have hall := (reads_pairs (by decide +kernel : ∀ c ∈ bytes ", ", plain c) (by decide +kernel) (by decide +kernel) hsetPairs).append hbehind (by rfl)
    rw [← List.map_append] at hall
    exact Reads.literal_append (by decide +kernel) (Reads.literal_append (isName_plain htable) (Reads.literal_append (by decide +kernel) hall))

/-! ### Binding -/

theorem findIdx?_congr {α : Type} {p q : α → Bool} {l : List α} (h : ∀ a ∈ l, p a = q a) : l.findIdx? p = l.findIdx? q := by
  induction l with
  | nil => rfl
  | cons a l ih =>
    rw [List.findIdx?_cons, List.findIdx?_cons, h a List.mem_cons_self, ih fun b hb => h b (List.mem_cons_of_mem _ hb)]

/-- A name of a statement, whose mark fits the buffer of a parameter. -/
structure ParameterName (n : Name) : Prop where
  isName : IsName n
  fits : n.length + 3 ≤ maxNameLength

/-- The parameters of a query have these names. -/
structure Named (q : BXDatabaseQuery) (ns : List Name) : Prop where
  count : q.paramCount = q.parameters.length
  names : q.parameters.map (·.name) = ns.map fun n => (takenParameter (namedMark n)).name

def BXDatabaseQuery.values (q : BXDatabaseQuery) : List (Option BoundValue) := q.parameters.map (·.value)

theorem addParam_names (q : BXDatabaseQuery) (name : List UInt8) (v : BoundValue) :
    (addParam q name v).parameters.map (·.name) = q.parameters.map (·.name) := by
  unfold addParam
  split
  · rfl
  · dsimp only
    apply List.ext_getElem?
    intro k
    rw [List.getElem?_map, List.getElem?_map, List.getElem?_modify]
    cases q.parameters[k]? with
    | none => rfl
    | some p => exact congrArg some (by dsimp only [Option.map_some]; split <;> rfl)

theorem addParam_values (q : BXDatabaseQuery) (name : List UInt8) (v : BoundValue) :
    (addParam q name v).values = (findParam q name).elim q.values fun i => q.values.set i (some v) := by
  unfold addParam BXDatabaseQuery.values
  cases findParam q name with
  | none => rfl
  | some i =>
    dsimp only [Option.elim]
    apply List.ext_getElem?
    intro k
    rw [List.getElem?_set, List.getElem?_map, List.getElem?_map, List.getElem?_modify, List.length_map]
    split
    · rename_i hik
      subst hik
      split
      · rename_i hlt
        rw [List.getElem?_eq_getElem hlt]
        simp
      · rename_i hlt
        rw [List.getElem?_eq_none (by omega)]
        rfl
    · simp

@[simp] theorem addParam_query (q : BXDatabaseQuery) (name : List UInt8) (v : BoundValue) : (addParam q name v).query = q.query := by
  unfold addParam
  split <;> rfl

@[simp] theorem addParam_paramCount (q : BXDatabaseQuery) (name : List UInt8) (v : BoundValue) :
    (addParam q name v).paramCount = q.paramCount := by
  unfold addParam
  split <;> rfl

theorem namedMark_nul {n : Name} (hn : ParameterName n) : 0 ∉ namedMark n := (Reads.named hn.isName).nul_notMem

/-- `strncmp` tells two names apart. -/
theorem name_eq_iff {m n : Name} (hm : ParameterName m) (hn : ParameterName n) :
    (cString (namedMark m)).take maxNameLength = (cString (takenParameter (namedMark n)).name).take maxNameLength ↔ n = m := by
  have hfit : ∀ {k : Name}, ParameterName k → (namedMark k).length + 2 ≤ maxNameLength := fun hk => by
    have := hk.fits
    rw [namedMark, List.length_cons]
    omega
  have hself : cString (namedMark m) = namedMark m :=
    List.takeWhile_eq_self_iff.mpr fun c hc => decide_eq_true fun h => namedMark_nul hm (h ▸ hc)
  rw [(takenParameter_name (namedMark_nul hn) (hfit hn)).1, hself, List.take_of_length_le, List.take_of_length_le]
  · exact ⟨fun h => (List.cons.inj h).2.symm, fun h => h ▸ rfl⟩
  · have := hfit hn
    omega
  · have := hfit hm
    omega

namespace Named

variable {q : BXDatabaseQuery} {ns : List Name}

theorem length (h : Named q ns) : q.parameters.length = ns.length := by
  have := congrArg List.length h.names
  rwa [List.length_map, List.length_map] at this

theorem addParam (h : Named q ns) (name : List UInt8) (v : BoundValue) : Named (addParam q name v) ns where
  count := by
    have hlen := congrArg List.length (addParam_names q name v)
    rw [List.length_map, List.length_map] at hlen
    rw [addParam_paramCount, h.count, hlen]
  names := (addParam_names q name v).trans h.names

theorem findParam (h : Named q ns) (hns : ∀ n ∈ ns, ParameterName n) {m : Name} (hm : ParameterName m) :
    findParam q (namedMark m) = ns.findIdx? (· = m) := by
  have hall : q.parameters.take q.paramCount = q.parameters := List.take_of_length_le (Nat.le_of_eq h.count.symm)
  have hsplit : q.parameters.findIdx? (fun p =>
      (cString (namedMark m)).take maxNameLength = (cString p.name).take maxNameLength) =
      (q.parameters.map (·.name)).findIdx? fun b =>
        (cString (namedMark m)).take maxNameLength = (cString b).take maxNameLength := by
    rw [List.findIdx?_map]
    rfl
  unfold BxSync.findParam
  rw [hall, hsplit, h.names, List.findIdx?_map]
  exact findIdx?_congr fun n hn => decide_eq_decide.mpr (name_eq_iff hm (hns n hn))

theorem values_addParam (h : Named q ns) (hns : ∀ n ∈ ns, ParameterName n) {m : Name} (hm : ParameterName m) (v : BoundValue) :
    (BxSync.addParam q (namedMark m) v).values = (ns.findIdx? (· = m)).elim q.values fun i => q.values.set i (some v) := by
  rw [addParam_values, h.findParam hns hm]

/-- A place whose name was there before stays without a value. -/
theorem values_repeated (h : Named q ns) (hns : ∀ n ∈ ns, ParameterName n) {j k : Nat} {n : Name} (hjk : j < k)
    (hj : ns[j]? = some n) (hk : ns[k]? = some n) {m : Name} (hm : ParameterName m) (v : BoundValue)
    (hnone : q.values[k]? = some none) : (BxSync.addParam q (namedMark m) v).values[k]? = some none := by
  rw [h.values_addParam hns hm]
  cases hfind : ns.findIdx? (· = m) with
  | none => exact hnone
  | some i =>
    obtain ⟨hi, hname, hfirst⟩ := List.findIdx?_eq_some_iff_getElem.mp hfind
    have hne : i ≠ k := by
      rintro rfl
      obtain ⟨hlt, hget⟩ := List.getElem?_eq_some_iff.mp hj
      rw [List.getElem?_eq_getElem hi] at hk
      have hsame := hfirst j hjk
      rw [hget, ← Option.some.inj hk] at hsame
      exact hsame hname
    show (q.values.set i (some v))[k]? = some none
    rw [List.getElem?_set_ne hne]
    exact hnone

/-- When all names differ, each place has the value its name has. -/
theorem values_distinct (h : Named q ns) (hns : ∀ n ∈ ns, ParameterName n) (hnodup : ns.Nodup) {m : Name}
    (hm : ParameterName m) (v : BoundValue) {g : Name → Option BoundValue} (hvalues : q.values = ns.map g) :
    (BxSync.addParam q (namedMark m) v).values = ns.map (Function.update g m (some v)) := by
  rw [h.values_addParam hns hm, hvalues]
  cases hfind : ns.findIdx? (· = m) with
  | none =>
    rw [List.findIdx?_eq_none_iff] at hfind
    refine List.map_congr_left fun n hn => ?_
    rw [Function.update_of_ne (by simpa using hfind n hn)]
  | some i =>
    obtain ⟨hi, hname, -⟩ := List.findIdx?_eq_some_iff_getElem.mp hfind
    have hname : ns[i] = m := by simpa using hname
    apply List.ext_getElem?
    intro k
    show ((ns.map g).set i (some v))[k]? = _
    rw [List.getElem?_set, List.getElem?_map, List.getElem?_map, List.length_map]
    split
    · rename_i hik
      subst hik
      rw [List.getElem?_eq_getElem hi, Option.map_some, hname, Function.update_self]
    · rename_i hik
      cases hk : ns[k]? with
      | none => rfl
      | some n =>
        obtain ⟨hlt, hget⟩ := List.getElem?_eq_some_iff.mp hk
        have hne : n ≠ m := by
          intro heq
          exact hik ((hnodup.getElem_inj_iff).mp (hname.trans (heq.symm.trans hget.symm)))
        rw [Option.map_some, Option.map_some, Function.update_of_ne hne]

end Named

/-- Values are added one after the other. -/
def bindAll (bindings : List (Name × BoundValue)) (q : BXDatabaseQuery) : BXDatabaseQuery :=
  bindings.foldl (fun q b => addParam q (namedMark b.1) b.2) q

section

variable {q : BXDatabaseQuery} {ns : List Name} {bindings : List (Name × BoundValue)}

theorem bindAll_query (q : BXDatabaseQuery) (bindings : List (Name × BoundValue)) : (bindAll bindings q).query = q.query := by
  induction bindings generalizing q with
  | nil => rfl
  | cons b bindings ih => exact (ih _).trans (addParam_query ..)

theorem Named.bindAll (h : Named q ns) (bindings : List (Name × BoundValue)) : Named (bindAll bindings q) ns := by
  induction bindings generalizing q with
  | nil => exact h
  | cons b bindings ih => exact ih (h.addParam _ _)

theorem bindAll_repeated (h : Named q ns) (hns : ∀ n ∈ ns, ParameterName n) (hb : ∀ b ∈ bindings, ParameterName b.1)
    {j k : Nat} {n : Name} (hjk : j < k) (hj : ns[j]? = some n) (hk : ns[k]? = some n) (hnone : q.values[k]? = some none) :
    (bindAll bindings q).values[k]? = some none := by
  induction bindings generalizing q with
  | nil => exact hnone
  | cons b bindings ih =>
    exact ih (h.addParam _ _) (fun c hc => hb c (List.mem_cons_of_mem _ hc))
      (h.values_repeated hns hjk hj hk (hb b List.mem_cons_self) b.2 hnone)

theorem bindAll_distinct (h : Named q ns) (hns : ∀ n ∈ ns, ParameterName n) (hb : ∀ b ∈ bindings, ParameterName b.1)
    (hnodup : ns.Nodup) {g : Name → Option BoundValue} (hvalues : q.values = ns.map g) :
    (bindAll bindings q).values = ns.map (Sql.assign g (bindings.map fun b => (b.1, some b.2))) := by
  induction bindings generalizing q g with
  | nil => exact hvalues
  | cons b bindings ih =>
    exact ih (h.addParam _ _) (fun c hc => hb c (List.mem_cons_of_mem _ hc))
      (h.values_distinct hns hnodup (hb b List.mem_cons_self) b.2 hvalues)

end

/-! ### What the server runs -/

section

variable {s : Statement Name}

theorem bxDatabaseNewQuery_statement (h : s.WellFormed) (hnames : ∀ n ∈ s.values, ParameterName n)
    (hlen : (s.text namedMark).length < intMax) :
    ∃ q, bxDatabaseNewQuery (s.text namedMark) = some (some q) ∧ cString q.query = s.text place ∧ Named q s.values ∧
      q.values = s.values.map fun _ => none := by
  have hreads := reads_text h fun n hn => (hnames n hn).isName
  have htext : cString (s.text namedMark) = s.text namedMark :=
    List.takeWhile_eq_self_iff.mpr fun c hc => decide_eq_true fun h => hreads.nul_notMem (h ▸ hc)
  have hfit : NamesFit (s.text namedMark) := by
    refine ⟨?_, by rw [htext]; exact hlen⟩
    rw [htext, hreads.names]
    intro name hname
    obtain ⟨n, hn, rfl⟩ := List.mem_map.mp hname
    have := (hnames n hn).fits
    rw [namedMark, List.length_cons]
    omega
  have hne : cString (s.text namedMark) ≠ [] := by
    rw [htext]
    cases s <;> simp [Statement.text, bytes]
  obtain ⟨q, hq, hquery, hcount, hparams⟩ := bxDatabaseNewQuery_fits hfit hne
  rw [htext] at hquery hcount hparams
  rw [hreads.names, List.map_map] at hparams
  refine ⟨q, hq, hquery.trans hreads.sent, ⟨?_, ?_⟩, ?_⟩
  · rw [hcount, hparams, hreads.names, List.length_map, List.length_map]
  · rw [hparams, List.map_map]
    rfl
  · rw [BXDatabaseQuery.values, hparams, List.map_map]
    rfl

variable {q : BXDatabaseQuery}

/-- The places are filled with the values that were bound. -/
theorem statement_of_bound (h : s.WellFormed) (hquery : cString q.query = s.text place) {g : Name → BoundValue}
    (hvalues : q.values = s.values.map fun n => some (g n)) : q.statement = some (s.map fun n => (g n).sent) := by
  have hall : q.parameters.all (fun p => p.value.isSome) = true := by
    rw [List.all_eq_true]
    intro p hp
    have hmem : p.value ∈ q.values := List.mem_map_of_mem hp
    rw [hvalues] at hmem
    obtain ⟨n, -, hn⟩ := List.mem_map.mp hmem
    rw [← hn]
    rfl
  have hsent : q.parameters.filterMap (fun p => p.value.map BoundValue.sent) = (s.map fun n => (g n).sent).values := by
    have hcomp : q.parameters.filterMap (fun p => p.value.map BoundValue.sent) =
        q.values.filterMap fun v => v.map BoundValue.sent := by
      rw [BXDatabaseQuery.values, List.filterMap_map]
      rfl
    rw [hcomp, hvalues, List.filterMap_map, Statement.values_map, ← List.filterMap_eq_map]
    rfl
  have hfill := Statement.fill_values (s.map fun n => (g n).sent)
  rw [Statement.map_map] at hfill
  unfold BXDatabaseQuery.statement
  rw [if_pos hall, hquery, Sql.parse_text h, hsent]
  exact hfill

/-- The value a name was bound to. -/
def valueOf (bindings : List (Name × BoundValue)) (n : Name) : BoundValue :=
  (Sql.assign (fun _ => none) (bindings.map fun b => (b.1, some b.2)) n).getD .null

section

variable {bindings : List (Name × BoundValue)}

theorem assign_bindings (hkeys : (bindings.map Prod.fst).Nodup) {b : Name × BoundValue} (hb : b ∈ bindings) :
    Sql.assign (fun _ => none) (bindings.map fun b => (b.1, some b.2)) b.1 = some b.2 := by
  have hnodup : ((bindings.map fun b => (b.1, some b.2)).map Prod.fst).Nodup := by
    rw [List.map_map]
    exact hkeys
  exact Sql.assign_of_mem (fun _ => none) hnodup (s := (b.1, some b.2)) (List.mem_map_of_mem hb)

theorem valueOf_of_mem (hkeys : (bindings.map Prod.fst).Nodup) {b : Name × BoundValue} (hb : b ∈ bindings) : valueOf bindings b.1 = b.2 := by
  rw [valueOf, assign_bindings hkeys hb]
  rfl

/-- A statement whose names differ and all have a value. -/
theorem statement_bindAll (hkeys : (bindings.map Prod.fst).Nodup) (h : s.WellFormed) (hnames : ∀ n ∈ s.values, ParameterName n) (hquery : cString q.query = s.text place)
    (hnamed : Named q s.values) (hnone : q.values = s.values.map fun _ => none) (hb : ∀ b ∈ bindings, ParameterName b.1)
    (hnodup : s.values.Nodup) (hbound : ∀ n ∈ s.values, n ∈ bindings.map Prod.fst) :
    (bindAll bindings q).statement = some (s.map fun n => (valueOf bindings n).sent) := by
  refine statement_of_bound h (by rw [bindAll_query]; exact hquery) ?_
  rw [bindAll_distinct hnamed hnames hb hnodup hnone]
  refine List.map_congr_left fun n hn => ?_
  obtain ⟨b, hb, rfl⟩ := List.mem_map.mp (hbound n hn)
  rw [assign_bindings hkeys hb, valueOf_of_mem hkeys hb]

end

/-- A name that occurs twice leaves a place without a value. -/
theorem statement_repeated (hnames : ∀ n ∈ s.values, ParameterName n) (hnamed : Named q s.values)
    (hnone : q.values = s.values.map fun _ => none) {bindings : List (Name × BoundValue)}
    (hb : ∀ b ∈ bindings, ParameterName b.1) (hdup : ¬s.values.Nodup) :
    ∃ p ∈ (bindAll bindings q).parameters, p.value = none := by
  rw [List.nodup_iff_getElem?_ne_getElem?] at hdup
  simp only [not_forall, ne_eq, not_not] at hdup
  obtain ⟨j, k, hjk, hk, heq⟩ := hdup
  have hget : s.values[k]? = some s.values[k] := List.getElem?_eq_getElem hk
  have hunbound : q.values[k]? = some none := by rw [hnone, List.getElem?_map, hget]; rfl
  have hlast := bindAll_repeated hnamed hnames hb hjk (heq.trans hget) hget hunbound
  exact List.mem_map.mp (List.mem_of_getElem? hlast)

end

end BxSync
