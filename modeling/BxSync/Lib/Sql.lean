import Mathlib.Logic.Function.Basic
import Mathlib.Data.List.Nodup

/-! A small SQL over bytes: SELECT of one column, INSERT of one row and UPDATE, with conditions that are equalities
    joined by AND. Their texts with a mark for each value, what they do to tables, and that a text is read back
    as the statement it was written from. -/

namespace Sql

abbrev Name := List UInt8

def isWord (c : UInt8) : Bool := (48 ≤ c && c ≤ 57) || (97 ≤ c && c ≤ 122) || (65 ≤ c && c ≤ 90) || c = 95

structure IsName (n : Name) : Prop where
  ne_nil : n ≠ []
  word : ∀ c ∈ n, isWord c

instance (n : Name) : Decidable (IsName n) :=
  decidable_of_iff (n ≠ [] ∧ n.all isWord)
    ⟨fun h => ⟨h.1, List.all_eq_true.mp h.2⟩, fun h => ⟨h.1, List.all_eq_true.mpr h.2⟩⟩

/-- Each column and each value to compare with or to set is a pair. -/
inductive Statement (V : Type)
  | select (column table : Name) (keys : List (Name × V))
  | insert (table : Name) (columns : List Name) (values : List V)
  | update (table : Name) (sets keys : List (Name × V))
deriving DecidableEq, Repr

namespace Statement

variable {V W : Type}

def map (f : V → W) : Statement V → Statement W
  | select column table keys => select column table (keys.map fun k => (k.1, f k.2))
  | insert table columns values => insert table columns (values.map f)
  | update table sets keys => update table (sets.map fun s => (s.1, f s.2)) (keys.map fun k => (k.1, f k.2))

/-- The values in the order they are written. -/
def values : Statement V → List V
  | select _ _ keys => keys.map Prod.snd
  | insert _ _ values => values
  | update _ sets keys => sets.map Prod.snd ++ keys.map Prod.snd

/-- Puts values in the places of a statement, if there are as many. -/
def fill : Statement Unit → List V → Option (Statement V)
  | select column table keys, vs =>
    if vs.length = keys.length then some (select column table ((keys.map Prod.fst).zip vs)) else none
  | insert table columns places, vs => if vs.length = places.length then some (insert table columns vs) else none
  | update table sets keys, vs =>
    if vs.length = sets.length + keys.length then
      some (update table ((sets.map Prod.fst).zip (vs.take sets.length)) ((keys.map Prod.fst).zip (vs.drop sets.length)))
    else none

theorem zip_fst_snd (l : List (Name × V)) : (l.map Prod.fst).zip (l.map Prod.snd) = l := by
  induction l with
  | nil => rfl
  | cons a l ih => rw [List.map_cons, List.map_cons, List.zip_cons_cons, ih]

theorem map_fst_places (l : List (Name × V)) : (l.map fun k => (k.1, ())).map Prod.fst = l.map Prod.fst := by
  rw [List.map_map]
  rfl

theorem values_map (f : V → W) (s : Statement V) : (s.map f).values = s.values.map f := by
  cases s <;> simp [map, values, Function.comp_def]

theorem map_map {X : Type} (f : V → W) (g : W → X) (s : Statement V) : (s.map f).map g = s.map fun v => g (f v) := by
  cases s <;> simp [map]

/-- A statement is its places filled with its values. -/
theorem fill_values (s : Statement V) : (s.map fun _ => ()).fill s.values = some s := by
  cases s with
  | select column table keys =>
    simp only [map, values, fill, List.length_map, if_true, map_fst_places, zip_fst_snd]
  | insert table columns vs => simp only [map, values, fill, List.length_map, if_true]
  | update table sets keys =>
    simp only [map, values, fill, List.length_append, List.length_map, if_true, map_fst_places]
    rw [List.take_left' (List.length_map ..), List.drop_left' (List.length_map ..), zip_fst_snd, zip_fst_snd]

end Statement

/-! ### Tables -/

abbrev Row (V : Type) := Name → V

/-- The rows of each table. -/
abbrev Tables (V : Type) := Name → List (Row V)

section

variable {V : Type}

def assign (row : Row V) : List (Name × V) → Row V
  | [] => row
  | (c, v) :: sets => assign (Function.update row c v) sets

theorem assign_of_notMem (row : Row V) {sets : List (Name × V)} {c : Name} (h : c ∉ sets.map Prod.fst) :
    assign row sets c = row c := by
  induction sets generalizing row with
  | nil => rfl
  | cons s sets ih =>
    rw [List.map_cons, List.mem_cons, not_or] at h
    exact (ih _ h.2).trans (Function.update_of_ne h.1 _ _)

theorem assign_of_mem (row : Row V) {sets : List (Name × V)} (hnodup : (sets.map Prod.fst).Nodup) {s : Name × V}
    (hs : s ∈ sets) : assign row sets s.1 = s.2 := by
  induction sets generalizing row with
  | nil => exact absurd hs List.not_mem_nil
  | cons first sets ih =>
    rw [List.map_cons, List.nodup_cons] at hnodup
    rcases List.mem_cons.mp hs with rfl | hs
    · exact (assign_of_notMem _ hnodup.1).trans (Function.update_self ..)
    · exact ih _ hnodup.2 hs

variable (same : V → V → Bool) (null : V)

/-- A row meets all conditions. -/
def meets (keys : List (Name × V)) (row : Row V) : Bool := keys.all fun k => same (row k.1) k.2

theorem meets_congr {keys : List (Name × V)} {row row' : Row V} (h : ∀ k ∈ keys, row k.1 = row' k.1) :
    meets same keys row = meets same keys row' := by
  rw [Bool.eq_iff_iff, meets, meets, List.all_eq_true, List.all_eq_true]
  refine forall_congr' fun k => forall_congr' fun hk => ?_
  rw [h k hk]

/-- The values that are selected, and the tables. A column that is inserted twice is an error. -/
def Statement.run (tables : Tables V) : Statement V → Option (List V × Tables V)
  | select column table keys => some (((tables table).filter (meets same keys)).map (· column), tables)
  | insert table columns values =>
    if columns.Nodup ∧ columns.length = values.length then
      some ([], Function.update tables table (tables table ++ [assign (fun _ => null) (columns.zip values)]))
    else none
  | update table sets keys =>
    some ([], Function.update tables table
      ((tables table).map fun row => if meets same keys row then assign row sets else row))

end

/-! ### Texts -/

def bytes (s : String) : List UInt8 := s.toList.map fun c => UInt8.ofNat c.toNat

/-- The parts with a separator between each two. -/
def joined (sep : List UInt8) : List (List UInt8) → List UInt8
  | [] => []
  | a :: l => a ++ l.flatMap (sep ++ ·)

section

variable (sep : List UInt8)

/-- What a text becomes when parts are added to it, with a separator unless it is empty. -/
def joinedTo (s : List UInt8) (l : List (List UInt8)) : List UInt8 := if s = [] then joined sep l else s ++ l.flatMap (sep ++ ·)

theorem joinedTo_nil (s : List UInt8) : joinedTo sep s [] = s := by
  unfold joinedTo
  split
  · rename_i hs
    exact hs.symm
  · exact List.append_nil s

theorem joinedTo_cons (s : List UInt8) {a : List UInt8} (ha : a ≠ []) (l : List (List UInt8)) :
    joinedTo sep s (a :: l) = joinedTo sep (s ++ ((if s = [] then [] else sep) ++ a)) l := by
  have hne : s ++ ((if s = [] then [] else sep) ++ a) ≠ [] := by simp [ha]
  unfold joinedTo
  rw [if_neg hne]
  split
  · rename_i hs
    rw [hs]
    rfl
  · simp only [List.flatMap_cons, List.append_assoc]

theorem joinedTo_eq (s : List UInt8) {l : List (List UInt8)} (hl : l ≠ []) :
    joinedTo sep s l = s ++ ((if s = [] then [] else sep) ++ joined sep l) := by
  cases l with
  | nil => exact absurd rfl hl
  | cons a l =>
    unfold joinedTo
    split
    · rename_i hs
      rw [hs]
      rfl
    · rw [joined, List.flatMap_cons, List.append_assoc]

theorem joinedTo_append (s : List UInt8) {l : List (List UInt8)} (hl : ∀ a ∈ l, a ≠ []) (m : List (List UInt8)) :
    joinedTo sep (joinedTo sep s l) m = joinedTo sep s (l ++ m) := by
  induction l generalizing s with
  | nil => rw [joinedTo_nil, List.nil_append]
  | cons a l ih =>
    have ha := hl a List.mem_cons_self
    rw [List.cons_append, joinedTo_cons sep s ha, joinedTo_cons sep s ha, ih _ fun b hb => hl b (List.mem_cons_of_mem _ hb)]

theorem length_le_joinedTo (s : List UInt8) (l : List (List UInt8)) : s.length ≤ (joinedTo sep s l).length := by
  unfold joinedTo
  split
  · rename_i hs
    rw [hs]
    exact Nat.zero_le _
  · rw [List.length_append]
    exact Nat.le_add_right _ _

end

section

variable {V : Type} (mark : V → List UInt8)

def pairText (p : Name × V) : List UInt8 := p.1 ++ (bytes " = " ++ mark p.2)

/-- The text of a statement with the marks of its values. -/
def Statement.text : Statement V → List UInt8
  | select column table keys =>
    bytes "SELECT " ++ (column ++ (bytes " FROM " ++ (table ++ (bytes " WHERE " ++
      joined (bytes " AND ") (keys.map (pairText mark))))))
  | insert table columns values =>
    bytes "INSERT INTO " ++ (table ++ (bytes " (" ++ (joined (bytes ", ") columns ++ (bytes ") VALUES (" ++
      (joined (bytes ", ") (values.map mark) ++ bytes ")")))))
  | update table sets keys =>
    bytes "UPDATE " ++ (table ++ (bytes " SET " ++ (joined (bytes ", ") (sets.map (pairText mark)) ++
      (bytes " WHERE " ++ joined (bytes " AND ") (keys.map (pairText mark))))))

end

/-! ### Tokens -/

inductive Token
  | word (w : List UInt8)
  | sign (c : UInt8)
deriving DecidableEq, Repr

def endWord : List UInt8 → List Token
  | [] => []
  | w => [.word w]

/-- The tokens of a text behind the word so far. Spaces only end words. -/
def tokensFrom (w : List UInt8) : List UInt8 → List Token
  | [] => endWord w
  | c :: s => if isWord c then tokensFrom (w ++ [c]) s else endWord w ++ ((if c = 32 then [] else [.sign c]) ++ tokensFrom [] s)

def tokens (s : List UInt8) : List Token := tokensFrom [] s

/-- A text does not go on with a word. -/
def endsWord (s : List UInt8) : Bool := s.head?.all fun c => !isWord c

theorem tokensFrom_append (w a : List UInt8) {b : List UInt8} (hb : endsWord b) :
    tokensFrom w (a ++ b) = tokensFrom w a ++ tokens b := by
  induction a generalizing w with
  | nil =>
    cases b with
    | nil => exact (List.append_nil _).symm
    | cons c b =>
      have hc : isWord c = false := by simpa [endsWord] using hb
      simp [tokens, tokensFrom, hc, endWord]
  | cons c a ih =>
    rw [List.cons_append, tokensFrom, tokensFrom]
    split
    · exact ih _
    · rw [ih, List.append_assoc, List.append_assoc]

theorem tokens_append (a : List UInt8) {b : List UInt8} (hb : endsWord b) : tokens (a ++ b) = tokens a ++ tokens b :=
  tokensFrom_append [] a hb

/-- A text ends with a sign or a space. -/
def endsSign (s : List UInt8) : Bool := s.getLast?.any fun c => !isWord c

theorem tokens_append_of_endsSign {a : List UInt8} (ha : endsSign a) (b : List UInt8) : tokens (a ++ b) = tokens a ++ tokens b := by
  rw [endsSign, Option.any_eq_true] at ha
  obtain ⟨c, hlast, hc⟩ := ha
  obtain ⟨front, rfl⟩ := List.getLast?_eq_some_iff.mp hlast
  rw [Bool.not_eq_true'] at hc
  have hstart : ∀ rest, endsWord (c :: rest) := fun rest => by simp [endsWord, hc]
  have hsign : tokens (c :: b) = tokens [c] ++ tokens b := by simp [tokens, tokensFrom, hc, endWord]
  rw [List.append_assoc, List.singleton_append, tokens_append front (hstart b), hsign, tokens_append front (hstart []),
    List.append_assoc]

theorem tokensFrom_word {n : Name} (hn : ∀ c ∈ n, isWord c) (w : List UInt8) : tokensFrom w n = endWord (w ++ n) := by
  induction n generalizing w with
  | nil => rw [List.append_nil]; rfl
  | cons c n ih =>
    rw [tokensFrom, if_pos (hn c List.mem_cons_self), ih fun d hd => hn d (List.mem_cons_of_mem _ hd),
      List.append_assoc, List.singleton_append]

theorem tokens_name {n : Name} (hn : IsName n) : tokens n = [.word n] := by
  obtain ⟨hne, hword⟩ := hn
  rw [tokens, tokensFrom_word hword, List.nil_append]
  cases n with
  | nil => exact absurd rfl hne
  | cons => rfl

theorem tokens_joined {sep : List UInt8} (hstart : endsWord sep) (hend : endsSign sep) (a : List UInt8) (l : List (List UInt8)) :
    tokens (joined sep (a :: l)) = tokens a ++ l.flatMap fun b => tokens sep ++ tokens b := by
  have hrest : ∀ l : List (List UInt8), endsWord (l.flatMap (sep ++ ·)) := by
    intro l
    cases l with
    | nil => rfl
    | cons b l =>
      cases sep with
      | nil => exact absurd hend (by simp [endsSign])
      | cons => exact hstart
  have htail : tokens (l.flatMap (sep ++ ·)) = l.flatMap fun b => tokens sep ++ tokens b := by
    induction l with
    | nil => rfl
    | cons b l ih =>
      rw [List.flatMap_cons, List.flatMap_cons, tokens_append _ (hrest l), tokens_append_of_endsSign hend, ih]
  rw [joined, tokens_append _ (hrest l), htail]

/-! ### Reading a text -/

def keyword (s : String) : Token := .word (bytes s)

section

variable {α : Type} (item : List Token → Option (α × List Token)) (sep : Token)

/-- One item or more with a separator between each two, and the tokens behind them. -/
def sepBy : Nat → List Token → Option (List α × List Token)
  | 0, _ => none
  | fuel + 1, ts =>
    match item ts with
    | none => none
    | some (a, []) => some ([a], [])
    | some (a, t :: rest) => if t = sep then (sepBy fuel rest).map fun r => (a :: r.1, r.2) else some ([a], t :: rest)

/-- Each item takes a token or more. -/
def items (ts : List Token) : Option (List α × List Token) := sepBy item sep (ts.length + 1) ts

variable {item sep} {w : α → List Token} {rest : List Token}

theorem sepBy_written (hitem : ∀ a rest, item (w a ++ rest) = some (a, rest)) (hrest : rest.head? ≠ some sep)
    (a : α) (l : List α) (fuel : Nat) (hfuel : l.length < fuel) :
    sepBy item sep fuel (w a ++ (l.flatMap (fun b => sep :: w b) ++ rest)) = some (a :: l, rest) := by
  induction l generalizing a fuel with
  | nil =>
    obtain ⟨fuel, rfl⟩ := Nat.exists_eq_succ_of_ne_zero (Nat.ne_of_gt hfuel)
    rw [sepBy, hitem]
    cases rest with
    | nil => rfl
    | cons t rest => exact if_neg fun h => hrest (by rw [h]; rfl)
  | cons b l ih =>
    obtain ⟨fuel, rfl⟩ := Nat.exists_eq_succ_of_ne_zero (Nat.ne_of_gt (Nat.zero_lt_of_lt hfuel))
    rw [List.length_cons] at hfuel
    rw [sepBy, hitem, List.flatMap_cons, List.cons_append, List.cons_append, List.append_assoc]
    dsimp only
    rw [if_pos rfl, ih b fuel (by omega)]
    rfl

theorem items_written (hitem : ∀ a rest, item (w a ++ rest) = some (a, rest)) (hrest : rest.head? ≠ some sep)
    (a : α) (l : List α) :
    items item sep (w a ++ (l.flatMap (fun b => sep :: w b) ++ rest)) = some (a :: l, rest) := by
  refine sepBy_written hitem hrest a l _ ?_
  have hlen : ∀ l : List α, l.length ≤ (l.flatMap fun b => sep :: w b).length := by
    intro l
    induction l with
    | nil => exact Nat.le_refl _
    | cons b l ih =>
      rw [List.flatMap_cons, List.length_append, List.length_cons, List.length_cons]
      omega
  have := hlen l
  rw [List.length_append, List.length_append]
  omega

end

def readName : List Token → Option (Name × List Token)
  | .word n :: rest => some (n, rest)
  | _ => none

/-- A value that is left out is a question mark. -/
def readPlace : List Token → Option (Unit × List Token)
  | .sign 63 :: rest => some ((), rest)
  | _ => none

def readPair : List Token → Option ((Name × Unit) × List Token)
  | .word n :: .sign 61 :: .sign 63 :: rest => some ((n, ()), rest)
  | _ => none

def readSelect : List Token → Option (Statement Unit)
  | .word column :: from' :: .word table :: where' :: rest =>
    if from' = keyword "FROM" ∧ where' = keyword "WHERE" then
      match items readPair (keyword "AND") rest with
      | some (keys, []) => some (.select column table keys)
      | _ => none
    else none
  | _ => none

def readInsert : List Token → Option (Statement Unit)
  | into :: .word table :: .sign 40 :: rest =>
    match items readName (.sign 44) rest with
    | some (columns, .sign 41 :: values :: .sign 40 :: rest) =>
      if into = keyword "INTO" ∧ values = keyword "VALUES" then
        match items readPlace (.sign 44) rest with
        | some (places, [.sign 41]) => some (.insert table columns places)
        | _ => none
      else none
    | _ => none
  | _ => none

def readUpdate : List Token → Option (Statement Unit)
  | .word table :: set :: rest =>
    match items readPair (.sign 44) rest with
    | some (sets, where' :: rest) =>
      if set = keyword "SET" ∧ where' = keyword "WHERE" then
        match items readPair (keyword "AND") rest with
        | some (keys, []) => some (.update table sets keys)
        | _ => none
      else none
    | _ => none
  | _ => none

/-- The statement of a text whose values are left out. -/
def parse (s : List UInt8) : Option (Statement Unit) :=
  match tokens s with
  | verb :: rest =>
    if verb = keyword "SELECT" then readSelect rest
    else if verb = keyword "INSERT" then readInsert rest
    else if verb = keyword "UPDATE" then readUpdate rest
    else none
  | [] => none

/-! ### A text is read back -/

section

variable {V : Type}

/-- The names are names, and no list is empty. -/
def Statement.WellFormed : Statement V → Prop
  | select column table keys => IsName column ∧ IsName table ∧ keys ≠ [] ∧ ∀ k ∈ keys, IsName k.1
  | insert table columns values => IsName table ∧ (columns ≠ [] ∧ ∀ c ∈ columns, IsName c) ∧ values ≠ []
  | update table sets keys =>
    IsName table ∧ (sets ≠ [] ∧ ∀ s ∈ sets, IsName s.1) ∧ keys ≠ [] ∧ ∀ k ∈ keys, IsName k.1

/-- The mark of a value that is left out. -/
def place (_ : V) : List UInt8 := [63]

def writtenPair (p : Name × Unit) : List Token := [.word p.1, .sign 61, .sign 63]

theorem tokens_pairText {p : Name × V} (hp : IsName p.1) : tokens (pairText place p) = writtenPair (p.1, ()) := by
  have htail : tokens (bytes " = " ++ place p.2) = [.sign 61, .sign 63] := rfl
  rw [pairText, tokens_append _ (by rfl), tokens_name hp, htail]
  rfl

theorem tokens_pairs {sep : List UInt8} (hstart : endsWord sep) (hend : endsSign sep) {t : Token} (hsep : tokens sep = [t])
    {p : Name × V} {ps : List (Name × V)} (h : ∀ q ∈ p :: ps, IsName q.1) :
    tokens (joined sep ((p :: ps).map (pairText place))) =
      writtenPair (p.1, ()) ++ (ps.map fun q => (q.1, ())).flatMap fun q => t :: writtenPair q := by
  rw [List.map_cons, tokens_joined hstart hend, tokens_pairText (h p List.mem_cons_self), hsep, List.flatMap_map, List.flatMap_map]
  refine congrArg _ (List.flatMap_congr fun q hq => ?_)
  rw [tokens_pairText (h q (List.mem_cons_of_mem _ hq))]
  rfl

theorem readPair_written (p : Name × Unit) (rest : List Token) : readPair (writtenPair p ++ rest) = some (p, rest) := rfl

/-- The pairs of a text and what is behind them. -/
theorem items_pairs {sep : List UInt8} (hstart : endsWord sep) (hend : endsSign sep) {t : Token} (hsep : tokens sep = [t])
    {ps : List (Name × V)} (hne : ps ≠ []) (h : ∀ q ∈ ps, IsName q.1) {r : List Token} (hrest : r.head? ≠ some t) :
    items readPair t (tokens (joined sep (ps.map (pairText place))) ++ r) =
      some (ps.map fun q => (q.1, ()), r) := by
  cases ps with
  | nil => exact absurd rfl hne
  | cons p ps =>
    rw [tokens_pairs hstart hend hsep h, List.append_assoc]
    exact items_written readPair_written hrest (p.1, ()) _

theorem tokens_comma : tokens (bytes ", ") = [.sign 44] := by decide

theorem tokens_and : tokens (bytes " AND ") = [keyword "AND"] := by decide

theorem items_names {columns : List Name} (hne : columns ≠ []) (h : ∀ c ∈ columns, IsName c) {r : List Token}
    (hrest : r.head? ≠ some (.sign 44)) :
    items readName (.sign 44) (tokens (joined (bytes ", ") columns) ++ r) = some (columns, r) := by
  cases columns with
  | nil => exact absurd rfl hne
  | cons c columns =>
    have hnames : columns.flatMap (fun c => tokens (bytes ", ") ++ tokens c) = columns.flatMap fun c => .sign 44 :: [.word c] :=
      List.flatMap_congr fun d hd => by rw [tokens_comma, tokens_name (h d (List.mem_cons_of_mem _ hd))]; rfl
    rw [tokens_joined (by rfl) (by rfl), tokens_name (h c List.mem_cons_self), hnames, List.append_assoc]
    exact items_written (w := fun c => [.word c]) (fun _ _ => rfl) hrest c columns

theorem items_places {vs : List V} (hne : vs ≠ []) {r : List Token} (hrest : r.head? ≠ some (.sign 44)) :
    items readPlace (.sign 44) (tokens (joined (bytes ", ") (vs.map place)) ++ r) = some (vs.map fun _ => (), r) := by
  cases vs with
  | nil => exact absurd rfl hne
  | cons v vs =>
    have hplaces : (vs.map place).flatMap (fun b => tokens (bytes ", ") ++ tokens b) =
        (vs.map fun _ => ()).flatMap fun _ => .sign 44 :: [.sign 63] := by
      rw [List.flatMap_map, List.flatMap_map]
      exact List.flatMap_congr fun _ _ => by rw [tokens_comma]; rfl
    rw [List.map_cons, tokens_joined (by rfl) (by rfl), hplaces, List.append_assoc]
    exact items_written (w := fun _ => [.sign 63]) (fun _ _ => rfl) hrest () _

/-- A statement is read back from its text. -/
theorem parse_text {s : Statement V} (h : s.WellFormed) : parse (s.text place) = some (s.map fun _ => ()) := by
  cases s with
  | select column table keys =>
    obtain ⟨hcolumn, htable, hne, hkeys⟩ := h
    have hread := items_pairs (by rfl) (by rfl) tokens_and hne hkeys (r := []) nofun
    have htokens : tokens ((Statement.select column table keys).text place) =
        keyword "SELECT" :: .word column :: keyword "FROM" :: .word table :: keyword "WHERE" ::
          (tokens (joined (bytes " AND ") (keys.map (pairText place))) ++ []) := by
      rw [Statement.text, tokens_append_of_endsSign (by rfl), tokens_append _ (by rfl), tokens_name hcolumn,
        tokens_append_of_endsSign (by rfl), tokens_append _ (by rfl), tokens_name htable, tokens_append_of_endsSign (by rfl),
        List.append_nil]
      rfl
    unfold parse
    rw [htokens]
    dsimp only
    rw [if_pos rfl, readSelect, if_pos ⟨rfl, rfl⟩, hread]
    rfl
  | insert table columns values =>
    obtain ⟨htable, ⟨hne, hcolumns⟩, hvalues⟩ := h
    have hreadColumns := items_names hne hcolumns (r := .sign 41 :: keyword "VALUES" :: .sign 40 ::
      (tokens (joined (bytes ", ") (values.map place)) ++ [.sign 41])) (by simp)
    have hreadValues := items_places hvalues (r := [.sign 41]) (by simp)
    have htokens : tokens ((Statement.insert table columns values).text place) =
        keyword "INSERT" :: keyword "INTO" :: .word table :: .sign 40 ::
          (tokens (joined (bytes ", ") columns) ++ .sign 41 :: keyword "VALUES" :: .sign 40 ::
            (tokens (joined (bytes ", ") (values.map place)) ++ [.sign 41])) := by
      rw [Statement.text, tokens_append_of_endsSign (by rfl), tokens_append _ (by rfl), tokens_name htable,
        tokens_append_of_endsSign (by rfl), tokens_append _ (by rfl), tokens_append_of_endsSign (by rfl),
        tokens_append _ (by rfl)]
      rfl
    unfold parse
    rw [htokens]
    dsimp only
    rw [if_neg (by decide), if_pos rfl, readInsert, hreadColumns]
    refine (if_pos ⟨rfl, rfl⟩).trans ?_
    rw [hreadValues]
    rfl
  | update table sets keys =>
    obtain ⟨htable, ⟨hsets, hsetNames⟩, hkeys, hkeyNames⟩ := h
    have hreadKeys := items_pairs (by rfl) (by rfl) tokens_and hkeys hkeyNames (r := []) nofun
    have hreadSets := items_pairs (by rfl) (by rfl) tokens_comma hsets hsetNames
      (r := keyword "WHERE" :: (tokens (joined (bytes " AND ") (keys.map (pairText place))) ++ [])) (by simp [keyword])
    have htokens : tokens ((Statement.update table sets keys).text place) =
        keyword "UPDATE" :: .word table :: keyword "SET" ::
          (tokens (joined (bytes ", ") (sets.map (pairText place))) ++ keyword "WHERE" ::
            (tokens (joined (bytes " AND ") (keys.map (pairText place))) ++ [])) := by
      rw [Statement.text, tokens_append_of_endsSign (by rfl), tokens_append _ (by rfl), tokens_name htable,
        tokens_append_of_endsSign (by rfl), tokens_append _ (by rfl), tokens_append_of_endsSign (by rfl), List.append_nil]
      rfl
    unfold parse
    rw [htokens]
    dsimp only
    rw [if_neg (by decide), if_neg (by decide), if_pos rfl, readUpdate, hreadSets]
    dsimp only
    rw [if_pos ⟨rfl, rfl⟩, hreadKeys]
    rfl

end

end Sql
