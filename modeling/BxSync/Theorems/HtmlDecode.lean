import Mathlib.Data.List.Infix
import Mathlib.Logic.Relation
import BxSync.HtmlEntities

/-! Whether the replacement of entities in place is safe and computes the replaced text. The write index stays behind the
    read index as long as the entities before an entity that grows have saved its byte. -/

namespace BxSync

open Relation

section

variable (table : HtmlTable)

/-! ### The search -/

theorem strncmpEq_eq {a r : List UInt8} (ha : 0 ∉ a) (hr : 0 ∉ r) : strncmpEq a.length a (r ++ [0]) = some (a.isPrefixOf r) := by
  induction a generalizing r with
  | nil => simp [strncmpEq]
  | cons x a ih =>
    rw [List.mem_cons, not_or] at ha
    cases r with
    | nil => simp [strncmpEq, Ne.symm ha.1]
    | cons y r =>
      rw [List.mem_cons, not_or] at hr
      rw [List.length_cons, List.cons_append, strncmpEq, List.isPrefixOf_cons_cons, ih ha.2 hr.2]
      by_cases hxy : x = y
      · subst hxy
        rw [if_neg (not_not.mpr rfl), if_neg (Ne.symm ha.1), beq_self_eq_true, Bool.true_and]
      · rw [if_pos hxy, beq_false_of_ne hxy, Bool.false_and]

/-- The NUL behind the text ends each comparison. -/
theorem findEntity_eq {entries : List BXHtmlEntity} (hwf : ∀ e ∈ entries, e.WellFormed) {r : List UInt8} (hr : 0 ∉ r) :
    findEntity entries (r ++ [0]) = some (entries.find? fun e => (cBytes e.entity).isPrefixOf r) := by
  induction entries with
  | nil => rfl
  | cons e entries ih =>
    obtain ⟨he, hentries⟩ := List.forall_mem_cons.mp hwf
    have hcmp := strncmpEq_eq he.noNul hr
    rw [he.elen] at hcmp
    rw [findEntity, hcmp, List.find?_cons]
    cases (cBytes e.entity).isPrefixOf r with
    | true => rfl
    | false => exact ih hentries

/-! ### Pieces -/

theorem entityAt_eq_none {c : UInt8} {s : List UInt8} (hc : c ≠ 38) : table.entityAt (c :: s) = none := by
  unfold HtmlTable.entityAt
  rw [List.find?_eq_none]
  intro e he hstart
  obtain ⟨rest, hrest⟩ := List.isPrefixOf_iff_prefix.mp hstart
  have hhead := (table.wellFormed e he).ampersand
  cases hbytes : cBytes e.entity with
  | nil => simp [hbytes] at hhead
  | cons b bytes =>
    rw [hbytes] at hhead hrest
    exact hc ((List.cons.inj hrest).1.symm.trans (Option.some.inj hhead))

theorem entityAt_spec {s : List UInt8} {e : BXHtmlEntity} (h : table.entityAt s = some e) :
    e ∈ table.entries ∧ cBytes e.entity <+: s := by
  unfold HtmlTable.entityAt at h
  have hstart := List.find?_some h
  exact ⟨List.mem_of_find?_eq_some h, List.isPrefixOf_iff_prefix.mp hstart⟩

theorem elen_pos {e : BXHtmlEntity} (h : e.WellFormed) : 0 < e.elen := by
  have := h.ampersand
  rw [← h.elen]
  cases hbytes : cBytes e.entity with
  | nil => simp [hbytes] at this
  | cons => simp

theorem piecesFrom_eq (skip : Nat) (s : List UInt8) : piecesFrom table skip s = pieces table (s.drop skip) := by
  induction s generalizing skip with
  | nil => cases skip <;> rfl
  | cons c s ih =>
    cases skip with
    | zero => rfl
    | succ skip => exact ih skip

/-- The piece a text starts with. -/
def HtmlTable.firstPiece (c : UInt8) (s : List UInt8) : Piece :=
  match table.entityAt (c :: s) with
  | some e => .entity e
  | none => .byte c

theorem firstPiece_written (c : UInt8) (s : List UInt8) :
    (table.firstPiece c s).written <+: c :: s ∧ 0 < (table.firstPiece c s).written.length := by
  unfold HtmlTable.firstPiece
  cases h : table.entityAt (c :: s) with
  | none => exact ⟨by simp [Piece.written], Nat.one_pos⟩
  | some e =>
    obtain ⟨he, hstart⟩ := entityAt_spec table h
    have hwf := table.wellFormed e he
    exact ⟨hstart, by rw [Piece.written, hwf.elen]; exact elen_pos hwf⟩

theorem pieces_cons (c : UInt8) (s : List UInt8) :
    pieces table (c :: s) =
      table.firstPiece c s :: pieces table ((c :: s).drop (table.firstPiece c s).written.length) := by
  unfold HtmlTable.firstPiece
  cases h : table.entityAt (c :: s) with
  | none => rw [pieces, piecesFrom, h, piecesFrom_eq]; rfl
  | some e =>
    have hwf := table.wellFormed e (entityAt_spec table h).1
    obtain ⟨k, hk⟩ := Nat.exists_eq_add_of_lt (elen_pos hwf)
    rw [Nat.zero_add] at hk
    rw [pieces, piecesFrom, h]
    dsimp only
    rw [piecesFrom_eq, Piece.written, hwf.elen, hk, Nat.add_sub_cancel, List.drop_succ_cons]

theorem mem_piecesFrom {e : BXHtmlEntity} {skip : Nat} {s : List UInt8} (h : .entity e ∈ piecesFrom table skip s) :
    e ∈ table.entries := by
  revert h
  fun_induction piecesFrom table skip s
  case case1 => exact nofun
  case case2 ih => exact ih
  case case3 found hfound ih =>
    intro h
    rcases List.mem_cons.mp h with heq | h
    · obtain rfl := Piece.entity.inj heq
      exact (entityAt_spec table hfound).1
    · exact ih h
  case case4 ih =>
    intro h
    rcases List.mem_cons.mp h with heq | h
    · nomatch heq
    · exact ih h

/-! ### The property -/

/-- A turn of the loop on the buffer of a text. -/
def Turns (s : List UInt8) (t next : ReplaceState) : Prop := t.running s.length = true ∧ t.turn table = some next

/-- The loop on the buffer of a text reaches a state. -/
def Reaches (s : List UInt8) (t : ReplaceState) : Prop :=
  ReflTransGen (Turns table s) { value := s ++ [0], i := 0, j := 0 } t

/-- On the buffer of a text no turn leaves the buffer or overflows, the write index never passes the read index, the
    count of the last `memset` is not negative, and the string that comes out is the text with its entities replaced. -/
structure DecodesInPlace (s : List UInt8) : Prop where
  within : ∀ t, Reaches table s t → t.running s.length = true → ∃ next, t.turn table = some next
  ordered : ∀ t, Reaches table s t → t.j ≤ t.i
  cleared : ∀ t, Reaches table s t → t.running s.length = false → t.j ≤ s.length
  decoded : bxHtmlEntitiesReplaces table { value := some (s ++ [0]), valueLen := s.length } =
    some {
      value := some (decodeHtml table s ++ List.replicate (s.length + 1 - (decodeHtml table s).length) 0)
      valueLen := (decodeHtml table s).length }

/-- The piece is one of the two entities that grow by a byte. -/
def Piece.longer : Piece → Bool
  | .byte _ => false
  | .entity e => e.longer

/-- The bytes by which a piece shrinks. -/
def Piece.saved : Piece → Nat
  | .byte _ => 0
  | .entity e => e.elen - e.ulen

/-- The indices are ints, and in every initial part of the text the entities that grow are at most as many as the bytes
    that the others save. -/
structure FitsInPlace (s : List UInt8) : Prop where
  length_le : s.length ≤ intMax
  paid : ∀ front, front <+: pieces table s → front.countP Piece.longer ≤ (front.map Piece.saved).sum

variable {table}

theorem Piece.balance {p : Piece} (h : ∀ e, p = .entity e → e ∈ table.entries) :
    p.decoded.length + p.saved = p.written.length + if p.longer then 1 else 0 := by
  cases p with
  | byte c => rfl
  | entity e =>
    have hwf := table.wellFormed e (h e rfl)
    have hlonger : (Piece.entity e).longer = e.longer := rfl
    have hgrows := hwf.grows
    rw [hlonger]
    simp only [Piece.decoded, Piece.written, Piece.saved, hwf.elen, hwf.ulen]
    cases hcase : e.longer with
    | true =>
      rw [if_pos hcase] at hgrows
      rw [if_pos rfl]
      omega
    | false =>
      rw [if_neg (by simp [hcase])] at hgrows
      rw [if_neg (by simp)]
      omega

/-- What the pieces stand for is shorter than their text by what they save and longer by those that grow. -/
theorem balance {front : List Piece} (h : ∀ e, .entity e ∈ front → e ∈ table.entries) :
    (front.flatMap Piece.decoded).length + (front.map Piece.saved).sum =
      (front.flatMap Piece.written).length + front.countP Piece.longer := by
  induction front with
  | nil => rfl
  | cons p front ih =>
    have hp := @Piece.balance table p fun e he => h e (he ▸ List.mem_cons_self)
    have hfront := ih fun e he => h e (List.mem_cons_of_mem _ he)
    rw [List.flatMap_cons, List.flatMap_cons, List.length_append, List.length_append, List.map_cons, List.sum_cons,
      List.countP_cons]
    omega

/-! ### One turn -/

/-- The state after the pieces in front. As long as the write index is not past the read index, the buffer holds what
    they stand for, and the rest of the text is not touched. -/
structure Consumed (table : HtmlTable) (s : List UInt8) (front : List Piece) (t : ReplaceState) : Prop where
  split : pieces table s = front ++ pieces table (s.drop t.i)
  i_eq : t.i = (front.flatMap Piece.written).length
  i_le : t.i ≤ s.length
  j_eq : t.j = (front.flatMap Piece.decoded).length
  length : t.value.length = s.length + 1
  buffer : t.j ≤ t.i → t.value.take t.j = front.flatMap Piece.decoded ∧ t.value.drop t.i = s.drop t.i ++ [0]

namespace Consumed

variable {s : List UInt8} {front : List Piece} {t : ReplaceState} {c : UInt8} {rest : List UInt8}

theorem start (s : List UInt8) : Consumed table s [] { value := s ++ [0], i := 0, j := 0 } where
  split := rfl
  i_eq := rfl
  i_le := Nat.zero_le _
  j_eq := rfl
  length := by simp
  buffer _ := ⟨rfl, rfl⟩

/-- The pieces in front and one more, after a write that puts what it stands for. -/
theorem next (h : Consumed table s front t) (hj : t.j ≤ t.i) (hrest : s.drop t.i = c :: rest) {value : List UInt8}
    (hlen : value.length = t.value.length)
    (hvalue : t.j + (table.firstPiece c rest).decoded.length ≤ t.i + (table.firstPiece c rest).written.length →
      value.take (t.j + (table.firstPiece c rest).decoded.length) = t.value.take t.j ++ (table.firstPiece c rest).decoded ∧
        value.drop (t.i + (table.firstPiece c rest).written.length) =
          t.value.drop (t.i + (table.firstPiece c rest).written.length)) :
    Consumed table s (front ++ [table.firstPiece c rest]) {
      value
      i := t.i + (table.firstPiece c rest).written.length
      j := t.j + (table.firstPiece c rest).decoded.length } := by
  have hstart := (firstPiece_written table c rest).1.length_le
  have hpieces := pieces_cons table c rest
  have hleft : (c :: rest).length = s.length - t.i := by rw [← hrest, List.length_drop]
  obtain ⟨htake, hdrop⟩ := h.buffer hj
  refine ⟨?_, ?_, ?_, ?_, ?_, fun hle => ?_⟩
  · rw [h.split, hrest, hpieces, ← hrest, List.drop_drop, List.append_assoc]
    rfl
  · simp [h.i_eq]
  · dsimp only
    have := h.i_le
    omega
  · simp [h.j_eq]
  · rw [hlen, h.length]
  · obtain ⟨hfirst, hlast⟩ := hvalue hle
    dsimp only
    refine ⟨by rw [hfirst, htake]; simp, ?_⟩
    rw [hlast, ← List.drop_drop, hdrop, List.drop_append_of_le_length (by rw [hrest]; exact hstart), List.drop_drop]

theorem read (h : Consumed table s front t) (hj : t.j ≤ t.i) (hrest : s.drop t.i = c :: rest) : t.value[t.i]? = some c := by
  have hdrop := (h.buffer hj).2
  rw [hrest] at hdrop
  rw [← List.head?_drop, hdrop]
  rfl

theorem copyByte (h : Consumed table s front t) (hj : t.j ≤ t.i) (hrest : s.drop t.i = c :: rest)
    (hp : table.firstPiece c rest = .byte c) :
    ∃ value, Consumed table s (front ++ [table.firstPiece c rest]) {
        value
        i := t.i + (table.firstPiece c rest).written.length
        j := t.j + (table.firstPiece c rest).decoded.length } ∧
      t.copyByte = replaceStateAt value (t.i + (table.firstPiece c rest).written.length)
        (t.j + (table.firstPiece c rest).decoded.length) := by
  have hroom : t.j < t.value.length := by
    have := h.length
    have := h.i_le
    omega
  refine ⟨t.value.set t.j c, h.next hj hrest (List.length_set ..) fun _ => ?_, ?_⟩
  · rw [hp]
    exact ⟨Block.take_set_succ hroom c, List.drop_set_of_lt (by simp only [Piece.written, List.length_singleton]; omega)⟩
  · rw [hp]
    unfold ReplaceState.copyByte
    rw [h.read hj hrest]
    exact if_pos hroom

theorem putEntity (h : Consumed table s front t) (hj : t.j ≤ t.i) (hrest : s.drop t.i = c :: rest) {e : BXHtmlEntity}
    (he : e.WellFormed) (hp : table.firstPiece c rest = .entity e) :
    ∃ value, Consumed table s (front ++ [table.firstPiece c rest]) {
        value
        i := t.i + (table.firstPiece c rest).written.length
        j := t.j + (table.firstPiece c rest).decoded.length } ∧
      t.putEntity e = replaceStateAt value (t.i + (table.firstPiece c rest).written.length)
        (t.j + (table.firstPiece c rest).decoded.length) := by
  have hread := (firstPiece_written table c rest).1.length_le
  have hleft : (c :: rest).length = s.length - t.i := by rw [← hrest, List.length_drop]
  have hwritten : (table.firstPiece c rest).written.length = e.elen := by rw [hp]; exact he.elen
  have hdecoded : (table.firstPiece c rest).decoded = cBytes e.utf8 := by rw [hp]; rfl
  have hgrows : e.ulen ≤ e.elen + 1 := by
    have := he.grows
    split at this <;> omega
  have hlength := h.length
  have hi := h.i_le
  have hclear : t.j + (List.replicate e.elen (0 : UInt8)).length ≤ t.value.length := by
    rw [List.length_replicate]
    omega
  have hcleared := Block.length_write hclear
  rw [← Block.fill_eq_write] at hcleared
  have hroom : t.j + (cBytes e.utf8).length ≤ (Block.fill t.value t.j e.elen 0).length := by
    rw [hcleared, he.ulen]
    omega
  refine ⟨Block.write (Block.fill t.value t.j e.elen 0) t.j (cBytes e.utf8), h.next hj hrest ?_ fun hle => ⟨?_, ?_⟩, ?_⟩
  · rw [Block.length_write hroom, hcleared]
  · rw [hdecoded, Block.take_write hroom, Block.fill_eq_write, Block.take_write_start (by omega)]
  · rw [hdecoded, hwritten] at hle
    rw [hwritten, Block.drop_write hroom hle, Block.fill_eq_write, Block.drop_write hclear]
    rw [List.length_replicate]
    omega
  · unfold ReplaceState.putEntity
    rw [if_pos ⟨by omega, by omega⟩, hwritten, hdecoded, ← he.ulen, List.take_length]

/-- One turn consumes the next piece, if the indices stay ints. -/
theorem turn (h : Consumed table s front t) (hs : 0 ∉ s) (hj : t.j ≤ t.i) (hrest : s.drop t.i = c :: rest) :
    ∃ value, Consumed table s (front ++ [table.firstPiece c rest]) {
        value
        i := t.i + (table.firstPiece c rest).written.length
        j := t.j + (table.firstPiece c rest).decoded.length } ∧
      t.turn table = replaceStateAt value (t.i + (table.firstPiece c rest).written.length)
        (t.j + (table.firstPiece c rest).decoded.length) := by
  have hnul : 0 ∉ c :: rest := fun hmem => hs (List.drop_subset _ _ (hrest ▸ hmem))
  unfold ReplaceState.turn
  rw [h.read hj hrest]
  by_cases hc : c = 38
  · rw [if_neg (by simp [hc]), (h.buffer hj).2, hrest, findEntity_eq table.wellFormed hnul]
    rw [show table.entries.find? (fun e => (cBytes e.entity).isPrefixOf (c :: rest)) = table.entityAt (c :: rest) from rfl]
    cases hentity : table.entityAt (c :: rest) with
    | none => exact h.copyByte hj hrest (by rw [HtmlTable.firstPiece, hentity])
    | some e =>
      exact h.putEntity hj hrest (table.wellFormed e (entityAt_spec table hentity).1) (by rw [HtmlTable.firstPiece, hentity])
  · rw [if_pos (by simp [hc])]
    exact h.copyByte hj hrest (by rw [HtmlTable.firstPiece, entityAt_eq_none table hc])

theorem running_iff (h : Consumed table s front t) (hs : 0 ∉ s) (hj : t.j ≤ t.i) :
    t.running s.length = true ↔ ∃ c rest, s.drop t.i = c :: rest := by
  unfold ReplaceState.running
  constructor
  · intro hrun
    have hlt : t.i < s.length := by simpa using (Bool.and_eq_true_iff.mp hrun).1
    exact ⟨_, _, List.drop_eq_getElem_cons hlt⟩
  · rintro ⟨c, rest, hrest⟩
    have hlt : t.i < s.length := by
      by_contra hge
      rw [List.drop_eq_nil_of_le (by omega)] at hrest
      nomatch hrest
    have hc : c ≠ 0 := fun hc => hs (List.drop_subset t.i s (by rw [hrest, hc]; exact List.mem_cons_self))
    rw [h.read hj hrest]
    simp [hlt, hc]

theorem stopped (h : Consumed table s front t) (hs : 0 ∉ s) (hj : t.j ≤ t.i) (hrun : t.running s.length = false) :
    Consumed table s (pieces table s) t ∧ t.i = s.length := by
  have hrest : s.drop t.i = [] := by
    cases hrest : s.drop t.i with
    | nil => rfl
    | cons c rest =>
      rw [(h.running_iff hs hj).mpr ⟨c, rest, hrest⟩] at hrun
      nomatch hrun
  have hsplit := h.split
  rw [hrest, show pieces table [] = [] from rfl, List.append_nil] at hsplit
  exact ⟨hsplit ▸ h, Nat.le_antisymm h.i_le (List.drop_eq_nil_iff.mp hrest)⟩

/-- Whether the write index is behind depends on what the pieces in front save. -/
theorem ordered_iff (h : Consumed table s front t) :
    t.j ≤ t.i ↔ front.countP Piece.longer ≤ (front.map Piece.saved).sum := by
  have hmem : ∀ e, .entity e ∈ front → e ∈ table.entries := fun e he => by
    have hmem : .entity e ∈ pieces table s := by
      rw [h.split]
      exact List.mem_append_left _ he
    exact mem_piecesFrom table hmem
  have := balance hmem
  rw [h.i_eq, h.j_eq]
  omega

end Consumed

theorem replaceStateAt_eq_some {value : List UInt8} {i j : Nat} {t : ReplaceState} :
    replaceStateAt value i j = some t ↔ (i ≤ intMax ∧ j ≤ intMax) ∧ t = { value, i, j } := by
  unfold replaceStateAt
  split
  · rename_i h
    exact ⟨fun heq => ⟨h, (Option.some.inj heq).symm⟩, fun heq => congrArg some heq.2.symm⟩
  · rename_i h
    exact ⟨nofun, fun heq => absurd heq.1 h⟩

/-! ### Runs -/

section

variable {s : List UInt8} {front : List Piece} {t : ReplaceState}

/-- As long as the text fits, a turn consumes a piece and leaves the write index behind. -/
theorem FitsInPlace.turn (hfits : FitsInPlace table s) (hs : 0 ∉ s) (h : Consumed table s front t) (hj : t.j ≤ t.i)
    (hrun : t.running s.length = true) :
    ∃ p next, t.turn table = some next ∧ Consumed table s (front ++ [p]) next ∧ next.j ≤ next.i ∧ t.i < next.i := by
  obtain ⟨c, rest, hrest⟩ := (h.running_iff hs hj).mp hrun
  obtain ⟨value, hnext, hturn⟩ := h.turn hs hj hrest
  have hpaid := hfits.paid (front ++ [table.firstPiece c rest]) ⟨_, hnext.split.symm⟩
  have hordered := hnext.ordered_iff.mpr hpaid
  have hlength := hfits.length_le
  have hi := hnext.i_le
  dsimp only at hordered hi
  refine ⟨_, _, hturn.trans (replaceStateAt_eq_some.mpr ⟨⟨by omega, by omega⟩, rfl⟩), hnext, hordered, ?_⟩
  have := (firstPiece_written table c rest).2
  dsimp only
  omega

theorem FitsInPlace.reaches (hfits : FitsInPlace table s) (hs : 0 ∉ s) (h : Reaches table s t) :
    ∃ front, Consumed table s front t ∧ t.j ≤ t.i := by
  induction h with
  | refl => exact ⟨[], .start s, Nat.le_refl 0⟩
  | tail _ hturn ih =>
    obtain ⟨front, hfront, hj⟩ := ih
    obtain ⟨p, next, hnext, hconsumed, hordered, -⟩ := hfits.turn hs hfront hj hturn.1
    obtain rfl := Option.some.inj (hnext.symm.trans hturn.2)
    exact ⟨_, hconsumed, hordered⟩

theorem FitsInPlace.replaceLoop (hfits : FitsInPlace table s) (hs : 0 ∉ s) (turns : Nat) (h : Consumed table s front t)
    (hj : t.j ≤ t.i) (hturns : s.length ≤ t.i + turns) :
    ∃ last, replaceLoop table s.length turns t = some last ∧ Consumed table s (pieces table s) last ∧ last.j ≤ last.i ∧
      last.i = s.length := by
  induction turns generalizing front t with
  | zero =>
    have hrun : t.running s.length = false := by
      simp only [ReplaceState.running, Bool.and_eq_false_iff, decide_eq_false_iff_not]
      exact Or.inl (by omega)
    obtain ⟨hlast, hi⟩ := h.stopped hs hj hrun
    exact ⟨t, by rw [BxSync.replaceLoop, hrun]; rfl, hlast, hj, hi⟩
  | succ turns ih =>
    cases hrun : t.running s.length with
    | false =>
      obtain ⟨hlast, hi⟩ := h.stopped hs hj hrun
      exact ⟨t, by rw [BxSync.replaceLoop, hrun]; rfl, hlast, hj, hi⟩
    | true =>
      obtain ⟨p, next, hnext, hconsumed, hordered, hlt⟩ := hfits.turn hs h hj hrun
      obtain ⟨last, hlast, hrest⟩ := ih hconsumed hordered (by omega)
      exact ⟨last, by rw [BxSync.replaceLoop, hrun, hnext]; exact hlast, hrest⟩

/-- What the last `memset` leaves. -/
theorem FitsInPlace.decoded (hfits : FitsInPlace table s) (hs : 0 ∉ s) :
    bxHtmlEntitiesReplaces table { value := some (s ++ [0]), valueLen := s.length } =
      some {
        value := some (decodeHtml table s ++ List.replicate (s.length + 1 - (decodeHtml table s).length) 0)
        valueLen := (decodeHtml table s).length } := by
  unfold bxHtmlEntitiesReplaces
  dsimp only
  split
  · rename_i hempty
    obtain rfl := List.length_eq_zero_iff.mp hempty
    rfl
  · obtain ⟨last, hlast, hconsumed, hj, hi⟩ :=
      hfits.replaceLoop hs s.length (.start s) (Nat.le_refl 0) (by simp)
    obtain ⟨htake, hdrop⟩ := hconsumed.buffer hj
    rw [hi, List.drop_length, List.nil_append] at hdrop
    have hlen : (decodeHtml table s).length = last.j := hconsumed.j_eq.symm
    rw [hlast]
    dsimp only
    rw [if_pos (by omega), hlen, Block.fill, htake, Nat.add_sub_cancel' (by omega), hdrop,
      Nat.succ_sub (by omega), List.replicate_succ']
    rfl

theorem FitsInPlace.decodesInPlace (hfits : FitsInPlace table s) (hs : 0 ∉ s) : DecodesInPlace table s where
  within t ht hrun := by
    obtain ⟨front, hfront, hj⟩ := hfits.reaches hs ht
    obtain ⟨p, next, hnext, -⟩ := hfits.turn hs hfront hj hrun
    exact ⟨next, hnext⟩
  ordered t ht := by
    obtain ⟨front, -, hj⟩ := hfits.reaches hs ht
    exact hj
  cleared t ht _ := by
    obtain ⟨front, hfront, hj⟩ := hfits.reaches hs ht
    exact Nat.le_trans hj hfront.i_le
  decoded := hfits.decoded hs

/-- A loop that stays in bounds comes past each initial part of the text. -/
theorem DecodesInPlace.reaches (h : DecodesInPlace table s) (hs : 0 ∉ s) (hfront : front <+: pieces table s) :
    ∃ t, Reaches table s t ∧ Consumed table s front t ∧ t.i ≤ intMax := by
  induction front using List.reverseRecOn with
  | nil => exact ⟨_, .refl, .start s, Nat.zero_le _⟩
  | append_singleton front p ih =>
    obtain ⟨t, ht, hconsumed, -⟩ := ih ((List.prefix_append front [p]).trans hfront)
    have hj := h.ordered t ht
    -- The next piece of the text is there, so there is text.
    obtain ⟨back, hback⟩ := hfront
    rw [hconsumed.split, List.append_assoc] at hback
    have hpieces := List.append_cancel_left hback
    obtain ⟨c, rest, hrest⟩ : ∃ c rest, s.drop t.i = c :: rest := by
      cases hrest : s.drop t.i with
      | nil => rw [hrest] at hpieces; nomatch hpieces
      | cons c rest => exact ⟨c, rest, rfl⟩
    rw [hrest, pieces_cons] at hpieces
    obtain rfl : p = table.firstPiece c rest := (List.cons.inj hpieces).1
    have hrun := (hconsumed.running_iff hs hj).mpr ⟨c, rest, hrest⟩
    obtain ⟨value, hvalue, hturn⟩ := hconsumed.turn hs hj hrest
    obtain ⟨next, hnext⟩ := h.within t ht hrun
    obtain ⟨hbounds, rfl⟩ := replaceStateAt_eq_some.mp (hturn.symm.trans hnext)
    exact ⟨_, ht.tail ⟨hrun, hnext⟩, hvalue, hbounds.1⟩

theorem DecodesInPlace.fitsInPlace (h : DecodesInPlace table s) (hs : 0 ∉ s) : FitsInPlace table s where
  length_le := by
    obtain ⟨t, ht, hconsumed, hi⟩ := h.reaches hs (List.prefix_refl (pieces table s))
    have hj := h.ordered t ht
    cases hrun : t.running s.length with
    | false =>
      rw [← (hconsumed.stopped hs hj hrun).2]
      exact hi
    | true =>
      -- All pieces are consumed, so no text is left.
      obtain ⟨c, rest, hrest⟩ := (hconsumed.running_iff hs hj).mp hrun
      have hsplit := hconsumed.split
      rw [hrest, pieces_cons] at hsplit
      have := congrArg List.length hsplit
      simp at this
  paid front hfront := by
    obtain ⟨t, ht, hconsumed, -⟩ := h.reaches hs hfront
    exact hconsumed.ordered_iff.mp (h.ordered t ht)

end

end

/-- The entities of a text without NUL are replaced in place exactly when the text fits. -/
theorem htmlEntities_decoded_iff (s : List UInt8) (hs : 0 ∉ s) : DecodesInPlace htmlTable s ↔ FitsInPlace htmlTable s :=
  ⟨fun h => h.fitsInPlace hs, fun h => h.decodesInPlace hs⟩

/-- The byte that `&nLt;` takes is one that `&amp;` has saved. -/
theorem htmlEntities_paid : DecodesInPlace htmlTable (cBytes "&amp;&nLt;") := by
  have hpieces : pieces htmlTable (cBytes "&amp;&nLt;") =
      [.entity ⟨"&amp;", "&", 5, 1⟩, .entity ⟨"&nLt;", "≪⃒", 5, 6⟩] := by decide +kernel
  refine (htmlEntities_decoded_iff (cBytes "&amp;&nLt;") (by decide)).mpr ⟨by decide, fun front hfront => ?_⟩
  rw [hpieces] at hfront
  have hparts : ∀ part ∈ List.inits [Piece.entity ⟨"&amp;", "&", 5, 1⟩, .entity ⟨"&nLt;", "≪⃒", 5, 6⟩],
      part.countP Piece.longer ≤ (part.map Piece.saved).sum := by decide
  exact hparts front ((List.mem_inits _ _).mpr hfront)

/-- `&nLt;` alone writes six bytes where it has read five, the NUL among them, and the count of the last `memset`
    wraps around. -/
theorem htmlEntities_grown :
    ¬DecodesInPlace htmlTable (cBytes "&nLt;") ∧
      (∃ t, Reaches htmlTable (cBytes "&nLt;") t ∧ t.running 5 = false ∧ t.i = 5 ∧ t.j = 6) ∧
      bxHtmlEntitiesReplaces htmlTable { value := some (cBytes "&nLt;" ++ [0]), valueLen := 5 } = none := by
  have hnone : bxHtmlEntitiesReplaces htmlTable
      { value := some (cBytes "&nLt;" ++ [0]), valueLen := (cBytes "&nLt;").length } = none := by decide +kernel
  have hturn : ReplaceState.turn htmlTable { value := cBytes "&nLt;" ++ [0], i := 0, j := 0 } =
      some { value := cBytes "≪⃒", i := 5, j := 6 } := by decide +kernel
  refine ⟨fun h => ?_, ⟨_, .single ⟨by decide, hturn⟩, by decide, rfl, rfl⟩, hnone⟩
  nomatch hnone.symm.trans h.decoded

end BxSync
