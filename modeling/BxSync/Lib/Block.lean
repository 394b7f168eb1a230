import Mathlib.Data.List.Basic

/-! A block of memory is a list of slots, and a prefix of it is live. What a move between overlapping
    ranges, an insertion and a compaction in place leave of the live slots. -/

namespace Block

variable {α : Type}

/-- Copies `n` slots from `src` on to `dst` on. The ranges may overlap, and both lie in the block. -/
def move (block : List α) (dst src n : Nat) : List α :=
  block.take dst ++ ((block.drop src).take n ++ block.drop (dst + n))

/-- Sets `n` slots from `start` on. -/
def fill (block : List α) (start n : Nat) (a : α) : List α :=
  block.take start ++ (List.replicate n a ++ block.drop (start + n))

/-- Writes slots from `start` on. -/
def write (block : List α) (start : Nat) (slots : List α) : List α :=
  block.take start ++ (slots ++ block.drop (start + slots.length))

/-- Writes slots that lie in the block. -/
def store (block : List α) (start : Nat) (slots : List α) : Option (List α) :=
  if start + slots.length ≤ block.length then some (write block start slots) else none

/-- A block of another size with the slots that stay. What is in new ones is not known. -/
def resize (junk : Nat → α) (block : List α) (n : Nat) : List α :=
  block.take n ++ (List.range (n - block.length)).map fun i => junk (block.length + i)

/-- Writes the slots to keep among the `n` from `i` on to the slots from `j` on, one after the other.
    Returns the block and the slot after the last one written. -/
def compact (keep : α → Bool) : Nat → Nat → Nat → List α → List α × Nat
  | 0, _, j, block => (block, j)
  | n + 1, i, j, block =>
    match block[i]? with
    | none => (block, j)
    | some a => if keep a then compact keep n (i + 1) (j + 1) (block.set j a) else compact keep n (i + 1) j block

theorem length_move {block : List α} {dst src n : Nat} (hdst : dst + n ≤ block.length) (hsrc : src + n ≤ block.length) :
    (move block dst src n).length = block.length := by
  simp only [move, List.length_append, List.length_take, List.length_drop]
  omega

theorem length_fill {block : List α} {start n : Nat} (h : start + n ≤ block.length) (a : α) :
    (fill block start n a).length = block.length := by
  simp only [fill, List.length_append, List.length_take, List.length_drop, List.length_replicate]
  omega

theorem take_fill {block : List α} {start n : Nat} (h : start + n ≤ block.length) (a : α) :
    (fill block start n a).take start = block.take start := by
  have hlen : (block.take start).length = start := List.length_take_of_le (by omega)
  exact List.take_left' hlen

theorem fill_eq_write (block : List α) (start n : Nat) (a : α) : fill block start n a = write block start (List.replicate n a) := by
  rw [fill, write, List.length_replicate]

section

variable {block slots : List α} {start : Nat}

theorem length_write (h : start + slots.length ≤ block.length) : (write block start slots).length = block.length := by
  simp only [write, List.length_append, List.length_take, List.length_drop]
  omega

theorem take_write (h : start + slots.length ≤ block.length) :
    (write block start slots).take (start + slots.length) = block.take start ++ slots := by
  have hlen : (block.take start ++ slots).length = start + slots.length := by
    rw [List.length_append, List.length_take_of_le (by omega)]
  rw [write, ← List.append_assoc]
  exact List.take_left' hlen

theorem take_write_start (h : start ≤ block.length) : (write block start slots).take start = block.take start :=
  List.take_left' (List.length_take_of_le h)

theorem drop_write (h : start + slots.length ≤ block.length) {n : Nat} (hn : start + slots.length ≤ n) :
    (write block start slots).drop n = block.drop n := by
  have hlen : (block.take start ++ slots).length = start + slots.length := by
    rw [List.length_append, List.length_take_of_le (by omega)]
  rw [write, ← List.append_assoc, List.drop_append, hlen, List.drop_eq_nil_of_le (by omega), List.nil_append,
    List.drop_drop]
  congr 1
  omega

end

/-- Slots written behind the live ones are live. -/
theorem store_next {block live slots : List α} (hlive : block.take live.length = live)
    (hfits : live.length + slots.length ≤ block.length) : ∃ stored, store block live.length slots = some stored ∧
      stored.length = block.length ∧ stored.take (live ++ slots).length = live ++ slots := by
  refine ⟨_, if_pos hfits, length_write hfits, ?_⟩
  rw [List.length_append, take_write hfits, hlive]

/-- The same where the rest of the block is filled with one value. -/
theorem store_replicate (live slots : List α) {m : Nat} (a : α) (hfits : slots.length ≤ m) :
    store (live ++ List.replicate m a) live.length slots =
      some (live ++ slots ++ List.replicate (m - slots.length) a) := by
  have hlen : live.length + slots.length ≤ (live ++ List.replicate m a).length := by
    rw [List.length_append, List.length_replicate]
    omega
  rw [store, if_pos hlen, write, List.take_left, List.drop_append, List.drop_eq_nil_of_le (by omega), List.nil_append,
    Nat.add_sub_cancel_left, List.drop_replicate, List.append_assoc]

theorem length_resize (junk : Nat → α) (block : List α) (n : Nat) : (resize junk block n).length = n := by
  simp only [resize, List.length_append, List.length_take, List.length_map, List.length_range]
  omega

theorem take_resize (junk : Nat → α) {block : List α} {m n : Nat} (hm : m ≤ block.length) (hn : m ≤ n) :
    (resize junk block n).take m = block.take m := by
  have hlen : m ≤ (block.take n).length := by
    rw [List.length_take]
    omega
  rw [resize, List.take_append_of_le_length hlen, List.take_take, Nat.min_eq_left hn]

/-- To set a slot is to write a list of one. -/
theorem take_set_succ {block : List α} {j : Nat} (hj : j < block.length) (a : α) :
    (block.set j a).take (j + 1) = block.take j ++ [a] := by
  rw [List.take_succ_eq_append_getElem (by rw [List.length_set]; exact hj), List.take_set_of_le (Nat.le_refl j)]
  simp

/-- To move the slots from `i` on up by one and to write the free one is to insert. -/
theorem take_insert {block : List α} {i count : Nat} (hi : i ≤ count) (hcount : count < block.length) (a : α) :
    ((move block (i + 1) i (count - i)).set i a).take (count + 1) = (block.take count).insertIdx i a := by
  have hfront : (block.take (i + 1)).length = i + 1 := List.length_take_of_le (by omega)
  have hmid : ((block.drop i).take (count - i)).length = count - i := by
    rw [List.length_take, List.length_drop]
    omega
  apply List.ext_getElem?
  intro m
  rw [List.getElem?_take, List.getElem?_insertIdx, List.getElem?_set, length_move (by omega) (by omega)]
  rcases Nat.lt_trichotomy m i with hm | rfl | hm
  · -- Before the new slot nothing moved.
    rw [if_pos (by omega), if_neg (by omega), if_pos hm, List.getElem?_take, if_pos (by omega), move,
      List.getElem?_append_left (by omega), List.getElem?_take, if_pos (by omega)]
  · rw [if_pos (by omega), if_pos rfl, if_pos (by omega), if_neg (Nat.lt_irrefl _), if_pos rfl,
      List.length_take, if_pos (by omega)]
  · -- After it each slot holds what the one below held.
    by_cases hlast : m < count + 1
    · rw [if_pos hlast, if_neg (by omega), if_neg (by omega), if_neg (by omega), List.getElem?_take, if_pos (by omega),
        move, List.getElem?_append_right (by omega), hfront, List.getElem?_append_left (by omega), List.getElem?_take,
        if_pos (by omega), List.getElem?_drop]
      congr 1
      omega
    · rw [if_neg hlast, if_neg (by omega), if_neg (by omega), List.getElem?_take, if_neg (by omega)]

theorem length_compact (keep : α → Bool) (n i j : Nat) (block : List α) :
    (compact keep n i j block).1.length = block.length := by
  fun_induction compact keep n i j block
  case case1 => rfl
  case case2 => rfl
  case case3 ih => rw [ih, List.length_set]
  case case4 ih => exact ih

/-- The slot written never passes the slot read, so a compaction keeps what it has not read yet. -/
theorem compact_spec (keep : α → Bool) (n i j : Nat) (block : List α) (hj : j ≤ i) (hn : i + n ≤ block.length) :
    (compact keep n i j block).2 = j + (((block.drop i).take n).filter keep).length ∧
    (compact keep n i j block).1.take (compact keep n i j block).2 =
      block.take j ++ ((block.drop i).take n).filter keep := by
  revert hj hn
  fun_induction compact keep n i j block
  case case1 => simp
  case case2 i j block n hnone =>
    intro _ hn
    rw [List.getElem?_eq_none_iff] at hnone
    omega
  case case3 n i j block a ha hkeep ih =>
    intro hj hn
    obtain ⟨hlt, rfl⟩ := List.getElem?_eq_some_iff.mp ha
    obtain ⟨hend, htake⟩ := ih (by omega) (by rw [List.length_set]; omega)
    have hread : (block.set j block[i]).drop (i + 1) = block.drop (i + 1) := List.drop_set_of_lt (by omega)
    have hfirst : ((block.drop i).take (n + 1)).filter keep = block[i] :: ((block.drop (i + 1)).take n).filter keep := by
      rw [List.drop_eq_getElem_cons hlt, List.take_succ_cons, List.filter_cons_of_pos hkeep]
    have hwritten : (block.set j block[i]).take (j + 1) = block.take j ++ [block[i]] := take_set_succ (by omega) block[i]
    rw [hread] at hend htake
    rw [hfirst]
    refine ⟨by rw [hend, List.length_cons]; omega, ?_⟩
    rw [htake, hwritten, List.append_assoc]
    rfl
  case case4 n i j block a ha hkeep ih =>
    intro hj hn
    obtain ⟨hlt, rfl⟩ := List.getElem?_eq_some_iff.mp ha
    have hfirst : ((block.drop i).take (n + 1)).filter keep = ((block.drop (i + 1)).take n).filter keep := by
      rw [List.drop_eq_getElem_cons hlt, List.take_succ_cons, List.filter_cons_of_neg hkeep]
    rw [hfirst]
    exact ih (by omega) (by omega)

end Block
