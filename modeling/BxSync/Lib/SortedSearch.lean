import Mathlib.Data.List.InsertIdx
import Mathlib.Data.List.Pairwise
import Mathlib.Order.Basic
import Mathlib.Order.Lattice
import Mathlib.Order.Nat

/-! Lists sorted by a strictly increasing key, and the binary search for the place of a key in one.

    The rank of a key is the number of elements below it. In a sorted list it is the first index whose
    element is not below the key, which is what a binary search finds (`search_eq`). -/

namespace SortedSearch

/-! ### Binary search -/

/-- The first index of `[left, right)` at which `below` fails, by halving the interval. The first
    argument bounds the number of halvings. -/
def search (below : Nat → Bool) : Nat → Nat → Nat → Nat
  | 0, left, _ => left
  | fuel + 1, left, right =>
    if left < right then
      let middle := left + (right - left) / 2
      if below middle then search below fuel (middle + 1) right else search below fuel left middle
    else left

/-- `below` holds at the indices before `k` and at none of `[k, n)`. -/
structure Splits (below : Nat → Bool) (n k : Nat) : Prop where
  le : k ≤ n
  before : ∀ i < k, below i = true
  after : ∀ i, k ≤ i → i < n → below i = false

/-- The search finds the split point, wherever it lies in the interval. -/
theorem search_of_splits {below : Nat → Bool} {n k : Nat} (h : Splits below n k) :
    ∀ {fuel left right : Nat}, left ≤ k → k ≤ right → right ≤ n → right - left ≤ fuel →
      search below fuel left right = k
  | 0, left, right, hl, hr, _, hf => by
    simp only [search]
    omega
  | fuel + 1, left, right, hl, hr, hn, hf => by
    simp only [search]
    by_cases hlt : left < right
    · rw [if_pos hlt]
      -- The middle is below the key exactly when it lies before the split point.
      by_cases hm : left + (right - left) / 2 < k
      · rw [if_pos (h.before _ hm)]
        exact search_of_splits h (by omega) hr hn (by omega)
      · rw [if_neg (by rw [h.after _ (by omega) (by omega)]; simp)]
        exact search_of_splits h hl (by omega) (by omega) (by omega)
    · rw [if_neg hlt]
      omega

/-! ### Sorted lists -/

variable {α κ : Type} [LinearOrder κ] {key : α → κ} {l : List α}

/-- The keys of the list strictly increase. -/
def Sorted (key : α → κ) (l : List α) : Prop := (l.map key).Pairwise (· < ·)

/-- The number of elements below the key. -/
def rank (key : α → κ) (l : List α) (k : κ) : Nat := l.countP fun a => decide (key a < k)

theorem Sorted.sublist {l' : List α} (h : Sorted key l) (hs : l'.Sublist l) : Sorted key l' :=
  List.Pairwise.sublist (hs.map key) h

theorem Sorted.of_map_eq {l' : List α} (h : Sorted key l) (hm : l'.map key = l.map key) : Sorted key l' := by
  unfold Sorted
  rw [hm]
  exact h

theorem Sorted.cons_iff {a : α} : Sorted key (a :: l) ↔ (∀ b ∈ l, key a < key b) ∧ Sorted key l := by
  simp [Sorted, List.pairwise_cons]

theorem rank_le_length {k : κ} : rank key l k ≤ l.length := List.countP_le_length

@[simp] theorem rank_nil {k : κ} : rank key ([] : List α) k = 0 := rfl

theorem rank_cons {a : α} {k : κ} : rank key (a :: l) k = rank key l k + if key a < k then 1 else 0 := by
  simp [rank, List.countP_cons]

theorem rank_eq_zero {k : κ} (h : ∀ b ∈ l, ¬key b < k) : rank key l k = 0 := by
  unfold rank
  rw [List.countP_eq_zero]
  intro b hb
  simpa using h b hb

theorem key_lt_iff (h : Sorted key l) {k : κ} :
    ∀ {i : Nat} {a : α}, l[i]? = some a → (key a < k ↔ i < rank key l k) := by
  induction l with
  | nil => intro i a ha; simp at ha
  | cons b l ih =>
    intro i a ha
    obtain ⟨hb, hl⟩ := Sorted.cons_iff.mp h
    rw [rank_cons]
    cases i with
    | zero =>
      simp only [List.getElem?_cons_zero, Option.some.injEq] at ha
      subst ha
      by_cases hk : key b < k
      · simp [hk]
      · rw [rank_eq_zero fun c hc hck => hk ((hb c hc).trans hck)]
        simp [hk]
    | succ i =>
      simp only [List.getElem?_cons_succ] at ha
      rw [ih hl ha]
      by_cases hk : key b < k
      · simp [hk]
      · have : rank key l k = 0 := rank_eq_zero fun c hc hck => hk ((hb c hc).trans hck)
        simp [hk, this]

theorem splits_rank (h : Sorted key l) (k : κ) :
    Splits (fun i => (l[i]?.map fun a => decide (key a < k)).getD false) l.length (rank key l k) where
  le := rank_le_length
  before i hi := by
    have hlt : i < l.length := hi.trans_le rank_le_length
    rw [List.getElem?_eq_getElem hlt]
    simpa using (key_lt_iff h (List.getElem?_eq_getElem hlt)).mpr hi
  after i hi hlt := by
    rw [List.getElem?_eq_getElem hlt]
    have := (key_lt_iff (k := k) h (List.getElem?_eq_getElem hlt)).not.mpr (by omega)
    simpa using this

/-- A binary search over the whole of a sorted list finds the rank of the key. -/
theorem search_eq (h : Sorted key l) (k : κ) :
    search (fun i => (l[i]?.map fun a => decide (key a < k)).getD false) l.length 0 l.length = rank key l k :=
  search_of_splits (splits_rank h k) (Nat.zero_le _) rank_le_length le_rfl (by omega)

/-! ### Lookups -/

/-- The element of a key. -/
def lookup (key : α → κ) (l : List α) (k : κ) : Option α := l.find? fun a => decide (key a = k)

/-- A sorted list holds at most one element for a key, and the lookup finds it. -/
theorem lookup_eq_some (h : Sorted key l) {k : κ} {a : α} : lookup key l k = some a ↔ a ∈ l ∧ key a = k := by
  unfold lookup
  induction l with
  | nil => simp
  | cons b l ih =>
    obtain ⟨hb, hl⟩ := Sorted.cons_iff.mp h
    rw [List.find?_cons]
    by_cases hk : key b = k
    · simp only [hk, decide_true, Option.some.injEq, List.mem_cons]
      refine ⟨fun hba => ⟨Or.inl hba.symm, hba ▸ hk⟩, fun ⟨ha, hak⟩ => ?_⟩
      rcases ha with rfl | ha
      · rfl
      · have := hb a ha
        rw [hk, hak] at this
        exact absurd this (lt_irrefl _)
    · simp only [hk, decide_false, ih hl, List.mem_cons]
      refine ⟨fun ⟨ha, hak⟩ => ⟨Or.inr ha, hak⟩, fun ⟨ha, hak⟩ => ⟨?_, hak⟩⟩
      rcases ha with rfl | ha
      · exact absurd hak hk
      · exact ha

theorem lookup_eq_none {k : κ} : lookup key l k = none ↔ ∀ a ∈ l, key a ≠ k := by
  simp [lookup]

theorem lookup_ext {l' : List α} (h : Sorted key l) (h' : Sorted key l') {k k' : κ}
    (he : ∀ a, (a ∈ l ∧ key a = k) ↔ (a ∈ l' ∧ key a = k')) : lookup key l k = lookup key l' k' :=
  Option.ext fun a => by rw [lookup_eq_some h, lookup_eq_some h', he]

theorem rank_of_getElem? (h : Sorted key l) {i : Nat} {a : α} (hi : l[i]? = some a) : rank key l (key a) = i := by
  have hge : ¬i < rank key l (key a) := (key_lt_iff h hi).not.mp (lt_irrefl _)
  -- Every index from the rank on holds a key at or above the key, and keys before `i` are below it.
  have hle : ¬rank key l (key a) < i := by
    intro hlt
    obtain ⟨hil, rfl⟩ := List.getElem?_eq_some_iff.mp hi
    have hr : rank key l (key l[i]) < l.length := hlt.trans hil
    have hkr := (key_lt_iff (k := key l[i]) h (List.getElem?_eq_getElem hr)).not.mpr (lt_irrefl _)
    have hpair := List.pairwise_iff_getElem.mp h (rank key l (key l[i])) i (by simpa using hr) (by simpa using hil) hlt
    simp only [List.getElem_map] at hpair
    exact hkr hpair
  omega

theorem getElem?_rank (h : Sorted key l) {k : κ} {a : α} (ha : a ∈ l) (hk : key a = k) : l[rank key l k]? = some a := by
  obtain ⟨i, hi⟩ := List.mem_iff_getElem?.mp ha
  rw [← hk, rank_of_getElem? h hi]
  exact hi

/-- What stands at the rank of a key has that key, or the key is not in the list. -/
theorem lookup_eq_getElem?_rank (h : Sorted key l) (k : κ) :
    lookup key l k = l[rank key l k]?.filter fun b => decide (key b = k) := by
  apply Option.ext
  intro a
  rw [lookup_eq_some h, Option.filter_eq_some_iff]
  simp only [decide_eq_true_eq]
  exact ⟨fun ⟨ha, hk⟩ => ⟨getElem?_rank h ha hk, hk⟩, fun ⟨ha, hk⟩ => ⟨List.mem_of_getElem? ha, hk⟩⟩

/-! ### Updates -/

theorem sorted_insertIdx (h : Sorted key l) {a : α} (hne : ∀ b ∈ l, key b ≠ key a) :
    Sorted key (l.insertIdx (rank key l (key a)) a) := by
  induction l with
  | nil => simp [Sorted, rank]
  | cons b l ih =>
    obtain ⟨hb, hl⟩ := Sorted.cons_iff.mp h
    have hba : key b ≠ key a := hne b List.mem_cons_self
    rw [rank_cons]
    by_cases hk : key b < key a
    · rw [if_pos hk, List.insertIdx_succ_cons, Sorted.cons_iff]
      refine ⟨fun c hc => ?_, ih hl fun c hc => hne c (List.mem_cons_of_mem _ hc)⟩
      rcases List.eq_or_mem_of_mem_insertIdx hc with rfl | hc
      · exact hk
      · exact hb c hc
    · have hz : rank key l (key a) = 0 := rank_eq_zero fun c hc hck => hk ((hb c hc).trans hck)
      rw [if_neg hk, hz, List.insertIdx_zero, Sorted.cons_iff]
      have hab : key a < key b := lt_of_le_of_ne (not_lt.mp hk) (Ne.symm hba)
      refine ⟨fun c hc => ?_, h⟩
      rcases List.mem_cons.mp hc with rfl | hc
      · exact hab
      · exact hab.trans (hb c hc)

theorem lookup_insertIdx (h : Sorted key l) {a : α} (hne : ∀ b ∈ l, key b ≠ key a) (k : κ) :
    lookup key (l.insertIdx (rank key l (key a)) a) k = if k = key a then some a else lookup key l k := by
  have hs := sorted_insertIdx h hne
  have hmem : ∀ b, b ∈ l.insertIdx (rank key l (key a)) a ↔ b = a ∨ b ∈ l := fun b =>
    List.mem_insertIdx rank_le_length
  split
  · subst_vars
    exact (lookup_eq_some hs).mpr ⟨(hmem a).mpr (Or.inl rfl), rfl⟩
  · rename_i hk
    refine lookup_ext hs h fun b => ?_
    rw [hmem]
    constructor
    · rintro ⟨rfl | hb, hbk⟩
      · exact absurd hbk.symm hk
      · exact ⟨hb, hbk⟩
    · exact fun ⟨hb, hbk⟩ => ⟨Or.inr hb, hbk⟩

omit [LinearOrder κ] in
theorem map_modify {f : α → α} (hf : ∀ b, key (f b) = key b) (i : Nat) : (l.modify i f).map key = l.map key := by
  apply List.ext_getElem?
  intro j
  rw [List.getElem?_map, List.getElem?_modify, List.getElem?_map]
  cases l[j]? with
  | none => rfl
  | some b =>
    simp only [Option.map_eq_map, Option.map_some]
    split
    · rw [hf]
    · rfl

theorem sorted_modify (h : Sorted key l) {f : α → α} (hf : ∀ b, key (f b) = key b) (i : Nat) :
    Sorted key (l.modify i f) := h.of_map_eq (map_modify hf i)

theorem lookup_modify (h : Sorted key l) {f : α → α} (hf : ∀ b, key (f b) = key b) {i : Nat} {a : α}
    (hi : l[i]? = some a) (k : κ) :
    lookup key (l.modify i f) k = if k = key a then some (f a) else lookup key l k := by
  have hs := sorted_modify h hf i
  have hmem : f a ∈ l.modify i f := List.mem_of_getElem? (i := i) (by simp [hi])
  split
  · subst_vars
    exact (lookup_eq_some hs).mpr ⟨hmem, hf a⟩
  · rename_i hk
    refine lookup_ext hs h fun b => and_congr_left fun hbk => ?_
    rw [List.mem_iff_getElem?, List.mem_iff_getElem?]
    refine exists_congr fun j => ?_
    by_cases hij : i = j
    · -- The element at the index has another key, before and after.
      subst hij
      have h1 : (l.modify i f)[i]? = some (f a) := by simp [hi]
      rw [h1, hi, Option.some.injEq, Option.some.injEq]
      constructor
      · rintro rfl
        exact absurd (hbk.symm.trans (hf a)) hk
      · rintro rfl
        exact absurd hbk.symm hk
    · simp [hij]

theorem lookup_filter (h : Sorted key l) (p : α → Bool) (k : κ) :
    lookup key (l.filter p) k = (lookup key l k).filter p := by
  apply Option.ext
  intro a
  rw [lookup_eq_some (h.sublist List.filter_sublist), Option.filter_eq_some_iff, lookup_eq_some h, List.mem_filter]
  tauto

theorem sorted_map (h : Sorted key l) {f : α → α} (hf : ∀ b, key (f b) = key b) : Sorted key (l.map f) :=
  h.of_map_eq (by rw [List.map_map]; exact List.map_congr_left fun b _ => hf b)

theorem lookup_map {f : α → α} (hf : ∀ b, key (f b) = key b) (k : κ) :
    lookup key (l.map f) k = (lookup key l k).map f := by
  unfold lookup
  rw [List.find?_map]
  simp [Function.comp_def, hf]

theorem rank_mono {l' : List α} (hs : (l.map key).Sublist (l'.map key)) (k : κ) : rank key l k ≤ rank key l' k := by
  have h : ∀ m : List α, rank key m k = (m.map key).countP fun x => decide (x < k) := fun m => by
    simp [rank, List.countP_map, Function.comp_def]
  rw [h l, h l']
  exact hs.countP_le

end SortedSearch
