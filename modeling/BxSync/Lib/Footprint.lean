import Mathlib.Data.List.Forall2
import Mathlib.Data.Set.Basic

/-! Computations on a state of cells, each of which uses some of the cells only. Computations that share no cell are
    understood one at a time. -/

namespace Footprint

variable {σ ι ν α β : Type} (cell : σ → ι → ν)

/-- Two states agree on a set of cells. -/
def Agree (F : Set ι) (s s' : σ) : Prop := ∀ i ∈ F, cell s i = cell s' i

/-- A computation uses the cells of a set: it leaves the others, and they decide what it does. -/
structure Uses (F : Set ι) (f : σ → α × σ) : Prop where
  frame : ∀ s, ∀ i ∉ F, cell (f s).2 i = cell s i
  decided : ∀ s s', Agree cell F s s' → (f s).1 = (f s').1 ∧ Agree cell F (f s).2 (f s').2

variable {cell} {F G : Set ι} {f : σ → α × σ} {s s' s'' : σ}

theorem Agree.refl (s : σ) : Agree cell F s s := fun _ _ => rfl

theorem Agree.symm (h : Agree cell F s s') : Agree cell F s' s := fun i hi => (h i hi).symm

theorem Agree.trans (h : Agree cell F s s') (h' : Agree cell F s' s'') : Agree cell F s s'' := fun i hi => (h i hi).trans (h' i hi)

theorem Agree.mono (h : Agree cell G s s') (hsub : F ⊆ G) : Agree cell F s s' := fun i hi => h i (hsub hi)

theorem Uses.agree (h : Uses cell F f) (hapart : ∀ i ∈ F, i ∉ G) (s : σ) : Agree cell G (f s).2 s := fun i hi =>
  h.frame s i fun hF => hapart i hF hi

/-- More cells may be counted in. -/
theorem Uses.mono (h : Uses cell F f) (hsub : F ⊆ G) : Uses cell G f where
  frame s i hi := h.frame s i fun hF => hi (hsub hF)
  decided s s' hagree := by
    obtain ⟨hresult, hcells⟩ := h.decided s s' (hagree.mono hsub)
    refine ⟨hresult, fun i hi => ?_⟩
    by_cases hF : i ∈ F
    · exact hcells i hF
    · rw [h.frame s i hF, h.frame s' i hF]
      exact hagree i hi

theorem uses_pure (a : α) : Uses cell F fun s => (a, s) where
  frame _ _ _ := rfl
  decided _ _ hagree := ⟨rfl, hagree⟩

/-- One computation after the other, where the result of the first chooses the second. -/
theorem Uses.bind {g : α → σ → β × σ} (h : Uses cell F f) (hg : ∀ a, Uses cell F (g a)) : Uses cell F fun s => g (f s).1 (f s).2 where
  frame s i hi := ((hg (f s).1).frame (f s).2 i hi).trans (h.frame s i hi)
  decided s s' hagree := by
    obtain ⟨hresult, hcells⟩ := h.decided s s' hagree
    rw [← hresult]
    exact (hg (f s).1).decided _ _ hcells

/-! ### Computations one after the other -/

/-- Up to the first whose result stops. -/
def runAll (stops : α → Bool) (last : α) : List (σ → α × σ) → σ → α × σ
  | [], s => (last, s)
  | f :: fs, s => if stops (f s).1 then f s else runAll stops last fs (f s).2

/-- Computations that share no cell. -/
structure Apart (cell : σ → ι → ν) (parts : List ((σ → α × σ) × Set ι)) : Prop where
  uses : ∀ p ∈ parts, Uses cell p.2 p.1
  apart : parts.Pairwise fun p q => ∀ i ∈ p.2, i ∉ q.2

variable {stops : α → Bool} {last : α} {p : (σ → α × σ) × Set ι} {before parts after : List ((σ → α × σ) × Set ι)}

theorem Apart.tail (h : Apart cell (p :: parts)) : Apart cell parts :=
  ⟨fun q hq => h.uses q (List.mem_cons_of_mem _ hq), (List.pairwise_cons.mp h.apart).2⟩

/-- What the rest uses is as it was after the first. -/
theorem Apart.head (h : Apart cell (p :: parts)) (s : σ) : ∀ q ∈ parts, Agree cell q.2 (p.1 s).2 s := fun q hq =>
  (h.uses p List.mem_cons_self).agree ((List.pairwise_cons.mp h.apart).1 q hq) s

/-- What none of them uses is left. -/
theorem runAll_frame (huses : ∀ p ∈ parts, Uses cell p.2 p.1) {i : ι} (hi : ∀ p ∈ parts, i ∉ p.2) (s : σ) :
    cell (runAll stops last (parts.map Prod.fst) s).2 i = cell s i := by
  induction parts generalizing s with
  | nil => rfl
  | cons p parts ih =>
    obtain ⟨hp, hparts⟩ := List.forall_mem_cons.mp huses
    obtain ⟨hip, hi⟩ := List.forall_mem_cons.mp hi
    rw [List.map_cons, runAll]
    split
    · exact hp.frame s i hip
    · exact (ih hparts hi (p.1 s).2).trans (hp.frame s i hip)

/-- The result is the first that stops, where each may be taken alone. -/
theorem Apart.runAll_result (h : Apart cell parts) {t : σ} (hagree : ∀ p ∈ parts, Agree cell p.2 s t) :
    (runAll stops last (parts.map Prod.fst) s).1 = ((parts.map fun p => (p.1 t).1).find? stops).getD last := by
  induction parts generalizing s with
  | nil => rfl
  | cons p parts ih =>
    obtain ⟨hp, hparts⟩ := List.forall_mem_cons.mp hagree
    have hresult := ((h.uses p List.mem_cons_self).decided s t hp).1
    rw [List.map_cons, List.map_cons, runAll, List.find?_cons, ← hresult]
    cases hstop : stops (p.1 s).1 with
    | true => rfl
    | false => exact ih h.tail fun q hq => (h.head s q hq).trans (hparts q hq)

/-- If none before it stops, a computation leaves its cells as it leaves them alone, and the others do not touch them. -/
theorem Apart.runAll_cells (h : Apart cell (before ++ p :: after)) {t : σ} (hagree : ∀ q ∈ before ++ p :: after, Agree cell q.2 s t)
    (hpass : ∀ q ∈ before, stops (q.1 t).1 = false) :
    Agree cell p.2 (runAll stops last ((before ++ p :: after).map Prod.fst) s).2 (p.1 t).2 := by
  induction before generalizing s with
  | nil =>
    obtain ⟨hp, -⟩ := List.forall_mem_cons.mp hagree
    have hcells := ((h.uses p List.mem_cons_self).decided s t hp).2
    rw [List.nil_append, List.map_cons, runAll]
    split
    · exact hcells
    · intro i hi
      refine (runAll_frame h.tail.uses (fun q hq hiq => ?_) (p.1 s).2).trans (hcells i hi)
      exact (List.pairwise_cons.mp h.apart).1 q hq i hi hiq
  | cons q before ih =>
    obtain ⟨hq, hrest⟩ := List.forall_mem_cons.mp hagree
    obtain ⟨hqpass, hpass⟩ := List.forall_mem_cons.mp hpass
    have hresult := ((h.uses q List.mem_cons_self).decided s t hq).1
    rw [List.cons_append, List.map_cons, runAll, hresult, hqpass]
    exact ih h.tail (fun r hr => (h.head s r hr).trans (hrest r hr)) hpass

/-- If one before it stops, a computation is not made. -/
theorem Apart.runAll_stopped (h : Apart cell (before ++ p :: after)) {t : σ} (hagree : ∀ q ∈ before ++ p :: after, Agree cell q.2 s t)
    {q : (σ → α × σ) × Set ι} (hq : q ∈ before) (hstop : stops (q.1 t).1 = true) :
    Agree cell p.2 (runAll stops last ((before ++ p :: after).map Prod.fst) s).2 s := by
  induction before generalizing s with
  | nil => cases hq
  | cons r before ih =>
    obtain ⟨hr, hrest⟩ := List.forall_mem_cons.mp hagree
    have hresult := ((h.uses r List.mem_cons_self).decided s t hr).1
    have hleft : Agree cell p.2 (r.1 s).2 s := h.head s p (List.mem_append_right _ List.mem_cons_self)
    rw [List.cons_append, List.map_cons, runAll]
    cases hrstop : stops (r.1 s).1 with
    | true => exact hleft
    | false =>
      have hmem : q ∈ before := by
        rcases List.mem_cons.mp hq with rfl | hmem
        · rw [← hresult, hrstop] at hstop
          cases hstop
        · exact hmem
      exact (ih h.tail (fun r' hr' => (h.head s r' hr').trans (hrest r' hr')) hmem).trans hleft

/-- What computations come to, when each of them may be taken alone. -/
structure EachAlone (cell : σ → ι → ν) (stops : α → Bool) (last : α) (parts : List ((σ → α × σ) × Set ι)) (s : σ)
    (ended : α × σ) : Prop where
  /-- The result is the first that stops. -/
  result : ended.1 = ((parts.map fun p => (p.1 s).1).find? stops).getD last
  /-- If none before it stops, a computation leaves its cells as it leaves them alone. -/
  cells : ∀ before p after, parts = before ++ p :: after → (∀ q ∈ before, stops (q.1 s).1 = false) →
    Agree cell p.2 ended.2 (p.1 s).2
  /-- If one before it stops, its cells are as they were. -/
  stopped : ∀ before p after, parts = before ++ p :: after → (∃ q ∈ before, stops (q.1 s).1 = true) → Agree cell p.2 ended.2 s
  /-- So are the cells of none. -/
  frame : ∀ i, (∀ p ∈ parts, i ∉ p.2) → cell ended.2 i = cell s i

theorem Apart.eachAlone (h : Apart cell parts) (s : σ) :
    EachAlone cell stops last parts s (runAll stops last (parts.map Prod.fst) s) where
  result := h.runAll_result fun p _ => Agree.refl s
  cells before p after hparts hpass := by
    subst hparts
    exact h.runAll_cells (fun q _ => Agree.refl s) hpass
  stopped before p after hparts hstop := by
    subst hparts
    obtain ⟨q, hq, hstop⟩ := hstop
    exact h.runAll_stopped (fun r _ => Agree.refl s) hq hstop
  frame _ hi := runAll_frame h.uses hi s

/-- Computations and their cells, taken together. -/
theorem apart_zip {fs : List (σ → α × σ)} {cells : List (Set ι)} (huses : List.Forall₂ (fun f F => Uses cell F f) fs cells)
    (hapart : cells.Pairwise fun F G => ∀ i ∈ F, i ∉ G) : Apart cell (fs.zip cells) := by
  induction huses with
  | nil => exact ⟨fun p hp => absurd hp List.not_mem_nil, List.Pairwise.nil⟩
  | @cons f F fs cells hf _ ih =>
    obtain ⟨hF, hcells⟩ := List.pairwise_cons.mp hapart
    have htail := ih hcells
    refine ⟨?_, List.pairwise_cons.mpr ⟨?_, htail.apart⟩⟩
    · rw [List.zip_cons_cons, List.forall_mem_cons]
      exact ⟨hf, htail.uses⟩
    · rintro ⟨g, G⟩ hg
      exact hF G (List.of_mem_zip hg).2

theorem eachAlone_zip {fs : List (σ → α × σ)} {cells : List (Set ι)} (huses : List.Forall₂ (fun f F => Uses cell F f) fs cells)
    (hapart : cells.Pairwise fun F G => ∀ i ∈ F, i ∉ G) (s : σ) : EachAlone cell stops last (fs.zip cells) s (runAll stops last fs s) := by
  have hmap := List.map_fst_zip huses.length_eq.le
  have halone : EachAlone cell stops last (fs.zip cells) s (runAll stops last ((fs.zip cells).map Prod.fst) s) :=
    (apart_zip huses hapart).eachAlone s
  rwa [hmap] at halone

end Footprint
