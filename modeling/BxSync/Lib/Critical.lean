import Mathlib.Logic.Function.Basic

/-! Processes that share data under one lock, in any interleaving of their steps.

    A process outside the critical section sees the data and changes only itself. It enters when the lock is
    free. Inside it changes the data, until it leaves and the lock is free again. So a resource invariant may
    be broken inside, as long as it holds again when the lock is free. -/

namespace Critical

/-- The program of every process: `ω` is its state outside the section, `κ` inside, and `μ` what a step meets. -/
structure Program (δ ω κ μ : Type) where
  /-- A step outside, which may ask for the lock. -/
  outside : ω → δ → μ → ω ⊕ κ
  /-- The lock is taken. -/
  denied : ω → δ → μ → ω
  inside : κ → δ → μ → (ω ⊕ κ) × δ

structure State (ι δ ω κ : Type) where
  lock : Option ι
  data : δ
  procs : ι → ω ⊕ κ

variable {ι δ ω κ μ : Type}

/-- One step of one process. -/
def Program.step [DecidableEq ι] (p : Program δ ω κ μ) (s : State ι δ ω κ) (i : ι) (m : μ) : State ι δ ω κ :=
  match s.procs i with
  | .inl o =>
    match p.outside o s.data m with
    | .inl o' => { s with procs := Function.update s.procs i (.inl o') }
    | .inr k =>
      if s.lock = none then { s with lock := some i, procs := Function.update s.procs i (.inr k) }
      else { s with procs := Function.update s.procs i (.inl (p.denied o s.data m)) }
  | .inr k =>
    match p.inside k s.data m with
    | (.inl o, d) => { lock := none, data := d, procs := Function.update s.procs i (.inl o) }
    | (.inr k', d) => { s with data := d, procs := Function.update s.procs i (.inr k') }

/-- What a step of one process can be. -/
inductive Step [DecidableEq ι] (p : Program δ ω κ μ) (s : State ι δ ω κ) (i : ι) (m : μ) : State ι δ ω κ → Prop
  | outside (o o' : ω) (hi : s.procs i = .inl o) (hout : p.outside o s.data m = .inl o' ∨ o' = p.denied o s.data m) :
    Step p s i m { s with procs := Function.update s.procs i (.inl o') }
  | enter (o : ω) (k : κ) (hi : s.procs i = .inl o) (hin : p.outside o s.data m = .inr k) (hfree : s.lock = none) :
    Step p s i m { s with lock := some i, procs := Function.update s.procs i (.inr k) }
  | inside (k k' : κ) (d : δ) (hi : s.procs i = .inr k) (hin : p.inside k s.data m = (.inr k', d)) :
    Step p s i m { s with data := d, procs := Function.update s.procs i (.inr k') }
  | leave (k : κ) (o : ω) (d : δ) (hi : s.procs i = .inr k) (hout : p.inside k s.data m = (.inl o, d)) :
    Step p s i m { lock := none, data := d, procs := Function.update s.procs i (.inl o) }

theorem Program.step_cases [DecidableEq ι] (p : Program δ ω κ μ) (s : State ι δ ω κ) (i : ι) (m : μ) : Step p s i m (p.step s i m) := by
  unfold Program.step
  split
  · rename_i o hi
    split
    · exact .outside o _ hi (Or.inl ‹_›)
    · split
      · exact .enter o _ hi ‹_› ‹_›
      · exact .outside o _ hi (Or.inr rfl)
  · rename_i k hi
    split
    · exact .leave k _ _ hi ‹_›
    · exact .inside k _ _ hi ‹_›

/-- Only the process with the lock is inside. -/
def Exclusive (s : State ι δ ω κ) : Prop := ∀ i k, s.procs i = .inr k → s.lock = some i

theorem Exclusive.step [DecidableEq ι] {p : Program δ ω κ μ} {s : State ι δ ω κ} (h : Exclusive s) (i : ι) (m : μ) :
    Exclusive (p.step s i m) := by
  have hstep := p.step_cases s i m
  generalize p.step s i m = s' at hstep
  intro j k hj
  cases hstep with
  | outside o o' hi hout =>
    rcases eq_or_ne j i with rfl | hne
    · simp at hj
    · exact h j k (by simpa [hne] using hj)
  | enter o k' hi hin hfree =>
    rcases eq_or_ne j i with rfl | hne
    · rfl
    · have := h j k (by simpa [hne] using hj)
      exact nomatch hfree.symm.trans this
  | inside k₁ k₂ d hi hin =>
    rcases eq_or_ne j i with rfl | hne
    · exact h j k₁ hi
    · exact h j k (by simpa [hne] using hj)
  | leave k₁ o d hi hout =>
    rcases eq_or_ne j i with rfl | hne
    · simp at hj
    · have := h j k (by simpa [hne] using hj)
      exact absurd (Option.some.inj (this.symm.trans (h i k₁ hi))) hne

/-- A process outside satisfies its assertion, and one inside has the lock and satisfies an assertion about
    itself and the data. -/
def Holds (O : ω → Prop) (H : κ → δ → Prop) (lock : Option ι) (data : δ) (i : ι) : ω ⊕ κ → Prop
  | .inl o => O o
  | .inr k => lock = some i ∧ H k data

/-- The resource invariant holds while the lock is free, and the assertion of every process. -/
structure Protected (R : δ → Prop) (O : ω → Prop) (H : κ → δ → Prop) (s : State ι δ ω κ) : Prop where
  free : s.lock = none → R s.data
  procs : ∀ i, Holds O H s.lock s.data i (s.procs i)

/-- What the steps of one process keep, under a condition on the step. -/
structure Sound (p : Program δ ω κ μ) (R : δ → Prop) (O : ω → Prop) (H : κ → δ → Prop) (C : ω ⊕ κ → δ → μ → Prop) :
    Prop where
  outside : ∀ o d m o', C (.inl o) d m → O o → p.outside o d m = .inl o' → O o'
  denied : ∀ o d m, O o → O (p.denied o d m)
  enter : ∀ o d m k, C (.inl o) d m → O o → R d → p.outside o d m = .inr k → H k d
  inside : ∀ k d m k' d', C (.inr k) d m → H k d → p.inside k d m = (.inr k', d') → H k' d'
  leave : ∀ k d m o d', C (.inr k) d m → H k d → p.inside k d m = (.inl o, d') → O o ∧ R d'

section

variable {p : Program δ ω κ μ} {R : δ → Prop} {O : ω → Prop} {H : κ → δ → Prop} {C : ω ⊕ κ → δ → μ → Prop}
  {s : State ι δ ω κ}

/-- While the lock is free or another process has it, a process is outside, whatever becomes of the lock and
    the data. -/
theorem Holds.other {lock lock' : Option ι} {d d' : δ} {i j : ι} (hlock : lock = none ∨ lock = some i) (hij : j ≠ i)
    {x : ω ⊕ κ} (h : Holds O H lock d j x) : Holds O H lock' d' j x := by
  cases x with
  | inl o => exact h
  | inr k =>
    rcases hlock with rfl | rfl
    · exact nomatch h.1
    · exact absurd (Option.some.inj h.1).symm hij

variable [DecidableEq ι]

/-- A step that sets one process keeps the protection when the others keep their assertions. -/
theorem Protected.set (h : Protected R O H s) {i : ι} {lock : Option ι} {d : δ} {x : ω ⊕ κ} (hfree : lock = none → R d)
    (hself : Holds O H lock d i x)
    (hothers : ∀ j, j ≠ i → Holds O H s.lock s.data j (s.procs j) → Holds O H lock d j (s.procs j)) :
    Protected R O H { lock, data := d, procs := Function.update s.procs i x } where
  free := hfree
  procs j := by
    by_cases hij : j = i
    · subst hij
      simpa using hself
    · simpa [Function.update_of_ne hij] using hothers j hij (h.procs j)

/-- Every step of every process keeps the protection. -/
theorem Protected.step (hp : Sound p R O H C) (h : Protected R O H s) (i : ι) (m : μ) (hC : C (s.procs i) s.data m) :
    Protected R O H (p.step s i m) := by
  have hself := h.procs i
  unfold Program.step
  split
  · rename_i o hi
    rw [hi] at hC hself
    split
    · rename_i o' hout
      exact h.set h.free (hp.outside o s.data m o' hC hself hout) fun _ _ => id
    · rename_i k hin
      split
      · rename_i hfree
        exact h.set nofun ⟨rfl, hp.enter o s.data m k hC hself (h.free hfree) hin⟩ fun _ hij => Holds.other (Or.inl hfree) hij
      · exact h.set h.free (hp.denied o s.data m hself) fun _ _ => id
  · rename_i k hi
    rw [hi] at hC hself
    obtain ⟨hlock, hk⟩ := hself
    split
    · rename_i o d hout
      obtain ⟨ho, hd⟩ := hp.leave k s.data m o d hC hk hout
      exact h.set (fun _ => hd) ho fun _ hij => Holds.other (Or.inr hlock) hij
    · rename_i k' d hin
      refine h.set (fun hfree => ?_) ⟨hlock, hp.inside k s.data m k' d hC hk hin⟩ fun _ hij => Holds.other (Or.inr hlock) hij
      exact nomatch hlock.symm.trans hfree

end

end Critical
