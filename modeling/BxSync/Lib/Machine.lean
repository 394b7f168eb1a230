import Mathlib.Data.List.Basic

/-! Machines that answer each input with an output and a next state, and what holds of every output of a
    run given the outputs before it. -/

namespace Machine

variable {σ ι ο : Type} (step : σ → ι → ο × σ)

/-- The outputs of a run. -/
def outputs : σ → List ι → List ο
  | _, [] => []
  | s, i :: is => (step s i).1 :: outputs (step s i).2 is

/-- The state after a run. -/
def final : σ → List ι → σ
  | s, [] => s
  | s, i :: is => final (step s i).2 is

theorem outputs_append (s : σ) (is js : List ι) :
    outputs step s (is ++ js) = outputs step s is ++ outputs step (final step s is) js := by
  induction is generalizing s with
  | nil => rfl
  | cons i is ih => exact congrArg ((step s i).1 :: ·) (ih _)

theorem final_append (s : σ) (is js : List ι) : final step s (is ++ js) = final step (final step s is) js := by
  induction is generalizing s with
  | nil => rfl
  | cons i is ih => exact ih _

/-- An invariant of the history and the state that every step preserves under a condition on its output
    proves what each step shows of its output, as long as the condition held so far. -/
theorem outputs_safe {I : List ο → σ → Prop} {C : ο → Prop} {P : List ο → ο → Prop}
    (hstep : ∀ h s i, I h s → C (step s i).1 → P h (step s i).1 ∧ I (h ++ [(step s i).1]) (step s i).2) :
    ∀ (is : List ι) (h : List ο) (s : σ), I h s → ∀ before o after, outputs step s is = before ++ o :: after →
      (∀ o' ∈ before, C o') → C o → P (h ++ before) o
  | [], _, _, _, before, o, after, heq, _, _ => by
    simp [outputs] at heq
  | i :: is, h, s, hinv, before, o, after, heq, hbefore, ho => by
    rw [outputs] at heq
    cases before with
    | nil =>
      obtain ⟨rfl, -⟩ := List.cons.inj heq
      rw [List.append_nil]
      exact (hstep h s i hinv ho).1
    | cons first before =>
      obtain ⟨rfl, htail⟩ := List.cons.inj heq
      have hnext := (hstep h s i hinv (hbefore _ List.mem_cons_self)).2
      have := outputs_safe hstep is _ _ hnext before o after htail
        (fun o' ho' => hbefore o' (List.mem_cons_of_mem _ ho')) ho
      rwa [List.append_assoc] at this

/-- The same for a run from its start, whose steps all meet the condition. -/
theorem run_safe {I : List ο → σ → Prop} {C : ο → Prop} {P : List ο → ο → Prop} {s : σ} (h0 : I [] s)
    (hstep : ∀ h s i, I h s → C (step s i).1 → P h (step s i).1 ∧ I (h ++ [(step s i).1]) (step s i).2)
    {is : List ι} (hC : ∀ o ∈ outputs step s is, C o) {before : List ο} {o : ο} {after : List ο}
    (heq : outputs step s is = before ++ o :: after) : P before o := by
  have hmem : ∀ o' ∈ before ++ o :: after, C o' := heq ▸ hC
  refine outputs_safe step hstep is [] s h0 before o after heq (fun o' ho' => hmem o' ?_) (hmem o ?_)
  · exact List.mem_append_left _ ho'
  · exact List.mem_append_right _ List.mem_cons_self

/-- The same for what each step shows of its output alone. -/
theorem run_all {I : σ → Prop} {C P : ο → Prop} {s : σ} (h0 : I s)
    (hstep : ∀ s i, I s → C (step s i).1 → P (step s i).1 ∧ I (step s i).2) {is : List ι}
    (hC : ∀ o ∈ outputs step s is, C o) : ∀ o ∈ outputs step s is, P o := by
  intro o ho
  obtain ⟨before, after, heq⟩ := List.append_of_mem ho
  exact run_safe step (I := fun _ s => I s) (P := fun _ o => P o) h0 (fun _ s i => hstep s i) hC heq

/-- What every step preserves of the history and the state, under a condition on its output, holds after a run. -/
theorem history_inv {I : List ο → σ → Prop} {C : ο → Prop}
    (hstep : ∀ h s i, I h s → C (step s i).1 → I (h ++ [(step s i).1]) (step s i).2) :
    ∀ (is : List ι) (h : List ο) (s : σ), I h s → (∀ o ∈ outputs step s is, C o) →
      I (h ++ outputs step s is) (final step s is)
  | [], h, s, hinv, _ => by
    rw [outputs, List.append_nil]
    exact hinv
  | i :: is, h, s, hinv, hC => by
    have := history_inv hstep is _ _ (hstep h s i hinv (hC _ List.mem_cons_self)) fun o ho => hC o (List.mem_cons_of_mem _ ho)
    rwa [List.append_assoc] at this

/-- The same for what it preserves of the state alone. -/
theorem final_inv {I : σ → Prop} {C : ο → Prop} (hstep : ∀ s i, I s → C (step s i).1 → I (step s i).2)
    (is : List ι) (s : σ) (h : I s) (hC : ∀ o ∈ outputs step s is, C o) : I (final step s is) :=
  history_inv step (I := fun _ s => I s) (fun _ => hstep) is [] s h hC

/-- A machine simulates another when related states answer alike and stay related, as long as the states of
    the other stay in bounds. -/
theorem outputs_eq_of_sim {τ : Type} {step' : τ → ι → ο × τ} {R : σ → τ → Prop} {B : τ → Prop}
    (hstep : ∀ s t i, R s t → B t → B (step' t i).2 → (step s i).1 = (step' t i).1 ∧ R (step s i).2 (step' t i).2) :
    ∀ (is : List ι) (s : σ) (t : τ), R s t → (∀ before, before <+: is → B (final step' t before)) →
      outputs step s is = outputs step' t is ∧ R (final step s is) (final step' t is)
  | [], _, _, h, _ => ⟨rfl, h⟩
  | i :: is, s, t, h, hB => by
    have hfirst : B (step' t i).2 := hB [i] (by simp)
    obtain ⟨hout, hnext⟩ := hstep s t i h (hB [] (List.nil_prefix)) hfirst
    have hrest : ∀ before, before <+: is → B (final step' (step' t i).2 before) := fun before hbefore =>
      hB (i :: before) (List.cons_prefix_cons.mpr ⟨rfl, hbefore⟩)
    obtain ⟨houts, hfinal⟩ := outputs_eq_of_sim hstep is _ _ hnext hrest
    exact ⟨by rw [outputs, outputs, hout, houts], hfinal⟩

end Machine
