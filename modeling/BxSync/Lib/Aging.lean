import BxSync.Lib.Machine

/-! Rows that are stamped with a version whenever they are seen, and swept once they were not seen for a number
    of versions. What is never seen again is swept in the end, whatever happens to the other rows. -/

namespace Aging

open Machine

/-- A store of rows. The rows it tracks have a stamp. -/
structure Stamps (σ ι : Type) where
  has : σ → ι → Prop
  stamp : σ → ι → Option Nat
  now : σ → Nat

namespace Stamps

variable {σ ι : Type} (v : Stamps σ ι) (listed : ι → Prop)

/-- Every row outside the list is tracked, and was last seen at least `n` versions ago. -/
def Aged (n : Nat) (s : σ) : Prop := ∀ i, ¬listed i → v.has s i → ∃ t, v.stamp s i = some t ∧ t + n ≤ v.now s

/-- A row outside the list is taken away or left as it is. -/
def Quiet (s s' : σ) : Prop := ∀ i, ¬listed i → v.has s' i → v.has s i ∧ v.stamp s' i = v.stamp s i

/-- No row is left that was last seen `drift` versions ago or before. -/
def Sweeps (drift : Nat) (s s' : σ) : Prop := ∀ i t, v.has s' i → v.stamp s i = some t → v.now s < t + drift

/-- The rows and the stamps that a larger state has in one of its parts. -/
def comap {τ : Type} (v : Stamps σ ι) (f : τ → σ) : Stamps τ ι where
  has s := v.has (f s)
  stamp s := v.stamp (f s)
  now s := v.now (f s)

variable {v listed} {s s' s'' : σ} {n k drift : Nat}

theorem Quiet.refl (s : σ) : v.Quiet listed s s := fun _ _ h => ⟨h, rfl⟩

theorem Quiet.trans (h : v.Quiet listed s s') (h' : v.Quiet listed s' s'') : v.Quiet listed s s'' := by
  intro i hi hhas
  obtain ⟨hmid, hstamp'⟩ := h' i hi hhas
  obtain ⟨hfirst, hstamp⟩ := h i hi hmid
  exact ⟨hfirst, hstamp'.trans hstamp⟩

theorem Aged.step (h : v.Aged listed n s) (hq : v.Quiet listed s s') (hnow : v.now s' = v.now s + k) :
    v.Aged listed (n + k) s' := by
  intro i hi hhas
  obtain ⟨hold, hstamp⟩ := hq i hi hhas
  obtain ⟨t, ht, hle⟩ := h i hi hold
  exact ⟨t, hstamp.trans ht, by omega⟩

/-- A sweep at no more than the age of the rows outside the list leaves none of them. -/
theorem Aged.swept (h : v.Aged listed n s) (hq : v.Quiet listed s s') (hsweep : v.Sweeps drift s s') (hdrift : drift ≤ n) (i : ι)
    (hhas : v.has s' i) : listed i := by
  by_contra hi
  obtain ⟨hold, -⟩ := hq i hi hhas
  obtain ⟨t, ht, hle⟩ := h i hi hold
  have := hsweep i t hhas ht
  omega

/-- Over a run of quiet steps the rows outside the list age by the steps that advance the version. -/
theorem Aged.run {ο κ : Type} (step : σ → κ → ο × σ) {advances : ο → Bool} {C : ο → Prop} {bound : Nat}
    (hstep : ∀ s i, C (step s i).1 → (advances (step s i).1 → v.now s + 1 < bound) →
      v.Quiet listed s (step s i).2 ∧ v.now (step s i).2 = v.now s + (advances (step s i).1).toNat) :
    ∀ (is : List κ) (s : σ) (n : Nat), v.Aged listed n s → (∀ o ∈ outputs step s is, C o) →
      v.now s + (outputs step s is).countP advances < bound →
      v.Aged listed (n + (outputs step s is).countP advances) (final step s is) ∧
        v.now (final step s is) = v.now s + (outputs step s is).countP advances
  | [], _, _, h, _, _ => ⟨h, rfl⟩
  | i :: is, s, n, h, hC, hbound => by
    have hcount : (outputs step s (i :: is)).countP advances =
        (advances (step s i).1).toNat + (outputs step (step s i).2 is).countP advances := by
      rw [outputs, List.countP_cons, Nat.add_comm]
      cases advances (step s i).1 <;> rfl
    rw [hcount] at hbound ⊢
    obtain ⟨hq, hnow⟩ := hstep s i (hC _ List.mem_cons_self) fun hadv => by
      rw [hadv, Bool.toNat_true] at hbound
      omega
    obtain ⟨haged, hfinal⟩ := Aged.run step hstep is (step s i).2 _ (h.step hq hnow) (fun o ho => hC o (List.mem_cons_of_mem _ ho))
      (by omega)
    rw [← Nat.add_assoc]
    exact ⟨haged, by rw [final, hfinal, hnow, Nat.add_assoc]⟩

end Stamps

end Aging
