import Mathlib.Logic.Function.Basic

/-! Rows that are put under keys, where a row that has the right tag is left as it is. What a source serves time and again
    comes to stand, and then stays. -/

namespace Puts

variable {κ ρ τ : Type} [DecidableEq κ] (tag : ρ → τ)

/-- The store has a row with the tag of a put under its key. -/
def Holds (s : κ → Option ρ) (p : κ × ρ) : Prop := (s p.1).map tag = some (tag p.2)

/-- What puts of a source lead to, each of them or none at any time. -/
inductive Leads (served : κ × ρ → Prop) : (κ → Option ρ) → (κ → Option ρ) → Prop
  | refl (s : κ → Option ρ) : Leads served s s
  | put {s s' : κ → Option ρ} {p : κ × ρ} (h : Leads served s s') (hserved : served p) (hnew : ¬Holds tag s' p) :
    Leads served s (Function.update s' p.1 (some p.2))

/-- A source serves one tag for a key. -/
def Consistent (served : κ × ρ → Prop) : Prop := ∀ p q, served p → served q → p.1 = q.1 → tag p.2 = tag q.2

variable {tag} {served : κ × ρ → Prop} {s s' s'' : κ → Option ρ} {p q : κ × ρ}

theorem holds_update (s : κ → Option ρ) (p : κ × ρ) : Holds tag (Function.update s p.1 (some p.2)) p := by
  rw [Holds, Function.update_self]
  rfl

theorem Leads.mono {more : κ × ρ → Prop} (h : Leads tag served s s') (hmore : ∀ p, served p → more p) : Leads tag more s s' := by
  induction h with
  | refl => exact .refl _
  | put _ hserved hnew ih => exact ih.put (hmore _ hserved) hnew

theorem Leads.trans (h : Leads tag served s s') (h' : Leads tag served s' s'') : Leads tag served s s'' := by
  induction h' with
  | refl => exact h
  | put _ hserved hnew ih => exact (ih).put hserved hnew

/-- Under a key that is not served nothing changes. -/
theorem Leads.frame (h : Leads tag served s s') {k : κ} (hk : ∀ p, served p → p.1 ≠ k) : s' k = s k := by
  induction h with
  | refl => rfl
  | put _ hserved _ ih => exact (Function.update_of_ne (hk _ hserved).symm _ _).trans ih

/-- What the source serves and the store holds is held on. -/
theorem Leads.holds (h : Leads tag served s s') (hc : Consistent tag served) (hp : served p) (hs : Holds tag s p) :
    Holds tag s' p := by
  induction h with
  | refl => exact hs
  | put _ hserved _ ih =>
    rename_i q _ _
    by_cases hkey : p.1 = q.1
    · rw [Holds, hkey, Function.update_self, hc p q hp hserved hkey]
      rfl
    · rw [Holds, Function.update_of_ne hkey]
      exact ih

/-- A store that holds all that is served stays as it is. -/
theorem Leads.eq_of_holds (h : Leads tag served s s') (hs : ∀ p, served p → Holds tag s p) : s' = s := by
  induction h with
  | refl => rfl
  | put _ hserved hnew ih =>
    rw [ih] at hnew
    exact absurd (hs _ hserved) hnew

end Puts
