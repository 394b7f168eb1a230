import Mathlib.Algebra.Ring.Nat
import Mathlib.Data.List.Basic

/-! Codes of values as bytes: numbers of a fixed width, and lists of codes that are written one after the
    other without a length or a delimiter. -/

namespace Encoding

/-- A number in `width` bytes, the lowest first. -/
def leBytes : Nat → Nat → List UInt8
  | 0, _ => []
  | width + 1, n => UInt8.ofNat (n % 256) :: leBytes width (n / 256)

@[simp] theorem length_leBytes : ∀ (width n : Nat), (leBytes width n).length = width
  | 0, _ => rfl
  | width + 1, n => by rw [leBytes, List.length_cons, length_leBytes width]

theorem leBytes_inj : ∀ {width m n : Nat}, m < 256 ^ width → n < 256 ^ width → leBytes width m = leBytes width n → m = n
  | 0, m, n, hm, hn, _ => by
    rw [Nat.pow_zero] at hm hn
    omega
  | width + 1, m, n, hm, hn, h => by
    rw [leBytes, leBytes] at h
    obtain ⟨hhead, htail⟩ := List.cons.inj h
    have hbyte : m % 256 = n % 256 := by
      have := congrArg UInt8.toNat hhead
      simpa using this
    have hrest : m / 256 = n / 256 := by
      refine leBytes_inj ?_ ?_ htail
      · exact Nat.div_lt_of_lt_mul (by rwa [← Nat.pow_succ'])
      · exact Nat.div_lt_of_lt_mul (by rwa [← Nat.pow_succ'])
    omega

section

variable {α β : Type} (code : α → List β) {same : α → α → Prop}

/-- Concatenated codes are told apart when those at the same place have the same length. -/
theorem eq_of_flatMap_eq (hlength : ∀ a b, same a b → (code a).length = (code b).length)
    (hinj : ∀ a b, same a b → code a = code b → a = b) {as bs : List α} (h : List.Forall₂ same as bs)
    (heq : as.flatMap code = bs.flatMap code) : as = bs := by
  induction h with
  | nil => rfl
  | cons hab _ ih =>
    rw [List.flatMap_cons, List.flatMap_cons] at heq
    obtain ⟨hhead, htail⟩ := List.append_inj heq (hlength _ _ hab)
    rw [hinj _ _ hab hhead, ih htail]

end

end Encoding
