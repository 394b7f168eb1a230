import Mathlib.Data.List.Induction
import Mathlib.Data.List.TakeWhile
import Mathlib.Tactic.Ring

/-! Decimal numbers in texts of bytes: the digits of a number, the number that digits write, and the number a text
    starts with, as the C library reads it. -/

namespace Decimal

def isDigit (c : UInt8) : Bool := 48 ≤ c && c ≤ 57

def isBlank (c : UInt8) : Bool := c = 32 || (9 ≤ c && c ≤ 13)

/-- The number that digits write. -/
def value (digits : List UInt8) : Nat := digits.foldl (fun n c => 10 * n + (c.toNat - 48)) 0

/-- The digits of a number. -/
def digits (n : Nat) : List UInt8 := (Nat.toDigits 10 n).map fun c => UInt8.ofNat c.toNat

/-- The number whose digits a text starts with, and the rest. -/
def unsigned (s : List UInt8) : Option (Nat × List UInt8) :=
  if s.takeWhile isDigit = [] then none else some (value (s.takeWhile isDigit), s.dropWhile isDigit)

/-- The same after blanks and a sign. -/
def signed (s : List UInt8) : Option (Int × List UInt8) :=
  match s.dropWhile isBlank with
  | 45 :: rest => (unsigned rest).map fun r => (-(r.1 : Int), r.2)
  | 43 :: rest => (unsigned rest).map fun r => ((r.1 : Int), r.2)
  | rest => (unsigned rest).map fun r => ((r.1 : Int), r.2)

theorem isDigit_iff (c : UInt8) : isDigit c = true ↔ 48 ≤ c.toNat ∧ c.toNat ≤ 57 := by
  simp [isDigit, UInt8.le_iff_toNat_le]

theorem isBlank_iff (c : UInt8) : isBlank c = true ↔ c.toNat = 32 ∨ 9 ≤ c.toNat ∧ c.toNat ≤ 13 := by
  simp [isBlank, UInt8.le_iff_toNat_le, ← UInt8.toNat_inj]

/-! ### The digits of a number -/

theorem toNat_of_isDigit {c : Char} (h : c.isDigit) : 48 ≤ c.toNat ∧ c.toNat ≤ 57 := by
  simp only [Char.isDigit, Bool.and_eq_true, decide_eq_true_eq, ge_iff_le, UInt32.le_iff_toNat_le] at h
  exact h

theorem toNat_byte {c : Char} (h : c.isDigit) : (UInt8.ofNat c.toNat).toNat = c.toNat := by
  have := toNat_of_isDigit h
  rw [UInt8.toNat_ofNat']
  omega

theorem isDigit_of_mem_digits {n : Nat} {c : UInt8} (h : c ∈ digits n) : isDigit c := by
  obtain ⟨d, hd, rfl⟩ := List.mem_map.mp h
  have hdigit := Nat.isDigit_of_mem_toDigits (by decide) (by decide) hd
  rw [isDigit_iff, toNat_byte hdigit]
  exact toNat_of_isDigit hdigit

theorem digits_ne_nil (n : Nat) : digits n ≠ [] := by simp [digits]

theorem value_digits (n : Nat) : value (digits n) = n := by
  have hchars : ∀ (l : List Char), (∀ c ∈ l, c.isDigit) → ∀ m,
      (l.map fun c => UInt8.ofNat c.toNat).foldl (fun n c => 10 * n + (c.toNat - 48)) m = Nat.ofDigitChars 10 l m := by
    intro l
    induction l with
    | nil => simp
    | cons c l ih =>
      intro h m
      rw [List.map_cons, List.foldl_cons, toNat_byte (h c List.mem_cons_self), Nat.ofDigitChars_cons]
      exact ih (fun d hd => h d (List.mem_cons_of_mem _ hd)) _
  rw [value, digits, hchars _ fun c hc => Nat.isDigit_of_mem_toDigits (by decide) (by decide) hc]
  exact Nat.ofDigitChars_ten_toDigits

theorem length_digits_le {n k : Nat} (hk : 0 < k) (h : n < 10 ^ k) : (digits n).length ≤ k := by
  rw [digits, List.length_map]
  exact (Nat.length_toDigits_le_iff (by decide) hk).mpr h

/-! ### Reading -/

/-- No digit is a blank or a sign. -/
theorem dropWhile_isBlank {s : List UInt8} (h : ∀ c ∈ s.head?, isDigit c) :
    s.dropWhile isBlank = s ∧ ∀ rest, s ≠ 45 :: rest ∧ s ≠ 43 :: rest := by
  cases s with
  | nil => exact ⟨rfl, fun rest => ⟨nofun, nofun⟩⟩
  | cons c s =>
    have hc := (isDigit_iff c).mp (h c rfl)
    refine ⟨List.dropWhile_cons_of_neg ?_, fun rest => ⟨?_, ?_⟩⟩
    · rw [isBlank_iff]
      omega
    · rintro ⟨⟩
      exact absurd hc (by decide)
    · rintro ⟨⟩
      exact absurd hc (by decide)

theorem signed_minus {s rest : List UInt8} (h : s.dropWhile isBlank = 45 :: rest) :
    signed s = (unsigned rest).map fun r => (-(r.1 : Int), r.2) := by
  rw [signed, h]
  rfl

theorem signed_plus {s rest : List UInt8} (h : s.dropWhile isBlank = 43 :: rest) :
    signed s = (unsigned rest).map fun r => ((r.1 : Int), r.2) := by
  rw [signed, h]
  rfl

theorem signed_bare {s : List UInt8} (h : ∀ rest, s.dropWhile isBlank ≠ 45 :: rest ∧ s.dropWhile isBlank ≠ 43 :: rest) :
    signed s = (unsigned (s.dropWhile isBlank)).map fun r => ((r.1 : Int), r.2) := by
  unfold signed
  split
  · rename_i heq
    exact absurd heq (h _).1
  · rename_i heq
    exact absurd heq (h _).2
  · rfl

theorem signed_blanks {blanks : List UInt8} (h : ∀ c ∈ blanks, isBlank c) (s : List UInt8) : signed (blanks ++ s) = signed s := by
  unfold signed
  rw [List.dropWhile_append_of_pos h]

/-- A text that starts with a digit has no sign. -/
theorem signed_of_digit {s : List UInt8} (h : ∀ c ∈ s.head?, isDigit c) :
    signed s = (unsigned s).map fun r => ((r.1 : Int), r.2) := by
  obtain ⟨hblank, hsign⟩ := dropWhile_isBlank h
  rw [signed_bare (by rwa [hblank]), hblank]

theorem unsigned_append {s rest : List UInt8} (hne : s ≠ []) (hs : ∀ c ∈ s, isDigit c)
    (hrest : ∀ c ∈ rest.head?, isDigit c = false) : unsigned (s ++ rest) = some (value s, rest) := by
  have htake : (s ++ rest).takeWhile isDigit = s := by
    rw [List.takeWhile_append_of_pos hs]
    cases rest with
    | nil => simp
    | cons c rest => rw [List.takeWhile_cons_of_neg (by rw [hrest c rfl]; exact nofun), List.append_nil]
  have hdrop : (s ++ rest).dropWhile isDigit = rest := by
    rw [List.dropWhile_append_of_pos hs]
    cases rest with
    | nil => rfl
    | cons c rest => exact List.dropWhile_cons_of_neg (by rw [hrest c rfl]; exact nofun)
  rw [unsigned, htake, hdrop, if_neg hne]

/-- The digits of a number read as the number. -/
theorem signed_digits (n : Nat) : signed (digits n) = some ((n : Int), []) := by
  have hread : unsigned (digits n ++ []) = _ := unsigned_append (digits_ne_nil n) (fun _ => isDigit_of_mem_digits) nofun
  rw [List.append_nil, value_digits] at hread
  rw [signed_of_digit fun c hc => isDigit_of_mem_digits (List.mem_of_mem_head? hc), hread]
  rfl

theorem signed_neg_digits (n : Nat) : signed (45 :: digits n) = some (-(n : Int), []) := by
  have hread : unsigned (digits n ++ []) = _ := unsigned_append (digits_ne_nil n) (fun _ => isDigit_of_mem_digits) nofun
  rw [List.append_nil, value_digits] at hread
  rw [signed_minus (List.dropWhile_cons_of_neg (by decide)), hread]
  rfl

/-- The digits of an integer, behind its sign. -/
def signedDigits (n : Int) : List UInt8 := if n < 0 then 45 :: digits n.natAbs else digits n.natAbs

end Decimal
