import Mathlib.Data.List.Basic

/-! Percent encoding: bytes that are written as they are or as a sign and two digits, texts that have such a form, and
    the decoding. Which bytes are plain is a parameter. -/

namespace Percent

def hexDigit (n : UInt8) : UInt8 := if n < 10 then 48 + n else 55 + n

/-- A sign and the two digits of a byte. -/
def escape (b : UInt8) : List UInt8 := [37, hexDigit (b / 16), hexDigit (b % 16)]

def hexValue (c : UInt8) : Option UInt8 :=
  if 48 ≤ c && c ≤ 57 then some (c - 48)
  else if 65 ≤ c && c ≤ 70 then some (c - 55)
  else if 97 ≤ c && c ≤ 102 then some (c - 87)
  else none

/-- The bytes that a text stands for. A sign without two digits stands for itself. -/
def decode : List UInt8 → List UInt8
  | [] => []
  | [a] => [a]
  | [a, b] => [a, b]
  | a :: b :: c :: rest =>
    if a = 37 then
      match hexValue b, hexValue c with
      | some high, some low => (16 * high + low) :: decode rest
      | _, _ => a :: decode (b :: c :: rest)
    else a :: decode (b :: c :: rest)

/-- A text of plain bytes and of signs with two digits each. -/
inductive Encoded (plain : UInt8 → Bool) : List UInt8 → Prop
  | nil : Encoded plain []
  | plain {c : UInt8} {rest : List UInt8} (hc : plain c = true) (h : Encoded plain rest) : Encoded plain (c :: rest)
  | escaped {a b : UInt8} {rest : List UInt8} (ha : (hexValue a).isSome) (hb : (hexValue b).isSome)
      (h : Encoded plain rest) : Encoded plain (37 :: a :: b :: rest)

def encode (plain : UInt8 → Bool) (s : List UInt8) : List UInt8 := s.flatMap fun c => if plain c then [c] else escape c

theorem forall_byte {P : UInt8 → Prop} (h : ∀ n : Fin 256, P (UInt8.ofNat n)) (b : UInt8) : P b := by
  have hb := h ⟨b.toNat, b.toNat_lt⟩
  rwa [UInt8.ofNat_toNat] at hb

theorem hexValue_hexDigit (b : UInt8) :
    hexValue (hexDigit (b / 16)) = some (b / 16) ∧ hexValue (hexDigit (b % 16)) = some (b % 16) ∧
      16 * (b / 16) + b % 16 = b := by
  revert b
  exact forall_byte (by decide +kernel)

theorem decode_escape (b : UInt8) (rest : List UInt8) : decode (escape b ++ rest) = b :: decode rest := by
  obtain ⟨hhigh, hlow, hvalue⟩ := hexValue_hexDigit b
  show decode (37 :: hexDigit (b / 16) :: hexDigit (b % 16) :: rest) = _
  rw [decode, if_pos rfl, hhigh, hlow]
  show (16 * (b / 16) + b % 16) :: decode rest = _
  rw [hvalue]

theorem decode_cons {c : UInt8} (hc : c ≠ 37) (rest : List UInt8) : decode (c :: rest) = c :: decode rest := by
  rcases rest with _ | ⟨a, _ | ⟨b, rest⟩⟩
  · rfl
  · rfl
  · rw [decode, if_neg hc]

variable {plain : UInt8 → Bool}

/-- What was encoded is decoded again, unless the sign is plain. -/
theorem decode_encode (hsign : plain 37 = false) (s : List UInt8) : decode (encode plain s) = s := by
  unfold encode
  induction s with
  | nil => rfl
  | cons c s ih =>
    rw [List.flatMap_cons]
    by_cases hc : plain c = true
    · have hne : c ≠ 37 := by
        rintro rfl
        exact Bool.false_ne_true (hsign.symm.trans hc)
      rw [if_pos hc, List.singleton_append, decode_cons hne, ih]
    · rw [if_neg hc, decode_escape, ih]

theorem encoded_escape (b : UInt8) {rest : List UInt8} (h : Encoded plain rest) : Encoded plain (escape b ++ rest) := by
  obtain ⟨hhigh, hlow, -⟩ := hexValue_hexDigit b
  exact .escaped (by rw [hhigh]; rfl) (by rw [hlow]; rfl) h

/-- A text of plain bytes has the form. -/
theorem encoded_of_plain {s : List UInt8} (h : ∀ c ∈ s, plain c = true) : Encoded plain s := by
  induction s with
  | nil => exact .nil
  | cons c s ih =>
    obtain ⟨hc, hs⟩ := List.forall_mem_cons.mp h
    exact .plain hc (ih hs)

/-- What is true of the sign, the digits and the plain bytes is true of every byte of the form. -/
theorem forall_of_encoded {p : UInt8 → Bool} (hsign : p 37 = true) (hdigit : ∀ c, (hexValue c).isSome → p c = true)
    (hplain : ∀ c, plain c = true → p c = true) {s : List UInt8} (h : Encoded plain s) : ∀ c ∈ s, p c = true := by
  induction h with
  | nil => exact fun c hc => absurd hc List.not_mem_nil
  | plain hc h ih => exact List.forall_mem_cons.mpr ⟨hplain _ hc, ih⟩
  | escaped ha hb h ih =>
    exact List.forall_mem_cons.mpr ⟨hsign, List.forall_mem_cons.mpr ⟨hdigit _ ha,
      List.forall_mem_cons.mpr ⟨hdigit _ hb, ih⟩⟩⟩

/-- A text without the sign stands for itself. -/
theorem decode_of_plain {s : List UInt8} (h : ∀ c ∈ s, c ≠ 37) : decode s = s := by
  induction s with
  | nil => rfl
  | cons c s ih =>
    obtain ⟨hc, hs⟩ := List.forall_mem_cons.mp h
    rw [decode_cons hc, ih hs]

/-- A plain byte in front is one of the plain bytes of the form, unless it is the sign. -/
theorem encoded_cons {c : UInt8} (hc : c ≠ 37) {rest : List UInt8} :
    Encoded plain (c :: rest) ↔ plain c = true ∧ Encoded plain rest := by
  constructor
  · intro h
    cases h with
    | plain hc h => exact ⟨hc, h⟩
    | escaped ha hb h => exact absurd rfl hc
  · rintro ⟨hc, h⟩
    exact .plain hc h

theorem encoded_of_escape (hsign : plain 37 = false) (b : UInt8) {rest : List UInt8}
    (h : Encoded plain (escape b ++ rest)) : Encoded plain rest := by
  cases h with
  | plain hc h => exact absurd (hsign.symm.trans hc) Bool.false_ne_true
  | escaped ha hb h => exact h

/-- What was encoded with some bytes plain has the form for others exactly if those of its bytes that are plain for the
    one are plain for the other. -/
theorem encoded_encode {allowed : UInt8 → Bool} (hsign : plain 37 = false) (hallowed : allowed 37 = false) (s : List UInt8) :
    Encoded allowed (encode plain s) ↔ ∀ c ∈ s, plain c = true → allowed c = true := by
  unfold encode
  induction s with
  | nil => exact ⟨fun _ c hc => absurd hc List.not_mem_nil, fun _ => .nil⟩
  | cons c s ih =>
    rw [List.flatMap_cons, List.forall_mem_cons]
    by_cases hc : plain c = true
    · have hne : c ≠ 37 := by
        rintro rfl
        exact Bool.false_ne_true (hsign.symm.trans hc)
      rw [if_pos hc, List.singleton_append, encoded_cons hne, ih]
      exact and_congr_left fun _ => ⟨fun h _ => h, fun h => h hc⟩
    · rw [if_neg hc]
      constructor
      · intro h
        exact ⟨fun h => absurd h hc, ih.mp (encoded_of_escape hallowed c h)⟩
      · rintro ⟨-, h⟩
        exact encoded_escape c (ih.mpr h)

end Percent
