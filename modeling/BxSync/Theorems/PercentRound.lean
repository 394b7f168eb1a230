import BxSync.Lib.Percent
import BxSync.PercentTable

/-! The table escapes the signs and the bytes from 0x80 on, and writes every other byte as it is: letters and digits, but
    also the space and the controls, which no URL holds. Both loops agree on it, so the block is full at the end and
    decodes to the value. -/

namespace BxSync

open Percent

def isAlphanumeric (c : UInt8) : Bool := (48 ≤ c && c ≤ 57) || (65 ≤ c && c ≤ 90) || (97 ≤ c && c ≤ 122)

/-- What a query holds unescaped: letters, digits and the signs of its grammar. -/
def isQueryChar (c : UInt8) : Bool := isAlphanumeric c || c ∈ asciiBytes "-._~!$&'()*+,;=:@/?"

/-- The bytes that the table and the test behind it leave as they are. -/
def leftPlain (c : UInt8) : Bool := isAlphanumeric c || c ≤ 32 || c = 127

theorem encodeChar_eq : ∀ c : UInt8, encodeChar c = (!leftPlain c, if leftPlain c then [c] else escape c) :=
  forall_byte (by decide +kernel)

theorem queryChar_of_leftPlain : ∀ c : UInt8, leftPlain c = true → (isQueryChar c = true ↔ 32 < c ∧ c ≠ 127) :=
  forall_byte (by decide +kernel)

theorem leftPlain_of_low : ∀ c : UInt8, ¬(32 < c ∧ c ≠ 127) → leftPlain c = true := forall_byte (by decide +kernel)

/-! ### The two loops -/

theorem nextInt_eq {i : Nat} : nextInt (i : Int) = if i = intMax then none else some ((i + 1 : Nat) : Int) := by
  unfold nextInt
  by_cases hi : i = intMax
  · rw [if_pos (congrArg _ hi), if_pos hi]
  · rw [if_neg fun h => hi (Int.ofNat_inj.mp h), if_neg hi]
    rfl

theorem length_encodeChar (c : UInt8) : (encodeChar c).2.length = if (encodeChar c).1 then 3 else 1 := by
  rw [encodeChar_eq]
  by_cases hc : leftPlain c = true
  · rw [if_pos hc, hc]
    rfl
  · rw [if_neg hc, Bool.eq_false_iff.mpr hc]
    rfl

theorem encode_cons (c : UInt8) (rest : List UInt8) :
    encode leftPlain (c :: rest) = (encodeChar c).2 ++ encode leftPlain rest := by
  rw [encode, List.flatMap_cons, encodeChar_eq]
  rfl

/-- The first loop finds the length of what is to be written, as long as its index stays an int. -/
theorem encodedLen_eq (rest : List UInt8) (i : Nat) (hi : i ≤ intMax) : encodedLen rest (i : Int) =
    if i + rest.length ≤ intMax then some (encode leftPlain rest).length else none := by
  induction rest generalizing i with
  | nil => rw [List.length_nil, Nat.add_zero, if_pos hi]; rfl
  | cons c rest ih =>
    unfold encodedLen
    rw [nextInt_eq]
    by_cases hlast : i = intMax
    · have hover : ¬i + (c :: rest).length ≤ intMax := by
        rw [List.length_cons]
        omega
      rw [if_pos hlast, if_neg hover]
      rfl
    · rw [if_neg hlast, Option.bind_eq_bind, Option.bind_some, ih (i + 1) (by omega), List.length_cons]
      by_cases hfits : i + (rest.length + 1) ≤ intMax
      · rw [if_pos (by omega), if_pos hfits, Option.bind_eq_bind, Option.bind_some, encode_cons, List.length_append,
          length_encodeChar]
      · rw [if_neg (by omega), if_neg hfits]
        rfl

/-- The second loop fills the block with it. -/
theorem writeEncoded_eq (rest : List UInt8) (i : Nat) (hint : i + rest.length ≤ intMax) (done : List UInt8)
    (hsize : (encode leftPlain rest).length < 2 ^ 64) :
    writeEncoded rest (i : Int) (done ++ List.replicate ((encode leftPlain rest).length + 1) 0) done.length
        (encode leftPlain rest).length = some (done ++ encode leftPlain rest ++ [0]) := by
  induction rest generalizing i done with
  | nil => rw [writeEncoded, encode, List.flatMap_nil, List.append_nil]; rfl
  | cons c rest ih =>
    have hlen := length_encodeChar c
    rw [encode_cons, List.length_append] at hsize ⊢
    rw [List.length_cons] at hint
    have hstore := Block.store_replicate done (encodeChar c).2 (0 : UInt8)
      (show (encodeChar c).2.length ≤ (encodeChar c).2.length + (encode leftPlain rest).length + 1 by omega)
    have hleft : (encodeChar c).2.length + (encode leftPlain rest).length + 1 - (encodeChar c).2.length =
        (encode leftPlain rest).length + 1 := by omega
    have hsmall : (encodeChar c).2.length ≤ 3 := by
      rw [hlen]
      by_cases hescaped : (encodeChar c).1 = true
      · rw [if_pos hescaped]
      · rw [if_neg hescaped]
        omega
    have hrest : ((encodeChar c).2.length + (encode leftPlain rest).length + (2 ^ 64 - (encodeChar c).2.length)) % 2 ^ 64 =
        (encode leftPlain rest).length := by omega
    have hwritten : bxEncodeCharPercentEncoding (done ++ List.replicate ((encodeChar c).2.length +
        (encode leftPlain rest).length + 1) 0) done.length ((encodeChar c).2.length + (encode leftPlain rest).length) c =
          some ((encodeChar c).1, done ++ (encodeChar c).2 ++ List.replicate ((encode leftPlain rest).length + 1) 0) := by
      unfold bxEncodeCharPercentEncoding
      dsimp only
      rw [if_pos (by omega), hstore, hleft]
      rfl
    unfold writeEncoded
    rw [hwritten, Option.bind_eq_bind, Option.bind_some]
    dsimp only
    rw [← hlen, nextInt_eq, if_neg (by omega), Option.bind_eq_bind, Option.bind_some, hrest, ← List.length_append,
      ih (i + 1) (by omega) _ (by omega), List.append_assoc done]

/-- A value whose length is an int is encoded into a block that is full. -/
theorem bxPercentEncoding_eq (value : CText) : bxPercentEncoding value =
    if value.bytes.length ≤ intMax then some (encode leftPlain value.bytes ++ [0]) else none := by
  have hlen := encodedLen_eq value.bytes 0 (Nat.zero_le _)
  rw [Nat.zero_add] at hlen
  unfold bxPercentEncoding
  by_cases hfits : value.bytes.length ≤ intMax
  · have hsize : (encode leftPlain value.bytes).length ≤ 3 * value.bytes.length := by
      generalize value.bytes = s
      induction s with
      | nil => exact le_refl 0
      | cons c s ih =>
        have hlen := length_encodeChar c
        rw [encode_cons, List.length_append, List.length_cons, hlen]
        by_cases hescaped : (encodeChar c).1 = true
        · rw [if_pos hescaped]
          omega
        · rw [if_neg hescaped]
          omega
    have hmax : intMax = 2147483647 := rfl
    have hwrite := writeEncoded_eq value.bytes 0 (by omega) [] (by omega)
    rw [if_pos hfits] at hlen
    rw [if_pos hfits, ← Nat.cast_zero, hlen]
    exact hwrite
  · rw [if_neg hfits] at hlen
    rw [if_neg hfits, ← Nat.cast_zero, hlen]
    rfl

/-! ### Values -/

/-- The length of the first loop is what the second one writes and the block holds with its NUL. The text decodes to the
    value and has nothing unescaped but what a query holds. -/
structure PercentEncodes (value : CText) : Prop where
  encodes : ∃ text, encodedLen value.bytes 0 = some text.length ∧ bxPercentEncoding value = some (text ++ [0]) ∧
    0 ∉ text ∧ decode text = value.bytes ∧ Encoded isQueryChar text

theorem nul_notMem_encode (value : CText) : 0 ∉ encode leftPlain value.bytes := by
  intro h
  obtain ⟨c, hc, hmem⟩ := List.mem_flatMap.mp h
  by_cases hplain : leftPlain c = true
  · rw [if_pos hplain] at hmem
    exact value.ended (List.mem_singleton.mp hmem ▸ hc)
  · rw [if_neg hplain] at hmem
    have hescape : ∀ c : UInt8, 0 ∉ escape c := forall_byte (by decide +kernel)
    exact hescape c hmem

/-- Every value but one with a space, a control or a DEL, as long as its length is an int. -/
theorem percentEncodes_iff (value : CText) :
    PercentEncodes value ↔ (∀ c ∈ value.bytes, 32 < c ∧ c ≠ 127) ∧ value.bytes.length ≤ intMax := by
  have hlen := encodedLen_eq value.bytes 0 (Nat.zero_le _)
  have hform : Encoded isQueryChar (encode leftPlain value.bytes) ↔
      ∀ c ∈ value.bytes, leftPlain c = true → isQueryChar c = true := encoded_encode (by decide) (by decide) value.bytes
  rw [Nat.zero_add, Nat.cast_zero] at hlen
  constructor
  · rintro ⟨text, -, hblock, -, -, hencoded⟩
    by_cases hfits : value.bytes.length ≤ intMax
    · rw [bxPercentEncoding_eq, if_pos hfits] at hblock
      obtain rfl := List.append_cancel_right (Option.some.inj hblock)
      refine ⟨fun c hc => ?_, hfits⟩
      by_contra hlow
      have hplain := leftPlain_of_low c hlow
      exact hlow ((queryChar_of_leftPlain c hplain).mp (hform.mp hencoded c hc hplain))
    · rw [bxPercentEncoding_eq, if_neg hfits] at hblock
      cases hblock
  · rintro ⟨hlow, hfits⟩
    rw [if_pos hfits] at hlen
    refine ⟨encode leftPlain value.bytes, hlen, ?_, nul_notMem_encode value, decode_encode (by decide) _, ?_⟩
    · rw [bxPercentEncoding_eq, if_pos hfits]
    · exact hform.mpr fun c hc hplain => (queryChar_of_leftPlain c hplain).mpr (hlow c hc)

/-- The space stays a space. -/
theorem percentEncodes_space : bxPercentEncoding (.ofString "a b") = some (asciiBytes "a b" ++ [0]) ∧
    ¬PercentEncodes (.ofString "a b") := by
  have hblock : bxPercentEncoding (.ofString "a b") = some (asciiBytes "a b" ++ [0]) := by decide +kernel
  refine ⟨hblock, ?_⟩
  rintro ⟨text, -, hencoded, -, -, hform⟩
  obtain rfl := List.append_cancel_right (Option.some.inj (hblock.symm.trans hencoded))
  have hrest : Encoded isQueryChar (32 :: [98]) := ((encoded_cons (c := 97) (by decide)).mp hform).2
  exact absurd ((encoded_cons (by decide)).mp hrest).1 (by decide)

/-- A parameter that is added is the last one, with both of its texts encoded. -/
theorem bxNetRequestAddParam_eq (params : List BXNetURLParam) {name value : CText} (hname : name.bytes.length ≤ intMax)
    (hvalue : value.bytes.length ≤ intMax) : ∃ param : BXNetURLParam,
      bxNetRequestAddParam params name value = some (params ++ [param]) ∧
        decode param.name.bytes = name.bytes ∧ decode param.value.bytes = value.bytes := by
  have hread (text : CText) : (CText.read (encode leftPlain text.bytes ++ [0])).bytes = encode leftPlain text.bytes :=
    cString_append_nul (nul_notMem_encode text) []
  refine ⟨⟨.read (encode leftPlain name.bytes ++ [0]), .read (encode leftPlain value.bytes ++ [0])⟩, ?_, ?_, ?_⟩
  · unfold bxNetRequestAddParam
    rw [bxPercentEncoding_eq, if_pos hname, bxPercentEncoding_eq, if_pos hvalue]
    rfl
  · rw [hread, decode_encode (by decide)]
  · rw [hread, decode_encode (by decide)]

end BxSync
