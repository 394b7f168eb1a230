import BxSync.Upsert
import BxSync.Theorems.HtmlDecode

/-! Whether the readers of a JSON object read a number as itself, from an integer and from the string of its digits, and
    whether the text of a real is complete. The reader of doubles has no branch for integers, that of unsigned numbers
    reads strings as signed ones, and the text of a real loses its last character. -/

namespace BxSync

/-! ### The property -/

/-- The decimal digits of an integer, with its sign. -/
def decimalText (n : Int) : List UInt8 := asciiBytes (toString n)

/-- The value of the bits of a double in units of 2^-1074, the smallest positive one. Infinities and what is no number have
    none. -/
def doubleUnits (bits : UInt64) : Option Int :=
  let exponent := bits.toNat / 2 ^ 52 % 2 ^ 11
  let fraction := bits.toNat % 2 ^ 52
  let magnitude : Nat := if exponent = 0 then fraction else (2 ^ 52 + fraction) * 2 ^ (exponent - 1)
  if exponent = 2047 then none else some (if bits.toNat < 2 ^ 63 then (magnitude : Int) else -(magnitude : Int))

/-- The readers of numbers. -/
inductive NumberReader
  | int
  | uint
  | double
  | string
deriving DecidableEq, Repr

def NumberReader.kind : NumberReader → BXFieldKind
  | int => .int
  | uint => .uint
  | double => .float
  | string => .str

/-- A slot stands for an integer. -/
def Denotes (n : Int) : BXSlot → Prop
  | .int (some i) => i.toInt = n
  | .uint (some i) => (i.toNat : Int) = n
  | .float (some bits) => doubleUnits bits = some (n * 2 ^ 1074)
  | .str (some s) => s = decimalText n
  | _ => False

/-- What JSON can hold an integer as: the string of its digits, and an integer of 64 bits. -/
def numberForms (n : Int) : List Json :=
  .string (decimalText n) :: if -2 ^ 63 ≤ n ∧ n < 2 ^ 63 then [.integer (Int64.ofInt n)] else []

/-- The type of a reader can represent an integer. -/
def NumberReader.Represents (n : Int) : NumberReader → Prop
  | int => -2 ^ 63 ≤ n ∧ n < 2 ^ 63
  | uint => 0 ≤ n ∧ n < 2 ^ 64
  | double => ∃ bits, doubleUnits bits = some (n * 2 ^ 1074)
  | string => True

/-- What is read: an integer by one of the readers, or a real by the one of strings. -/
inductive NumberInput
  | number (reader : NumberReader) (n : Int)
  | real (bits : UInt64)
deriving DecidableEq, Repr

section

variable (lib : TextLib)

/-- A reader reads every form of an integer as it, and all of them as one value with one part in the hash. -/
structure ReadsNumber (reader : NumberReader) (n : Int) : Prop where
  denotes : ∀ value ∈ numberForms n, ∀ object key, Json.get object key = some value →
    Denotes n (readSlot lib object key reader.kind)
  same : ∀ value ∈ numberForms n, ∀ value' ∈ numberForms n, ∀ object key object' key',
    Json.get object key = some value → Json.get object' key' = some value' →
      readSlot lib object key reader.kind = readSlot lib object' key' reader.kind ∧
        (readSlot lib object key reader.kind).mixed = (readSlot lib object' key' reader.kind).mixed

/-- Numbers are read as themselves, and reals as their whole text. -/
def NumberInput.Agrees : NumberInput → Prop
  | number reader n => ReadsNumber lib reader n
  | real bits => ∀ object key, Json.get object key = some (.real bits) →
      bxObjectGetJsonString lib object key = some (lib.printE bits)

def NumberInput.Represented : NumberInput → Prop
  | number reader n => reader.Represents n
  | real _ => True

/-- What the library does with the text at hand: `strtod` reads the digits of an integer as it, 0 as the zero without a
    sign, `snprintf` prints something without a `&`, and a text without a `&` has no entity. -/
def NumberInput.Documented : NumberInput → Prop
  | number .double n =>
    doubleUnits (lib.strtod (decimalText n)) = some (n * 2 ^ 1074) ∧ (n = 0 → lib.strtod (decimalText n) = 0)
  | number .string n => lib.htmlEntitiesReplaces (decimalText n) = decimalText n
  | number _ _ => True
  | real bits => lib.printE bits ≠ [] ∧ 38 ∉ lib.printE bits ∧ ∀ s, 38 ∉ s → lib.htmlEntitiesReplaces s = s

end

/-- Unsigned numbers below 2^63, and of those that JSON can hold as an integer the double 0. No text of a real. -/
def NumberInput.Fits : NumberInput → Prop
  | number .int _ => True
  | number .uint n => n < 2 ^ 63
  | number .double n => -2 ^ 63 ≤ n → n < 2 ^ 63 → n = 0
  | number .string _ => True
  | real _ => False

/-! ### Texts -/

theorem asciiBytes_toString (n : Nat) : asciiBytes (toString n) = Decimal.digits n := by
  show (Nat.repr n).toList.map _ = _
  rw [Nat.toList_repr]
  rfl

theorem decimalText_ofNat (n : Nat) : decimalText n = Decimal.digits n := asciiBytes_toString n

theorem decimalText_neg (n : Nat) : decimalText (Int.negSucc n) = 45 :: Decimal.digits (n + 1) := by
  show asciiBytes ("-" ++ (n + 1).repr) = _
  have htext := asciiBytes_toString (n + 1)
  unfold asciiBytes at htext ⊢
  rw [String.toList_append, List.map_append]
  exact congrArg (45 :: ·) htext

/-- The text of a number reads as the number. -/
theorem signed_decimalText (n : Int) : Decimal.signed (decimalText n) = some (n, []) := by
  cases n with
  | ofNat n =>
    show Decimal.signed (decimalText (n : Int)) = _
    rw [decimalText_ofNat, Decimal.signed_digits]
    rfl
  | negSucc n =>
    rw [decimalText_neg, Decimal.signed_neg_digits]
    rfl

theorem mem_decimalText {n : Int} {c : UInt8} (h : c ∈ decimalText n) : c = 45 ∨ isDigit c := by
  cases n with
  | ofNat n =>
    have hmem : c ∈ decimalText (n : Int) := h
    rw [decimalText_ofNat] at hmem
    exact Or.inr (Decimal.isDigit_of_mem_digits hmem)
  | negSucc n =>
    rw [decimalText_neg, List.mem_cons] at h
    exact h.imp_right Decimal.isDigit_of_mem_digits

theorem cString_decimalText (n : Int) : cString (decimalText n) = decimalText n := by
  refine List.takeWhile_eq_self_iff.mpr fun c hc => decide_eq_true ?_
  rintro rfl
  rcases mem_decimalText hc with h | h
  · exact nomatch h
  · exact nomatch h

theorem strtoll_decimalText (n : Int) : strtoll (decimalText n) = Int64.ofInt (max (-2 ^ 63) (min n (2 ^ 63 - 1))) := by
  rw [strtoll_eq, cString_decimalText, signed_decimalText]
  rfl

theorem printInteger_ofInt {n : Int} (hmin : -2 ^ 63 ≤ n) (hmax : n < 2 ^ 63) : printInteger (Int64.ofInt n) = decimalText n := by
  rw [printInteger, Int64.toInt_ofInt_of_le hmin hmax]
  rfl

theorem pieces_plain {s : List UInt8} (h : 38 ∉ s) : pieces htmlTable s = s.map Piece.byte := by
  induction s with
  | nil => rfl
  | cons c s ih =>
    rw [List.mem_cons, not_or] at h
    have hpiece : htmlTable.firstPiece c s = .byte c := by
      rw [HtmlTable.firstPiece, entityAt_eq_none htmlTable (Ne.symm h.1)]
    rw [pieces_cons, hpiece, List.map_cons]
    exact congrArg _ (ih h.2)

theorem decodeHtml_plain {s : List UInt8} (h : 38 ∉ s) : decodeHtml htmlTable s = s := by
  rw [decodeHtml, pieces_plain h, List.flatMap_map]
  exact List.flatMap_singleton' s

/-- `bx_html_entities_replaces` keeps a text without a `&`. -/
theorem bxHtmlEntitiesReplaces_plain {s : List UInt8} (hs : 0 ∉ s) (h : 38 ∉ s) (hlen : s.length ≤ intMax) :
    bxHtmlEntitiesReplaces htmlTable { value := some (s ++ [0]), valueLen := s.length } =
      some { value := some (s ++ [0]), valueLen := s.length } := by
  have hfits : FitsInPlace htmlTable s := by
    refine ⟨hlen, fun front hfront => ?_⟩
    have hnone : front.countP Piece.longer = 0 := by
      rw [List.countP_eq_zero]
      intro p hp
      obtain ⟨c, -, rfl⟩ := List.mem_map.mp (pieces_plain h ▸ hfront.subset hp)
      exact nofun
    rw [hnone]
    exact Nat.zero_le _
  rw [hfits.decoded hs, decodeHtml_plain h, Nat.add_sub_cancel_left]
  rfl

/-! ### The readers -/

theorem mem_numberForms {n : Int} {value : Json} (h : value ∈ numberForms n) :
    value = .string (decimalText n) ∨ (value = .integer (Int64.ofInt n) ∧ -2 ^ 63 ≤ n ∧ n < 2 ^ 63) := by
  rw [numberForms, List.mem_cons] at h
  refine h.imp_right fun hinteger => ?_
  split at hinteger
  · rename_i hrange
    exact ⟨List.mem_singleton.mp hinteger, hrange⟩
  · exact absurd hinteger List.not_mem_nil

theorem string_mem_numberForms (n : Int) : .string (decimalText n) ∈ numberForms n := List.mem_cons_self

theorem integer_mem_numberForms {n : Int} (hmin : -2 ^ 63 ≤ n) (hmax : n < 2 ^ 63) :
    .integer (Int64.ofInt n) ∈ numberForms n := by
  rw [numberForms, if_pos ⟨hmin, hmax⟩]
  exact List.mem_cons_of_mem _ (List.mem_singleton_self _)

section

variable {lib : TextLib} {reader : NumberReader} {n : Int}

/-- A reader that reads every form as one slot for the integer. -/
theorem ReadsNumber.of_slot (slot : BXSlot) (hdenotes : Denotes n slot)
    (hread : ∀ value ∈ numberForms n, ∀ object key, Json.get object key = some value →
      readSlot lib object key reader.kind = slot) : ReadsNumber lib reader n := by
  refine ⟨fun value hvalue object key hget => ?_, fun value hvalue value' hvalue' object key object' key' hget hget' => ?_⟩
  · rw [hread value hvalue object key hget]
    exact hdenotes
  · have hsame := (hread value hvalue object key hget).trans (hread value' hvalue' object' key' hget').symm
    exact ⟨hsame, congrArg BXSlot.mixed hsame⟩

theorem strtoll_of_lt (hmin : -2 ^ 63 ≤ n) (hmax : n < 2 ^ 63) : strtoll (decimalText n) = Int64.ofInt n := by
  rw [strtoll_decimalText, min_eq_left (by omega), max_eq_right hmin]

theorem toNat_toUInt64_ofInt (hmin : 0 ≤ n) (hmax : n < 2 ^ 63) : ((Int64.ofInt n).toUInt64.toNat : Int) = n := by
  have hnat : (Int64.ofInt n).toUInt64.toNat = (n % 2 ^ 64).toNat := by
    show (BitVec.ofInt 64 n).toNat = _
    rw [BitVec.toNat_ofInt]
    rfl
  omega

theorem readsNumber_int (hmin : -2 ^ 63 ≤ n) (hmax : n < 2 ^ 63) : ReadsNumber lib .int n := by
  refine .of_slot (.int (some (Int64.ofInt n))) (Int64.toInt_ofInt_of_le hmin hmax) fun value hvalue object key hget => ?_
  rcases mem_numberForms hvalue with rfl | ⟨rfl, -⟩
  · simp only [NumberReader.kind, readSlot, bxObjectGetJsonInt, hget, strtoll_of_lt hmin hmax]
  · simp only [NumberReader.kind, readSlot, bxObjectGetJsonInt, hget]

theorem readsNumber_uint_iff (hmin : 0 ≤ n) (hmax : n < 2 ^ 64) : ReadsNumber lib .uint n ↔ n < 2 ^ 63 := by
  constructor
  · rintro ⟨hdenotes, -⟩
    by_contra hge
    have hread := hdenotes _ (string_mem_numberForms n) (.object [("n", .string (decimalText n))]) "n" rfl
    have hstrtoll : strtoll (decimalText n) = Int64.ofInt (2 ^ 63 - 1) := by
      rw [strtoll_decimalText, min_eq_right (by omega), max_eq_right (by decide)]
    have hslot : readSlot lib (.object [("n", .string (decimalText n))]) "n" NumberReader.uint.kind =
        .uint (some (Int64.ofInt (2 ^ 63 - 1)).toUInt64) := by
      rw [← hstrtoll]
      rfl
    rw [hslot] at hread
    have hlargest : ((Int64.ofInt (2 ^ 63 - 1)).toUInt64.toNat : Int) = 2 ^ 63 - 1 := toNat_toUInt64_ofInt (by decide) (by decide)
    have hn : ((Int64.ofInt (2 ^ 63 - 1)).toUInt64.toNat : Int) = n := hread
    omega
  · intro hlt
    refine .of_slot (.uint (some (Int64.ofInt n).toUInt64)) (toNat_toUInt64_ofInt hmin hlt) fun value hvalue object key hget => ?_
    rcases mem_numberForms hvalue with rfl | ⟨rfl, -⟩
    · simp only [NumberReader.kind, readSlot, bxObjectGetJsonUint, hget, strtoll_of_lt (by omega) hlt]
    · simp only [NumberReader.kind, readSlot, bxObjectGetJsonUint, hget]

theorem readsNumber_double_iff (hstrtod : doubleUnits (lib.strtod (decimalText n)) = some (n * 2 ^ 1074))
    (hzero : n = 0 → lib.strtod (decimalText n) = 0) :
    ReadsNumber lib .double n ↔ (-2 ^ 63 ≤ n → n < 2 ^ 63 → n = 0) := by
  constructor
  · rintro ⟨hdenotes, -⟩ hmin hmax
    have hread := hdenotes _ (integer_mem_numberForms hmin hmax) (.object [("n", .integer (Int64.ofInt n))]) "n" rfl
    have hunits : doubleUnits 0 = some (n * 2 ^ 1074) := hread
    have hproduct : n * 2 ^ 1074 = 0 := (Option.some.inj hunits).symm
    exact (Int.mul_eq_zero.mp hproduct).resolve_right (pow_ne_zero 1074 (by decide))
  · intro hfits
    refine .of_slot (.float (some (lib.strtod (decimalText n)))) hstrtod fun value hvalue object key hget => ?_
    rcases mem_numberForms hvalue with rfl | ⟨rfl, hmin, hmax⟩
    · simp only [NumberReader.kind, readSlot, bxObjectGetJsonDouble, hget]
    · simp only [NumberReader.kind, readSlot, bxObjectGetJsonDouble, hget, hzero (hfits hmin hmax)]

theorem readsNumber_string (hplain : lib.htmlEntitiesReplaces (decimalText n) = decimalText n) : ReadsNumber lib .string n := by
  refine .of_slot (.str (some (decimalText n))) rfl fun value hvalue object key hget => ?_
  rcases mem_numberForms hvalue with rfl | ⟨rfl, hmin, hmax⟩
  · simp only [NumberReader.kind, readSlot, bxObjectGetJsonString, hget, Option.map_some, hplain]
  · simp only [NumberReader.kind, readSlot, bxObjectGetJsonString, hget, Option.map_some, printInteger_ofInt hmin hmax, hplain]

end

/-- The text of a real loses its last character. -/
theorem string_of_real (lib : TextLib) (object : Json) (key : String) {bits : UInt64} (hget : Json.get object key = some (.real bits))
    (hplain : 38 ∉ lib.printE bits) (hkept : ∀ s, 38 ∉ s → lib.htmlEntitiesReplaces s = s) :
    bxObjectGetJsonString lib object key = some (lib.printE bits).dropLast := by
  simp only [bxObjectGetJsonString, hget, Option.map_some]
  rw [hkept _ fun hmem => hplain (List.dropLast_subset _ hmem)]

/-- The readers agree with what they read if and only if it fits. -/
theorem numberReaders_iff (lib : TextLib) (input : NumberInput) (hrep : input.Represented) (hlib : input.Documented lib) :
    input.Agrees lib ↔ input.Fits := by
  cases input with
  | number reader n =>
    cases reader with
    | int => exact iff_of_true (readsNumber_int hrep.1 hrep.2) trivial
    | uint => exact readsNumber_uint_iff hrep.1 hrep.2
    | double => exact readsNumber_double_iff hlib.1 hlib.2
    | string => exact iff_of_true (readsNumber_string hlib) trivial
  | real bits =>
    obtain ⟨hne, hplain, hkept⟩ := hlib
    refine iff_of_false (fun hagrees => ?_) id
    have htext := hagrees (.object [("n", .real bits)]) "n" rfl
    rw [string_of_real lib _ _ rfl hplain hkept] at htext
    have hlen := congrArg List.length (Option.some.inj htext)
    rw [List.length_dropLast] at hlen
    have hpos := List.length_pos_iff.mpr hne
    omega
/-! ### Two doubles

    2^63 has only its string, and 5 is an integer of JSON as well. -/

/-- A library whose `strtod` reads one number. -/
def oneDouble (bits : UInt64) : TextLib := { plainText with strtod := fun _ => bits }

theorem numberReaders_large : (NumberInput.number .double (2 ^ 63)).Agrees (oneDouble 0x43E0000000000000) :=
  (numberReaders_iff (oneDouble 0x43E0000000000000) (.number .double (2 ^ 63)) ⟨0x43E0000000000000, by decide +kernel⟩
    ⟨by decide +kernel, nofun⟩).mpr fun _ hmax => absurd hmax (by decide)

/-- The reader of doubles reads the integer 5 as 0. -/
theorem numberReaders_integer :
    (NumberInput.number .double 5).Represented ∧ (NumberInput.number .double 5).Documented (oneDouble 0x4014000000000000) ∧
      ¬(NumberInput.number .double 5).Agrees (oneDouble 0x4014000000000000) := by
  have hfive : doubleUnits 0x4014000000000000 = some (5 * 2 ^ 1074) := by decide +kernel
  refine ⟨⟨_, hfive⟩, ⟨hfive, nofun⟩, fun hagrees => ?_⟩
  have hread := hagrees.denotes _ (integer_mem_numberForms (by decide) (by decide)) (.object [("amount", .integer 5)]) "amount" rfl
  have hunits : doubleUnits 0 = some (5 * 2 ^ 1074) := hread
  exact absurd hunits (by decide +kernel)

end BxSync
