import Mathlib.Data.List.Basic
import BxSync.Lib.Decimal
import BxSync.Lib.Encoding

/-! The readers of the fields of a JSON object (`bx_object.c`). A reader returns the value of a field, unset
    when the field is absent or null, and mixes the bytes of a set one into the hash.

    Floating point numbers are the 64 bits they are stored in. What the C library makes of their texts, and the
    table of HTML entities, is a parameter. Allocations succeed. -/

namespace BxSync

open Encoding

/-- A value as jansson holds it. No reader looks into an array or a nested object. -/
inductive Json
  | null
  | bool (b : Bool)
  | integer (n : Int64)
  | real (bits : UInt64)
  | string (bytes : List UInt8)
  | array
  | object (fields : List (String × Json))

/-- `json_object_get`. -/
def Json.get (value : Json) (key : String) : Option Json :=
  match value with
  | .object fields => fields.lookup key
  | _ => none

structure TextLib where
  strtod : List UInt8 → UInt64
  /-- What `snprintf` prints with `%e`. -/
  printE : UInt64 → List UInt8
  htmlEntitiesReplaces : List UInt8 → List UInt8

/-! ### Texts -/

def asciiBytes (s : String) : List UInt8 := s.toList.map fun c => UInt8.ofNat c.toNat

/-- A string of C ends at its first NUL. -/
def cString (s : List UInt8) : List UInt8 := s.takeWhile (· ≠ 0)

theorem nul_notMem_cString (s : List UInt8) : 0 ∉ cString s := by
  induction s with
  | nil => exact List.not_mem_nil
  | cons c s ih =>
    unfold cString at *
    rw [List.takeWhile_cons]
    split
    · rename_i hc
      rw [List.mem_cons, not_or]
      exact ⟨fun h => by simp [← h] at hc, ih⟩
    · exact List.not_mem_nil

theorem cString_append_nul {s : List UInt8} (hs : 0 ∉ s) (rest : List UInt8) : cString (s ++ 0 :: rest) = s := by
  have hpos : ∀ c ∈ s, decide (c ≠ 0) = true := fun c hc => decide_eq_true fun h => hs (h ▸ hc)
  rw [cString, List.takeWhile_append_of_pos hpos, List.takeWhile_cons_of_neg (by simp), List.append_nil]

/-- The bytes of a C string. -/
structure CText where
  bytes : List UInt8
  ended : 0 ∉ bytes
deriving DecidableEq

namespace CText

/-- The C string at the start of a text. -/
def read (s : List UInt8) : CText := ⟨cString s, nul_notMem_cString s⟩

def ofString (s : String) : CText := read (asciiBytes s)

theorem bytes_injective : Function.Injective bytes := by
  rintro ⟨a, ha⟩ ⟨b, hb⟩ heq
  cases heq
  rfl

theorem read_bytes (text : CText) : read text.bytes = text :=
  bytes_injective (List.takeWhile_eq_self_iff.mpr fun _ hc => decide_eq_true fun hzero => text.ended (hzero ▸ hc))

end CText

def isSpace (c : UInt8) : Bool := c = 32 || (9 ≤ c && c ≤ 13)

def isDigit (c : UInt8) : Bool := 48 ≤ c && c ≤ 57

def toLower (c : UInt8) : UInt8 := if 65 ≤ c && c ≤ 90 then c + 32 else c

/-- `strcasecmp` finds no difference. -/
def sameWord (word : String) (s : List UInt8) : Bool := asciiBytes word = (cString s).map toLower

/-- `strtoll` with base 10: spaces, a sign and digits, clamped to the range of its type. -/
def strtoll (s : List UInt8) : Int64 :=
  let digits (s : List UInt8) : Int := (s.takeWhile isDigit).foldl (fun n c => 10 * n + (c.toNat - 48)) 0
  let n :=
    match (cString s).dropWhile isSpace with
    | 45 :: rest => -digits rest
    | 43 :: rest => digits rest
    | rest => digits rest
  Int64.ofInt (max (-2 ^ 63) (min n (2 ^ 63 - 1)))

/-- It is the signed number that the text starts with. -/
theorem strtoll_eq (s : List UInt8) :
    strtoll s = Int64.ofInt (max (-2 ^ 63) (min ((Decimal.signed (cString s)).elim 0 Prod.fst) (2 ^ 63 - 1))) := by
  have hfold : ∀ (l : List UInt8) (n : Nat), (∀ c ∈ l, isDigit c) →
      l.foldl (fun (n : Int) c => 10 * n + (c.toNat - 48)) n = (l.foldl (fun n c => 10 * n + (c.toNat - 48)) n : Nat) := by
    intro l
    induction l with
    | nil => exact fun n _ => rfl
    | cons c l ih =>
      intro n h
      have hc := (Decimal.isDigit_iff c).mp (h c List.mem_cons_self)
      have hstep : 10 * (n : Int) + ((c.toNat : Int) - 48) = (10 * n + (c.toNat - 48) : Nat) := by omega
      rw [List.foldl_cons, List.foldl_cons, hstep]
      exact ih _ fun c hc => h c (List.mem_cons_of_mem _ hc)
  have hread (f : Int → Int) (hf : f 0 = 0) (rest : List UInt8) :
      f ((rest.takeWhile isDigit).foldl (fun n c => 10 * n + (c.toNat - 48)) 0) =
        ((Decimal.unsigned rest).map fun r => (f r.1, r.2)).elim 0 Prod.fst := by
    have hdigits : (rest.takeWhile isDigit).foldl (fun (n : Int) c => 10 * n + (c.toNat - 48)) 0 =
        (Decimal.value (rest.takeWhile isDigit) : Int) := hfold _ 0 fun c hc => List.mem_takeWhile_imp hc
    rw [hdigits, Decimal.unsigned]
    by_cases hnil : rest.takeWhile Decimal.isDigit = []
    · have hnil' : rest.takeWhile isDigit = [] := hnil
      rw [if_pos hnil, hnil']
      exact hf
    · rw [if_neg hnil]
      rfl
  unfold strtoll
  dsimp only
  split
  · rename_i rest heq
    rw [Decimal.signed_minus heq, hread (fun n => -n) rfl]
  · rename_i rest heq
    rw [Decimal.signed_plus heq, hread (fun n => n) rfl]
  · rename_i hminus hplus
    rw [Decimal.signed_bare fun rest => ⟨hminus rest, hplus rest⟩, hread (fun n => n) rfl]
    rfl

/-- `snprintf` with `%lld`. -/
def printInteger (n : Int64) : List UInt8 := asciiBytes (toString n.toInt)

/-! ### UUIDs -/

def hexDigit (c : UInt8) : Option UInt64 :=
  if isDigit c then some (c.toUInt64 - 48)
  else if 97 ≤ toLower c && toLower c ≤ 102 then some ((toLower c).toUInt64 - 87)
  else none

def segmentLengths : List Nat := [8, 4, 4, 4, 12]

/-- The hex digits of the rest of a UUID, at a place of a segment. -/
def uuidDigits : List UInt8 → Nat → Nat → Option (List UInt64)
  | [], segment, pos => if segment = 4 ∧ pos = 12 then some [] else none
  | c :: rest, segment, pos =>
    if segmentLengths[segment]? = some pos then if c = 45 then uuidDigits rest (segment + 1) 0 else none
    else
      match hexDigit c with
      | none => none
      | some digit => (uuidDigits rest segment (pos + 1)).map (digit :: ·)

/-- The two words of a UUID text, if it is one. -/
def parseUuid (s : List UInt8) : Option (UInt64 × UInt64) :=
  if s.length ≠ 36 then none
  else
    match uuidDigits s 0 0 with
    | none => none
    | some digits =>
      if digits.length ≠ 32 then none
      else
        let word (digits : List UInt64) : UInt64 := digits.foldl (fun w digit => w * 16 + digit) 0
        some (word (digits.take 16), word (digits.drop 16))

/-! ### The readers -/

inductive BXFieldKind
  | uint
  | int
  | str
  | float
  | bool
  | uuid
deriving DecidableEq, Repr

/-- A slot of `bx_json_upsert`, by the kind of its field. -/
inductive BXSlot
  | uint (value : Option UInt64)
  | int (value : Option Int64)
  | str (value : Option (List UInt8))
  | float (value : Option UInt64)
  | bool (value : Option Bool)
  | uuid (value : Option (UInt64 × UInt64))
deriving DecidableEq, Repr

section

variable (lib : TextLib) (object : Json) (key : String)

def bxObjectGetJsonBool : Option Bool :=
  match object.get key with
  | none | some .null => none
  | some (.string s) => some (sameWord "true" s || sameWord "yes" s || sameWord "on" s)
  | some (.bool b) => some b
  | some (.integer n) => some (n ≠ 0)
  | some _ => some false

def bxObjectGetJsonInt : Option Int64 :=
  match object.get key with
  | none | some .null => none
  | some (.string s) => some (strtoll s)
  | some (.integer n) => some n
  | some _ => some 0

def bxObjectGetJsonUint : Option UInt64 :=
  match object.get key with
  | none | some .null => none
  | some (.string s) => some (strtoll s).toUInt64
  | some (.integer n) => some n.toUInt64
  | some (.bool b) => some (if b then 1 else 0)
  | some _ => some 0

/-- An integer is no real, and reads as 0. -/
def bxObjectGetJsonDouble : Option UInt64 :=
  match object.get key with
  | none | some .null => none
  | some (.string s) => some (lib.strtod s)
  | some (.real bits) => some bits
  | some _ => some 0

/-- The length of a printed real is one less than what was printed. -/
def bxObjectGetJsonString : Option (List UInt8) :=
  let text :=
    match object.get key with
    | some (.string s) => some s
    | some (.integer n) => some (printInteger n)
    | some (.real bits) => some (lib.printE bits).dropLast
    | _ => none
  text.map lib.htmlEntitiesReplaces

def bxObjectGetJsonUuid : Option (UInt64 × UInt64) :=
  match object.get key with
  | some (.string s) => parseUuid s
  | _ => none

/-- The reader of a kind. -/
def readSlot : BXFieldKind → BXSlot
  | .uint => .uint (bxObjectGetJsonUint object key)
  | .int => .int (bxObjectGetJsonInt object key)
  | .str => .str (bxObjectGetJsonString lib object key)
  | .float => .float (bxObjectGetJsonDouble lib object key)
  | .bool => .bool (bxObjectGetJsonBool object key)
  | .uuid => .uuid (bxObjectGetJsonUuid object key)

end

namespace BXSlot

/-- The bytes of a slot that are mixed into the hash. An unset one has none. -/
def mixed : BXSlot → List UInt8
  | .uint value => value.elim [] fun n => leBytes 8 n.toNat
  | .int value => value.elim [] fun n => leBytes 8 n.toUInt64.toNat
  | .str value => value.elim [] id
  | .float value => value.elim [] fun bits => leBytes 8 bits.toNat
  | .bool value => value.elim [] fun b => [if b then 0xFF else 0x00]
  | .uuid value => value.elim [] fun w => leBytes 8 w.1.toNat ++ leBytes 8 w.2.toNat

def kind : BXSlot → BXFieldKind
  | .uint _ => .uint
  | .int _ => .int
  | .str _ => .str
  | .float _ => .float
  | .bool _ => .bool
  | .uuid _ => .uuid

def isset : BXSlot → Bool
  | .uint value => value.isSome
  | .int value => value.isSome
  | .str value => value.isSome
  | .float value => value.isSome
  | .bool value => value.isSome
  | .uuid value => value.isSome

/-- The length of a string. -/
def valueLen : BXSlot → Nat
  | .str value => (value.map List.length).getD 0
  | _ => 0

/-- Two slots of one kind are both set or both unset, and strings in them have one length. -/
structure SameShape (a b : BXSlot) : Prop where
  kind : a.kind = b.kind
  isset : a.isset = b.isset
  valueLen : a.valueLen = b.valueLen

theorem SameShape.refl (a : BXSlot) : SameShape a a := ⟨rfl, rfl, rfl⟩

end BXSlot

@[simp] theorem kind_readSlot (lib : TextLib) (object : Json) (key : String) (kind : BXFieldKind) :
    (readSlot lib object key kind).kind = kind := by
  cases kind <;> rfl

end BxSync
