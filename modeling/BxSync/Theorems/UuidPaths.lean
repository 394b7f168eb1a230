import Mathlib.Data.Nat.Digits.Defs
import BxSync.FileCache
import BxSync.Lib.Percent
import BxSync.Theorems.NumberReaders

/-! Which texts are uuids, what their value is, and where the file of a uuid is stored: below the cache directory, at a path
    of its own. -/

namespace BxSync

open Percent (forall_byte)

/-! ### The properties -/

def isHex (c : UInt8) : Bool := (hexDigit c).isSome

/-- Hex digits in groups of 8, 4, 4, 4 and 12, with hyphens between them. -/
def IsUuid (s : List UInt8) : Prop :=
  ∃ a b c d e, s = a ++ 45 :: b ++ 45 :: c ++ 45 :: d ++ 45 :: e ∧
    a.length = 8 ∧ b.length = 4 ∧ c.length = 4 ∧ d.length = 4 ∧ e.length = 12 ∧ ∀ x ∈ a ++ b ++ c ++ d ++ e, isHex x

/-- The digits of a uuid, in lower case. -/
def lowerDigits (s : List UInt8) : List UInt8 := (s.filter (· ≠ 45)).map toLower

/-- The number that hex digits write, the highest first. -/
def hexNumber (digits : List UInt8) : Nat := Nat.ofDigits 16 (digits.map fun c => ((hexDigit c).getD 0).toNat).reverse

/-- The path of a file in the cache directory. -/
def cachePath (cacheDir hex : List UInt8) : List UInt8 := cacheSubdirectory cacheDir hex ++ 47 :: hex ++ asciiBytes ".bin"

/-- A path leads from a directory down through names, none of which is a way up. -/
def Below (dir path : List UInt8) : Prop :=
  ∃ names, names ≠ [] ∧ path = dir ++ names.flatMap (47 :: ·) ∧
    ∀ name ∈ names, name ≠ [] ∧ name ≠ asciiBytes "." ∧ name ≠ asciiBytes ".." ∧ 47 ∉ name ∧ 0 ∉ name

/-- An operation stays below a directory. Only the directories that lead to it are made as well. -/
def FileOp.Inside (dir : List UInt8) : FileOp → Prop
  | mkdir path => path <+: dir ∨ Below dir path
  | write path => Below dir path
  | unlink path => Below dir path
  | rename path newPath => Below dir path ∧ Below dir newPath

/-- An operation makes a directory, or is one on the path of a file or on the one that its bytes are collected at. -/
def FileOp.Of (path : List UInt8) : FileOp → Prop
  | mkdir _ => True
  | write p => p = path ++ asciiBytes ".part"
  | unlink p => p = path ++ asciiBytes ".part"
  | rename p newPath => p = path ++ asciiBytes ".part" ∧ newPath = path

/-- The reader of uuids takes exactly the uuids, its words are their number, the name of a file has their digits, files of
    different numbers have different paths, and no text leads out of the cache directory. -/
structure UuidPaths : Prop where
  accepted : ∀ object key s, Json.get object key = some (.string s) → ((bxObjectGetJsonUuid object key).isSome ↔ IsUuid s)
  value : ∀ object key s words, Json.get object key = some (.string s) → bxObjectGetJsonUuid object key = some words →
    words.1.toNat * 2 ^ 64 + words.2.toNat = hexNumber (lowerDigits s)
  name : ∀ lib : TextLib, lib.htmlEntitiesReplaces = decodeHtml htmlTable → ∀ object key s,
    Json.get object key = some (.string s) → IsUuid s →
      (bxObjectGetJsonString lib object key).bind uuidToHex = some (lowerDigits s) ∧ (lowerDigits s).length = 32
  path : ∀ cacheDir uuid size a hex, uuidToHex uuid = some hex →
    ∀ op ∈ (downloadFile (some cacheDir) (some uuid) size a).2, op.Of (cachePath cacheDir hex)
  distinct : ∀ cacheDir s s' words words', parseUuid s = some words → parseUuid s' = some words' → words ≠ words' →
    cachePath cacheDir (lowerDigits s) ≠ cachePath cacheDir (lowerDigits s')
  inside : ∀ cacheDir uuid size a, ∀ op ∈ (downloadFile (some cacheDir) uuid size a).2, op.Inside cacheDir

/-! ### Segments -/

/-- Nothing is a uuid after five segments. -/
theorem uuidDigits_past (s : List UInt8) (pos : Nat) : uuidDigits s 5 pos = none := by
  induction s generalizing pos with
  | nil => rfl
  | cons c s ih =>
    rw [uuidDigits, if_neg (by simp [segmentLengths])]
    split
    · rfl
    · rw [ih]
      rfl

/-- Hex digits up to the end of a segment. -/
theorem uuidDigits_append {segment n : Nat} (hn : segmentLengths[segment]? = some n) {s : List UInt8} (hs : ∀ c ∈ s, isHex c)
    {pos : Nat} (hpos : pos + s.length ≤ n) (rest : List UInt8) :
    uuidDigits (s ++ rest) segment pos = (uuidDigits rest segment (pos + s.length)).map (s.filterMap hexDigit ++ ·) := by
  induction s generalizing pos with
  | nil =>
    rw [List.nil_append, List.length_nil, Nat.add_zero]
    cases uuidDigits rest segment pos <;> rfl
  | cons c s ih =>
    rw [List.length_cons] at hpos
    obtain ⟨digit, hdigit⟩ := Option.isSome_iff_exists.mp (hs c List.mem_cons_self)
    have hplace : segmentLengths[segment]? ≠ some pos := by
      rw [hn]
      exact fun h => absurd (Option.some.inj h) (by omega)
    rw [List.cons_append, uuidDigits, if_neg hplace, hdigit, ih (fun d hd => hs d (List.mem_cons_of_mem _ hd)) (by omega),
      List.filterMap_cons, hdigit, List.length_cons, Nat.add_comm s.length 1, ← Nat.add_assoc]
    dsimp only
    rw [Option.map_map]
    rfl

/-- A text that is read to the end of its segment starts with its hex digits. -/
theorem segment_of_uuidDigits {segment n : Nat} (hn : segmentLengths[segment]? = some n) {s : List UInt8} {pos : Nat}
    {digits : List UInt64} (hpos : pos ≤ n) (h : uuidDigits s segment pos = some digits) :
    ∃ front rest, s = front ++ rest ∧ pos + front.length = n ∧ (∀ c ∈ front, isHex c) ∧
      ∃ behind, uuidDigits rest segment n = some behind ∧ digits = front.filterMap hexDigit ++ behind := by
  induction s generalizing pos digits with
  | nil =>
    have hend : pos = n := by
      rw [uuidDigits] at h
      split at h
      · rename_i hlast
        rw [hlast.1] at hn
        rw [hlast.2]
        exact Option.some.inj hn
      · exact nomatch h
    subst hend
    exact ⟨[], [], rfl, rfl, nofun, digits, h, rfl⟩
  | cons c s ih =>
    by_cases hend : pos = n
    · subst hend
      exact ⟨[], c :: s, rfl, rfl, nofun, digits, h, rfl⟩
    rw [uuidDigits, if_neg (by rw [hn]; exact fun h => hend (Option.some.inj h).symm)] at h
    split at h
    · exact nomatch h
    · rename_i digit hdigit
      obtain ⟨digits, hdigits, rfl⟩ := Option.map_eq_some_iff.mp h
      obtain ⟨front, rest, rfl, hlen, hhex, behind, hbehind, rfl⟩ := ih (by omega) hdigits
      refine ⟨c :: front, rest, rfl, by rw [List.length_cons]; omega, ?_, behind, hbehind, ?_⟩
      · rintro x (_ | hx)
        · rw [isHex, hdigit]
          rfl
        · exact hhex x ‹_›
      · rw [List.filterMap_cons, hdigit]
        rfl
/-- At the end of a segment comes a hyphen, or at the last one the end. -/
theorem uuidDigits_hyphen {segment n : Nat} (hn : segmentLengths[segment]? = some n) (rest : List UInt8) :
    uuidDigits (45 :: rest) segment n = uuidDigits rest (segment + 1) 0 := by
  rw [uuidDigits, if_pos hn, if_pos rfl]

theorem hyphen_of_uuidDigits {segment n : Nat} (hn : segmentLengths[segment]? = some n) (hlt : segment < 4) {s : List UInt8}
    {digits : List UInt64} (h : uuidDigits s segment n = some digits) :
    ∃ rest, s = 45 :: rest ∧ uuidDigits rest (segment + 1) 0 = some digits := by
  cases s with
  | nil =>
    rw [uuidDigits, if_neg (by omega)] at h
    exact nomatch h
  | cons c s =>
    rw [uuidDigits, if_pos hn] at h
    split at h
    · rename_i hc
      exact ⟨s, by rw [hc], h⟩
    · exact nomatch h

theorem end_of_uuidDigits {s : List UInt8} {digits : List UInt64} (h : uuidDigits s 4 12 = some digits) : s = [] ∧ digits = [] := by
  cases s with
  | nil => exact ⟨rfl, (Option.some.inj h).symm⟩
  | cons c s =>
    have hn : segmentLengths[4]? = some 12 := rfl
    rw [uuidDigits, if_pos hn, uuidDigits_past] at h
    split at h <;> exact nomatch h

/-- One segment and its hyphen. -/
theorem uuidDigits_segment {segment n : Nat} (hn : segmentLengths[segment]? = some n) (hlt : segment < 4) {s : List UInt8}
    {digits : List UInt64} (h : uuidDigits s segment 0 = some digits) :
    ∃ front rest, s = front ++ 45 :: rest ∧ front.length = n ∧ (∀ c ∈ front, isHex c) ∧
      ∃ behind, uuidDigits rest (segment + 1) 0 = some behind ∧ digits = front.filterMap hexDigit ++ behind := by
  obtain ⟨front, rest, rfl, hlen, hhex, behind, hbehind, rfl⟩ := segment_of_uuidDigits hn (Nat.zero_le n) h
  obtain ⟨rest, rfl, hrest⟩ := hyphen_of_uuidDigits hn hlt hbehind
  exact ⟨front, rest, rfl, by omega, hhex, behind, hrest, rfl⟩

theorem segment_uuidDigits {segment n : Nat} (hn : segmentLengths[segment]? = some n) {front : List UInt8}
    (hlen : front.length = n) (hhex : ∀ c ∈ front, isHex c) (rest : List UInt8) :
    uuidDigits (front ++ 45 :: rest) segment 0 = (uuidDigits rest (segment + 1) 0).map (front.filterMap hexDigit ++ ·) := by
  rw [uuidDigits_append hn hhex (by omega), Nat.zero_add, hlen, uuidDigits_hyphen hn]

/-- The loop reads the digits of exactly the uuids. -/
theorem uuidDigits_eq_some {s : List UInt8} {digits : List UInt64} :
    uuidDigits s 0 0 = some digits ↔ IsUuid s ∧ digits = (s.filter (· ≠ 45)).filterMap hexDigit := by
  have hplain {front : List UInt8} (hhex : ∀ c ∈ front, isHex c) : front.filter (· ≠ 45) = front := by
    refine List.filter_eq_self.mpr fun c hc => decide_eq_true ?_
    rintro rfl
    exact nomatch hhex 45 hc
  have hfilter {a b c d e : List UInt8} (ha : ∀ x ∈ a, isHex x) (hb : ∀ x ∈ b, isHex x) (hc : ∀ x ∈ c, isHex x)
      (hd : ∀ x ∈ d, isHex x) (he : ∀ x ∈ e, isHex x) :
      (a ++ 45 :: b ++ 45 :: c ++ 45 :: d ++ 45 :: e).filter (· ≠ 45) = a ++ b ++ c ++ d ++ e := by
    have hhyphen (l : List UInt8) : (45 :: l).filter (· ≠ 45) = l.filter (· ≠ 45) := List.filter_cons_of_neg (by decide)
    simp only [List.filter_append, List.append_assoc, List.cons_append, hhyphen, hplain ha, hplain hb, hplain hc, hplain hd,
      hplain he]
  constructor
  · intro h
    obtain ⟨a, _, rfl, hlena, ha, _, h1, rfl⟩ := uuidDigits_segment (by rfl) (by decide) h
    obtain ⟨b, _, rfl, hlenb, hb, _, h2, rfl⟩ := uuidDigits_segment (by rfl) (by decide) h1
    obtain ⟨c, _, rfl, hlenc, hc, _, h3, rfl⟩ := uuidDigits_segment (by rfl) (by decide) h2
    obtain ⟨d, _, rfl, hlend, hd, _, h4, rfl⟩ := uuidDigits_segment (by rfl) (by decide) h3
    obtain ⟨e, _, rfl, hlene, he, _, h5, rfl⟩ := segment_of_uuidDigits (by rfl) (Nat.zero_le 12) h4
    obtain ⟨rfl, rfl⟩ := end_of_uuidDigits h5
    have heq : a ++ 45 :: (b ++ 45 :: (c ++ 45 :: (d ++ 45 :: (e ++ [])))) = a ++ 45 :: b ++ 45 :: c ++ 45 :: d ++ 45 :: e := by
      simp
    rw [heq, hfilter ha hb hc hd he]
    refine ⟨⟨a, b, c, d, e, rfl, hlena, hlenb, hlenc, hlend, by omega, ?_⟩, by simp⟩
    simp only [List.forall_mem_append]
    exact ⟨⟨⟨⟨ha, hb⟩, hc⟩, hd⟩, he⟩
  · rintro ⟨⟨a, b, c, d, e, rfl, hlena, hlenb, hlenc, hlend, hlene, hhex⟩, rfl⟩
    simp only [List.forall_mem_append] at hhex
    obtain ⟨⟨⟨⟨ha, hb⟩, hc⟩, hd⟩, he⟩ := hhex
    have hlast : uuidDigits e 4 0 = some (e.filterMap hexDigit) := by
      have hend : uuidDigits (e ++ []) 4 0 = _ := uuidDigits_append (by rfl) he (by omega) []
      rw [List.append_nil, Nat.zero_add, hlene] at hend
      rw [hend, uuidDigits, if_pos ⟨rfl, rfl⟩, Option.map_some, List.append_nil]
    rw [hfilter ha hb hc hd he]
    simp only [List.append_assoc, List.cons_append]
    rw [segment_uuidDigits (by rfl) hlena ha, segment_uuidDigits (by rfl) hlenb hb, segment_uuidDigits (by rfl) hlenc hc,
      segment_uuidDigits (by rfl) hlend hd, hlast]
    simp
/-! ### Bytes -/

theorem hexDigit_toLower : ∀ c : UInt8, hexDigit (toLower c) = hexDigit c := forall_byte (by decide +kernel)

theorem hexDigit_lt (c : UInt8) : ∀ digit ∈ hexDigit c, digit.toNat < 16 := by
  have hall : ∀ c : UInt8, (hexDigit c).all (fun digit => digit.toNat < 16) = true := forall_byte (by decide +kernel)
  intro digit hdigit
  have hc := hall c
  rw [Option.mem_def.mp hdigit] at hc
  exact of_decide_eq_true hc

/-- The bytes of the name of a file are the digits of its uuid in lower case. -/
theorem lower_of_isHex : ∀ c : UInt8, isHex c → c ≠ 0 ∧ c ≠ 38 ∧ c ≠ 45 ∧ isLowerHex (toLower c) ∧
    (if 65 ≤ c && c ≤ 70 then c - 65 + 97 else c) = toLower c := forall_byte (by decide +kernel)

theorem plain_of_isLowerHex : ∀ c : UInt8, isLowerHex c → c ≠ 0 ∧ c ≠ 46 ∧ c ≠ 47 := forall_byte (by decide +kernel)

/-! ### The number -/

theorem IsUuid.mem {s : List UInt8} (h : IsUuid s) {c : UInt8} (hc : c ∈ s) : c = 45 ∨ isHex c := by
  obtain ⟨a, b, c', d, e, rfl, -, -, -, -, -, hhex⟩ := h
  simp only [List.mem_append, List.mem_cons] at hc hhex
  rcases hc with (((hc | rfl | hc) | rfl | hc) | rfl | hc) | rfl | hc
  all_goals first
    | exact Or.inl rfl
    | exact Or.inr (hhex _ (by simp [hc]))

theorem isHex_of_mem_filter {s : List UInt8} (h : IsUuid s) {c : UInt8} (hc : c ∈ s.filter (· ≠ 45)) : isHex c := by
  rw [List.mem_filter, decide_eq_true_eq] at hc
  exact (h.mem hc.1).resolve_left hc.2

theorem IsUuid.lengths {s : List UInt8} (h : IsUuid s) : s.length = 36 ∧ (s.filter (· ≠ 45)).length = 32 := by
  obtain ⟨a, b, c, d, e, rfl, hlena, hlenb, hlenc, hlend, hlene, hhex⟩ := h
  have hplain {front : List UInt8} (hsub : ∀ x ∈ front, x ∈ a ++ b ++ c ++ d ++ e) : front.filter (· ≠ 45) = front := by
    refine List.filter_eq_self.mpr fun x hx => decide_eq_true ?_
    exact (lower_of_isHex x (hhex x (hsub x hx))).2.2.1
  have hhyphen (l : List UInt8) : (45 :: l).filter (· ≠ 45) = l.filter (· ≠ 45) := List.filter_cons_of_neg (by decide)
  refine ⟨by simp; omega, ?_⟩
  simp only [List.filter_append, hhyphen]
  rw [hplain fun x hx => by simp [hx], hplain fun x hx => by simp [hx], hplain fun x hx => by simp [hx],
    hplain fun x hx => by simp [hx], hplain fun x hx => by simp [hx]]
  simp
  omega

theorem length_filterMap_hexDigit {s : List UInt8} (h : ∀ c ∈ s, isHex c) : (s.filterMap hexDigit).length = s.length := by
  induction s with
  | nil => rfl
  | cons c s ih =>
    obtain ⟨digit, hdigit⟩ := Option.isSome_iff_exists.mp (h c List.mem_cons_self)
    rw [List.filterMap_cons, hdigit, List.length_cons, List.length_cons, ih fun d hd => h d (List.mem_cons_of_mem _ hd)]

/-- The word that the loop over the bytes makes of some digits. -/
def uuidWord (digits : List UInt64) : UInt64 := digits.foldl (fun w digit => w * 16 + digit) 0

/-- The reader takes exactly the uuids, with the words of their digits. -/
theorem parseUuid_eq_some {s : List UInt8} {words : UInt64 × UInt64} :
    parseUuid s = some words ↔ IsUuid s ∧
      words = (uuidWord (((s.filter (· ≠ 45)).filterMap hexDigit).take 16), uuidWord (((s.filter (· ≠ 45)).filterMap hexDigit).drop 16)) := by
  unfold parseUuid
  constructor
  · intro h
    split at h
    · exact nomatch h
    split at h
    · exact nomatch h
    rename_i digits hdigits
    split at h
    · exact nomatch h
    obtain ⟨huuid, rfl⟩ := uuidDigits_eq_some.mp hdigits
    exact ⟨huuid, (Option.some.inj h).symm⟩
  · rintro ⟨huuid, rfl⟩
    have hlen := length_filterMap_hexDigit fun c => isHex_of_mem_filter huuid
    rw [if_neg (not_not.mpr huuid.lengths.1), uuidDigits_eq_some.mpr ⟨huuid, rfl⟩]
    dsimp only
    rw [if_neg (not_not.mpr (hlen.trans huuid.lengths.2))]
    rfl

theorem toNat_uuidWord {digits : List UInt64} (hlt : ∀ digit ∈ digits, digit.toNat < 16) (hlen : digits.length ≤ 16) :
    (uuidWord digits).toNat = Nat.ofDigits 16 (digits.map UInt64.toNat).reverse := by
  induction digits using List.reverseRecOn with
  | nil => rfl
  | append_singleton digits digit ih =>
    rw [List.length_append, List.length_singleton] at hlen
    have hfront := ih (fun d hd => hlt d (List.mem_append_left _ hd)) (by omega)
    have hdigit := hlt digit (List.mem_append_right _ (List.mem_singleton_self _))
    have hbound : Nat.ofDigits 16 (digits.map UInt64.toNat).reverse < 16 ^ 15 := by
      refine lt_of_lt_of_le (Nat.ofDigits_lt_base_pow_length (by decide) ?_) (Nat.pow_le_pow_right (by decide) ?_)
      · intro n hn
        obtain ⟨d, hd, rfl⟩ := List.mem_map.mp (List.mem_reverse.mp hn)
        exact hlt d (List.mem_append_left _ hd)
      · rw [List.length_reverse, List.length_map]
        omega
    have hword : uuidWord (digits ++ [digit]) = uuidWord digits * 16 + digit := List.foldl_append ..
    rw [hword, UInt64.toNat_add, UInt64.toNat_mul, hfront, List.map_append, List.reverse_append]
    show _ = Nat.ofDigits 16 (digit.toNat :: (digits.map UInt64.toNat).reverse)
    rw [Nat.ofDigits_cons]
    have hsixteen : (16 : UInt64).toNat = 16 := rfl
    rw [hsixteen]
    omega
theorem hexNumber_lowerDigits {s : List UInt8} (h : ∀ c ∈ s.filter (· ≠ 45), isHex c) :
    hexNumber (lowerDigits s) = Nat.ofDigits 16 (((s.filter (· ≠ 45)).filterMap hexDigit).map UInt64.toNat).reverse := by
  have hvalues : ∀ l : List UInt8, (∀ c ∈ l, isHex c) →
      (l.map toLower).map (fun c => ((hexDigit c).getD 0).toNat) = (l.filterMap hexDigit).map UInt64.toNat := by
    intro l hl
    induction l with
    | nil => rfl
    | cons c l ih =>
      obtain ⟨digit, hdigit⟩ := Option.isSome_iff_exists.mp (hl c List.mem_cons_self)
      rw [List.filterMap_cons, hdigit, List.map_cons, List.map_cons, ih fun d hd => hl d (List.mem_cons_of_mem _ hd),
        hexDigit_toLower, hdigit]
      rfl
  rw [hexNumber, lowerDigits, hvalues _ h]

/-- The two words are the number. -/
theorem words_eq_hexNumber {s : List UInt8} {words : UInt64 × UInt64} (h : parseUuid s = some words) :
    words.1.toNat * 2 ^ 64 + words.2.toNat = hexNumber (lowerDigits s) := by
  obtain ⟨huuid, rfl⟩ := parseUuid_eq_some.mp h
  have hhex : ∀ c ∈ s.filter (· ≠ 45), isHex c := fun c => isHex_of_mem_filter huuid
  rw [hexNumber_lowerDigits hhex]
  have hlen := (length_filterMap_hexDigit hhex).trans huuid.lengths.2
  have hlt : ∀ digit ∈ (s.filter (· ≠ 45)).filterMap hexDigit, digit.toNat < 16 := by
    intro digit hdigit
    obtain ⟨c, -, hc⟩ := List.mem_filterMap.mp hdigit
    exact hexDigit_lt c digit hc
  generalize (s.filter (· ≠ 45)).filterMap hexDigit = digits at hlen hlt
  have hsplit : (digits.map UInt64.toNat).reverse =
      ((digits.drop 16).map UInt64.toNat).reverse ++ ((digits.take 16).map UInt64.toNat).reverse := by
    rw [← List.reverse_append, ← List.map_append, List.take_append_drop]
  rw [toNat_uuidWord (fun d hd => hlt d (List.mem_of_mem_take hd)) (by rw [List.length_take]; omega),
    toNat_uuidWord (fun d hd => hlt d (List.mem_of_mem_drop hd)) (by rw [List.length_drop]; omega), hsplit, Nat.ofDigits_append,
    List.length_reverse, List.length_map, List.length_drop, hlen]
  omega

/-! ### The name of a file -/

/-- The loop collects the digits of a text of hex digits and hyphens, as long as there are no more than 32. -/
theorem uuidToHexLoop_eq {s hex : List UInt8} (hs : ∀ c ∈ s, c = 45 ∨ isHex c) (hlen : hex.length + (lowerDigits s).length ≤ 32) :
    uuidToHexLoop s hex = some (hex ++ lowerDigits s) := by
  induction s generalizing hex with
  | nil => rw [uuidToHexLoop, lowerDigits, List.filter_nil, List.map_nil, List.append_nil]
  | cons c s ih =>
    have hrest : ∀ d ∈ s, d = 45 ∨ isHex d := fun d hd => hs d (List.mem_cons_of_mem _ hd)
    rw [uuidToHexLoop]
    by_cases hfull : 32 ≤ hex.length
    · have hnil : lowerDigits (c :: s) = [] := List.length_eq_zero_iff.mp (by omega)
      rw [if_pos hfull, hnil, List.append_nil]
    rw [if_neg hfull]
    rcases hs c List.mem_cons_self with rfl | hhex
    · rw [if_pos rfl]
      exact ih hrest hlen
    · obtain ⟨-, -, hne, hlower, hcase⟩ := lower_of_isHex c hhex
      have hcons : lowerDigits (c :: s) = toLower c :: lowerDigits s := by
        rw [lowerDigits, List.filter_cons_of_pos (by simpa using hne)]
        rfl
      rw [hcons, List.length_cons] at hlen
      rw [if_neg hne, hcase]
      dsimp only
      rw [hlower, if_neg (by decide), ih hrest (by rw [List.length_append, List.length_singleton]; omega), hcons,
        List.append_assoc]
      rfl

theorem uuidToHex_uuid {s : List UInt8} (h : IsUuid s) : uuidToHex s = some (lowerDigits s) ∧ (lowerDigits s).length = 32 := by
  have hlen : (lowerDigits s).length = 32 := by rw [lowerDigits, List.length_map, h.lengths.2]
  have htext : cString s = s := by
    refine List.takeWhile_eq_self_iff.mpr fun c hc => decide_eq_true ?_
    rcases h.mem hc with rfl | hhex
    · decide
    · exact (lower_of_isHex c hhex).1
  refine ⟨?_, hlen⟩
  rw [uuidToHex, htext, uuidToHexLoop_eq (fun c => h.mem) (by rw [hlen]; exact Nat.le_refl 32), List.nil_append]
  exact if_pos hlen

/-- Whatever the text, a name has 32 digits. -/
theorem uuidToHexLoop_digits {s hex name : List UInt8} (h : uuidToHexLoop s hex = some name) (hhex : ∀ c ∈ hex, isLowerHex c) :
    ∀ c ∈ name, isLowerHex c := by
  induction s generalizing hex with
  | nil =>
    obtain rfl := Option.some.inj h
    exact hhex
  | cons c s ih =>
    rw [uuidToHexLoop] at h
    split at h
    · obtain rfl := Option.some.inj h
      exact hhex
    split at h
    · exact ih h hhex
    generalize (if 65 ≤ c && c ≤ 70 then c - 65 + 97 else c) = lower at h
    dsimp only at h
    split at h
    · exact nomatch h
    · rename_i hlower
      refine ih h fun d hd => ?_
      rcases List.mem_append.mp hd with hd | hd
      · exact hhex d hd
      · rw [List.mem_singleton.mp hd]
        simpa using hlower

theorem uuidToHex_digits {uuid hex : List UInt8} (h : uuidToHex uuid = some hex) : hex.length = 32 ∧ ∀ c ∈ hex, isLowerHex c := by
  unfold uuidToHex at h
  split at h
  · exact nomatch h
  · rename_i name hname
    split at h
    · rename_i hlen
      obtain rfl := Option.some.inj h
      exact ⟨hlen, uuidToHexLoop_digits hname nofun⟩
    · exact nomatch h

/-! ### The paths -/

theorem cachePath_inj {cacheDir hex hex' : List UInt8} (hlen : hex.length = 32) (hlen' : hex'.length = 32)
    (h : cachePath cacheDir hex = cachePath cacheDir hex') : hex = hex' := by
  unfold cachePath at h
  have hsubs : (cacheSubdirectory cacheDir hex).length = (cacheSubdirectory cacheDir hex').length := by
    simp only [cacheSubdirectory, List.length_append, List.length_cons, List.length_take, List.length_drop]
    omega
  obtain ⟨-, htail⟩ := List.append_inj (by simpa only [List.append_assoc, List.cons_append] using h) hsubs
  exact List.append_cancel_right (List.cons.inj htail).2

theorem printPath_eq_some {text path : List UInt8} (h : printPath text = some path) :
    (path = text ∧ text.length < pathSize) ∨ (intMax < text.length ∧ path = text.take (pathSize - 1)) := by
  unfold printPath snprintfPath at h
  dsimp only at h
  by_cases hint : text.length ≤ intMax
  · rw [if_pos hint] at h
    by_cases hcut : (pathSize : Int) ≤ text.length
    · rw [if_pos hcut] at h
      exact nomatch h
    · rw [if_neg hcut] at h
      obtain rfl := Option.some.inj h
      exact Or.inl ⟨List.take_of_length_le (by omega), by omega⟩
  · rw [if_neg hint, if_neg (by decide)] at h
    exact Or.inr ⟨by omega, (Option.some.inj h).symm⟩

/-- The path whose bytes are collected fits only when the path of the file does. -/
theorem printPath_part {cacheDir hex dest tmp : List UInt8} (hdest : fileDestPath cacheDir hex = some dest)
    (htmp : printPath (dest ++ asciiBytes ".part") = some tmp) :
    dest = cachePath cacheDir hex ∧ tmp = cachePath cacheDir hex ++ asciiBytes ".part" := by
  have hpart : (asciiBytes ".part").length = 5 := rfl
  have hsize : pathSize = 4096 := rfl
  have hmax : intMax = 2147483647 := rfl
  rcases printPath_eq_some hdest with ⟨rfl, hlt⟩ | ⟨hlong, rfl⟩
  · rcases printPath_eq_some htmp with ⟨rfl, -⟩ | ⟨hlong, -⟩
    · exact ⟨rfl, rfl⟩
    · rw [List.length_append] at hlong
      omega
  · rcases printPath_eq_some htmp with ⟨-, hlt⟩ | ⟨hlong', -⟩
    · rw [List.length_append, List.length_take] at hlt
      omega
    · rw [List.length_append, List.length_take] at hlong'
      omega

/-! ### Directories -/

/-- A directory that is made is one that leads to the last. -/
theorem mem_mkdirLoop {mkdir : List UInt8 → Bool} {done rest : List UInt8} {op : FileOp} (h : op ∈ (mkdirLoop mkdir done rest).2) :
    ∃ more behind, rest = more ++ behind ∧ op = .mkdir (done ++ more) ∧ (behind = [] ∨ behind.head? = some 47) := by
  induction rest generalizing done with
  | nil =>
    obtain rfl := List.mem_singleton.mp h
    exact ⟨[], [], rfl, by rw [List.append_nil], Or.inl rfl⟩
  | cons c rest ih =>
    have hlater (h : op ∈ (mkdirLoop mkdir (done ++ [c]) rest).2) :
        ∃ more behind, c :: rest = more ++ behind ∧ op = .mkdir (done ++ more) ∧ (behind = [] ∨ behind.head? = some 47) := by
      obtain ⟨more, behind, rfl, rfl, hbehind⟩ := ih h
      exact ⟨c :: more, behind, rfl, by rw [List.append_assoc]; rfl, hbehind⟩
    rw [mkdirLoop] at h
    split at h
    · rename_i hslash
      subst hslash
      have hfirst : op = .mkdir done → ∃ more behind, 47 :: rest = more ++ behind ∧ op = .mkdir (done ++ more) ∧
          (behind = [] ∨ behind.head? = some 47) :=
        fun heq => ⟨[], 47 :: rest, rfl, by rw [heq, List.append_nil], Or.inr rfl⟩
      split at h
      · rcases List.mem_cons.mp h with heq | h
        · exact hfirst heq
        · exact hlater h
      · exact hfirst (List.mem_singleton.mp h)
    · exact hlater h

theorem mem_mkdirP {mkdir : List UInt8 → Bool} {dir : List UInt8} {op : FileOp} (h : op ∈ (mkdirP mkdir dir).2) :
    ∃ path behind, dir = path ++ behind ∧ op = .mkdir path ∧ (behind = [] ∨ behind.head? = some 47) := by
  unfold mkdirP at h
  split at h
  · exact absurd h List.not_mem_nil
  dsimp only at h
  obtain ⟨more, behind, hrest, rfl, hbehind⟩ := mem_mkdirLoop h
  have hpath := List.take_append_drop 1 (if dir.getLast? = some 47 then dir.dropLast else dir)
  rw [hrest, ← List.append_assoc] at hpath
  split at hpath
  · rename_i hlast
    have hdir : dir = dir.dropLast ++ [47] := (List.dropLast_append_getLast? 47 hlast).symm
    refine ⟨_, behind ++ [47], ?_, rfl, Or.inr ?_⟩
    · rw [if_pos hlast, ← List.append_assoc, hpath]
      exact hdir
    · rcases hbehind with rfl | hhead
      · rfl
      · rw [List.head?_append, hhead]
        rfl
  · rename_i hlast
    exact ⟨_, behind, by rw [if_neg hlast, hpath], rfl, hbehind⟩
/-! ### Below the cache directory -/

/-- Lower case hex digits, and a suffix. -/
theorem name_ok {digits suffix : List UInt8} (hne : digits ≠ []) (hdigits : ∀ c ∈ digits, isLowerHex c)
    (hsuffix : 47 ∉ suffix ∧ 0 ∉ suffix) :
    digits ++ suffix ≠ [] ∧ digits ++ suffix ≠ asciiBytes "." ∧ digits ++ suffix ≠ asciiBytes ".." ∧ 47 ∉ digits ++ suffix ∧
      0 ∉ digits ++ suffix := by
  cases digits with
  | nil => exact absurd rfl hne
  | cons c digits =>
    have hdot := (plain_of_isLowerHex c (hdigits c List.mem_cons_self)).2.1
    refine ⟨nofun, fun h => hdot (List.cons.inj h).1, fun h => hdot (List.cons.inj h).1, fun h => ?_, fun h => ?_⟩
    · rcases List.mem_append.mp h with h | h
      · exact (plain_of_isLowerHex 47 (hdigits 47 h)).2.2 rfl
      · exact hsuffix.1 h
    · rcases List.mem_append.mp h with h | h
      · exact (plain_of_isLowerHex 0 (hdigits 0 h)).1 rfl
      · exact hsuffix.2 h

section

variable {cacheDir hex : List UInt8}

/-- The two directories of a file. -/
theorem directory_names (hlen : hex.length = 32) (hhex : ∀ c ∈ hex, isLowerHex c) :
    ∀ name ∈ [hex.take 2, (hex.drop 2).take 2],
      name ≠ [] ∧ name ≠ asciiBytes "." ∧ name ≠ asciiBytes ".." ∧ 47 ∉ name ∧ 0 ∉ name := by
  have hok {name : List UInt8} (hne : name ≠ []) (hname : ∀ c ∈ name, isLowerHex c) :
      name ≠ [] ∧ name ≠ asciiBytes "." ∧ name ≠ asciiBytes ".." ∧ 47 ∉ name ∧ 0 ∉ name := by
    have hbare := name_ok hne hname (show 47 ∉ ([] : List UInt8) ∧ 0 ∉ [] by simp)
    rwa [List.append_nil] at hbare
  intro name hname
  simp only [List.mem_cons, List.not_mem_nil, or_false] at hname
  rcases hname with rfl | rfl
  · refine hok (fun h => ?_) fun c hc => hhex c (List.mem_of_mem_take hc)
    have := congrArg List.length h
    simp only [List.length_take, List.length_nil] at this
    omega
  · refine hok (fun h => ?_) fun c hc => hhex c (List.mem_of_mem_drop (List.mem_of_mem_take hc))
    have := congrArg List.length h
    simp only [List.length_take, List.length_drop, List.length_nil] at this
    omega

theorem below_cachePath (hlen : hex.length = 32) (hhex : ∀ c ∈ hex, isLowerHex c) {suffix : List UInt8}
    (hsuffix : 47 ∉ suffix ∧ 0 ∉ suffix) : Below cacheDir (cachePath cacheDir hex ++ suffix) := by
  refine ⟨[hex.take 2, (hex.drop 2).take 2, hex ++ (asciiBytes ".bin" ++ suffix)], nofun, ?_, fun name hname => ?_⟩
  · simp [cachePath, cacheSubdirectory]
  · have hne : hex ≠ [] := fun h => by rw [h] at hlen; exact nomatch hlen
    have hbin : 47 ∉ asciiBytes ".bin" ++ suffix ∧ 0 ∉ asciiBytes ".bin" ++ suffix := by
      simp only [List.mem_append, not_or]
      exact ⟨⟨by decide, hsuffix.1⟩, by decide, hsuffix.2⟩
    rcases List.mem_append.mp (show name ∈ [hex.take 2, (hex.drop 2).take 2] ++ [hex ++ (asciiBytes ".bin" ++ suffix)] from hname)
      with hdirectory | hfile
    · exact directory_names hlen hhex name hdirectory
    · rw [List.mem_singleton.mp hfile]
      exact name_ok hne hhex hbin

/-- A directory that leads to the one of a file leads to the cache directory or is below it. -/
theorem inside_of_leading (hlen : hex.length = 32) (hhex : ∀ c ∈ hex, isLowerHex c) {path behind : List UInt8}
    (h : cacheSubdirectory cacheDir hex = path ++ behind) (hbehind : behind = [] ∨ behind.head? = some 47) :
    path <+: cacheDir ∨ Below cacheDir path := by
  have hnames := directory_names hlen hhex
  obtain ⟨h0, h1, h2, h3, rest, rfl⟩ : ∃ h0 h1 h2 h3 rest, hex = h0 :: h1 :: h2 :: h3 :: rest := by
    rcases hex with _ | ⟨h0, _ | ⟨h1, _ | ⟨h2, _ | ⟨h3, rest⟩⟩⟩⟩
    all_goals first
      | exact ⟨_, _, _, _, _, rfl⟩
      | exact nomatch hlen
  have hslash {c : UInt8} (hc : c ∈ h0 :: h1 :: h2 :: h3 :: rest) : c ≠ 47 := (plain_of_isLowerHex c (hhex c hc)).2.2
  have hsub : cacheSubdirectory cacheDir (h0 :: h1 :: h2 :: h3 :: rest) = cacheDir ++ [47, h0, h1, 47, h2, h3] := by
    simp [cacheSubdirectory]
  rw [hsub, List.append_eq_append_iff] at h
  rcases h with ⟨more, rfl, htail⟩ | ⟨more, rfl, -⟩
  · -- What is behind the path starts with a slash, or there is nothing.
    rcases more with _ | ⟨c0, _ | ⟨c1, _ | ⟨c2, _ | ⟨c3, _ | ⟨c4, _ | ⟨c5, _ | ⟨c6, more⟩⟩⟩⟩⟩⟩⟩
    all_goals simp only [List.nil_append, List.cons_append, List.cons.injEq] at htail
    · exact Or.inl (by rw [List.append_nil])
    · obtain ⟨rfl, rfl⟩ := htail
      rcases hbehind with h | h
      · exact nomatch h
      · exact absurd (Option.some.inj h) (hslash (by simp))
    · obtain ⟨rfl, rfl, rfl⟩ := htail
      rcases hbehind with h | h
      · exact nomatch h
      · exact absurd (Option.some.inj h) (hslash (by simp))
    · obtain ⟨rfl, rfl, rfl, rfl⟩ := htail
      exact Or.inr ⟨[[h0, h1]], nofun, rfl, fun name hname => hnames name (by simpa using Or.inl (List.mem_singleton.mp hname))⟩
    · obtain ⟨rfl, rfl, rfl, rfl, rfl⟩ := htail
      rcases hbehind with h | h
      · exact nomatch h
      · exact absurd (Option.some.inj h) (hslash (by simp))
    · obtain ⟨rfl, rfl, rfl, rfl, rfl, rfl⟩ := htail
      rcases hbehind with h | h
      · exact nomatch h
      · exact absurd (Option.some.inj h) (hslash (by simp))
    · obtain ⟨rfl, rfl, rfl, rfl, rfl, rfl, rfl⟩ := htail
      exact Or.inr ⟨[[h0, h1], [h2, h3]], nofun, rfl, hnames⟩
    · exact nomatch htail.2.2.2.2.2.2
  · exact Or.inl ⟨more, rfl⟩

end
/-! ### Downloads -/

/-- What a download does: it makes directories on the way to that of the file, collects the bytes beside the file, and
    moves them there. -/
theorem mem_downloadFile {cacheDir : List UInt8} {uuid : Option (List UInt8)} {size : Option UInt64} {a : DownloadAnswers}
    {op : FileOp} (h : op ∈ (downloadFile (some cacheDir) uuid size a).2) :
    ∃ text ∈ uuid, ∃ hex, uuidToHex text = some hex ∧
      ((∃ dir, printPath (cacheSubdirectory cacheDir hex) = some dir ∧ op ∈ (mkdirP a.mkdir dir).2) ∨
        op = .write (cachePath cacheDir hex ++ asciiBytes ".part") ∨ op = .unlink (cachePath cacheDir hex ++ asciiBytes ".part") ∨
        op = .rename (cachePath cacheDir hex ++ asciiBytes ".part") (cachePath cacheDir hex)) := by
  cases uuid with
  | none => exact absurd h List.not_mem_nil
  | some text =>
    refine ⟨text, rfl, ?_⟩
    unfold downloadFile at h
    dsimp only at h
    cases hhex : uuidToHex text with
    | none =>
      rw [hhex] at h
      exact absurd h List.not_mem_nil
    | some hex =>
      refine ⟨hex, rfl, ?_⟩
      rw [hhex] at h
      dsimp only at h
      cases hdest : fileDestPath cacheDir hex with
      | none =>
        rw [hdest] at h
        exact absurd h List.not_mem_nil
      | some dest =>
        rw [hdest] at h
        dsimp only at h
        split at h
        · exact absurd h List.not_mem_nil
        cases hdir : printPath (cacheSubdirectory cacheDir hex) with
        | none =>
          rw [hdir] at h
          exact absurd h List.not_mem_nil
        | some dir =>
          rw [hdir] at h
          dsimp only at h
          have hmade (h : op ∈ (mkdirP a.mkdir dir).2) :
              ∃ made, some dir = some made ∧ op ∈ (mkdirP a.mkdir made).2 := ⟨dir, rfl, h⟩
          split at h
          · exact Or.inl (hmade h)
          split at h
          · exact Or.inl (hmade h)
          cases htmp : printPath (dest ++ asciiBytes ".part") with
          | none =>
            rw [htmp] at h
            exact Or.inl (hmade h)
          | some tmp =>
            obtain ⟨rfl, rfl⟩ := printPath_part hdest htmp
            rw [htmp] at h
            dsimp only at h
            split at h
            · exact Or.inl (hmade h)
            split at h
            all_goals
              simp only [List.mem_append, List.mem_cons, List.not_mem_nil, or_false] at h
              rcases h with h | rfl | rfl
            · exact Or.inl (hmade h)
            · exact Or.inr (Or.inl rfl)
            · exact Or.inr (Or.inr (Or.inl rfl))
            · exact Or.inl (hmade h)
            · exact Or.inr (Or.inl rfl)
            · exact Or.inr (Or.inr (Or.inr rfl))

theorem of_cachePath {cacheDir text : List UInt8} {size : Option UInt64} {a : DownloadAnswers} {hex : List UInt8}
    (hhex : uuidToHex text = some hex) {op : FileOp} (h : op ∈ (downloadFile (some cacheDir) (some text) size a).2) :
    op.Of (cachePath cacheDir hex) := by
  obtain ⟨text', htext, hex', hhex', hop⟩ := mem_downloadFile h
  obtain rfl := Option.some.inj htext
  obtain rfl := Option.some.inj (hhex.symm.trans hhex')
  rcases hop with ⟨dir, -, hmade⟩ | rfl | rfl | rfl
  · obtain ⟨path, behind, -, rfl, -⟩ := mem_mkdirP hmade
    trivial
  · rfl
  · rfl
  · exact ⟨rfl, rfl⟩

theorem inside_cacheDir {cacheDir : List UInt8} {uuid : Option (List UInt8)} {size : Option UInt64} {a : DownloadAnswers}
    {op : FileOp} (h : op ∈ (downloadFile (some cacheDir) uuid size a).2) : op.Inside cacheDir := by
  obtain ⟨text, -, hex, hhex, hop⟩ := mem_downloadFile h
  obtain ⟨hlen, hdigits⟩ := uuidToHex_digits hhex
  have hpart : 47 ∉ asciiBytes ".part" ∧ 0 ∉ asciiBytes ".part" := by decide
  have hfile : Below cacheDir (cachePath cacheDir hex) := by
    have hbelow : Below cacheDir (cachePath cacheDir hex ++ []) := below_cachePath hlen hdigits (by simp)
    rwa [List.append_nil] at hbelow
  rcases hop with ⟨dir, hdir, hmade⟩ | rfl | rfl | rfl
  · obtain ⟨path, behind, heq, rfl, hbehind⟩ := mem_mkdirP hmade
    rcases printPath_eq_some hdir with ⟨rfl, -⟩ | ⟨hlong, rfl⟩
    · exact inside_of_leading hlen hdigits heq hbehind
    · -- The text was cut off within the cache directory.
      have hsub : (cacheSubdirectory cacheDir hex).length = cacheDir.length + 6 := by
        simp only [cacheSubdirectory, List.length_append, List.length_cons, List.length_take, List.length_drop]
        omega
      have hcut : (cacheSubdirectory cacheDir hex).take (pathSize - 1) = cacheDir.take (pathSize - 1) := by
        rw [cacheSubdirectory, List.append_assoc]
        refine List.take_append_of_le_length ?_
        have hmax : intMax = 2147483647 := rfl
        have hsize : pathSize = 4096 := rfl
        omega
      rw [hcut] at heq
      exact Or.inl (List.IsPrefix.trans ⟨behind, heq.symm⟩ (List.take_prefix _ _))
  · exact below_cachePath hlen hdigits hpart
  · exact below_cachePath hlen hdigits hpart
  · exact ⟨below_cachePath hlen hdigits hpart, hfile⟩

theorem uuidPaths : UuidPaths where
  accepted object key s hget := by
    have hread : bxObjectGetJsonUuid object key = parseUuid s := by
      unfold bxObjectGetJsonUuid
      rw [hget]
    rw [hread, Option.isSome_iff_exists]
    exact ⟨fun ⟨_, hwords⟩ => (parseUuid_eq_some.mp hwords).1, fun huuid => ⟨_, parseUuid_eq_some.mpr ⟨huuid, rfl⟩⟩⟩
  value object key s words hget hwords := by
    unfold bxObjectGetJsonUuid at hwords
    rw [hget] at hwords
    exact words_eq_hexNumber hwords
  name lib hlib object key s hget huuid := by
    have hplain : 38 ∉ s := by
      intro hmem
      rcases huuid.mem hmem with h | h
      · exact nomatch h
      · exact (lower_of_isHex 38 h).2.1 rfl
    have htext : bxObjectGetJsonString lib object key = some s := by
      simp only [bxObjectGetJsonString, hget, Option.map_some, hlib, decodeHtml_plain hplain]
    rw [htext]
    exact uuidToHex_uuid huuid
  path _ _ _ _ _ hhex _ hop := of_cachePath hhex hop
  distinct cacheDir s s' words words' hwords hwords' hne hpath := by
    have hlen := (uuidToHex_uuid (parseUuid_eq_some.mp hwords).1).2
    have hlen' := (uuidToHex_uuid (parseUuid_eq_some.mp hwords').1).2
    have hdigits := cachePath_inj hlen hlen' hpath
    have hnumber := words_eq_hexNumber hwords
    rw [hdigits, ← words_eq_hexNumber hwords'] at hnumber
    have hlow := words.2.toNat_lt
    have hlow' := words'.2.toNat_lt
    exact hne (Prod.ext (UInt64.toNat.inj (by omega)) (UInt64.toNat.inj (by omega)))
  inside _ _ _ _ _ hop := inside_cacheDir hop

end BxSync
