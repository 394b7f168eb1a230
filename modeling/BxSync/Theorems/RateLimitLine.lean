import BxSync.RateLimit

/-! What `bx_header_callback` does with a line. Each branch copies one byte more than the line has behind its name and
    the byte after it, so a line that gets into a branch has the byte behind it read, whatever it is. -/

namespace BxSync

/-! ### The comparison -/

section

variable {mem : Memory} {name : List UInt8}

/-- The comparison takes the first text for the name up to the NUL of either. -/
theorem bxStringCompare_same (i : Nat) :
    (bxStringCompare mem name (name.length + 1) i).1 = true ↔ cString ((List.range' i name.length).map mem) <+: name := by
  induction name generalizing i with
  | nil => simp [bxStringCompare, cString]
  | cons c name ih =>
    rw [List.length_cons, List.range'_succ, List.map_cons]
    unfold bxStringCompare
    by_cases hnul : mem i = 0
    · simp [hnul, cString]
    · have hcut (l : List UInt8) : cString (mem i :: l) = mem i :: cString l := by simp [cString, hnul]
      rw [if_neg hnul, hcut, List.cons_prefix_cons]
      by_cases hc : mem i = c
      · rw [if_neg (by simpa using hc), ← ih (i + 1)]
        simp [hc]
      · rw [if_pos hc]
        simp [hc]

theorem bxStringCompare_reads (max i : Nat) {r : Nat} (h : r ∈ (bxStringCompare mem name max i).2) :
    i ≤ r ∧ r ≤ i + name.length := by
  induction name generalizing max i with
  | nil =>
    cases max with
    | zero => exact absurd h List.not_mem_nil
    | succ max =>
      obtain rfl := List.mem_singleton.mp h
      exact ⟨le_rfl, Nat.le_add_right r _⟩
  | cons c name ih =>
    cases max with
    | zero => exact absurd h List.not_mem_nil
    | succ max =>
      rw [List.length_cons]
      unfold bxStringCompare at h
      by_cases hnul : mem i = 0
      · rw [if_pos hnul] at h
        obtain rfl := List.mem_singleton.mp h
        omega
      · rw [if_neg hnul] at h
        by_cases hc : mem i = c
        · rw [if_neg (by simpa using hc)] at h
          rcases List.mem_cons.mp h with rfl | h
          · omega
          · have := ih max (i + 1) h
            omega
        · rw [if_pos hc] at h
          obtain rfl := List.mem_singleton.mp h
          omega

end

/-! ### The branches -/

/-- The line gets into the branch of the field: it is longer than the name, by less than eleven bytes, and up to a NUL
    in it begins like the name. -/
structure LimitField.Enters (field : LimitField) (bytes : List UInt8) : Prop where
  longer : field.name.length + 1 < bytes.length
  shorter : bytes.length < field.name.length + 11
  named : cString (bytes.take field.name.length) <+: field.name

theorem HeaderLine.map_memory (line : HeaderLine) (behind : Memory) {k : Nat} (h : k ≤ line.bytes.length) :
    (List.range' 0 k).map (line.memory behind) = line.bytes.take k := by
  refine List.ext_getElem (by simpa using h) fun i hi hi' => ?_
  have hlt : i < line.bytes.length := by
    rw [List.length_take] at hi'
    omega
  simp [memory, hlt]

section

variable {line : HeaderLine} {field : LimitField}

/-- The bytes a branch copies: the line from the second byte behind the name on, and the one behind the line. -/
theorem HeaderLine.map_copied (line : HeaderLine) (behind : Memory) {k : Nat} (h : k ≤ line.bytes.length) :
    ((List.range (line.bytes.length - k + 1)).map fun i => line.memory behind (k + i)) = line.bytes.drop k ++ [behind 0] := by
  refine List.ext_getElem (by simp) fun i hi hi' => ?_
  rw [List.getElem_map, List.getElem_range]
  unfold memory
  simp only [List.length_map, List.length_range] at hi
  by_cases hlt : k + i < line.bytes.length
  · rw [dif_pos hlt, List.getElem_append_left (by simp; omega), List.getElem_drop]
  · have hlast : k + i - line.bytes.length = 0 := by omega
    rw [dif_neg hlt, List.getElem_append_right (by simp; omega), hlast]
    simp

theorem headerBranch_skip (behind : Memory) (limits : BXNetRatelimit) (h : ¬field.Enters line.bytes) :
    (headerBranch field (line.memory behind) line.bytes.length limits).1 = none ∧
      ∀ r ∈ (headerBranch field (line.memory behind) line.bytes.length limits).2, r < line.bytes.length := by
  unfold headerBranch
  by_cases hlen : field.sizeof < line.bytes.length
  · have hlonger : field.name.length + 1 < line.bytes.length := hlen
    have hreads : ∀ r ∈ (bxStringCompare (line.memory behind) field.name field.sizeof 0).2, r < line.bytes.length := by
      intro r hr
      have := bxStringCompare_reads field.sizeof 0 hr
      omega
    have hbranch : ((bxStringCompare (line.memory behind) field.name field.sizeof 0).1 &&
        line.bytes.length - field.sizeof < 10) = false := by
      rw [Bool.eq_false_iff]
      intro hboth
      obtain ⟨hsame, hshort⟩ := Bool.and_eq_true_iff.mp hboth
      have hnamed := (bxStringCompare_same 0).mp hsame
      rw [line.map_memory behind (by omega)] at hnamed
      have hshorter : line.bytes.length - (field.name.length + 1) < 10 := of_decide_eq_true hshort
      exact h ⟨hlonger, by omega, hnamed⟩
    rw [if_pos hlen]
    dsimp only
    rw [if_neg (by rw [hbranch]; exact Bool.false_ne_true)]
    exact ⟨rfl, hreads⟩
  · rw [if_neg hlen]
    exact ⟨rfl, fun r hr => absurd hr List.not_mem_nil⟩

theorem headerBranch_taken (behind : Memory) (limits : BXNetRatelimit) (h : field.Enters line.bytes) :
    (headerBranch field (line.memory behind) line.bytes.length limits).1 =
        some (field.store limits (line.bytes.drop (field.name.length + 2) ++ [behind 0])) ∧
      line.bytes.length ∈ (headerBranch field (line.memory behind) line.bytes.length limits).2 := by
  have hlonger := h.longer
  have hshorter := h.shorter
  have hsame : (bxStringCompare (line.memory behind) field.name field.sizeof 0).1 = true := by
    refine (bxStringCompare_same 0).mpr ?_
    rw [line.map_memory behind (by omega)]
    exact h.named
  have hshort : decide (line.bytes.length - field.sizeof < 10) = true := by
    unfold LimitField.sizeof
    simp only [decide_eq_true_eq]
    omega
  have hcount : line.bytes.length - field.sizeof = line.bytes.length - (field.name.length + 2) + 1 := by
    unfold LimitField.sizeof
    omega
  have hcopied := line.map_copied behind (show field.name.length + 2 ≤ line.bytes.length from hlonger)
  unfold headerBranch
  rw [if_pos (show field.sizeof < line.bytes.length from hlonger)]
  dsimp only
  rw [hsame, hshort, if_pos (Bool.and_self true)]
  refine ⟨?_, List.mem_append_right _ (List.mem_map.mpr ⟨line.bytes.length - field.sizeof - 1, ?_, ?_⟩)⟩
  · rw [List.map_map, hcount, ← hcopied]
    rfl
  · rw [List.mem_range]
    omega
  · unfold LimitField.sizeof
    omega

end

/-! ### The callback -/

section

variable {line : HeaderLine} {fields : List LimitField} {limits : BXNetRatelimit}

theorem headerBranches_skip (behind : Memory) (h : ∀ field ∈ fields, ¬field.Enters line.bytes) :
    (headerBranches (line.memory behind) line.bytes.length limits fields).limits = limits ∧
      ∀ r ∈ (headerBranches (line.memory behind) line.bytes.length limits fields).reads, r < line.bytes.length := by
  induction fields with
  | nil => exact ⟨rfl, fun r hr => absurd hr List.not_mem_nil⟩
  | cons field fields ih =>
    obtain ⟨hlimits, hreads⟩ := ih fun g hg => h g (List.mem_cons_of_mem _ hg)
    obtain ⟨hnone, hcompared⟩ := headerBranch_skip behind limits (h field List.mem_cons_self)
    unfold headerBranches
    rcases hb : headerBranch field (line.memory behind) line.bytes.length limits with ⟨stored, reads⟩
    rw [hb] at hnone hcompared
    obtain rfl : stored = none := hnone
    refine ⟨hlimits, fun r hr => ?_⟩
    rcases List.mem_append.mp hr with hr | hr
    · exact hcompared r hr
    · exact hreads r hr

/-- The byte behind the line is read, whichever branch the line gets into. -/
theorem headerBranches_taken (behind : Memory) {field : LimitField} (hfield : field ∈ fields) (h : field.Enters line.bytes) :
    line.bytes.length ∈ (headerBranches (line.memory behind) line.bytes.length limits fields).reads := by
  induction fields with
  | nil => exact absurd hfield List.not_mem_nil
  | cons g fields ih =>
    unfold headerBranches
    by_cases hg : g.Enters line.bytes
    · obtain ⟨hsome, hread⟩ := headerBranch_taken behind limits hg
      rcases hb : headerBranch g (line.memory behind) line.bytes.length limits with ⟨stored, reads⟩
      rw [hb] at hsome hread
      obtain rfl : stored = some _ := hsome
      exact hread
    · obtain ⟨hnone, -⟩ := headerBranch_skip behind limits hg
      rcases hb : headerBranch g (line.memory behind) line.bytes.length limits with ⟨stored, reads⟩
      rw [hb] at hnone
      obtain rfl : stored = none := hnone
      refine List.mem_append_right _ (ih ?_)
      rcases List.mem_cons.mp hfield with rfl | hfield
      · exact absurd h hg
      · exact hfield

/-- The limits are those of the first branch that the line gets into. -/
theorem headerBranches_limits (behind : Memory) {field : LimitField} (hfield : field ∈ fields) (h : field.Enters line.bytes)
    (honly : ∀ g : LimitField, g.Enters line.bytes → g = field) :
    (headerBranches (line.memory behind) line.bytes.length limits fields).limits =
      field.store limits (line.bytes.drop (field.name.length + 2) ++ [behind 0]) := by
  induction fields with
  | nil => exact absurd hfield List.not_mem_nil
  | cons g fields ih =>
    unfold headerBranches
    by_cases hg : g.Enters line.bytes
    · obtain rfl := honly g hg
      obtain ⟨hsome, -⟩ := headerBranch_taken behind limits hg
      rcases hb : headerBranch g (line.memory behind) line.bytes.length limits with ⟨stored, reads⟩
      rw [hb] at hsome
      obtain rfl : stored = some _ := hsome
      rfl
    · obtain ⟨hnone, -⟩ := headerBranch_skip behind limits hg
      rcases hb : headerBranch g (line.memory behind) line.bytes.length limits with ⟨stored, reads⟩
      rw [hb] at hnone
      obtain rfl : stored = none := hnone
      refine ih ?_
      rcases List.mem_cons.mp hfield with rfl | hfield
      · exact absurd h hg
      · exact hfield

end

/-- The branches in the order of the callback. -/
def limitFields : List LimitField := [.maxRequest, .remainingRequest, .resetTime]

theorem mem_limitFields (field : LimitField) : field ∈ limitFields := by cases field <;> decide

theorem HeaderLine.handle_eq (line : HeaderLine) (behind : Memory) (limits : BXNetRatelimit) :
    line.handle behind limits =
      if line.itemCount = 0 then { returned := line.bytes.length, limits, reads := [] }
      else headerBranches (line.memory behind) line.bytes.length limits limitFields := by
  have hn : line.size * line.itemCount % 2 ^ 64 = line.bytes.length := by rw [Nat.mod_eq_of_lt line.fits, line.length_eq]
  unfold handle bxHeaderCallback
  rw [hn]
  rfl

section

variable {line : HeaderLine} (behind : Memory) (limits : BXNetRatelimit)

theorem itemCount_ne_zero {field : LimitField} (h : field.Enters line.bytes) : line.itemCount ≠ 0 := by
  intro hzero
  have hlen := line.length_eq
  have := h.longer
  rw [hzero, Nat.mul_zero] at hlen
  omega

theorem handle_skip (h : ∀ field : LimitField, ¬field.Enters line.bytes) :
    (line.handle behind limits).limits = limits ∧
      ∀ r ∈ (line.handle behind limits).reads, r < line.size * line.itemCount := by
  rw [line.handle_eq, ← line.length_eq]
  by_cases hzero : line.itemCount = 0
  · rw [if_pos hzero]
    exact ⟨rfl, fun r hr => absurd hr List.not_mem_nil⟩
  · rw [if_neg hzero]
    exact headerBranches_skip behind fun field _ => h field

theorem handle_taken {field : LimitField} (h : field.Enters line.bytes) :
    line.size * line.itemCount ∈ (line.handle behind limits).reads := by
  rw [line.handle_eq, ← line.length_eq, if_neg (itemCount_ne_zero h)]
  exact headerBranches_taken behind (mem_limitFields field) h

theorem handle_limits {field : LimitField} (h : field.Enters line.bytes)
    (honly : ∀ g : LimitField, g.Enters line.bytes → g = field) :
    (line.handle behind limits).limits =
      field.store limits (line.bytes.drop (field.name.length + 2) ++ [behind 0]) := by
  rw [line.handle_eq, if_neg (itemCount_ne_zero h)]
  exact headerBranches_limits behind (mem_limitFields field) h honly

end

/-! ### The number -/

section

variable {blanks digits : List UInt8}

theorem strtol_number (hblanks : ∀ c ∈ blanks, c = 32 ∨ c = 9) (hne : digits ≠ []) (hdigits : ∀ c ∈ digits, isDigit c)
    (hfits : Decimal.value digits ≤ intMax) (rest : List UInt8) :
    strtol (blanks ++ (digits ++ 13 :: rest)) = some ((Decimal.value digits : Int), 13 :: rest) := by
  have hblank : ∀ c ∈ blanks, Decimal.isBlank c := by
    intro c hc
    rcases hblanks c hc with rfl | rfl <;> rfl
  have hdigit : ∀ c ∈ (digits ++ 13 :: rest).head?, Decimal.isDigit c := by
    intro c hc
    rw [List.head?_append_of_ne_nil digits hne] at hc
    exact hdigits c (List.mem_of_mem_head? hc)
  have hread : Decimal.unsigned (digits ++ 13 :: rest) = some (Decimal.value digits, 13 :: rest) :=
    Decimal.unsigned_append hne hdigits (by rintro c ⟨⟩; rfl)
  have hmax : (intMax : Int) = 2 ^ 31 - 1 := rfl
  have hclamp : max (-2 ^ 63) (min (Decimal.value digits : Int) (2 ^ 63 - 1)) = Decimal.value digits := by omega
  unfold strtol
  rw [Decimal.signed_blanks hblank, Decimal.signed_of_digit hdigit, hread]
  show some (max (-2 ^ 63) (min (Decimal.value digits : Int) (2 ^ 63 - 1)), 13 :: rest) = _
  rw [hclamp]

/-- The loop that skips blanks and colons stops in front of the digits. -/
theorem dropWhile_number (hblanks : ∀ c ∈ blanks, c = 32 ∨ c = 9) (hne : digits ≠ []) (hdigits : ∀ c ∈ digits, isDigit c)
    (rest : List UInt8) : ∃ left : List UInt8, (∀ c ∈ left, c = 32 ∨ c = 9) ∧
      (blanks ++ (digits ++ rest)).dropWhile (fun c => c = 32 || c = 58) = left ++ (digits ++ rest) := by
  induction blanks with
  | nil =>
    obtain ⟨d, digits, rfl⟩ := List.exists_cons_of_ne_nil hne
    have hd := (Decimal.isDigit_iff d).mp (hdigits d List.mem_cons_self)
    refine ⟨[], nofun, List.dropWhile_cons_of_neg ?_⟩
    simp only [Bool.or_eq_true, decide_eq_true_eq]
    rintro (rfl | rfl)
    · exact absurd hd (by decide)
    · exact absurd hd (by decide)
  | cons c blanks ih =>
    rcases hblanks c List.mem_cons_self with rfl | rfl
    · obtain ⟨left, hleft, heq⟩ := ih fun c hc => hblanks c (List.mem_cons_of_mem _ hc)
      exact ⟨left, hleft, heq⟩
    · exact ⟨9 :: blanks, hblanks, rfl⟩

theorem ofNat_eq_zero_iff {v : Nat} (h : v ≤ intMax) : Int32.ofNat v = 0 ↔ v = 0 := by
  have hmax : intMax = 2 ^ 31 - 1 := rfl
  constructor
  · intro hzero
    have hint : (Int32.ofNat v).toInt = (0 : Int32).toInt := congrArg Int32.toInt hzero
    rw [Int32.toInt_ofNat_of_lt (by omega)] at hint
    exact Int.ofNat.inj hint
  · rintro rfl
    rfl

/-- A branch stores the number at the front of the copy, and keeps its field where that is zero. -/
theorem store_number (field : LimitField) (limits : BXNetRatelimit) (hblanks : ∀ c ∈ blanks, c = 32 ∨ c = 9)
    (hne : digits ≠ []) (hdigits : ∀ c ∈ digits, isDigit c) (hfits : Decimal.value digits ≤ intMax) (rest : List UInt8) :
    field.store limits (blanks ++ (digits ++ 13 :: rest)) =
      if Decimal.value digits = 0 then limits else field.set limits (Int32.ofNat (Decimal.value digits)) := by
  obtain ⟨left, hleft, hskip⟩ := dropWhile_number hblanks hne hdigits
    (13 :: (rest ++ List.replicate (10 - (blanks ++ (digits ++ 13 :: rest)).length) 0))
  have hnul : ∀ c ∈ left ++ (digits ++ [13]), c ≠ 0 := by
    intro c hc
    rcases List.mem_append.mp hc with hc | hc
    · rcases hleft c hc with rfl | rfl <;> decide
    · rcases List.mem_append.mp hc with hc | hc
      · rintro rfl
        exact absurd (hdigits 0 hc) (by decide)
      · obtain rfl := List.mem_singleton.mp hc
        decide
  have hcut (tail : List UInt8) : cString (left ++ (digits ++ 13 :: tail)) = left ++ (digits ++ 13 :: cString tail) := by
    have hsplit (l : List UInt8) : left ++ (digits ++ 13 :: l) = left ++ (digits ++ [13]) ++ l := by simp
    rw [hsplit tail, hsplit (cString tail), cString,
      List.takeWhile_append_of_pos fun c hc => decide_eq_true (hnul c hc)]
    rfl
  have hhead (tail : List UInt8) : (left ++ (digits ++ 13 :: tail)).headD 0 ≠ 0 := by
    obtain ⟨c, front, hfront⟩ := List.exists_cons_of_ne_nil (show left ++ (digits ++ [13]) ≠ [] by simp)
    have hsplit : left ++ (digits ++ 13 :: tail) = left ++ (digits ++ [13]) ++ tail := by simp
    rw [hsplit, hfront]
    exact hnul c (hfront ▸ List.mem_cons_self)
  unfold LimitField.store
  dsimp only
  rw [List.append_assoc, List.append_assoc, List.cons_append, hskip, if_neg (hhead _), hcut,
    strtol_number hleft hne hdigits hfits]
  show (if Int32.ofInt (Decimal.value digits : Int) = 0 then limits else
    field.set limits (Int32.ofInt (Decimal.value digits : Int))) = _
  rw [Int32.ofInt_eq_ofNat]
  simp only [ofNat_eq_zero_iff hfits]

end

/-- A line gets into the branch of its own name only. -/
theorem enters_unique {bytes rest : List UInt8} {f g : LimitField} (hbytes : bytes = f.name ++ rest) (h : g.Enters bytes) :
    g = f := by
  have hfront : bytes.take 13 = f.name.take 13 := by
    rw [hbytes, List.take_append_of_le_length (by cases f <;> decide)]
  have hlen : 13 ≤ g.name.length := by cases g <;> decide
  have htake : ((cString (bytes.take g.name.length)).take 13) = f.name.take 13 := by
    have hsplit : bytes.take g.name.length = f.name.take 13 ++ (bytes.take g.name.length).drop 13 := by
      conv_lhs => rw [← List.take_append_drop 13 (bytes.take g.name.length), List.take_take, min_eq_left hlen, hfront]
    rw [hsplit, cString, List.takeWhile_append_of_pos (by cases f <;> decide +kernel), List.take_append_of_le_length]
    · cases f <;> rfl
    · cases f <;> decide
  have hsame : g.name.take 13 = f.name.take 13 := by
    obtain ⟨tail, htail⟩ := h.named
    have hlong : 13 ≤ (cString (bytes.take g.name.length)).length := by
      have := congrArg List.length htake
      have hf : (f.name.take 13).length = 13 := by cases f <;> decide
      rw [hf, List.length_take] at this
      omega
    rw [← htail, List.take_append_of_le_length hlong, htake]
  revert hsame
  cases f <;> cases g <;> decide

/-- The byte behind the colon is lost: a line with a blank there stores its number, and a line without one the number
    without its first digit. A number that is zero leaves the field as it is. -/
theorem handle_number {line : HeaderLine} (behind : Memory) (limits : BXNetRatelimit) {field : LimitField} {c : UInt8}
    {blanks digits : List UInt8} (hbytes : line.bytes = field.name ++ 58 :: c :: (blanks ++ (digits ++ [13, 10])))
    (hshort : line.bytes.length < field.name.length + 11) (hblanks : ∀ c ∈ blanks, c = 32 ∨ c = 9) (hne : digits ≠ [])
    (hdigits : ∀ c ∈ digits, isDigit c) (hfits : Decimal.value digits ≤ intMax) :
    (line.handle behind limits).limits =
      if Decimal.value digits = 0 then limits else field.set limits (Int32.ofNat (Decimal.value digits)) := by
  have hentered : field.Enters line.bytes := by
    refine ⟨?_, hshort, ?_⟩
    · rw [hbytes, List.length_append, List.length_cons, List.length_cons]
      omega
    · rw [hbytes, List.take_left]
      exact List.takeWhile_prefix _
  have hdrop : line.bytes.drop (field.name.length + 2) ++ [behind 0] = blanks ++ (digits ++ 13 :: [10, behind 0]) := by
    rw [hbytes, ← List.drop_drop, List.drop_left]
    simp
  rw [handle_limits behind limits hentered fun g => enters_unique hbytes, hdrop,
    store_number field limits hblanks hne hdigits hfits]

/-! ### Rate-limit lines -/

/-- A line of the field with this number: its name, a colon, blanks, digits and CRLF. -/
structure Carries (field : LimitField) (v : Nat) (bytes : List UInt8) : Prop where
  fits : v ≤ intMax
  written : ∃ blanks digits : List UInt8, (∀ c ∈ blanks, c = 32 ∨ c = 9) ∧ digits ≠ [] ∧ (∀ c ∈ digits, isDigit c) ∧
    Decimal.value digits = v ∧ bytes = field.name ++ 58 :: (blanks ++ digits ++ [13, 10])

/-- The callback does with the line what its headers ask for, whatever lies behind it, and stays inside it. -/
structure HandlesLine (line : HeaderLine) (behind : Memory) (limits : BXNetRatelimit) : Prop where
  stores : ∀ field v, Carries field v line.bytes →
    (line.handle behind limits).limits = field.set limits (Int32.ofNat v)
  keeps : (∀ field v, ¬Carries field v line.bytes) → (line.handle behind limits).limits = limits
  inside : ∀ r ∈ (line.handle behind limits).reads, r < line.size * line.itemCount

theorem LimitField.set_eq_self (field : LimitField) (limits : BXNetRatelimit) (v : Int32) :
    field.set limits v = limits ↔ field.get limits = v := by
  cases field <;> cases limits <;> simp [set, get, eq_comm]

theorem handlesLine_iff (line : HeaderLine) (behind : Memory) (limits : BXNetRatelimit) :
    HandlesLine line behind limits ↔
      (∀ field : LimitField, ¬field.Enters line.bytes) ∧
        ∀ (field : LimitField) (v : Nat), Carries field v line.bytes → field.get limits = Int32.ofNat v := by
  constructor
  · intro h
    have hskip : ∀ field : LimitField, ¬field.Enters line.bytes := fun field hentered =>
      absurd (h.inside _ (handle_taken behind limits hentered)) (lt_irrefl _)
    refine ⟨hskip, fun field v hline => ?_⟩
    rw [← field.set_eq_self, ← h.stores field v hline]
    exact (handle_skip behind limits hskip).1
  · rintro ⟨hskip, hheld⟩
    obtain ⟨hlimits, hreads⟩ := handle_skip behind limits hskip
    refine ⟨fun field v hline => ?_, fun _ => hlimits, hreads⟩
    rw [hlimits, (field.set_eq_self limits _).mpr (hheld field v hline)]

/-- A line without a blank, one character an item. -/
def bareLine : HeaderLine where
  size := 1
  itemCount := 20
  bytes := asciiBytes "ratelimit-limit:57\r\n"
  length_eq := by decide
  fits := by decide

/-- It stores 7, and the byte behind it is read. -/
theorem handlesLine_bare : Carries .maxRequest 57 bareLine.bytes ∧
    (bareLine.handle (fun _ => 0) ⟨0, 0, 0⟩).limits = ⟨7, 0, 0⟩ ∧
    20 ∈ (bareLine.handle (fun _ => 0) ⟨0, 0, 0⟩).reads ∧ ¬HandlesLine bareLine (fun _ => 0) ⟨0, 0, 0⟩ := by
  have hread : 20 ∈ (bareLine.handle (fun _ => 0) ⟨0, 0, 0⟩).reads := by decide +kernel
  have hcarries : Carries .maxRequest 57 bareLine.bytes :=
    ⟨by decide, [], asciiBytes "57", nofun, by decide, by decide +kernel, by decide +kernel, by decide +kernel⟩
  exact ⟨hcarries, by decide +kernel, hread, fun h => absurd (h.inside 20 hread) (by decide)⟩

end BxSync
