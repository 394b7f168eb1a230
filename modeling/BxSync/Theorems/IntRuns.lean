import BxSync.IntArray
import BxSync.Lib.Decimal

/-! The integer list parser finds the runs of digits of its text, each as a saturated int64. Its buffer has room for
    20 digits and a NUL, and its check lets a 21st digit in: from there on the conversion has no NUL to stop at. -/

namespace BxSync

/-! ### The array -/

/-- The cells that hold these values. -/
def intCells : List Int64 → Option (List Int64)
  | [] => none
  | values => some (Int64.ofNat values.length :: values)

/-- A run of digits as an int64. -/
def runValue (run : List UInt8) : Int64 := Int64.ofNat (min (decimal run) (2 ^ 63 - 1))

section

variable {run rest : List UInt8} {values : List Int64}

theorem nul_notMem_digits (h : ∀ c ∈ run, isDigit c) : 0 ∉ run := fun hmem => absurd (h 0 hmem) (by decide)

theorem cString_digits (h : ∀ c ∈ run, isDigit c) : cString run = run :=
  List.takeWhile_eq_self_iff.mpr fun _ hc => decide_eq_true fun hzero => nul_notMem_digits h (hzero ▸ hc)

theorem strtoll_run (h : ∀ c ∈ run, isDigit c) (hne : run ≠ []) : strtoll run = runValue run := by
  have hread : Decimal.unsigned (run ++ []) = some (decimal run, []) := Decimal.unsigned_append hne h nofun
  rw [List.append_nil] at hread
  have hsigned := Decimal.signed_of_digit fun c hc => h c (List.mem_of_mem_head? hc)
  rw [hread] at hsigned
  have hmin : max (-2 ^ 63) (min (decimal run : Int) (2 ^ 63 - 1)) = (min (decimal run) (2 ^ 63 - 1) : Nat) := by omega
  rw [strtoll_eq, cString_digits h, hsigned]
  show Int64.ofInt (max (-2 ^ 63) (min (decimal run : Int) (2 ^ 63 - 1))) = _
  rw [hmin, Int64.ofInt_eq_ofNat]
  rfl

theorem strtoll_terminated (h : ∀ c ∈ run, isDigit c) (hne : run ≠ []) (k : Nat) :
    strtoll (run ++ List.replicate (k + 1) 0) = runValue run := by
  rw [← strtoll_run h hne, strtoll_eq, strtoll_eq, List.replicate_succ, cString_append_nul (nul_notMem_digits h),
    cString_digits h]

/-- The buffer after these digits. -/
def intBuffer (run : List UInt8) : List UInt8 :=
  run.take intBufferSize ++ List.replicate (intBufferSize - run.length) 0

theorem strtollWithin_intBuffer (h : ∀ c ∈ run, isDigit c) (hne : run ≠ []) :
    strtollWithin (intBuffer run) = if run.length ≤ 20 then some (runValue run) else none := by
  have hnul : 0 ∉ run := nul_notMem_digits h
  unfold strtollWithin intBuffer intBufferSize
  by_cases hlen : run.length ≤ 20
  · have hpad : 21 - run.length = 20 - run.length + 1 := by omega
    rw [if_pos hlen, List.take_of_length_le (by omega), hpad, strtoll_terminated h hne, if_pos]
    exact List.mem_append_right _ (by simp)
  · have hpad : 21 - run.length = 0 := by omega
    rw [if_neg hlen, hpad, List.replicate_zero, List.append_nil, if_neg fun hmem => hnul (List.mem_of_mem_take hmem)]

/-- One more value. -/
theorem bufferIntoArray_intCells (hlen : values.length < 2 ^ 62) (buffer : List UInt8) :
    bufferIntoArray (intCells values) buffer = (strtollWithin buffer).bind fun n => intCells (values ++ [n]) := by
  unfold bufferIntoArray
  cases strtollWithin buffer with
  | none => rfl
  | some n =>
    cases values with
    | nil => rfl
    | cons v values =>
      have hnat : ∀ k : Nat, k < 2 ^ 63 → (Int64.ofNat k).toInt.toNat = k := fun k hk => by
        rw [Int64.toInt_ofNat_of_lt hk]
        rfl
      have hcount : Int64.ofNat (v :: values).length + 1 = Int64.ofNat ((v :: values).length + 1) :=
        (Int64.ofNat_add ..).symm
      have hsize : Int64.ofNat (v :: values).length + 2 = Int64.ofNat ((v :: values).length + 2) :=
        (Int64.ofNat_add ..).symm
      have hgrown : reallocCells (Int64.ofNat (v :: values).length :: v :: values) ((v :: values).length + 2) =
          Int64.ofNat (v :: values).length :: (v :: values ++ [0]) := by
        unfold reallocCells
        rw [List.take_of_length_le (by simp)]
        simp
      simp only [intCells, List.headD_cons, hsize, hnat _ (show (v :: values).length + 2 < 2 ^ 63 by omega), hgrown,
        Option.bind_eq_bind, Option.bind_some, hcount, storeCell, hnat _ (show (v :: values).length + 1 < 2 ^ 63 by omega)]
      simp

end

/-! ### The scan -/

/-- The locals after these values and the digits of a run. -/
def intScan (run : List UInt8) (values : List Int64) : IntScan :=
  { buffer := intBuffer run, j := min run.length intBufferSize, array := intCells values }

section

variable {run rest : List UInt8} {values : List Int64} {c : UInt8}

theorem clear_intCells (values : List Int64) : IntScan.clear (intCells values) = intScan [] values := rfl

theorem intBuffer_set (h : run.length < intBufferSize) (c : UInt8) :
    (intBuffer run).set run.length c = intBuffer (run ++ [c]) := by
  have hpad : intBufferSize - run.length = intBufferSize - (run.length + 1) + 1 := by omega
  unfold intBuffer
  rw [List.take_of_length_le h.le, List.take_of_length_le (by rw [List.length_append]; exact h), hpad,
    List.replicate_succ, List.length_append]
  simp

theorem intBuffer_full (h : intBufferSize ≤ run.length) (c : UInt8) : intBuffer (run ++ [c]) = intBuffer run := by
  have hpad : intBufferSize - (run ++ [c]).length = intBufferSize - run.length := by
    rw [List.length_append]
    omega
  unfold intBuffer
  rw [List.take_append_of_le_length h, hpad]

/-- A digit goes to the run, and to the buffer while it has room. -/
theorem turn_digit (hc : isDigit c) : (intScan run values).turn c = some (intScan (run ++ [c]) values) := by
  unfold IntScan.turn
  rw [if_pos hc]
  by_cases hroom : run.length < intBufferSize
  · have hj : min run.length intBufferSize = run.length := min_eq_left hroom.le
    have hlen : (intBuffer run).length = intBufferSize := by
      unfold intBuffer
      rw [List.take_of_length_le hroom.le, List.length_append, List.length_replicate]
      omega
    have hlen' : (run ++ [c]).length = run.length + 1 := List.length_append
    have hj' : min (run ++ [c]).length intBufferSize = run.length + 1 := hlen' ▸ min_eq_left (by omega)
    have hnot : ¬20 < run.length := by
      unfold intBufferSize at hroom
      omega
    unfold intScan
    dsimp only
    rw [hj, hj', if_neg hnot, if_pos (hlen.symm ▸ hroom), intBuffer_set hroom]
  · have hfull : intBufferSize ≤ run.length := by omega
    have hj : min run.length intBufferSize = intBufferSize := min_eq_right hfull
    have hj' : min (run ++ [c]).length intBufferSize = intBufferSize := min_eq_right (by simp; omega)
    unfold intScan
    dsimp only
    rw [hj, hj', if_pos (by decide), intBuffer_full hfull]

theorem j_pos_iff : 0 < (intScan run values).j ↔ run ≠ [] := by
  unfold intScan intBufferSize
  dsimp only
  rw [← List.length_pos_iff]
  omega

theorem bufferIntoArray_intScan (h : ∀ c ∈ run, isDigit c) (hne : run ≠ []) (hlen : values.length < 2 ^ 62) :
    bufferIntoArray (intScan run values).array (intScan run values).buffer =
      if run.length ≤ 20 then intCells (values ++ [runValue run]) else none := by
  show bufferIntoArray (intCells values) (intBuffer run) = _
  rw [bufferIntoArray_intCells hlen, strtollWithin_intBuffer h hne]
  by_cases hshort : run.length ≤ 20
  · rw [if_pos hshort, if_pos hshort, Option.bind_some]
  · rw [if_neg hshort, if_neg hshort, Option.bind_none]

theorem intCells_append (values : List Int64) (n : Int64) :
    intCells (values ++ [n]) = some (Int64.ofNat (values ++ [n]).length :: (values ++ [n])) := by
  cases values <;> rfl

/-- Anything else ends the run. -/
theorem turn_separator (hc : isDigit c = false) (h : ∀ c ∈ run, isDigit c) (hne : run ≠ [])
    (hlen : values.length < 2 ^ 62) :
    (intScan run values).turn c = if run.length ≤ 20 then some (intScan [] (values ++ [runValue run])) else none := by
  unfold IntScan.turn
  rw [if_neg (by rw [hc]; exact nofun), if_neg (Nat.not_le.mpr (j_pos_iff.mpr hne)), bufferIntoArray_intScan h hne hlen]
  by_cases hshort : run.length ≤ 20
  · rw [if_pos hshort, if_pos hshort, ← clear_intCells, intCells_append]
    rfl
  · rw [if_neg hshort, if_neg hshort]
    rfl

theorem turn_skip (hc : isDigit c = false) : (intScan [] values).turn c = some (intScan [] values) := by
  unfold IntScan.turn
  rw [if_neg (by rw [hc]; exact nofun)]
  rfl

theorem finish_intScan (h : ∀ c ∈ run, isDigit c) (hne : run ≠ []) (hlen : values.length < 2 ^ 62) :
    (intScan run values).finish = if run.length ≤ 20 then some (intCells (values ++ [runValue run])) else none := by
  unfold IntScan.finish
  rw [if_pos (j_pos_iff.mpr hne), bufferIntoArray_intScan h hne hlen, intCells_append]
  by_cases hshort : run.length ≤ 20
  · rw [if_pos hshort, if_pos hshort]
    rfl
  · rw [if_neg hshort, if_neg hshort]
    rfl

theorem digitRuns_run (h : ∀ c ∈ run, isDigit c) (hne : run ≠ []) : digitRuns run = [run] := by
  rw [digitRuns_digits h, if_neg fun hlen => hne (List.length_eq_zero_iff.mp hlen)]

/-- Each run of digits leaves room for the NUL. -/
def RunsFit (runs : List (List UInt8)) : Prop := ∀ run ∈ runs, run.length ≤ 20

instance (runs : List (List UInt8)) : Decidable (RunsFit runs) := inferInstanceAs (Decidable (∀ run ∈ runs, _))

/-- The scan from a run that is under way. -/
theorem run_intScan (rest : List UInt8) (i : Nat) (h : ∀ c ∈ run, isDigit c) (hvalues : values.length ≤ i)
    (hi : i ≤ intMax) : ((IntScan.run rest i (intScan run values)).bind IntScan.finish) =
      if i + rest.length ≤ intMax ∧ RunsFit (digitRuns (run ++ rest)) then
        some (intCells (values ++ (digitRuns (run ++ rest)).map runValue)) else none := by
  have hmax : intMax < 2 ^ 62 := by decide
  induction rest generalizing i run values with
  | nil =>
    show (intScan run values).finish = _
    rw [List.append_nil]
    by_cases hne : run = []
    · subst hne
      rw [show digitRuns [] = [] from rfl, if_pos ⟨hi, nofun⟩, List.map_nil, List.append_nil]
      rfl
    · rw [digitRuns_run h hne, finish_intScan h hne (by omega)]
      by_cases hshort : run.length ≤ 20
      · rw [if_pos hshort, if_pos ⟨hi, by simpa [RunsFit] using hshort⟩]
        rfl
      · rw [if_neg hshort, if_neg fun hfit => hshort (hfit.2 run List.mem_cons_self)]
  | cons c rest ih =>
    have hrun (s : Option IntScan) (hs : (intScan run values).turn c = s) :
        (IntScan.run (c :: rest) i (intScan run values)).bind IntScan.finish =
          s.bind fun s => (if i < intMax then IntScan.run rest (i + 1) s else none).bind IntScan.finish := by
      rw [IntScan.run, hs]
      cases s <;> rfl
    have hstep (run' : List UInt8) (values' : List Int64) (h' : ∀ c ∈ run', isDigit c)
        (hvalues' : values'.length ≤ i + 1) :
        (if i < intMax then IntScan.run rest (i + 1) (intScan run' values') else none).bind IntScan.finish =
          if i + (c :: rest).length ≤ intMax ∧ RunsFit (digitRuns (run' ++ rest)) then
            some (intCells (values' ++ (digitRuns (run' ++ rest)).map runValue)) else none := by
      have hlen : i + (c :: rest).length = i + 1 + rest.length := by
        rw [List.length_cons]
        omega
      rw [hlen]
      by_cases hlt : i < intMax
      · rw [if_pos hlt]
        exact ih (i + 1) h' hvalues' (by omega)
      · rw [if_neg hlt, if_neg fun hfit => absurd hfit.1 (by omega)]
        rfl
    cases hc : isDigit c with
    | true =>
      have hsplit : run ++ c :: rest = run ++ [c] ++ rest := by simp
      have hdigits : ∀ d ∈ run ++ [c], isDigit d := by simpa [or_imp, forall_and] using ⟨h, hc⟩
      rw [hrun _ (turn_digit hc), Option.bind_some, hstep _ _ hdigits (by omega), hsplit]
    | false =>
      have hruns : digitRuns (run ++ c :: rest) = digitRuns run ++ digitRuns rest := digitRuns_append_cons hc
      by_cases hne : run = []
      · subst hne
        have hskip : digitRuns ([] ++ c :: rest) = digitRuns ([] ++ rest) := by rw [hruns]; rfl
        rw [hrun _ (turn_skip hc), Option.bind_some, hstep [] values nofun (by omega), hskip]
      · have hfit : RunsFit ([run] ++ digitRuns rest) ↔ run.length ≤ 20 ∧ RunsFit (digitRuns ([] ++ rest)) := by
          simp [RunsFit]
        rw [hrun _ (turn_separator hc h hne (by omega)), hruns, digitRuns_run h hne]
        by_cases hshort : run.length ≤ 20
        · have hvalues' : (values ++ [runValue run]).length ≤ i + 1 := by simpa using hvalues
          have hlist : values ++ ([run] ++ digitRuns rest).map runValue =
              values ++ [runValue run] ++ (digitRuns ([] ++ rest)).map runValue := by simp
          rw [if_pos hshort, Option.bind_some, hstep [] _ nofun hvalues', hlist]
          simp only [hfit, hshort, true_and]
        · rw [if_neg hshort, Option.bind_none, if_neg fun h => hshort (hfit.mp h.2).1]

/-- What the parser returns. -/
theorem intStringArray_eq (s : List UInt8) :
    intStringArray (some s) =
      if (cString s).length ≤ intMax ∧ RunsFit (digitRuns (cString s)) then
        some (intCells ((digitRuns (cString s)).map runValue)) else none := by
  have hrun : ((IntScan.run (cString s) 0 (intScan [] [])).bind IntScan.finish) = _ :=
    run_intScan (cString s) 0 nofun le_rfl (Nat.zero_le _)
  rw [Nat.zero_add] at hrun
  exact hrun

end

/-! ### Joined numbers -/

/-- A text of these numbers with something between each two of them that is not empty and has no digit. -/
inductive Joined : List Nat → List UInt8 → Prop
  | nil : Joined [] []
  | one (n : Nat) : Joined [n] (Decimal.digits n)
  | cons (n : Nat) {m : Nat} {ns : List Nat} {sep text : List UInt8} (hsep : sep ≠ [])
      (hdigit : ∀ c ∈ sep, isDigit c = false) (h : Joined (m :: ns) text) :
      Joined (n :: m :: ns) (Decimal.digits n ++ (sep ++ text))

theorem digitRuns_separator {sep : List UInt8} (hdigit : ∀ c ∈ sep, isDigit c = false) (rest : List UInt8) :
    digitRuns (sep ++ rest) = digitRuns rest := by
  induction sep with
  | nil => rfl
  | cons c sep ih =>
    have hc : digitRuns ([] ++ c :: (sep ++ rest)) = digitRuns [] ++ digitRuns (sep ++ rest) :=
      digitRuns_append_cons (hdigit c List.mem_cons_self)
    exact hc.trans (ih fun d hd => hdigit d (List.mem_cons_of_mem c hd))

theorem digitRuns_joined {ns : List Nat} {text : List UInt8} (h : Joined ns text) :
    digitRuns text = ns.map Decimal.digits := by
  have hone (n : Nat) : digitRuns (Decimal.digits n) = [Decimal.digits n] :=
    digitRuns_run (fun _ => Decimal.isDigit_of_mem_digits) (Decimal.digits_ne_nil n)
  induction h with
  | nil => rfl
  | one n => exact hone n
  | @cons n m ns sep text hsep hdigit h ih =>
    obtain ⟨c, sep, rfl⟩ := List.exists_cons_of_ne_nil hsep
    rw [List.cons_append, digitRuns_append_cons (hdigit c List.mem_cons_self),
      digitRuns_separator fun d hd => hdigit d (List.mem_cons_of_mem c hd), hone, ih]
    rfl

/-- Every non-negative int64 has at most 19 digits. -/
theorem runsFit_joined {ns : List Nat} {text : List UInt8} (h : Joined ns text) (hns : ∀ n ∈ ns, n < 2 ^ 63) :
    RunsFit (digitRuns text) := by
  rw [digitRuns_joined h]
  intro run hrun
  obtain ⟨n, hn, rfl⟩ := List.mem_map.mp hrun
  exact Decimal.length_digits_le (by decide) ((hns n hn).trans (by decide))

theorem runValue_joined {ns : List Nat} {text : List UInt8} (h : Joined ns text) (hns : ∀ n ∈ ns, n < 2 ^ 63) :
    (digitRuns text).map runValue = ns.map Int64.ofNat := by
  rw [digitRuns_joined h, List.map_map]
  refine List.map_congr_left fun n hn => ?_
  have hlt := hns n hn
  have hvalue : decimal (Decimal.digits n) = n := Decimal.value_digits n
  show Int64.ofNat (min (decimal (Decimal.digits n)) (2 ^ 63 - 1)) = _
  rw [hvalue, min_eq_left (by omega)]

/-- Joined numbers read back. -/
theorem intStringArray_joined {ns : List Nat} {s : List UInt8} (h : Joined ns (cString s)) (hns : ∀ n ∈ ns, n < 2 ^ 63)
    (hlen : (cString s).length ≤ intMax) : intStringArray (some s) = some (intCells (ns.map Int64.ofNat)) := by
  rw [intStringArray_eq, if_pos ⟨hlen, runsFit_joined h hns⟩, runValue_joined h hns]

/-! ### The numbers of a sync -/

theorem scanInts_eq (behind : List UInt8) {run rest : List UInt8} {values : List Int64} (h : ∀ c ∈ run, isDigit c)
    (hfit : RunsFit (digitRuns (run ++ rest))) :
    scanInts behind rest run values = values ++ (digitRuns (run ++ rest)).map runValue := by
  have hflush {run : List UInt8} (values : List Int64) (h : ∀ c ∈ run, isDigit c) (hne : run ≠ [])
      (hshort : run.length ≤ 20) : bxUtilsBufferIntoArray behind values run = values ++ [runValue run] := by
    unfold bxUtilsBufferIntoArray
    rw [if_pos hshort, strtoll_run h hne]
  induction rest generalizing run values with
  | nil =>
    rw [List.append_nil] at hfit ⊢
    unfold scanInts
    by_cases hne : run = []
    · subst hne
      exact (List.append_nil values).symm
    · rw [digitRuns_run h hne] at hfit ⊢
      rw [if_neg fun hlen => hne (List.length_eq_zero_iff.mp hlen), hflush values h hne (hfit run List.mem_cons_self)]
      rfl
  | cons c rest ih =>
    unfold scanInts
    cases hc : isDigit c with
    | true =>
      have hsplit : run ++ c :: rest = run ++ [c] ++ rest := by simp
      have hdigits : ∀ d ∈ run ++ [c], isDigit d := by simpa [or_imp, forall_and] using ⟨h, hc⟩
      rw [hsplit] at hfit ⊢
      -- The run goes on, so the buffer is not full.
      obtain ⟨whole, hwhole, hle⟩ : ∃ whole ∈ digitRuns (run ++ [c] ++ rest), (run ++ [c]).length ≤ whole.length :=
        exists_digitRun hdigits (by simp)
      have hroom : ¬20 < run.length := by
        have := hfit whole hwhole
        rw [List.length_append] at hle
        simp only [List.length_singleton] at hle
        omega
      rw [if_pos rfl, if_neg hroom]
      exact ih hdigits hfit
    | false =>
      rw [digitRuns_append_cons hc] at hfit ⊢
      by_cases hne : run = []
      · subst hne
        exact ih (fun _ h => absurd h List.not_mem_nil) hfit
      · rw [digitRuns_run h hne] at hfit ⊢
        have hrest : RunsFit (digitRuns ([] ++ rest)) := fun run hrun => hfit run (List.mem_append_right _ hrun)
        rw [if_neg Bool.false_ne_true, if_neg fun hlen => hne (List.length_eq_zero_iff.mp hlen),
          ih (fun _ h => absurd h List.not_mem_nil) hrest,
          hflush values h hne (hfit run List.mem_cons_self), List.append_assoc]
        rfl

/-- The sync of a contact links the numbers in the cells of the array. -/
theorem bxIntStringArrayToIntArray_eq (behind : List UInt8) {s : List UInt8} {array : Option (List Int64)}
    (h : intStringArray (some s) = some array) : bxIntStringArrayToIntArray behind (some s) = (array.getD []).tail := by
  rw [intStringArray_eq] at h
  by_cases hfit : (cString s).length ≤ intMax ∧ RunsFit (digitRuns (cString s))
  · rw [if_pos hfit] at h
    obtain rfl := Option.some.inj h
    have hscan : scanInts behind (cString s) [] [] = [] ++ (digitRuns ([] ++ cString s)).map runValue :=
      scanInts_eq behind nofun hfit.2
    show scanInts behind (cString s) [] [] = _
    rw [hscan]
    show (digitRuns (cString s)).map runValue = _
    cases (digitRuns (cString s)).map runValue <;> rfl
  · rw [if_neg hfit] at h
    exact absurd h nofun

/-! ### The parser -/

/-- The parser stays inside its buffer, finds the runs of digits of its text, and reads back joined numbers. -/
structure ReadsInts (s : List UInt8) : Prop where
  inside : intStringArray (some s) ≠ none
  runs : intStringArray (some s) = some (intCells ((digitRuns (cString s)).map runValue))
  joined : ∀ ns, (∀ n ∈ ns, n < 2 ^ 63) → Joined ns (cString s) →
    intStringArray (some s) = some (intCells (ns.map Int64.ofNat))

theorem readsInts_iff (s : List UInt8) :
    ReadsInts s ↔ (cString s).length ≤ intMax ∧ RunsFit (digitRuns (cString s)) := by
  constructor
  · intro h
    by_contra hfit
    exact h.inside (by rw [intStringArray_eq, if_neg hfit])
  · intro hfit
    have hruns : intStringArray (some s) = some (intCells ((digitRuns (cString s)).map runValue)) := by
      rw [intStringArray_eq, if_pos hfit]
    refine ⟨?_, hruns, fun ns hns h => intStringArray_joined h hns hfit.1⟩
    rw [hruns]
    exact nofun

/-- Twenty zeros and a one fill the buffer, and the number 1 is read from what lies behind it. -/
theorem readsInts_full : ¬ReadsInts (asciiBytes "000000000000000000001") ∧
    intStringArray (some (asciiBytes "000000000000000000001")) = none := by
  have hnone : intStringArray (some (asciiBytes "000000000000000000001")) = none := by decide +kernel
  exact ⟨fun h => h.inside hnone, hnone⟩

end BxSync
