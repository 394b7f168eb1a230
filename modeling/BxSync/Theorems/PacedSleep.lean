import Mathlib.Algebra.Order.Field.Basic
import Mathlib.Data.Rat.Cast.Order
import Mathlib.Tactic.NormNum
import Mathlib.Tactic.Ring
import BxSync.Pacing

/-! The pace of the request worker is defined, and its sleep in bounds, exactly while a request has been counted and a
    limit from the remote comes with what remains of it and with a reset that is not too far away. Nothing in the
    worker checks these: a fetch that fails first leaves the count at zero, and each header may be missing. -/

namespace BxSync

open Machine

/-! ### Numbers -/

theorem intOf_eq_some {n : Int} (h : -2 ^ 31 ≤ n ∧ n < 2 ^ 31) : intOf n = some n := if_pos h

theorem secToUs_eq (s : Int) : secToUs s = if -2147 ≤ s ∧ s ≤ 2147 then some (s * 1000000) else none := by
  unfold secToUs
  by_cases hfits : -2147 ≤ s ∧ s ≤ 2147
  · have hus : s * 1000 * 1000 = s * 1000000 := by ring
    rw [if_pos hfits, intOf_eq_some (by omega), Option.bind_eq_bind, Option.bind_some, intOf_eq_some (by omega), hus]
  · rw [if_neg hfits]
    unfold intOf
    by_cases hms : -2 ^ 31 ≤ s * 1000 ∧ s * 1000 < 2 ^ 31
    · rw [if_pos hms, Option.bind_eq_bind, Option.bind_some, if_neg (by omega)]
    · rw [if_neg hms]
      rfl

theorem natAbs_num_le {x : ℚ} {m : Nat} (h : |x| ≤ m) : x.num.natAbs ≤ m * x.den := by
  have hnum : (x.num : ℚ) = x * x.den := (Rat.mul_den_eq_num x).symm
  have hcast : ((x.num.natAbs : Int) : ℚ) ≤ ((m * x.den : Nat) : Int) := by
    rw [Int.natCast_natAbs, Int.cast_abs, hnum, abs_mul, Int.cast_natCast, Nat.cast_mul, Nat.abs_cast]
    exact mul_le_mul_of_nonneg_right h (Nat.cast_nonneg _)
  exact Int.ofNat_le.mp (Int.cast_le.mp hcast)

/-- A number that an int bounds is in the range of the conversion. -/
theorem truncated_of_abs_le {x : ℚ} {m : Nat} (h : |x| ≤ m) (hm : m < 2 ^ 31) : ∃ n, truncated x = some n := by
  have hquot : (x.num.tdiv x.den).natAbs ≤ m := by
    rw [Int.natAbs_tdiv]
    exact Nat.div_le_of_le_mul (by rw [Int.natAbs_natCast, Nat.mul_comm]; exact natAbs_num_le h)
  exact ⟨_, intOf_eq_some (by omega)⟩

/-! ### One sleep -/

/-- The limits of the remote have what the sleep is computed from. -/
def Limited (limits : BXNetRatelimit) : Prop :=
  limits.maxRequest = 0 ∨
    limits.remainingRequest ≠ 0 ∧ -2147 ≤ limits.resetTime.toInt ∧ limits.resetTime.toInt ≤ 2147

theorem toInt_eq_zero_iff (n : Int32) : n.toInt = 0 ↔ n = 0 := by
  constructor
  · intro h
    exact Int32.toInt_inj.mp (h.trans rfl)
  · rintro rfl
    rfl

theorem sleepOf_limited {limits : BXNetRatelimit} (h : Limited limits) :
    ∃ us, sleepOf limits = some us ∧ |us| ≤ (2147000000 : Nat) := by
  unfold sleepOf
  by_cases hmax : limits.maxRequest = 0
  · rw [if_pos hmax]
    exact ⟨_, rfl, by norm_num [usDefault]⟩
  · obtain ⟨hremaining, hlow, hhigh⟩ := h.resolve_left hmax
    have hint : limits.remainingRequest.toInt ≠ 0 := (toInt_eq_zero_iff _).not.mpr hremaining
    have hdivisor : (1 * limits.remainingRequest.toInt : ℚ) ≠ 0 := by
      rw [one_mul]
      exact Int.cast_ne_zero.mpr hint
    have hone : (1 : ℚ) ≤ |(1 * limits.remainingRequest.toInt : ℚ)| := by
      rw [one_mul, ← Int.cast_abs]
      exact_mod_cast Int.one_le_abs hint
    rw [if_neg hmax, secToUs_eq, if_pos ⟨hlow, hhigh⟩, Option.bind_eq_bind, Option.bind_some, divided, if_neg hdivisor]
    refine ⟨_, rfl, ?_⟩
    rw [abs_div]
    refine (div_le_self (abs_nonneg _) hone).trans ?_
    rw [← Int.cast_abs]
    have hus : |limits.resetTime.toInt * 1000000| ≤ 2147000000 := abs_le.mpr ⟨by omega, by omega⟩
    exact_mod_cast hus

theorem sleepOf_unlimited {limits : BXNetRatelimit} (h : ¬Limited limits) : sleepOf limits = none := by
  obtain ⟨hmax, hrest⟩ := not_or.mp h
  unfold sleepOf
  rw [if_neg hmax, secToUs_eq]
  by_cases hreset : -2147 ≤ limits.resetTime.toInt ∧ limits.resetTime.toInt ≤ 2147
  · have hremaining : limits.remainingRequest = 0 := by
      by_contra hne
      exact hrest ⟨hne, hreset⟩
    rw [if_pos hreset, hremaining, Option.bind_eq_bind, Option.bind_some, divided, if_pos (by simp)]
  · rw [if_neg hreset]
    rfl

/-- What the requests so far have slept is not more than the default for each of them. -/
theorem slept_le {count : UInt64} (hcount : count ≠ 0) {us : Int} (hpos : 0 < us) (hle : us ≤ usDefault) :
    (UInt64.ofInt us * (count - 1)).toNat ≤ 125000 * (count.toNat - 1) := by
  have hus : us ≤ 125000 := hle
  have hmul : (UInt64.ofInt us).toNat ≤ 125000 := by
    have hmod : us % 2 ^ 64 = us := Int.emod_eq_of_lt hpos.le (by omega)
    rw [UInt64.ofInt, hmod, UInt64.toNat_ofNat_of_lt' (by simp [UInt64.size]; omega)]
    omega
  have hpred : (count - 1).toNat = count.toNat - 1 := by
    have hone : (1 : UInt64) ≤ count := by
      rw [UInt64.le_iff_toNat_le]
      exact Nat.one_le_iff_ne_zero.mpr fun hzero => hcount (UInt64.toNat_inj.mp (hzero.trans rfl))
    rw [UInt64.toNat_sub_of_le _ _ hone]
    rfl
  rw [UInt64.toNat_mul, hpred]
  exact (Nat.mod_le _ _).trans (Nat.mul_le_mul_right _ hmul)

/-- A sleep is defined exactly when a request has been counted and the limits have what it takes. -/
theorem pace_spec (net : BXNet) {us : Int} (hpos : 0 < us) (hle : us ≤ usDefault) :
    ((∃ next, pace net us = some next) ↔ net.requestCount ≠ 0 ∧ Limited net.limits) ∧
      ∀ next, pace net us = some next → 0 < next ∧ next ≤ usDefault := by
  have hpace : pace net us = (sleepOf net.limits).bind fun us1 =>
      (divided (us1 + (UInt64.ofInt us * (net.requestCount - 1)).toNat) net.requestCount.toNat).bind fun average =>
        (truncated average).bind fun next => some (if next ≤ 0 ∨ usDefault < next then usDefault else next) := rfl
  refine ⟨⟨?_, ?_⟩, ?_⟩
  · rintro ⟨next, hnext⟩
    rw [hpace] at hnext
    obtain ⟨us1, hus1, hnext⟩ := Option.bind_eq_some_iff.mp hnext
    obtain ⟨average, haverage, -⟩ := Option.bind_eq_some_iff.mp hnext
    constructor
    · intro hzero
      rw [hzero] at haverage
      cases haverage
    · by_contra hunlimited
      rw [sleepOf_unlimited hunlimited] at hus1
      cases hus1
  · rintro ⟨hcount, hlimited⟩
    obtain ⟨us1, hus1, hbound⟩ := sleepOf_limited hlimited
    have hn : 0 < net.requestCount.toNat :=
      Nat.pos_of_ne_zero fun hzero => hcount (UInt64.toNat_inj.mp (hzero.trans rfl))
    have hslept := slept_le hcount hpos hle
    generalize (UInt64.ofInt us * (net.requestCount - 1)).toNat = slept at hpace hslept
    generalize net.requestCount.toNat = n at hpace hslept hn
    have hnq : (0 : ℚ) < n := by exact_mod_cast hn
    have haverage : |(us1 + slept) / (n : ℚ)| ≤ (2147000000 : Nat) := by
      have hsum : slept + 2147000000 ≤ 2147000000 * n := by omega
      have hsumq : (slept : ℚ) + (2147000000 : Nat) ≤ (2147000000 : Nat) * n := by exact_mod_cast hsum
      rw [abs_div, abs_of_pos hnq, div_le_iff₀ hnq]
      calc |us1 + slept| ≤ |us1| + |(slept : ℚ)| := abs_add_le _ _
        _ ≤ (2147000000 : Nat) + slept := by
          rw [Nat.abs_cast]
          exact add_le_add_left hbound _
        _ ≤ (2147000000 : Nat) * n := by rwa [add_comm]
    obtain ⟨next, hnext⟩ := truncated_of_abs_le haverage (by decide)
    rw [hpace, hus1, Option.bind_some, divided, if_neg hnq.ne', Option.bind_some, hnext]
    exact ⟨_, rfl⟩
  · intro next hnext
    rw [hpace] at hnext
    obtain ⟨us1, -, hnext⟩ := Option.bind_eq_some_iff.mp hnext
    obtain ⟨average, -, hnext⟩ := Option.bind_eq_some_iff.mp hnext
    obtain ⟨raw, -, hnext⟩ := Option.bind_eq_some_iff.mp hnext
    obtain rfl := Option.some.inj hnext
    have hdefault : usDefault = 125000 := rfl
    by_cases hraw : raw ≤ 0 ∨ usDefault < raw
    · rw [if_pos hraw]
      omega
    · rw [if_neg hraw]
      omega

/-! ### The fetch -/

/-- The transfers of a fetch that come to their end. -/
def completedTransfers (answers : Nat → AttemptAnswers) : Nat → BXNetBuffer → Nat
  | 0, _ => 0
  | left + 1, b =>
    let attempt := 2 - (left + 1)
    let b : BXNetBuffer := if b.data.isSome then { b with data := none, dataLen := 0 } else b
    let b : BXNetBuffer := { b with httpCode := 0 }
    if !(answers attempt).prepared then 0
    else
      let performed := curlEasyPerform (answers attempt).transfer b
      if !performed.1 then 0
      else
        let b : BXNetBuffer := { performed.2 with httpCode := (answers attempt).transfer.httpCode }
        1 + if b.httpCode ≠ 401 ∨ attempt = 1 then 0 else completedTransfers answers left b

/-- The header lines that the attempts of a fetch hand over. -/
def fetchedLines (answers : Nat → PacedAnswers) : Nat → BXNetBuffer → List (HeaderLine × Memory)
  | 0, _ => []
  | left + 1, b =>
    let attempt := 2 - (left + 1)
    let b : BXNetBuffer := if b.data.isSome then { b with data := none, dataLen := 0 } else b
    let b : BXNetBuffer := { b with httpCode := 0 }
    if !(answers attempt).prepared then []
    else
      let performed := curlEasyPerform (answers attempt).transfer b
      if !performed.1 then (answers attempt).lines
      else
        let b : BXNetBuffer := { performed.2 with httpCode := (answers attempt).transfer.httpCode }
        (answers attempt).lines ++ if b.httpCode ≠ 401 ∨ attempt = 1 then [] else fetchedLines answers left b

/-- The transfers that `bx_fetch` counts. -/
def fetchTransfers (answers : Nat → PacedAnswers) : Nat :=
  completedTransfers (fun i => (answers i).toAttemptAnswers) 2 { httpCode := 0, data := none, dataLen := 0 }

/-- The header lines of a fetch. -/
def fetchLines (answers : Nat → PacedAnswers) : List (HeaderLine × Memory) :=
  fetchedLines answers 2 { httpCode := 0, data := none, dataLen := 0 }

theorem readHeaders_append (before after : List (HeaderLine × Memory)) (limits : BXNetRatelimit) :
    readHeaders (before ++ after) limits = readHeaders after (readHeaders before limits) :=
  List.foldl_append

section

variable (answers : Nat → PacedAnswers)

theorem countRequest_eq (elapsed : UInt64) (net : BXNet) :
    (net.requestCount.toNat + 1 < 2 ^ 64 → ∃ counted, countRequest elapsed net = some counted ∧
      counted.requestCount.toNat = net.requestCount.toNat + 1 ∧ counted.limits = net.limits) ∧
    (¬net.requestCount.toNat + 1 < 2 ^ 64 → countRequest elapsed net = none) := by
  have hnext : (net.requestCount + 1).toNat = (net.requestCount.toNat + 1) % 2 ^ 64 := UInt64.toNat_add ..
  have hlt := net.requestCount.toNat_lt
  unfold countRequest
  constructor
  · intro hfits
    have hcount : (net.requestCount + 1).toNat = net.requestCount.toNat + 1 := hnext.trans (Nat.mod_eq_of_lt hfits)
    have hne : net.requestCount + 1 ≠ 0 := fun hzero => by
      have := congrArg UInt64.toNat hzero
      rw [hcount] at this
      exact absurd this (Nat.succ_ne_zero _)
    rw [if_neg hne]
    exact ⟨_, rfl, hcount, rfl⟩
  · intro hwrap
    have hzero : net.requestCount + 1 = 0 := by
      refine UInt64.toNat_inj.mp (hnext.trans ?_)
      have hlast : net.requestCount.toNat + 1 = 2 ^ 64 := by omega
      rw [hlast]
      rfl
    rw [if_pos hzero]

/-- What a fetch leaves of the counters and the limits. -/
structure FetchedAs (net : BXNet) (transfers : Nat) (lines : List (HeaderLine × Memory)) (after : BXNet) : Prop where
  count : after.requestCount.toNat = net.requestCount.toNat + transfers
  limits : after.limits = readHeaders lines net.limits

/-- A fetch is defined as long as the count stays below 64 bits. It counts its transfers, reads its header lines, and
    gives the response of `bx_fetch`. -/
theorem pacedFetchLoop_spec (left : Nat) (b : BXNetBuffer) (net : BXNet) :
    let transfers := completedTransfers (fun i => (answers i).toAttemptAnswers) left b
    (net.requestCount.toNat + transfers < 2 ^ 64 → ∃ after, pacedFetchLoop answers left b net =
        some (bxFetchLoop (fun i => (answers i).toAttemptAnswers) left b, after) ∧
      FetchedAs net transfers (fetchedLines answers left b) after) ∧
    (¬net.requestCount.toNat + transfers < 2 ^ 64 → pacedFetchLoop answers left b net = none) := by
  have hlt := net.requestCount.toNat_lt
  have hstays (lines : List (HeaderLine × Memory)) (after : BXNet) (hafter : after.requestCount = net.requestCount)
      (hlimits : after.limits = readHeaders lines net.limits) :
      (net.requestCount.toNat + 0 < 2 ^ 64 → ∃ after', some (none, after) = some ((none : Option BXNetBuffer), after') ∧
        FetchedAs net 0 lines after') ∧
      (¬net.requestCount.toNat + 0 < 2 ^ 64 → some ((none : Option BXNetBuffer), after) = none) :=
    ⟨fun _ => ⟨after, rfl, congrArg UInt64.toNat hafter, hlimits⟩, fun hwrap => absurd hlt hwrap⟩
  induction left generalizing b net with
  | zero => exact hstays [] net rfl rfl
  | succ left ih =>
    unfold pacedFetchLoop completedTransfers fetchedLines bxFetchLoop
    dsimp only
    generalize ({ (if b.data.isSome then { b with data := none, dataLen := 0 } else b : BXNetBuffer) with httpCode := 0 } :
      BXNetBuffer) = cleared
    cases (answers (2 - (left + 1))).prepared with
    | false => exact hstays [] net rfl rfl
    | true =>
      rcases curlEasyPerform (answers (2 - (left + 1))).transfer cleared with ⟨performed, filled⟩
      cases performed with
      | false => exact hstays _ _ rfl rfl
      | true =>
        simp only [Bool.not_true, Bool.false_eq_true, if_false]
        obtain ⟨hcounts, hwraps⟩ := countRequest_eq (answers (2 - (left + 1))).elapsed
          { net with limits := readHeaders (answers (2 - (left + 1))).lines net.limits }
        dsimp only at hcounts hwraps
        by_cases hfits : net.requestCount.toNat + 1 < 2 ^ 64
        · obtain ⟨counted, hcounted, hcount, hlimits⟩ := hcounts hfits
          rw [hcounted, Option.bind_eq_bind, Option.bind_some]
          by_cases hlast : (answers (2 - (left + 1))).transfer.httpCode ≠ 401 ∨ 2 - (left + 1) = 1
          · rw [if_pos hlast, if_pos hlast, if_pos hlast, if_pos hlast, List.append_nil]
            exact ⟨fun _ => ⟨counted, rfl, hcount, hlimits⟩, fun hwrap => absurd hfits hwrap⟩
          · rw [if_neg hlast, if_neg hlast, if_neg hlast, if_neg hlast, ← Nat.add_assoc, ← hcount]
            obtain ⟨hdefined, hundefined⟩ := ih { filled with httpCode := (answers (2 - (left + 1))).transfer.httpCode }
              counted counted.requestCount.toNat_lt fun lines after hafter hafterLimits =>
                ⟨fun _ => ⟨after, rfl, congrArg UInt64.toNat hafter, hafterLimits⟩,
                  fun hwrap => absurd counted.requestCount.toNat_lt hwrap⟩
            refine ⟨fun hmore => ?_, hundefined⟩
            obtain ⟨after, hafter, hfetched⟩ := hdefined hmore
            refine ⟨after, hafter, ?_, ?_⟩
            · rw [hfetched.count, hcount, Nat.add_assoc]
            · rw [hfetched.limits, hlimits, readHeaders_append]
        · rw [hwraps hfits]
          refine ⟨fun hmore => absurd hmore ?_, fun _ => rfl⟩
          omega

end

/-! ### Runs of the worker -/

/-- The sleep of an iteration is defined: no divisor was zero, no int overflowed, the conversion was in its range. It is
    positive and at most the default. -/
def PaceCall.Sleeps (call : PaceCall) : Prop := ∃ us, call.us = some us ∧ 0 < us ∧ us ≤ usDefault

/-- What an iteration starts with and what its fetch gets leave it a divisor and a reset that can be converted. -/
structure PaceCall.Paced (call : PaceCall) (net : BXNet) : Prop where
  counted : 0 < net.requestCount.toNat + fetchTransfers call.answers
  fits : net.requestCount.toNat + fetchTransfers call.answers < 2 ^ 64
  limited : Limited (readHeaders (fetchLines call.answers) net.limits)

/-- One iteration from a sleep in bounds. -/
theorem paceStep_some (net : BXNet) {us : Int} (hpos : 0 < us) (hle : us ≤ usDefault) (answers : Nat → PacedAnswers) :
    ((paceStep (some (net, us)) answers).1.Sleeps ↔ (paceStep (some (net, us)) answers).1.Paced net) ∧
      ∀ next nextUs, (paceStep (some (net, us)) answers).2 = some (next, nextUs) → 0 < nextUs ∧ nextUs ≤ usDefault := by
  obtain ⟨hdefined, hundefined⟩ := pacedFetchLoop_spec answers 2 { httpCode := 0, data := none, dataLen := 0 } net
  by_cases hfits : net.requestCount.toNat + fetchTransfers answers < 2 ^ 64
  · obtain ⟨after, hafter, hfetched⟩ := hdefined hfits
    obtain ⟨hiff, hrange⟩ := pace_spec after hpos hle
    have hstep : paceStep (some (net, us)) answers =
        ({ pre := some (net, us), answers, met := some after, us := pace after us },
          (pace after us).map fun next => (after, next)) := by
      unfold paceStep pacedFetch
      rw [Option.bind_some, hafter]
      rfl
    rw [hstep]
    constructor
    · constructor
      · rintro ⟨next, hnext, -⟩
        obtain ⟨hcount, hlimited⟩ := hiff.mp ⟨next, hnext⟩
        refine ⟨?_, hfits, hfetched.limits ▸ hlimited⟩
        rw [fetchTransfers, ← hfetched.count]
        exact Nat.pos_of_ne_zero fun hzero => hcount (UInt64.toNat_inj.mp (hzero.trans rfl))
      · rintro ⟨hcounted, -, hlimited⟩
        have hcount : after.requestCount ≠ 0 := by
          intro hzero
          rw [fetchTransfers, ← hfetched.count, hzero] at hcounted
          exact absurd hcounted (lt_irrefl 0)
        obtain ⟨next, hnext⟩ := hiff.mpr ⟨hcount, hfetched.limits ▸ hlimited⟩
        exact ⟨next, hnext, hrange next hnext⟩
    · intro next nextUs heq
      obtain ⟨us', hus', hpair⟩ := Option.map_eq_some_iff.mp heq
      obtain ⟨-, rfl⟩ := Prod.mk.inj hpair
      exact hrange us' hus'
  · have hstep : paceStep (some (net, us)) answers =
        ({ pre := some (net, us), answers, met := none, us := none }, none) := by
      unfold paceStep pacedFetch
      rw [Option.bind_some, hundefined hfits]
      rfl
    rw [hstep]
    refine ⟨⟨?_, fun h => absurd h.fits hfits⟩, ?_⟩
    · rintro ⟨next, hnext, -⟩
      cases hnext
    · intro next nextUs heq
      cases heq

/-- A sleep that the worker keeps is in bounds. -/
def InPace (s : Option (BXNet × Int)) : Prop := ∀ net us, s = some (net, us) → 0 < us ∧ us ≤ usDefault

theorem paceStep_inPace {s : Option (BXNet × Int)} (h : InPace s) (answers : Nat → PacedAnswers) :
    InPace (paceStep s answers).2 := by
  cases s with
  | none => exact fun _ _ heq => by cases heq
  | some s =>
    obtain ⟨hpos, hle⟩ := h s.1 s.2 rfl
    exact (paceStep_some s.1 hpos hle answers).2

/-- The sleeps of a run of the worker are defined and in bounds exactly when each of its iterations has counted a request
    and met limits with all their parts. -/
theorem sleeps_iff (runs : List (Nat → PacedAnswers)) :
    (∀ call ∈ outputs paceStep (some (bxNetInit, usDefault)) runs, call.Sleeps) ↔
      ∀ call ∈ outputs paceStep (some (bxNetInit, usDefault)) runs, ∃ net us, call.pre = some (net, us) ∧ call.Paced net := by
  have hstart : InPace (some (bxNetInit, usDefault)) := by
    rintro net us heq
    obtain ⟨-, rfl⟩ := Prod.mk.inj (Option.some.inj heq)
    decide
  constructor
  · refine run_all paceStep (I := InPace) hstart fun s answers hinv hsleeps => ⟨?_, paceStep_inPace hinv answers⟩
    cases s with
    | none =>
      obtain ⟨us, hus, -⟩ := hsleeps
      cases hus
    | some s =>
      obtain ⟨hpos, hle⟩ := hinv s.1 s.2 rfl
      exact ⟨s.1, s.2, rfl, (paceStep_some s.1 hpos hle answers).1.mp hsleeps⟩
  · refine run_all paceStep (I := InPace) hstart fun s answers hinv hpaced => ⟨?_, paceStep_inPace hinv answers⟩
    obtain ⟨net, us, hpre, hpaced⟩ := hpaced
    obtain rfl : s = some (net, us) := hpre
    obtain ⟨hpos, hle⟩ := hinv net us rfl
    exact (paceStep_some net hpos hle answers).1.mpr hpaced

/-- A fetch that cannot be set up. -/
def failedFetch : Nat → PacedAnswers := fun _ =>
  { prepared := false, transfer := { chunks := [], httpCode := 0, complete := false }, lines := [], elapsed := 0 }

/-- The first fetch fails, and the count is still zero when the sleep is divided by it. -/
theorem sleeps_failedFirst : (outputs paceStep (some (bxNetInit, usDefault)) [failedFetch]).map PaceCall.met =
      [some { limits := ⟨0, 0, 0⟩, requestCount := 0, averageRequestTime := 0 }] ∧
    ¬∀ call ∈ outputs paceStep (some (bxNetInit, usDefault)) [failedFetch], call.Sleeps := by
  refine ⟨rfl, fun h => ?_⟩
  obtain ⟨us, hus, -⟩ := h _ List.mem_cons_self
  have hnone : (paceStep (some (bxNetInit, usDefault)) failedFetch).1.us = none := by decide +kernel
  rw [hnone] at hus
  cases hus

end BxSync
