import BxSync.CursorText

/-! Whether the saved text of a cursor is read as the cursor, and when the rows of the previous daemon count. -/

namespace BxSync

/-! ### The property -/

/-- A cursor as the chain saves it. -/
structure Normal (cursor : BXChainCursor) : Prop where
  offset : cursor.offset ≤ intMax
  missed : cursor.phase = .invoiceMissed → cursor.offset = 0

/-- A stored text that counts: the name of a phase, a colon, and a text that `strtol` consumes entirely as a value up to
    `INT_MAX`. -/
def Accepted (stored : Option (List UInt8)) : Prop :=
  ∃ text phase rest, ∃ n : Int, stored = some text ∧ cString text = asciiBytes (bxChainPhaseName phase) ++ 58 :: rest ∧
    strtol rest = some (n, []) ∧ 0 ≤ n ∧ n ≤ intMax

structure CursorCodec : Prop where
  roundTrip : ∀ cursor, Normal cursor →
    ∃ text, renderCursor cursor = some text ∧ ∀ legacy, bxChainDecode (some text) legacy = cursor
  normal : ∀ stored legacy, Normal (bxChainDecode stored legacy)
  legacy : ∀ stored, (∃ legacy legacy', bxChainDecode stored legacy ≠ bxChainDecode stored legacy') ↔ ¬Accepted stored

/-! ### Phase names -/

theorem phaseName_bytes (phase : BXChainPhase) :
    (∀ c ∈ asciiBytes (bxChainPhaseName phase), c ≠ 0 ∧ c ≠ 58) ∧ 0 < (asciiBytes (bxChainPhaseName phase)).length ∧
      (asciiBytes (bxChainPhaseName phase)).length ≤ 16 := by
  cases phase <;> decide +kernel

theorem phaseName_inj {phase phase' : BXChainPhase}
    (h : asciiBytes (bxChainPhaseName phase) = asciiBytes (bxChainPhaseName phase')) : phase = phase' := by
  revert h
  cases phase <;> cases phase' <;> decide

theorem parsePhase_eq_some {name : List UInt8} {len : Nat} {phase : BXChainPhase} (hlen : len ≤ name.length) :
    parsePhase name len = some phase ↔ name.take len = asciiBytes (bxChainPhaseName phase) := by
  unfold parsePhase
  constructor
  · intro h
    have hfound := List.find?_some h
    simp only [Bool.and_eq_true, decide_eq_true_eq] at hfound
    exact hfound.2
  · intro h
    have hlength : (asciiBytes (bxChainPhaseName phase)).length = len := by rw [← h, List.length_take_of_le hlen]
    have hknown : (fun phase' : BXChainPhase =>
        let known := asciiBytes (bxChainPhaseName phase')
        decide (known.length = len) && decide (name.take len = known)) = fun phase' => decide (phase' = phase) := by
      funext phase'
      rw [Bool.eq_iff_iff]
      simp only [Bool.and_eq_true, decide_eq_true_eq, h]
      constructor
      · exact fun heq => (phaseName_inj heq.2).symm
      · rintro rfl
        exact ⟨hlength, rfl⟩
    rw [hknown]
    cases phase <;> rfl

/-! ### The stored text -/

theorem takeWhile_colon {name rest : List UInt8} (h : ∀ c ∈ name, c ≠ 58) :
    (name ++ 58 :: rest).takeWhile (· ≠ 58) = name := by
  rw [List.takeWhile_append_of_pos fun c hc => by simpa using h c hc, List.takeWhile_cons_of_neg (by simp), List.append_nil]

/-- What `strchr` finds is the first colon. -/
theorem drop_colon {text rest : List UInt8} {c : UInt8}
    (h : text.drop (text.takeWhile (· ≠ 58)).length = c :: rest) : text = text.takeWhile (· ≠ 58) ++ 58 :: rest := by
  have hsplit := List.takeWhile_append_dropWhile (p := fun c : UInt8 => decide (c ≠ 58)) (l := text)
  have hdrop : text.drop (text.takeWhile (· ≠ 58)).length = text.dropWhile (· ≠ 58) := by
    conv_lhs => rw [← hsplit]
    exact List.drop_left' (by rw [hsplit])
  rw [hdrop] at h
  have hcolon : c = 58 := by
    have := List.head?_dropWhile_not (fun c : UInt8 => decide (c ≠ 58)) text
    rw [h] at this
    simpa using this
  rw [hcolon] at h
  rw [← h, hsplit]

theorem parseStored_eq_some {text : List UInt8} {cursor : BXChainCursor} (h : parseStored (some text) = some cursor) :
    ∃ phase rest, ∃ n : Int, cString text = asciiBytes (bxChainPhaseName phase) ++ 58 :: rest ∧
      strtol rest = some (n, []) ∧ 0 ≤ n ∧ n ≤ intMax ∧ cursor = normalize { phase, offset := n.toNat } := by
  unfold parseStored at h
  dsimp only at h
  split at h
  · exact nomatch h
  rename_i c rest hdrop
  split at h
  · exact nomatch h
  split at h
  · exact nomatch h
  rename_i phase hphase
  split at h
  · exact nomatch h
  rename_i n behind hnumber
  split at h
  · exact nomatch h
  rename_i hvalid
  simp only [not_or, not_not, not_lt] at hvalid
  have hsplit := drop_colon hdrop
  have hname := (parsePhase_eq_some (List.takeWhile_prefix _).length_le).mp hphase
  have htaken : (cString text).take ((cString text).takeWhile (· ≠ 58)).length = (cString text).takeWhile (· ≠ 58) := by
    conv_lhs => rw [hsplit]
    exact List.take_left' (by rw [← hsplit])
  rw [htaken] at hname
  refine ⟨phase, rest, n, by rw [← hname]; exact hsplit, by rw [hnumber, hvalid.1], hvalid.2.1, hvalid.2.2, (Option.some.inj h).symm⟩

theorem parseStored_of_number {text rest : List UInt8} {phase : BXChainPhase} {n : Int}
    (htext : cString text = asciiBytes (bxChainPhaseName phase) ++ 58 :: rest) (hnumber : strtol rest = some (n, []))
    (hmin : 0 ≤ n) (hmax : n ≤ intMax) : parseStored (some text) = some (normalize { phase, offset := n.toNat }) := by
  obtain ⟨hbytes, hpos, -⟩ := phaseName_bytes phase
  have htake : (cString text).takeWhile (· ≠ 58) = asciiBytes (bxChainPhaseName phase) := by
    rw [htext]
    exact takeWhile_colon fun c hc => (hbytes c hc).2
  have hdrop : (cString text).drop (asciiBytes (bxChainPhaseName phase)).length = 58 :: rest := by
    rw [htext]
    exact List.drop_left' rfl
  have hphase : parsePhase (cString text) (asciiBytes (bxChainPhaseName phase)).length = some phase := by
    rw [parsePhase_eq_some (by rw [htext, List.length_append]; omega), htext]
    exact List.take_left' rfl
  unfold parseStored
  dsimp only
  rw [htake, hdrop]
  dsimp only
  rw [if_neg (by omega), hphase]
  dsimp only
  rw [hnumber]
  dsimp only
  rw [if_neg (by simp only [ne_eq, not_true_eq_false, false_or]; omega)]

theorem accepted_iff (stored : Option (List UInt8)) : Accepted stored ↔ (parseStored stored).isSome := by
  constructor
  · rintro ⟨text, phase, rest, n, rfl, htext, hnumber, hmin, hmax⟩
    rw [parseStored_of_number htext hnumber hmin hmax]
    rfl
  · intro h
    obtain ⟨cursor, hcursor⟩ := Option.isSome_iff_exists.mp h
    cases stored with
    | none => exact nomatch hcursor
    | some text =>
      obtain ⟨phase, rest, n, htext, hnumber, hmin, hmax, -⟩ := parseStored_eq_some hcursor
      exact ⟨text, phase, rest, n, rfl, htext, hnumber, hmin, hmax⟩

/-! ### Normal cursors -/

theorem normal_normalize {cursor : BXChainCursor} (h : cursor.offset ≤ intMax) : Normal (normalize cursor) := by
  unfold normalize
  split
  · exact ⟨Nat.zero_le _, fun _ => rfl⟩
  · rename_i hphase
    exact ⟨h, fun hmissed => absurd hmissed hphase⟩

theorem normalize_of_normal {cursor : BXChainCursor} (h : Normal cursor) : normalize cursor = cursor := by
  unfold normalize
  split
  · rename_i hphase
    obtain ⟨phase, offset⟩ := cursor
    obtain rfl : offset = 0 := h.missed hphase
    rfl
  · rfl

theorem parseLegacy_offset {step : Option (List UInt8)} {offset pass : Int32} {cursor : BXChainCursor}
    (h : parseLegacy step offset pass = some cursor) : cursor.offset ≤ intMax := by
  have hoffset : offset.toInt.toNat ≤ intMax := by
    have hmax : Int32.maxValue.toInt = 2 ^ 31 - 1 := by decide
    have := offset.toInt_le
    unfold intMax
    omega
  unfold parseLegacy at h
  cases step with
  | none => exact nomatch h
  | some step =>
    dsimp only at h
    split_ifs at h
    all_goals
      obtain rfl := Option.some.inj h
      first | exact hoffset | exact Nat.zero_le _

theorem normal_bxChainDecode (stored : Option (List UInt8)) (legacy : LegacyRows) : Normal (bxChainDecode stored legacy) := by
  unfold bxChainDecode
  split
  · rename_i cursor hcursor
    cases stored with
    | none => exact nomatch hcursor
    | some text =>
      obtain ⟨phase, rest, n, -, -, -, hmax, rfl⟩ := parseStored_eq_some hcursor
      exact normal_normalize (by show n.toNat ≤ intMax; omega)
  · refine normal_normalize ?_
    cases h : parseLegacy legacy.step legacy.offset legacy.pass with
    | none => exact Nat.zero_le _
    | some cursor => exact parseLegacy_offset h

/-! ### The rendered text -/

theorem strtol_digits {n : Nat} (h : n ≤ intMax) : strtol (Decimal.digits n) = some ((n : Int), []) := by
  unfold intMax at h
  unfold strtol
  rw [Decimal.signed_digits, Option.map_some, min_eq_left (by omega), max_eq_right (by omega)]

theorem cString_rendered (phase : BXChainPhase) (n : Nat) :
    cString (asciiBytes (bxChainPhaseName phase) ++ 58 :: Decimal.digits n) =
      asciiBytes (bxChainPhaseName phase) ++ 58 :: Decimal.digits n := by
  refine List.takeWhile_eq_self_iff.mpr fun c hc => ?_
  rw [decide_eq_true_eq]
  rcases List.mem_append.mp hc with hname | hrest
  · exact ((phaseName_bytes phase).1 c hname).1
  · rcases List.mem_cons.mp hrest with rfl | hdigit
    · decide
    · rintro rfl
      exact absurd (Decimal.isDigit_of_mem_digits hdigit) (by decide)

/-- The text of a normal cursor fits the buffer. -/
theorem renderCursor_eq {cursor : BXChainCursor} (h : cursor.offset ≤ intMax) :
    renderCursor cursor = some (asciiBytes (bxChainPhaseName cursor.phase) ++ 58 :: Decimal.digits cursor.offset) := by
  have hdigits : (Decimal.digits cursor.offset).length ≤ 10 :=
    Decimal.length_digits_le (by decide) (Nat.lt_of_le_of_lt h (by decide))
  have hname := (phaseName_bytes cursor.phase).2.2
  unfold renderCursor
  dsimp only
  rw [if_neg (by rw [List.length_append, List.length_cons]; omega)]

theorem bxChainDecode_rendered {cursor : BXChainCursor} (h : Normal cursor) (legacy : LegacyRows) :
    bxChainDecode (some (asciiBytes (bxChainPhaseName cursor.phase) ++ 58 :: Decimal.digits cursor.offset)) legacy = cursor := by
  have hparsed := parseStored_of_number (cString_rendered cursor.phase cursor.offset) (strtol_digits h.offset)
    (Int.natCast_nonneg _) (Int.ofNat_le.mpr h.offset)
  unfold bxChainDecode
  rw [hparsed]
  exact normalize_of_normal h

/-- The text of a normal cursor is read as the cursor, every decoded cursor is normal, and the rows of the previous daemon
    make a difference exactly when the stored text does not count. -/
theorem cursorCodec : CursorCodec where
  roundTrip cursor h := ⟨_, renderCursor_eq h.offset, bxChainDecode_rendered h⟩
  normal := normal_bxChainDecode
  legacy stored := by
    rw [accepted_iff]
    constructor
    · rintro ⟨legacy, legacy', hne⟩ hsome
      obtain ⟨cursor, hcursor⟩ := Option.isSome_iff_exists.mp hsome
      exact hne (by unfold bxChainDecode; rw [hcursor])
    · intro hnone
      -- Without a step the walk starts with the active contacts, and a step of `project` is another phase.
      refine ⟨⟨none, 0, 0⟩, ⟨some (asciiBytes "project"), 0, 0⟩, ?_⟩
      rw [Bool.not_eq_true, Option.isSome_eq_false_iff, Option.isNone_iff_eq_none] at hnone
      unfold bxChainDecode
      rw [hnone]
      decide

/-! ### The cursors of the chain

    A row that was normal is followed by normal ones, so that a restart may read the row of the model for its text. -/

def Cursors.Normal (k : Cursors) : Prop := BxSync.Normal k.memory ∧ BxSync.Normal k.row

theorem Save.normal_row (save : Save) {old new : BXChainCursor} (hold : Normal old) (hnew : Normal new) :
    Normal (save.row old new) := by
  cases save with
  | failed => exact hold
  | written | unreported => exact hnew

theorem normal_onValidatedPage (phase : BXChainPhase) (k : Cursors) (next : Nat) (save : Save) (h : k.Normal) :
    (onValidatedPage phase k next save).2.1.Normal := by
  unfold onValidatedPage checkpoint
  dsimp only
  split
  · exact h
  · rename_i hnext
    have hsaved : Normal (normalize { phase, offset := next }) := normal_normalize (not_lt.mp hnext)
    split
    · exact ⟨hsaved, save.normal_row h.2 hsaved⟩
    · exact ⟨h.1, save.normal_row h.2 hsaved⟩

theorem normal_advancePhase {k : Cursors} (h : k.Normal) (phase : BXChainPhase) (save : Save) :
    (advancePhase k phase save).2.1.Normal := by
  have hnext : Normal (normalize { phase, offset := 0 }) := normal_normalize (Nat.zero_le _)
  exact ⟨hnext, save.normal_row h.2 hnext⟩

section

variable (s : ChainState) (i : ChainInput)

theorem normal_bxChainSync (h : s.cursors.Normal) : (bxChainSync s i).state.cursors.Normal := by
  have hcontacts : ∀ s : ChainState, s.cursors.Normal → ∀ archived phase, (walkContacts s i archived phase).cursor.Normal :=
    fun s hs archived phase => Walker.walkPages_cursor _ (Q := Cursors.Normal) (normal_onValidatedPage phase) _ _ _ _ hs
  cases hc : i.connected with
  | false =>
    rw [bxChainSync_disconnected hc]
    exact h
  | true =>
    cases hp : s.cursors.memory.phase with
    | contactActive =>
      rw [bxChainSync_contactActive hc hp]
      unfold syncContactActive
      dsimp only
      split
      · exact hcontacts { s with contactFromZero := false } h _ _
      · exact normal_advancePhase (hcontacts { s with contactFromZero := false } h _ _) _ _
    | contactArchived =>
      rw [bxChainSync_contactArchived hc hp]
      unfold syncContactArchived
      dsimp only
      split
      · exact hcontacts s h _ _
      · exact normal_advancePhase (hcontacts s h _ _) _ _
    | project =>
      have hwalk : (walkProjects s i).cursor.Normal :=
        Walker.walkPages_cursor _ (Q := Cursors.Normal) (normal_onValidatedPage .project) _ _ _ _ h
      rw [bxChainSync_project hc hp]
      unfold syncProject
      dsimp only
      split
      · exact hwalk
      · exact normal_advancePhase hwalk _ _
    | invoiceList =>
      have hwalk : (walkInvoices { s with invoiceFromZero := false } i).cursor.Normal :=
        Walker.walkPages_cursor _ (Q := Cursors.Normal) (normal_onValidatedPage .invoiceList) _ _ _ _ h
      rw [bxChainSync_invoiceList hc hp]
      unfold syncInvoiceList
      dsimp only
      split
      · exact hwalk
      split
      · exact normal_advancePhase hwalk _ _
      · exact normal_advancePhase hwalk _ _
    | invoiceMissed =>
      rw [bxChainSync_invoiceMissed hc hp]
      unfold syncInvoiceMissed
      dsimp only
      split
      · exact h
      · exact normal_advancePhase h _ _

end

/-- A process that reads the text of the row starts as one that is given the row. -/
theorem bxChainInit_rendered {s : ChainState} (h : s.cursors.Normal) (inputs : List ChainInput) (db : Database)
    (contacts projects invoices : Cache) (legacy : LegacyRows) :
    let row := (inputs.foldl (fun s i => (bxChainSync s i).state) s).cursors.row
    bxChainInit db contacts projects invoices (bxChainDecode (renderCursor row) legacy) =
      bxChainInit db contacts projects invoices row := by
  have hrun : ∀ (inputs : List ChainInput) (s : ChainState), s.cursors.Normal →
      (inputs.foldl (fun s i => (bxChainSync s i).state) s).cursors.Normal := by
    intro inputs
    induction inputs with
    | nil => exact fun _ h => h
    | cons i inputs ih => exact fun s h => ih _ (normal_bxChainSync s i h)
  have hrow := (hrun inputs s h).2
  dsimp only
  rw [renderCursor_eq hrow.offset, bxChainDecode_rendered hrow]

end BxSync
