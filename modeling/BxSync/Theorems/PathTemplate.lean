import BxSync.ItemPath

/-! A path is its format with the texts of the arguments in the place of its signs. Between two arguments the loop holds
    what it has copied, and the part of the format from the origin on is still to be copied. -/

namespace BxSync

/-- The text of an argument, unless it is NULL, has no text or an empty one. -/
def argumentText (item : Option BXGeneric) : Option (List UInt8) :=
  ((item.bind bxObjectValueToString).map cString).filter (· ≠ [])

/-- A format from its next sign on, with the texts for its signs. -/
def expanded (texts : Nat → Option (List UInt8)) : List UInt8 → Nat → Option (List UInt8)
  | [], _ => some []
  | c :: fmt, k =>
    if c = 36 then (texts k).bind fun text => (expanded texts fmt (k + 1)).map (text ++ ·)
    else (expanded texts fmt k).map (c :: ·)

theorem expanded_eq_none (texts : Nat → Option (List UInt8)) (fmt : List UInt8) (k : Nat) :
    expanded texts fmt k = none ↔ ∃ j < fmt.count 36, texts (k + j) = none := by
  induction fmt generalizing k with
  | nil => simp [expanded]
  | cons c fmt ih =>
    unfold expanded
    by_cases hc : c = 36
    · rw [if_pos hc, hc, List.count_cons_self]
      cases htext : texts k with
      | none => exact ⟨fun _ => ⟨0, by omega, htext⟩, fun _ => rfl⟩
      | some text =>
        rw [Option.bind_some, Option.map_eq_none_iff, ih]
        constructor
        · rintro ⟨j, hj, hnone⟩
          exact ⟨j + 1, by omega, by rw [← hnone]; congr 1; omega⟩
        · rintro ⟨j, hj, hnone⟩
          cases j with
          | zero =>
            rw [Nat.add_zero, htext] at hnone
            cases hnone
          | succ j => exact ⟨j, by omega, by rw [← hnone]; congr 1; omega⟩
    · rw [if_neg hc, Option.map_eq_none_iff, ih, List.count_cons_of_ne hc]

/-- A path has no NUL but the one behind it. -/
theorem nul_notMem_expanded {texts : Nat → Option (List UInt8)} (htexts : ∀ k, ∀ text ∈ texts k, 0 ∉ text) {fmt : List UInt8}
    (hfmt : 0 ∉ fmt) {k : Nat} {path : List UInt8} (h : expanded texts fmt k = some path) : 0 ∉ path := by
  induction fmt generalizing k path with
  | nil =>
    obtain rfl := Option.some.inj h
    exact List.not_mem_nil
  | cons c fmt ih =>
    obtain ⟨hhead, htail⟩ := not_or.mp (List.mem_cons.not.mp hfmt)
    unfold expanded at h
    by_cases hc : c = 36
    · rw [if_pos hc] at h
      obtain ⟨text, htext, h⟩ := Option.bind_eq_some_iff.mp h
      obtain ⟨rest, hrest, rfl⟩ := Option.map_eq_some_iff.mp h
      rw [List.mem_append, not_or]
      exact ⟨htexts k text htext, ih htail hrest⟩
    · rw [if_neg hc] at h
      obtain ⟨rest, hrest, rfl⟩ := Option.map_eq_some_iff.mp h
      rw [List.mem_cons, not_or]
      exact ⟨hhead, ih htail hrest⟩

/-! ### The buffer -/

/-- A block of a size that starts with what was copied. -/
def Filled (b : PathBuffer) (live : List UInt8) (size : Nat) : Prop :=
  ∃ block, b = { path := some block, pathLen := live.length } ∧ block.take live.length = live ∧ block.length = size

theorem Filled.copy {b : PathBuffer} {live : List UInt8} {size : Nat} (h : Filled b live size) (text : List UInt8)
    (hfits : live.length + text.length ≤ size) : ∃ copied, b.copy text = some copied ∧ Filled copied (live ++ text) size := by
  obtain ⟨block, rfl, hlive, rfl⟩ := h
  obtain ⟨stored, hstored, hlen, htake⟩ := Block.store_next hlive hfits
  refine ⟨{ path := some stored, pathLen := live.length + text.length }, ?_, stored, ?_, htake, hlen⟩
  · unfold PathBuffer.copy
    dsimp only [Option.bind_eq_bind, Option.bind_some]
    rw [hstored]
    rfl
  · rw [List.length_append]

/-- The NUL takes the last slot of a block that is full. -/
theorem Filled.terminate {b : PathBuffer} {live : List UInt8} (h : Filled b live (live.length + 1)) :
    b.terminate = some { path := some (live ++ [0]), pathLen := live.length } := by
  obtain ⟨block, rfl, hlive, hlen⟩ := h
  obtain ⟨stored, hstored, hsize, htake⟩ :=
    Block.store_next hlive (show live.length + [0].length ≤ block.length from Nat.le_of_eq hlen.symm)
  have hwhole : stored = live ++ [0] := by
    rw [← htake, List.take_of_length_le]
    rw [hsize, hlen, List.length_append]
    rfl
  unfold PathBuffer.terminate
  dsimp only [Option.bind_eq_bind, Option.bind_some]
  rw [hstored, hwhole]
  rfl

/-- Between two arguments the path is what was copied and a NUL. Before the first one there is none. -/
structure Copied (b : PathBuffer) (origin : Nat) (done : List UInt8) : Prop where
  len : b.pathLen = done.length
  path : b.path = some (done ++ [0]) ∨ origin = 0 ∧ b.path = none ∧ done = []

section

variable (junk : Nat → UInt8)

theorem Copied.realloc {b : PathBuffer} {origin : Nat} {done : List UInt8} (h : Copied b origin done) {n : Nat}
    (hn : done.length ≤ n) : Filled (b.realloc junk n) done n := by
  refine ⟨Block.resize junk (b.path.getD []) n, ?_, ?_, Block.length_resize junk _ n⟩
  · rw [PathBuffer.realloc, h.len]
  · rcases h.path with hpath | ⟨-, hpath, rfl⟩
    · have hlast : done.length ≤ (done ++ [0]).length := by simp
      rw [hpath, Option.getD_some, Block.take_resize junk hlast hn, List.take_left]
    · rfl

/-! ### The loop -/

variable (fmt : CText) (args : Nat → Option BXGeneric)

theorem length_segment (origin : Nat) {i : Nat} (hi : i ≤ fmt.bytes.length) : (segment fmt origin i).length = i - origin := by
  rw [segment, List.length_take, List.length_drop]
  omega

theorem segment_succ {origin i : Nat} (horigin : origin ≤ i) {c : UInt8} (hc : fmt.bytes[i]? = some c) :
    segment fmt origin (i + 1) = segment fmt origin i ++ [c] := by
  have hat : (fmt.bytes.drop origin)[i - origin]? = some c := by
    rw [List.getElem?_drop, Nat.add_sub_cancel' horigin, hc]
  rw [segment, segment, Nat.succ_sub horigin, List.take_add_one, hat]
  rfl

theorem Filled.copySegment {b : PathBuffer} {done : List UInt8} {size : Nat} (h : Filled b done size)
    (origin : Nat) {i : Nat} (hi : i ≤ fmt.bytes.length) (hfits : done.length + (i - origin) ≤ size) :
    ∃ copied, b.copySegment fmt origin i = some copied ∧
      Filled copied (done ++ segment fmt origin i) size := by
  unfold PathBuffer.copySegment
  by_cases hsome : origin < i
  · rw [if_pos hsome]
    exact h.copy _ (by rwa [length_segment fmt origin hi])
  · have hnone : segment fmt origin i = [] := by
      rw [segment, Nat.sub_eq_zero_of_le (not_lt.mp hsome), List.take_zero]
    rw [if_neg hsome, hnone, List.append_nil]
    exact ⟨b, rfl, h⟩

theorem finishPath_some {origin : Nat} {b : PathBuffer} {done : List UInt8} (h : Copied b origin done)
    (horigin : origin ≤ fmt.bytes.length) (hne : fmt.bytes ≠ []) :
    finishPath junk fmt (some (origin, b)) = some (some (done ++ segment fmt origin fmt.bytes.length ++ [0])) := by
  unfold finishPath
  dsimp only
  by_cases hrest : origin < fmt.bytes.length
  · have hfilled := h.realloc junk (show done.length ≤ b.pathLen + (fmt.bytes.length - origin) + 1 by have := h.len; omega)
    have hlen := length_segment fmt origin (le_refl fmt.bytes.length)
    obtain ⟨copied, hcopied, hwhole⟩ := hfilled.copy _ (show done.length + (segment fmt origin fmt.bytes.length).length ≤
      b.pathLen + (fmt.bytes.length - origin) + 1 by have := h.len; omega)
    have hsize : b.pathLen + (fmt.bytes.length - origin) + 1 =
        (done ++ segment fmt origin fmt.bytes.length).length + 1 := by rw [List.length_append, hlen, h.len]
    rw [hsize] at hwhole
    rw [if_pos hrest, hcopied, Option.bind_eq_bind, Option.bind_some, hwhole.terminate]
    rfl
  · have hend : origin = fmt.bytes.length := Nat.le_antisymm horigin (not_lt.mp hrest)
    have hnone : segment fmt origin fmt.bytes.length = [] := by
      rw [segment, hend, Nat.sub_self, List.take_zero]
    rw [if_neg hrest, hnone, List.append_nil]
    rcases h.path with hpath | ⟨hzero, -, -⟩
    · rw [hpath]
    · exact absurd (List.length_eq_zero_iff.mp (hend.symm.trans hzero)) hne

/-- The loop copies the rest of the format with its texts, or stops at the first argument without one. -/
theorem itemToPathLoop_spec (hne : fmt.bytes ≠ []) (left i arg origin : Nat) {b : PathBuffer} {done : List UInt8}
    (h : Copied b origin done) (hleft : i + left = fmt.bytes.length) (horigin : origin ≤ i) :
    (itemToPathLoop junk fmt args left i arg origin b).bind (finishPath junk fmt) =
      some ((expanded (fun k => argumentText (args k)) (fmt.bytes.drop i) arg).map fun rest =>
        done ++ segment fmt origin i ++ rest ++ [0]) := by
  induction left generalizing i arg origin b done with
  | zero =>
    obtain rfl : i = fmt.bytes.length := hleft
    rw [itemToPathLoop, Option.bind_some, finishPath_some junk fmt h horigin hne, List.drop_length, expanded,
      Option.map_some, List.append_nil]
  | succ left ih =>
    have hi : i < fmt.bytes.length := by omega
    have hat : fmt.bytes[i]? = some fmt.bytes[i] := List.getElem?_eq_getElem hi
    rw [itemToPathLoop, List.drop_eq_getElem_cons hi, expanded, hat]
    by_cases hsign : fmt.bytes[i] = 36
    · rw [if_pos (congrArg some hsign), if_pos hsign]
      cases hitem : args arg with
      | none => rfl
      | some item =>
        dsimp only
        cases hstr : bxObjectValueToString item with
        | none =>
          have hnone : argumentText (some item) = none := by
            rw [argumentText, Option.bind_some, hstr]
            rfl
          rw [hnone]
          rfl
        | some str =>
          dsimp only
          by_cases hempty : (cString str).length = 0
          · have hnone : argumentText (some item) = none := by
              rw [argumentText, Option.bind_some, hstr, Option.map_some, List.length_eq_zero_iff.mp hempty]
              rfl
            rw [if_pos hempty, hnone]
            rfl
          · have htext : argumentText (some item) = some (cString str) := by
              rw [argumentText, Option.bind_some, hstr, Option.map_some, Option.filter_some, if_pos]
              exact decide_eq_true fun hnil => hempty (List.length_eq_zero_iff.mpr hnil)
            have hstart : str.take (cString str).length = cString str :=
              (List.prefix_iff_eq_take.mp (List.takeWhile_prefix _)).symm
            have hlen := h.len
            have hsegment := length_segment fmt origin hi.le
            have hfilled := h.realloc junk
              (show done.length ≤ b.pathLen + (i - origin) + (cString str).length + 1 by omega)
            obtain ⟨parted, hparted, hpart⟩ := hfilled.copySegment fmt origin hi.le (by omega)
            obtain ⟨copied, hcopied, hwhole⟩ := hpart.copy (cString str) (by rw [List.length_append]; omega)
            have hsize : b.pathLen + (i - origin) + (cString str).length + 1 =
                (done ++ segment fmt origin i ++ cString str).length + 1 := by
              rw [List.length_append, List.length_append]
              omega
            rw [hsize] at hwhole
            have hnext (done : List UInt8) : Copied ⟨some (done ++ [0]), done.length⟩ (i + 1) done := ⟨rfl, Or.inl rfl⟩
            have hempties : segment fmt (i + 1) (i + 1) = [] := by rw [segment, Nat.sub_self, List.take_zero]
            rw [if_neg hempty, hparted, Option.bind_eq_bind, Option.bind_some, hstart, hcopied, Option.bind_some,
              hwhole.terminate, Option.bind_some, ih (i + 1) (arg + 1) (i + 1) (hnext _) (by omega) (le_refl _), htext,
              Option.bind_some, Option.map_map, hempties, List.append_nil]
            congr 2
            funext rest
            simp
    · have hnext := ih (i + 1) arg origin h (by omega) (by omega)
      rw [if_neg fun heq => hsign (Option.some.inj heq), if_neg hsign, hnext, Option.map_map,
        segment_succ fmt horigin hat]
      congr 2
      funext rest
      simp

/-! ### Paths -/

/-- A path is its format with the texts of the arguments in the place of its signs, and a NUL. It is NULL exactly when one
    of the arguments of its signs is NULL, has no text or an empty one. -/
theorem itemToPath (hne : fmt.bytes ≠ []) :
    let texts := fun k => argumentText (args k)
    bxItemToPath junk fmt args = some ((expanded texts fmt.bytes 0).map (· ++ [0])) ∧
      (∀ path ∈ expanded texts fmt.bytes 0, 0 ∉ path) ∧
      (expanded texts fmt.bytes 0 = none ↔ ∃ k < fmt.bytes.count 36, texts k = none) := by
  have hstart : Copied { path := none, pathLen := 0 } 0 [] := ⟨rfl, Or.inr ⟨rfl, rfl, rfl⟩⟩
  have hloop := itemToPathLoop_spec junk fmt args hne fmt.bytes.length 0 0 0 hstart (Nat.zero_add _) (le_refl 0)
  refine ⟨?_, fun path hpath => ?_, ?_⟩
  · rw [bxItemToPath, if_neg hne, hloop]
    rfl
  · refine nul_notMem_expanded (fun k text htext => ?_) fmt.ended hpath
    obtain ⟨str, -, rfl⟩ := Option.map_eq_some_iff.mp (Option.filter_eq_some_iff.mp htext).1
    exact nul_notMem_cString str
  · rw [expanded_eq_none]
    simp only [Nat.zero_add]

end

/-- The path of a contact, whose text is not looked into again. -/
theorem itemToPath_dollar : bxItemToPath (fun _ => 255) (.ofString "$/c/$") (fun k =>
      [some (.slot (.str (some (asciiBytes "a$")))), some (.slot (.uint (some 7)))].getD k none) =
    some (some (asciiBytes "a$/c/7" ++ [0])) := by
  have hne : (CText.ofString "$/c/$").bytes ≠ [] := by decide
  rw [(itemToPath (fun _ => 255) (.ofString "$/c/$") _ hne).1]
  decide +kernel

end BxSync
