import Mathlib.Data.List.Nodup
import Mathlib.Logic.Function.Basic

/-! Rows with distinct keys as a map. -/

variable {ρ κ α : Type}

theorem any_congr_mem {rows : List ρ} {p q : ρ → Bool} (h : ∀ r ∈ rows, p r = q r) : rows.any p = rows.any q := by
  rw [Bool.eq_iff_iff, List.any_eq_true, List.any_eq_true]
  refine exists_congr fun r => and_congr_right fun hr => ?_
  rw [h r hr]

/-- The rows have distinct keys, and the map holds what is read of them. -/
structure MapOf (key : ρ → κ) (view : ρ → α) (rows : List ρ) (f : κ → Option α) : Prop where
  distinct : (rows.map key).Nodup
  holds : ∀ k a, f k = some a ↔ ∃ r ∈ rows, key r = k ∧ view r = a

namespace MapOf

variable {key : ρ → κ} {view : ρ → α} {rows : List ρ} {f : κ → Option α}

theorem nil : MapOf key view [] fun _ => none where
  distinct := List.nodup_nil
  holds k a := by simp

theorem known_iff (h : MapOf key view rows f) (k : κ) : (f k).isSome ↔ ∃ r ∈ rows, key r = k := by
  rw [Option.isSome_iff_exists]
  constructor
  · rintro ⟨a, ha⟩
    obtain ⟨r, hr, hk, -⟩ := (h.holds k a).mp ha
    exact ⟨r, hr, hk⟩
  · rintro ⟨r, hr, hk⟩
    exact ⟨view r, (h.holds k _).mpr ⟨r, hr, hk, rfl⟩⟩

theorem unknown_iff (h : MapOf key view rows f) (k : κ) : f k = none ↔ ∀ r ∈ rows, key r ≠ k := by
  rw [← Option.not_isSome_iff_eq_none, h.known_iff]
  simp

/-- The value of a row. -/
theorem get (h : MapOf key view rows f) {r : ρ} (hr : r ∈ rows) : f (key r) = some (view r) := (h.holds _ _).mpr ⟨r, hr, rfl, rfl⟩

theorem eq_of_key (h : MapOf key view rows f) {r r' : ρ} (hr : r ∈ rows) (hr' : r' ∈ rows) (hk : key r = key r') : r = r' :=
  List.inj_on_of_nodup_map h.distinct hr hr' hk

theorem congr (h : MapOf key view rows f) {g : κ → Option α} (hg : ∀ k, g k = f k) : MapOf key view rows g := by
  obtain rfl : g = f := funext hg
  exact h

/-- Rows are taken out by what is read of them. -/
theorem filter (h : MapOf key view rows f) {keep : ρ → Bool} {q : κ → α → Bool} (hq : ∀ r ∈ rows, keep r = q (key r) (view r)) :
    MapOf key view (rows.filter keep) fun k => (f k).filter (q k) where
  distinct := h.distinct.sublist (List.filter_sublist.map _)
  holds k a := by
    rw [Option.filter_eq_some_iff, h.holds]
    constructor
    · rintro ⟨⟨r, hr, rfl, rfl⟩, ha⟩
      exact ⟨r, List.mem_filter.mpr ⟨hr, (hq r hr).trans ha⟩, rfl, rfl⟩
    · rintro ⟨r, hr, rfl, rfl⟩
      obtain ⟨hr, hkeep⟩ := List.mem_filter.mp hr
      exact ⟨⟨r, hr, rfl, rfl⟩, (hq r hr).symm.trans hkeep⟩

variable [DecidableEq κ]

/-- The rows of a key. -/
theorem filter_key (h : MapOf key view rows f) (k : κ) :
    rows.filter (fun r => key r = k) = [] ∧ f k = none ∨
      ∃ r ∈ rows, rows.filter (fun r => key r = k) = [r] ∧ f k = some (view r) := by
  have hmem : ∀ r ∈ rows.filter (fun r => key r = k), r ∈ rows ∧ key r = k := fun r hr =>
    ⟨(List.mem_filter.mp hr).1, of_decide_eq_true (List.mem_filter.mp hr).2⟩
  have hnodup : (rows.filter fun r => key r = k).Nodup := h.distinct.of_map.filter _
  cases hrows : rows.filter (fun r => key r = k) with
  | nil =>
    refine Or.inl ⟨rfl, (h.unknown_iff k).mpr fun r hr hk => ?_⟩
    have hr' : r ∈ rows.filter fun r => key r = k := List.mem_filter.mpr ⟨hr, decide_eq_true hk⟩
    rw [hrows] at hr'
    exact List.not_mem_nil hr'
  | cons r rest =>
    rw [hrows] at hmem hnodup
    obtain ⟨hr, rfl⟩ := hmem r List.mem_cons_self
    refine Or.inr ⟨r, hr, ?_, h.get hr⟩
    cases rest with
    | nil => rfl
    | cons r' rest =>
      obtain ⟨hr', hk'⟩ := hmem r' (List.mem_cons_of_mem _ List.mem_cons_self)
      rw [h.eq_of_key hr' hr hk'] at hnodup
      exact absurd List.mem_cons_self (List.nodup_cons.mp hnodup).1

theorem known_any (h : MapOf key view rows f) (k : κ) : (f k).isSome = rows.any fun r => decide (key r = k) := by
  rw [Bool.eq_iff_iff, h.known_iff, List.any_eq_true]
  simp

theorem append (h : MapOf key view rows f) {r : ρ} (hnew : f (key r) = none) :
    MapOf key view (rows ++ [r]) (Function.update f (key r) (some (view r))) where
  distinct := by
    rw [List.map_append, List.map_singleton, List.nodup_append]
    refine ⟨h.distinct, List.nodup_singleton _, ?_⟩
    intro k hk k' hk' heq
    obtain ⟨r', hr', rfl⟩ := List.mem_map.mp hk
    rw [List.mem_singleton.mp hk'] at heq
    exact (h.unknown_iff _).mp hnew r' hr' heq
  holds k a := by
    rw [Function.update_apply]
    split
    · rename_i hk
      constructor
      · intro ha
        exact ⟨r, List.mem_append_right _ List.mem_cons_self, hk.symm, Option.some.inj ha⟩
      · rintro ⟨r', hr', hk', ha⟩
        rcases List.mem_append.mp hr' with hr' | hr'
        · exact absurd (hk'.trans hk) ((h.unknown_iff _).mp hnew r' hr')
        · obtain rfl := List.mem_singleton.mp hr'
          rw [ha]
    · rename_i hk
      rw [h.holds]
      constructor
      · rintro ⟨r', hr', h'⟩
        exact ⟨r', List.mem_append_left _ hr', h'⟩
      · rintro ⟨r', hr', hk', ha⟩
        rcases List.mem_append.mp hr' with hr' | hr'
        · exact ⟨r', hr', hk', ha⟩
        · obtain rfl := List.mem_singleton.mp hr'
          exact absurd hk'.symm hk

/-- The row of a key is changed. -/
theorem modify (h : MapOf key view rows f) {k : κ} {a : α} {g : ρ → ρ} (hknown : (f k).isSome)
    (hg : ∀ r ∈ rows, key r = k → key (g r) = k ∧ view (g r) = a) :
    MapOf key view (rows.map fun r => if key r = k then g r else r) (Function.update f k (some a)) where
  distinct := by
    have hkeys : (rows.map fun r => if key r = k then g r else r).map key = rows.map key := by
      rw [List.map_map]
      refine List.map_congr_left fun r hr => ?_
      rw [Function.comp_apply]
      split
      · rename_i hk
        rw [(hg r hr hk).1, hk]
      · rfl
    rw [hkeys]
    exact h.distinct
  holds k' a' := by
    rw [Function.update_apply]
    split
    · rename_i hk'
      subst hk'
      constructor
      · intro ha
        obtain ⟨r, hr, hk⟩ := (h.known_iff k').mp hknown
        refine ⟨g r, List.mem_map.mpr ⟨r, hr, if_pos hk⟩, (hg r hr hk).1, ?_⟩
        rw [(hg r hr hk).2]
        exact Option.some.inj ha
      · rintro ⟨r', hr', hkey, ha⟩
        obtain ⟨r, hr, rfl⟩ := List.mem_map.mp hr'
        split at hkey
        · rename_i hk
          rw [if_pos hk, (hg r hr hk).2] at ha
          rw [ha]
        · rename_i hk
          exact absurd hkey hk
    · rename_i hne
      rw [h.holds]
      constructor
      · rintro ⟨r, hr, hkey, ha⟩
        exact ⟨r, List.mem_map.mpr ⟨r, hr, if_neg fun hk => hne (hkey.symm.trans hk)⟩, hkey, ha⟩
      · rintro ⟨r', hr', hkey, ha⟩
        obtain ⟨r, hr, rfl⟩ := List.mem_map.mp hr'
        split at hkey
        · rename_i hk
          exact absurd (hkey.symm.trans (hg r hr hk).1) hne
        · rename_i hk
          rw [if_neg hk] at ha
          exact ⟨r, hr, hkey, ha⟩

end MapOf
