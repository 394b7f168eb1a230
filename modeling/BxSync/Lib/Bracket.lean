import Mathlib.Data.List.Induction

/-! Resources that may be used only between an acquire and a release, as they stand in a log. -/

namespace Bracket

variable {α : Type}

inductive Mark (α : Type)
  | acquire
  | release
  | use (what : α)
deriving DecidableEq, Repr

/-- Whether the resource is held after a log, if it was not acquired twice and not used while it was free.
    Releasing what is free does nothing. -/
def run : Bool → List (Mark α) → Option Bool
  | held, [] => some held
  | held, .acquire :: rest => if held then none else run true rest
  | _, .release :: rest => run false rest
  | held, .use _ :: rest => if held then run true rest else none

theorem run_append (held : Bool) (marks marks' : List (Mark α)) :
    run held (marks ++ marks') = (run held marks).bind fun held' => run held' marks' := by
  induction marks generalizing held with
  | nil => rfl
  | cons mark marks ih =>
    cases mark with
    | acquire =>
      cases held with
      | true => rfl
      | false => exact ih true
    | release => exact ih false
    | use what =>
      cases held with
      | true => exact ih true
      | false => rfl

theorem run_trans {held held' held'' : Bool} {marks marks' : List (Mark α)} (h : run held marks = some held')
    (h' : run held' marks' = some held'') : run held (marks ++ marks') = some held'' := by
  rw [run_append, h]
  exact h'

/-- Every use in a log that runs from a free resource comes after an acquire with no release between them. -/
theorem acquired_of_run {marks marks' : List (Mark α)} {what : α} {held' : Bool}
    (h : run false (marks ++ .use what :: marks') = some held') :
    ∃ before between, marks = before ++ .acquire :: between ∧ Mark.release ∉ between := by
  have hheld : run false marks = some true := by
    rw [run_append] at h
    obtain ⟨held, hmarks, hrest⟩ := Option.bind_eq_some_iff.mp h
    cases held with
    | true => exact hmarks
    | false => exact nomatch hrest
  clear h
  induction marks using List.reverseRecOn with
  | nil => exact nomatch hheld
  | append_singleton marks mark ih =>
    rw [run_append] at hheld
    obtain ⟨held, hmarks, hmark⟩ := Option.bind_eq_some_iff.mp hheld
    cases mark with
    | acquire => exact ⟨marks, [], rfl, List.not_mem_nil⟩
    | release => exact nomatch hmark
    | use what =>
      cases held with
      | false => exact nomatch hmark
      | true =>
        obtain ⟨before, between, rfl, hbetween⟩ := ih hmarks
        refine ⟨before, between ++ [.use what], by simp, ?_⟩
        simpa using hbetween

end Bracket
