import BxSync.Walk

/-! `bx_walk_pages_from` for every kind of path, with each call it makes to the outside (`bx_walk.c`).

    `Walk` has the loop for the paths of the sync chain, which page by offset. -/

namespace BxSync

/-- How a path pages: without a placeholder not at all, with `page=$` by pages that count from 1, and
    otherwise by the offset of the first row. -/
inductive Paging
  | single
  | offset
  | page
deriving DecidableEq, Repr

/-- The offset or the page of the first request. A start below 0 counts as 0. -/
def Paging.first (p : Paging) (start : Int) : Nat :=
  match p with
  | .page => if 0 < start.toNat then start.toNat else 1
  | _ => start.toNat

/-- How far the next request lies from one. -/
def Paging.stride : Paging → Nat
  | .single => 0
  | .offset => bxillListLimit
  | .page => 1

inductive WalkStep (ρ : Type)
  | requested (pos : Nat)
  /-- The array of an answer is used. -/
  | answered (httpCode : Nat) (rows : List ρ)
  | synced (row : ρ) (error : BXillError)
  /-- The page callback was told the next offset. -/
  | paged (next : Nat) (error : BXillError)
deriving Repr

structure PagedWalk (σ κ ρ : Type) where
  error : BXillError
  store : σ
  cursor : κ
  steps : List (WalkStep ρ)

namespace Walker

variable {σ κ ρ : Type} (w : Walker σ κ ρ)

/-- The rows of one page, up to the first error. -/
def syncSteps : List ρ → σ → BXillError × σ × List (WalkStep ρ)
  | [], s => (.noError, s, [])
  | row :: rest, s =>
    let synced := w.sync s row
    if synced.1 ≠ .noError then (synced.1, synced.2, [.synced row synced.1])
    else
      let others := syncSteps rest synced.2
      (others.1, others.2.1, .synced row synced.1 :: others.2.2)

/-- The loop of `bx_walk_pages_from` over the answers to its requests. When no answer is left the request
    returns NULL. -/
def walkSteps (p : Paging) : List (Option (PageReply ρ)) → Nat → σ → κ → PagedWalk σ κ ρ
  | [], pos, s, k => { error := .errorNet, store := s, cursor := k, steps := [.requested pos] }
  | none :: _, pos, s, k => { error := .errorNet, store := s, cursor := k, steps := [.requested pos] }
  | some reply :: rest, pos, s, k =>
    match reply.rows with
    | none => { error := .errorJSON, store := s, cursor := k, steps := [.requested pos] }
    | some rows =>
      let synced := w.syncSteps rows s
      let steps := .requested pos :: .answered reply.httpCode rows :: synced.2.2
      if synced.1 ≠ .noError then { error := synced.1, store := synced.2.1, cursor := k, steps }
      else if rows.isEmpty then { error := .noError, store := synced.2.1, cursor := k, steps }
      else
        let next := pos + p.stride
        let page := w.onPage k next reply.save
        let steps := steps ++ [.paged next page.1]
        if page.1 ≠ .noError then { error := page.1, store := synced.2.1, cursor := page.2.1, steps }
        else if p = .single then { error := .noError, store := synced.2.1, cursor := page.2.1, steps }
        else
          let walk := walkSteps p rest next synced.2.1 page.2.1
          { walk with steps := steps ++ walk.steps }

def walkStepsFrom (p : Paging) (answers : List (Option (PageReply ρ))) (start : Int) (s : σ) (k : κ) :
    PagedWalk σ κ ρ :=
  w.walkSteps p answers (p.first start) s k

/-! ### The loop of the sync chain -/

theorem syncSteps_eq (rows : List ρ) (s : σ) :
    (w.syncSteps rows s).1 = (w.syncRows rows s).1 ∧ (w.syncSteps rows s).2.1 = (w.syncRows rows s).2.1 := by
  fun_induction w.syncSteps rows s
  case case1 => exact ⟨rfl, rfl⟩
  case case2 row rest s synced he =>
    unfold syncRows
    rw [if_pos he]
    exact ⟨rfl, rfl⟩
  case case3 row rest s synced he others ih =>
    unfold syncRows
    rw [if_neg he]
    exact ih

/-- By offset the walk is the one of the sync chain. -/
theorem walkSteps_offset (answers : List (Option (PageReply ρ))) (pos : Nat) (s : σ) (k : κ) :
    (w.walkSteps .offset answers pos s k).error = (w.walkPages answers pos s k).error ∧
      (w.walkSteps .offset answers pos s k).store = (w.walkPages answers pos s k).store ∧
      (w.walkSteps .offset answers pos s k).cursor = (w.walkPages answers pos s k).cursor := by
  fun_induction w.walkSteps .offset answers pos s k
  case case1 | case2 => exact ⟨rfl, rfl, rfl⟩
  case case3 hrows =>
    unfold walkPages
    rw [hrows]
    exact ⟨rfl, rfl, rfl⟩
  case case4 reply rest pos s k rows hrows synced steps he =>
    obtain ⟨herr, hstore⟩ := w.syncSteps_eq rows s
    have hsync : (w.syncRows rows s).1 ≠ .noError := herr ▸ he
    simp [walkPages, hrows, hsync, synced, herr, hstore]
  case case5 reply rest pos s k rows hrows synced steps he hempty =>
    obtain ⟨herr, hstore⟩ := w.syncSteps_eq rows s
    have hsync : (w.syncRows rows s).1 = .noError := herr ▸ not_not.mp he
    simp [walkPages, hrows, hsync, synced, hempty, hstore]
  case case6 reply rest pos s k rows hrows synced steps he hempty next page steps' hpage =>
    obtain ⟨herr, hstore⟩ := w.syncSteps_eq rows s
    have hsync : (w.syncRows rows s).1 = .noError := herr ▸ not_not.mp he
    have hp : (w.onPage k (pos + bxillListLimit) reply.save).1 ≠ .noError := hpage
    have hpg : page = w.onPage k (pos + bxillListLimit) reply.save := rfl
    simp [walkPages, hrows, hsync, synced, hempty, hstore, hp, hpg]
  case case7 => contradiction
  case case8 reply rest pos s k rows hrows synced steps he hempty next page steps' hpage _ walk ih =>
    obtain ⟨herr, hstore⟩ := w.syncSteps_eq rows s
    have hsync : (w.syncRows rows s).1 = .noError := herr ▸ not_not.mp he
    have hp : (w.onPage k (pos + bxillListLimit) reply.save).1 = .noError := not_not.mp hpage
    have hnext : w.walkPages rest next synced.2.1 page.2.1 =
        w.walkPages rest (pos + bxillListLimit) (w.syncRows rows s).2.1 (w.onPage k (pos + bxillListLimit) reply.save).2.1 := by
      rw [← hstore]
      rfl
    rw [hnext] at ih
    simpa [walkPages, hrows, hsync, hempty, hp] using ih

end Walker

end BxSync
