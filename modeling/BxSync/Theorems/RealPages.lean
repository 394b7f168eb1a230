import BxSync.Chain
import BxSync.Request

/-! Whether a walk succeeds only on pages that the server answered with status 200. Nothing between the worker
    and the walk looks at the status. -/

namespace BxSync

variable {ρ : Type}

/-- A walk over the answers that returns NoError used only arrays that came with status 200, whatever its
    callbacks do. -/
def RealPages (p : Paging) (answers : List (Option (BXNetRequest (BXNetRData ρ)) × Save)) : Prop :=
  ∀ (σ κ : Type) (w : Walker σ κ ρ) (start : Int) (s : σ) (k : κ),
    (w.walkAnswers p answers start s k).error = .noError →
      ∀ httpCode rows, .answered httpCode rows ∈ (w.walkAnswers p answers start s k).steps → httpCode = 200

/-- The statuses of the arrays up to the end of the list: up to the first empty one, or the first one where there
    are no pages. None if an answer before it is missing or has no array. -/
def statusesToEnd (p : Paging) : List (Option (PageReply ρ)) → Option (List Nat)
  | [] => none
  | none :: _ => none
  | some reply :: rest =>
    match reply.rows with
    | none => none
    | some rows =>
      if rows.isEmpty ∨ p = .single then some [reply.httpCode] else (statusesToEnd p rest).map (reply.httpCode :: ·)

/-! ### The arrays a walk uses -/

section

variable {σ κ : Type} (w : Walker σ κ ρ)

theorem answered_syncSteps (rows : List ρ) (s : σ) (httpCode : Nat) (rows' : List ρ) :
    .answered httpCode rows' ∉ (w.syncSteps rows s).2.2 := by
  fun_induction w.syncSteps rows s
  case case1 => simp
  case case2 => simp
  case case3 ih => simpa using ih

theorem answered_page {rows rows' : List ρ} {pos code httpCode : Nat} {s : σ}
    (h : .answered httpCode rows' ∈ WalkStep.requested pos :: .answered code rows :: (w.syncSteps rows s).2.2) :
    httpCode = code := by
  rcases List.mem_cons.mp h with h | h
  · nomatch h
  · rcases List.mem_cons.mp h with h | h
    · exact (WalkStep.answered.inj h).1
    · exact absurd h (answered_syncSteps w rows s httpCode rows')

/-- A walk that succeeds comes to the end of the list, and uses the arrays up to it. -/
theorem answered_walkSteps (p : Paging) (answers : List (Option (PageReply ρ))) (pos : Nat) (s : σ) (k : κ)
    (h : (w.walkSteps p answers pos s k).error = .noError) :
    ∃ codes, statusesToEnd p answers = some codes ∧
      ∀ httpCode rows, .answered httpCode rows ∈ (w.walkSteps p answers pos s k).steps → httpCode ∈ codes := by
  revert h
  fun_induction w.walkSteps p answers pos s k
  case case1 | case2 | case3 =>
    intro h
    cases h
  case case4 he => exact fun h => absurd h he
  case case5 reply rest pos s k rows hrows synced steps he hempty =>
    intro _
    refine ⟨[reply.httpCode], by simp [statusesToEnd, hrows, hempty], fun httpCode rows' hmem => ?_⟩
    simp [answered_page w hmem]
  case case6 hpage => exact fun h => absurd h hpage
  case case7 reply rest pos s k rows hrows synced steps he hempty next page steps' hpage hp =>
    intro _
    refine ⟨[reply.httpCode], by simp [statusesToEnd, hrows, hp], fun httpCode rows' hmem => ?_⟩
    rcases List.mem_append.mp hmem with hmem | hmem
    · simp [answered_page w hmem]
    · simp at hmem
  case case8 reply rest pos s k rows hrows synced steps he hempty next page steps' hpage hp walk ih =>
    intro h
    obtain ⟨codes, hcodes, hused⟩ := ih h
    refine ⟨reply.httpCode :: codes, by simp [statusesToEnd, hrows, hempty, hp, hcodes], fun httpCode rows' hmem => ?_⟩
    rcases List.mem_append.mp hmem with hmem | hmem
    · rcases List.mem_append.mp hmem with hmem | hmem
      · simp [answered_page w hmem]
      · simp at hmem
    · exact List.mem_cons_of_mem _ (hused httpCode rows' hmem)

end

/-- Callbacks without an error. -/
def quietWalker (list : Listing) : Walker Unit Unit ρ where
  list := list
  rowId _ := none
  sync _ _ := (.noError, ())
  onPage _ _ _ := (.noError, (), none)

/-- A walk whose callbacks make no error succeeds at the end of the list, and uses every array up to it. -/
theorem walkSteps_quietWalker (list : Listing) (p : Paging) (answers : List (Option (PageReply ρ))) (pos : Nat) (codes : List Nat)
    (h : statusesToEnd p answers = some codes) :
    ((quietWalker list).walkSteps p answers pos () ()).error = .noError ∧
      ∀ httpCode ∈ codes, ∃ rows, .answered httpCode rows ∈ ((quietWalker list).walkSteps p answers pos () ()).steps := by
  have hsync : ∀ (rows : List ρ), ((quietWalker list).syncSteps rows ()).1 = .noError := by
    intro rows
    induction rows with
    | nil => rfl
    | cons row rows ih => exact ih
  have hpage : ∀ next save, ((quietWalker list : Walker Unit Unit ρ).onPage () next save).1 = .noError := fun _ _ => rfl
  induction answers generalizing pos codes with
  | nil => cases h
  | cons answer rest ih =>
    cases answer with
    | none => cases h
    | some reply =>
      unfold statusesToEnd at h
      unfold Walker.walkSteps
      cases hrows : reply.rows with
      | none =>
        rw [hrows] at h
        cases h
      | some rows =>
        rw [hrows] at h
        dsimp only at h ⊢
        rw [hsync rows, if_neg (by simp)]
        by_cases hend : rows.isEmpty ∨ p = .single
        · rw [if_pos hend] at h
          obtain rfl := Option.some.inj h
          by_cases hempty : rows.isEmpty
          · rw [if_pos hempty]
            exact ⟨rfl, by simp⟩
          · rw [if_neg hempty, if_pos (hend.resolve_left hempty)]
            refine ⟨rfl, fun httpCode hcode => ⟨rows, ?_⟩⟩
            simp [List.mem_singleton.mp hcode, hpage]
        · obtain ⟨hempty, hp⟩ := not_or.mp hend
          rw [if_neg hend] at h
          obtain ⟨others, hothers, rfl⟩ := Option.map_eq_some_iff.mp h
          rw [if_neg hempty, if_neg hp]
          obtain ⟨herror, hused⟩ := ih (pos + p.stride) others hothers
          refine ⟨herror, fun httpCode hcode => ?_⟩
          rcases List.mem_cons.mp hcode with rfl | hcode
          · exact ⟨rows, by simp [hpage]⟩
          · obtain ⟨rows', hmem⟩ := hused httpCode hcode
            exact ⟨rows', List.mem_append_right _ hmem⟩

/-- A walk uses only arrays that came with status 200 if and only if every array up to the end of the list did.
    An answer before it that is missing or has no array fails the walk. -/
theorem realPages_iff (p : Paging) (answers : List (Option (BXNetRequest (BXNetRData ρ)) × Save)) :
    RealPages p answers ↔
      ∀ codes, statusesToEnd p (answers.map fun a => pageReply a.1 a.2) = some codes → ∀ httpCode ∈ codes, httpCode = 200 := by
  constructor
  · intro h codes hcodes httpCode hmem
    obtain ⟨herror, hused⟩ := walkSteps_quietWalker .project p _ (p.first 0) codes hcodes
    obtain ⟨rows, hanswered⟩ := hused httpCode hmem
    exact h Unit Unit (quietWalker .project) 0 () () herror httpCode rows hanswered
  · intro h σ κ w start s k herror httpCode rows hanswered
    obtain ⟨codes, hcodes, hused⟩ := answered_walkSteps w p _ (p.first start) s k herror
    exact h codes hcodes httpCode (hused httpCode rows hanswered)

/-! ### An error with an empty array -/

/-- The worker's answer to the first request of the project list: status 500 with the body `[]`. -/
def errorPage : Option (BXNetRequest (BXNetRData ProjectItem)) :=
  some (fetchedRequest 1 (some { httpCode := 500, data := some (.array []) }))

/-- The empty array of an error ends a walk with NoError, and the chain prunes the projects after it. -/
theorem realPages_errorPage :
    ¬ RealPages .offset [(errorPage, .written)] ∧
      (bxChainSync (bxChainInit .empty cacheCreate cacheCreate cacheCreate ⟨.project, 0⟩)
        { connected := true, contacts := [], projects := [pageReply errorPage .written], invoices := [], missed := [],
          save := .written }).result.pruneProject = true := by
  refine ⟨fun h => ?_, by decide⟩
  have := h Unit Unit (quietWalker .project) 0 () () (by decide) 500 [] (by simp [Walker.walkAnswers, Walker.walkStepsFrom, errorPage,
    pageReply, bxDoRequest, bxDoRequestWait, fetchedRequest, asArray, Walker.walkSteps, Walker.syncSteps])
  exact absurd this (by decide)

end BxSync
