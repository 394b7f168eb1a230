import BxSync.Paging

/-! A walk that is interrupted and started again at the last offset its page callback accepted, until it
    returns NoError, does what an uninterrupted walk does. The server is static: what it answers depends on the
    offset only. -/

namespace BxSync

/-- One run of a walk over a static server. A request is lost, or it is answered and the page callback meets
    a save. The callbacks start from any state. -/
structure Attempt (σ κ : Type) where
  answered : List (Option Save)
  store : σ
  cursor : κ

section

variable {σ κ ρ : Type}

/-- The answers of the server to the requests from an offset on. -/
def serve (server : Nat → List ρ) (p : Paging) : List (Option Save) → Nat → List (Option (PageReply ρ))
  | [], _ => []
  | none :: rest, pos => none :: serve server p rest (pos + p.stride)
  | some save :: rest, pos =>
    some { httpCode := 200, rows := some (server pos), save } :: serve server p rest (pos + p.stride)

def requests (steps : List (WalkStep ρ)) : List Nat :=
  steps.filterMap fun
    | .requested pos => some pos
    | _ => none

/-- The offsets the page callback was told. -/
def reported (steps : List (WalkStep ρ)) : List Nat :=
  steps.filterMap fun
    | .paged next _ => some next
    | _ => none

/-- The offsets the page callback accepted. -/
def accepted (steps : List (WalkStep ρ)) : List Nat :=
  steps.filterMap fun
    | .paged next error => if error = .noError then some next else none
    | _ => none

/-- Where a walk goes on: at the last offset accepted, or where it started. -/
def resumeAt (start : Int) (steps : List (WalkStep ρ)) : Int :=
  match (accepted steps).getLast? with
  | some next => next
  | none => start

def Attempt.walk (w : Walker σ κ ρ) (server : Nat → List ρ) (p : Paging) (start : Int) (t : Attempt σ κ) :
    PagedWalk σ κ ρ :=
  w.walkStepsFrom p (serve server p t.answered (p.first start)) start t.store t.cursor

/-- The walks of the attempts, up to the first that returns NoError. -/
def walkAttempts (w : Walker σ κ ρ) (server : Nat → List ρ) (p : Paging) : Int → List (Attempt σ κ) → List (PagedWalk σ κ ρ)
  | _, [] => []
  | start, t :: rest =>
    let walk := t.walk w server p start
    if walk.error = .noError then [walk] else walk :: walkAttempts w server p (resumeAt start walk.steps) rest

/-- The request of a page and the sync of every row of it. -/
def pageSteps (server : Nat → List ρ) (pos : Nat) : List (WalkStep ρ) :=
  .requested pos :: .answered 200 (server pos) :: (server pos).map fun row => .synced row .noError

/-! ### The steps of one walk -/

/-- The steps of a walk from one offset to the offset it stands at when it returns. -/
inductive Traced (server : Nat → List ρ) (stride : Nat) : Nat → List (WalkStep ρ) → Nat → BXillError → Prop
  | lost {pos e} : e ≠ .noError → Traced server stride pos [.requested pos] pos e
  | stopped {pos rows row rest e} : server pos = rows ++ row :: rest → e ≠ .noError →
    Traced server stride pos (.requested pos :: .answered 200 (server pos) ::
      (rows.map (fun row => .synced row .noError) ++ [.synced row e])) pos e
  | ended {pos} : server pos = [] → Traced server stride pos (pageSteps server pos) pos .noError
  | refused {pos e} : server pos ≠ [] → e ≠ .noError →
    Traced server stride pos (pageSteps server pos ++ [.paged (pos + stride) e]) pos e
  | page {pos steps stop e} : server pos ≠ [] → Traced server stride (pos + stride) steps stop e →
    Traced server stride pos (pageSteps server pos ++ .paged (pos + stride) .noError :: steps) stop e

theorem syncSteps_cases (w : Walker σ κ ρ) (rows : List ρ) (s : σ) :
    ((w.syncSteps rows s).1 = .noError ∧
      (w.syncSteps rows s).2.2 = rows.map fun row => .synced row .noError) ∨
    ∃ before row rest, rows = before ++ row :: rest ∧ (w.syncSteps rows s).1 ≠ .noError ∧
      (w.syncSteps rows s).2.2 =
        before.map (fun row => .synced row .noError) ++ [.synced row (w.syncSteps rows s).1] := by
  fun_induction w.syncSteps rows s
  case case1 => exact Or.inl ⟨rfl, rfl⟩
  case case2 row rest s synced he => exact Or.inr ⟨[], row, rest, rfl, he, rfl⟩
  case case3 row rest s synced he others ih =>
    have hok : synced.1 = .noError := not_not.mp he
    rcases ih with ⟨hothers, hsteps⟩ | ⟨before, last, rest', hrows, hothers, hsteps⟩
    · exact Or.inl ⟨hothers, by rw [hok, hsteps, List.map_cons]⟩
    · exact Or.inr ⟨row :: before, last, rest', by rw [hrows, List.cons_append], hothers, by rw [hok, hsteps]; rfl⟩

theorem traced_walkSteps (w : Walker σ κ ρ) (server : Nat → List ρ) {p : Paging} (hp : p ≠ .single)
    (answered : List (Option Save)) (pos : Nat) (s : σ) (k : κ) :
    ∃ stop, Traced server p.stride pos (w.walkSteps p (serve server p answered pos) pos s k).steps stop
      (w.walkSteps p (serve server p answered pos) pos s k).error := by
  induction answered generalizing pos s k with
  | nil => exact ⟨pos, .lost nofun⟩
  | cons answer rest ih =>
    cases answer with
    | none => exact ⟨pos, .lost nofun⟩
    | some save =>
      unfold serve Walker.walkSteps
      dsimp only
      rcases syncSteps_cases w (server pos) s with ⟨hok, hsteps⟩ | ⟨before, row, rest', hrows, he, hsteps⟩
      · rw [if_neg (not_not.mpr hok)]
        by_cases hempty : (server pos).isEmpty
        · rw [if_pos hempty, hsteps]
          exact ⟨pos, .ended (List.isEmpty_iff.mp hempty)⟩
        · have hne : server pos ≠ [] := fun h => hempty (List.isEmpty_iff.mpr h)
          rw [if_neg hempty, hsteps]
          by_cases hpage : (w.onPage k (pos + p.stride) save).1 = .noError
          · rw [if_neg (not_not.mpr hpage), if_neg hp, hpage]
            obtain ⟨stop, hrest⟩ := ih (pos + p.stride) (w.syncSteps (server pos) s).2.1 (w.onPage k (pos + p.stride) save).2.1
            refine ⟨stop, ?_⟩
            simpa [pageSteps] using Traced.page hne hrest
          · rw [if_pos hpage]
            exact ⟨pos, .refused hne hpage⟩
      · rw [if_pos he, hsteps]
        exact ⟨pos, .stopped hrows he⟩

/-! ### What the steps of a walk show -/

section

variable (steps steps' : List (WalkStep ρ))

@[simp] theorem requests_append : requests (steps ++ steps') = requests steps ++ requests steps' := List.filterMap_append
@[simp] theorem accepted_append : accepted (steps ++ steps') = accepted steps ++ accepted steps' := List.filterMap_append
@[simp] theorem reported_append : reported (steps ++ steps') = reported steps ++ reported steps' := List.filterMap_append

end

section

variable (rows : List ρ) (row : ρ) (pos next httpCode : Nat) (e : BXillError) (steps : List (WalkStep ρ))

@[simp] theorem requests_nil : requests ([] : List (WalkStep ρ)) = [] := rfl
@[simp] theorem reported_nil : reported ([] : List (WalkStep ρ)) = [] := rfl
@[simp] theorem accepted_nil : accepted ([] : List (WalkStep ρ)) = [] := rfl
@[simp] theorem requests_requested : requests (.requested pos :: steps) = pos :: requests steps := rfl
@[simp] theorem requests_answered : requests (.answered httpCode rows :: steps) = requests steps := rfl
@[simp] theorem requests_synced : requests (.synced row e :: steps) = requests steps := rfl
@[simp] theorem requests_paged : requests (.paged next e :: steps) = requests steps := rfl
@[simp] theorem reported_requested : reported (.requested pos :: steps) = reported steps := rfl
@[simp] theorem reported_answered : reported (.answered httpCode rows :: steps) = reported steps := rfl
@[simp] theorem reported_synced : reported (.synced row e :: steps) = reported steps := rfl
@[simp] theorem reported_paged : reported (.paged next e :: steps) = next :: reported steps := rfl
@[simp] theorem accepted_requested : accepted (.requested pos :: steps) = accepted steps := rfl
@[simp] theorem accepted_answered : accepted (.answered httpCode rows :: steps) = accepted steps := rfl
@[simp] theorem accepted_synced : accepted (.synced row e :: steps) = accepted steps := rfl
@[simp] theorem accepted_paged : accepted (.paged next .noError :: steps) = next :: accepted steps := rfl

theorem accepted_refused (he : e ≠ .noError) : accepted (.paged next e :: steps) = accepted steps := by
  simp [accepted, he]

@[simp] theorem requests_synced_map : requests (rows.map fun row => .synced row .noError) = [] := by
  induction rows with
  | nil => rfl
  | cons row rows ih => exact ih

@[simp] theorem reported_synced_map : reported (rows.map fun row => .synced row .noError) = [] := by
  induction rows with
  | nil => rfl
  | cons row rows ih => exact ih

@[simp] theorem accepted_synced_map : accepted (rows.map fun row => .synced row .noError) = [] := by
  induction rows with
  | nil => rfl
  | cons row rows ih => exact ih

end

section

variable (server : Nat → List ρ) (pos : Nat)

@[simp] theorem requests_pageSteps : requests (pageSteps server pos) = [pos] := by simp [pageSteps]
@[simp] theorem reported_pageSteps : reported (pageSteps server pos) = [] := by simp [pageSteps]
@[simp] theorem accepted_pageSteps : accepted (pageSteps server pos) = [] := by simp [pageSteps]

end

theorem mem_requests {steps : List (WalkStep ρ)} {pos : Nat} : pos ∈ requests steps ↔ .requested pos ∈ steps := by
  unfold requests
  rw [List.mem_filterMap]
  constructor
  · rintro ⟨step, hstep, hpos⟩
    cases step with
    | requested => exact Option.some.inj hpos ▸ hstep
    | answered | synced | paged => exact nomatch hpos
  · exact fun h => ⟨_, h, rfl⟩

theorem mem_accepted {steps : List (WalkStep ρ)} {next : Nat} :
    next ∈ accepted steps ↔ .paged next .noError ∈ steps := by
  unfold accepted
  rw [List.mem_filterMap]
  constructor
  · rintro ⟨step, hstep, hnext⟩
    cases step with
    | requested | answered | synced => exact nomatch hnext
    | paged next' e =>
      dsimp only at hnext
      split at hnext
      · rename_i he
        rw [← Option.some.inj hnext, ← he]
        exact hstep
      · exact nomatch hnext
  · exact fun h => ⟨_, h, by simp⟩

/-- What comes before the page callback is told of a page, when the first steps hold no such call. -/
theorem paged_split {front rest before after : List (WalkStep ρ)} {next : Nat} {e : BXillError} (hfront : reported front = [])
    (h : front ++ rest = before ++ .paged next e :: after) :
    ∃ before', before = front ++ before' ∧ rest = before' ++ .paged next e :: after := by
  rcases List.append_eq_append_iff.mp h with ⟨before', hbefore, hrest⟩ | ⟨back, hfront', hback⟩
  · exact ⟨before', hbefore, hrest⟩
  · cases back with
    | nil =>
      rw [List.append_nil] at hfront'
      exact ⟨[], by rw [hfront', List.append_nil], hback.symm⟩
    | cons step back =>
      obtain ⟨rfl, -⟩ := List.cons.inj hback
      rw [hfront', reported_append, reported_paged] at hfront
      simp at hfront

/-- No request goes back behind an offset that was accepted before it. -/
def Forward (steps : List (WalkStep ρ)) : Prop :=
  steps.Pairwise fun s t => ∀ next x, s = .paged next .noError → t = .requested x → next ≤ x

theorem forward_of_unaccepted {steps : List (WalkStep ρ)} (h : accepted steps = []) : Forward steps := by
  refine List.pairwise_of_forall_mem_list fun s hs t _ next x hs' _ => ?_
  subst hs'
  exact absurd (mem_accepted.mpr hs) (by rw [h]; simp)

theorem Forward.append {steps steps' : List (WalkStep ρ)} (h : Forward steps) (h' : Forward steps')
    (hle : ∀ next ∈ accepted steps, ∀ x ∈ requests steps', next ≤ x) : Forward (steps ++ steps') := by
  refine List.pairwise_append.mpr ⟨h, h', fun s hs t ht next x hs' ht' => ?_⟩
  subst hs' ht'
  exact hle next (mem_accepted.mpr hs) x (mem_requests.mpr ht)

namespace Traced

variable {server : Nat → List ρ} {stride pos stop : Nat} {steps : List (WalkStep ρ)} {e : BXillError}

/-- A walk requests one page after the other, and the page callback accepts all but the last. -/
theorem pages (h : Traced server stride pos steps stop e) :
    ∃ n, stop = pos + stride * n ∧ requests steps = List.range' pos (n + 1) stride ∧
      accepted steps = List.range' (pos + stride) n stride ∧
      ∀ x ∈ List.range' pos n stride, server x ≠ [] ∧ pageSteps server x <:+: steps := by
  induction h with
  | lost he => exact ⟨0, rfl, rfl, rfl, by simp⟩
  | stopped hrows he => exact ⟨0, rfl, by simp, by simp, by simp⟩
  | ended hnil => exact ⟨0, rfl, by simp, by simp, by simp⟩
  | refused hne he => exact ⟨0, rfl, by simp, by simp [accepted_refused, he], by simp⟩
  | @page pos steps stop e hne _ ih =>
    obtain ⟨n, rfl, hrequests, haccepted, hpages⟩ := ih
    refine ⟨n + 1, by rw [Nat.mul_succ]; omega, ?_, ?_, ?_⟩
    · rw [requests_append, requests_pageSteps, requests_paged, hrequests, List.range'_succ (n := n + 1)]
      rfl
    · rw [accepted_append, accepted_pageSteps, accepted_paged, haccepted, List.range'_succ (n := n)]
      rfl
    · intro x hx
      rw [List.range'_succ, List.mem_cons] at hx
      rcases hx with rfl | hx
      · exact ⟨hne, List.IsPrefix.isInfix (List.prefix_append _ _)⟩
      · obtain ⟨hx, hinfix⟩ := hpages x hx
        exact ⟨hx, hinfix.trans ((List.suffix_cons _ _).trans (List.suffix_append _ _)).isInfix⟩

theorem reports (h : Traced server stride pos steps stop e) :
    ∃ m, reported steps = List.range' (pos + stride) m stride ∧ ∀ x ∈ List.range' pos m stride, server x ≠ [] := by
  induction h with
  | lost he => exact ⟨0, rfl, by simp⟩
  | stopped hrows he => exact ⟨0, by simp, by simp⟩
  | ended hnil => exact ⟨0, by simp, by simp⟩
  | refused hne he => exact ⟨1, by simp, by simpa using hne⟩
  | page hne _ ih =>
    obtain ⟨m, hreported, hpages⟩ := ih
    refine ⟨m + 1, ?_, ?_⟩
    · rw [reported_append, reported_pageSteps, reported_paged, hreported, List.range'_succ (n := m)]
      rfl
    · intro x hx
      rw [List.range'_succ, List.mem_cons] at hx
      rcases hx with rfl | hx
      · exact hne
      · exact hpages x hx

theorem forward (h : Traced server stride pos steps stop e) : Forward steps := by
  induction h with
  | lost he => exact forward_of_unaccepted rfl
  | stopped hrows he => exact forward_of_unaccepted (by simp)
  | ended hnil => exact forward_of_unaccepted (by simp)
  | refused hne he => exact forward_of_unaccepted (by simp [accepted_refused, he])
  | @page pos steps stop e hne hrest ih =>
    obtain ⟨n, -, hrequests, -, -⟩ := hrest.pages
    have hlater : ∀ x ∈ requests steps, pos + stride ≤ x := by
      intro x hx
      rw [hrequests, List.mem_range'] at hx
      obtain ⟨i, -, rfl⟩ := hx
      exact Nat.le_add_right _ _
    have hpage : Forward (pageSteps server pos ++ [.paged (pos + stride) .noError]) := by
      refine (forward_of_unaccepted (by simp)).append (List.pairwise_singleton _ _) ?_
      simp
    rw [List.append_cons]
    refine hpage.append ih ?_
    simpa using hlater

theorem empty (h : Traced server stride pos steps stop e) (he : e = .noError) : server stop = [] := by
  induction h with
  | lost hne => exact absurd he hne
  | stopped _ hne => exact absurd he hne
  | ended hnil => exact hnil
  | refused _ hne => exact absurd he hne
  | page _ _ ih => exact ih he

/-- The page callback is called right after every row of a page that has rows was synced. -/
theorem told (h : Traced server stride pos steps stop e) {before after : List (WalkStep ρ)} {next : Nat} {e' : BXillError}
    (hsteps : steps = before ++ .paged next e' :: after) :
    ∃ x, server x ≠ [] ∧ next = x + stride ∧ pageSteps server x <:+ before := by
  induction h generalizing before with
  | lost he =>
    have := congrArg reported hsteps
    simp at this
  | stopped hrows he =>
    have := congrArg reported hsteps
    simp at this
  | ended hnil =>
    have := congrArg reported hsteps
    simp at this
  | @refused pos e hne he =>
    obtain ⟨before', rfl, hrest⟩ := paged_split (by simp) hsteps
    cases before' with
    | nil =>
      obtain ⟨hstep, -⟩ := List.cons.inj hrest
      obtain ⟨rfl, -⟩ := WalkStep.paged.inj hstep
      exact ⟨pos, hne, rfl, by simp⟩
    | cons step before' => simp at hrest
  | @page pos steps stop e hne _ ih =>
    obtain ⟨before', rfl, hrest⟩ := paged_split (by simp) hsteps
    cases before' with
    | nil =>
      obtain ⟨hstep, -⟩ := List.cons.inj hrest
      obtain ⟨rfl, -⟩ := WalkStep.paged.inj hstep
      exact ⟨pos, hne, rfl, by simp⟩
    | cons step before' =>
      obtain ⟨hstep, htail⟩ := List.cons.inj hrest
      subst hstep
      obtain ⟨x, hx, hnext, hsuffix⟩ := ih htail
      exact ⟨x, hx, hnext, hsuffix.trans ((List.suffix_cons _ _).trans (List.suffix_append _ _))⟩

end Traced

/-! ### The attempts -/

theorem Paging.first_pos (p : Paging) {pos : Nat} (h : 0 < pos) : p.first pos = pos := by
  cases p with
  | single | offset => rfl
  | page => exact if_pos (by simpa using h)

theorem Paging.stride_pos {p : Paging} (hp : p ≠ .single) : 0 < p.stride := by
  cases p with
  | single => exact absurd rfl hp
  | offset => decide
  | page => decide

/-- What a sequence of attempts shows from an offset on: which pages were accepted, and in which order. -/
structure Covers (server : Nat → List ρ) (stride pos n : Nat) (steps : List (WalkStep ρ)) : Prop where
  accepted : accepted steps = List.range' (pos + stride) n stride
  pages : ∀ x ∈ List.range' pos n stride, server x ≠ [] ∧ pageSteps server x <:+: steps
  requests : ∀ x ∈ requests steps, pos ≤ x
  forward : Forward steps

namespace Covers

variable {server : Nat → List ρ} {stride pos n m : Nat} {steps steps' : List (WalkStep ρ)}

theorem of_traced {stop : Nat} {e : BXillError} (h : Traced server stride pos steps stop e) :
    ∃ n, stop = pos + stride * n ∧ Covers server stride pos n steps ∧ (BxSync.requests steps).getLast? = some stop := by
  obtain ⟨n, rfl, hrequests, haccepted, hpages⟩ := h.pages
  refine ⟨n, rfl, ⟨haccepted, hpages, fun x hx => ?_, h.forward⟩, ?_⟩
  · rw [hrequests, List.mem_range'] at hx
    obtain ⟨i, -, rfl⟩ := hx
    exact Nat.le_add_right _ _
  · rw [hrequests, List.range'_concat]
    simp

theorem append (h : Covers server stride pos n steps) (h' : Covers server stride (pos + stride * n) m steps') :
    Covers server stride pos (n + m) (steps ++ steps') where
  accepted := by
    rw [accepted_append, h.accepted, h'.accepted, Nat.add_right_comm pos (stride * n), List.range'_append]
  pages x hx := by
    rw [← List.range'_append, List.mem_append] at hx
    rcases hx with hx | hx
    · exact (h.pages x hx).imp_right fun hinfix => hinfix.trans (List.prefix_append _ _).isInfix
    · exact (h'.pages x hx).imp_right fun hinfix => hinfix.trans (List.suffix_append _ _).isInfix
  requests x hx := by
    rw [requests_append, List.mem_append] at hx
    rcases hx with hx | hx
    · exact h.requests x hx
    · exact Nat.le_trans (Nat.le_add_right _ _) (h'.requests x hx)
  forward := by
    refine h.forward.append h'.forward fun next hnext x hx => ?_
    -- What the first part accepted lies before where the second one starts.
    rw [h.accepted, List.mem_range'] at hnext
    obtain ⟨i, hi, rfl⟩ := hnext
    have hle : stride * (i + 1) ≤ stride * n := Nat.mul_le_mul_left stride hi
    rw [Nat.mul_succ] at hle
    have := h'.requests x hx
    omega

/-- A walk goes on where the one before stood when it returned. -/
theorem first_resumeAt (h : Covers server stride pos n steps) {p : Paging} (hpos : 0 < stride)
    {start : Int} (hstart : p.first start = pos) : p.first (resumeAt start steps) = pos + stride * n := by
  unfold resumeAt
  rw [h.accepted]
  cases n with
  | zero => exact hstart
  | succ n =>
    have hlast : (List.range' (pos + stride) (n + 1) stride).getLast? = some (pos + stride * (n + 1)) := by
      rw [List.range'_concat, Nat.mul_succ, Nat.add_right_comm]
      simp [Nat.add_assoc]
    rw [hlast]
    refine p.first_pos ?_
    rw [Nat.mul_succ]
    omega

end Covers

variable (w : Walker σ κ ρ) (server : Nat → List ρ) {p : Paging} (hp : p ≠ .single)

include hp

theorem Attempt.traced (t : Attempt σ κ) (start : Int) :
    ∃ stop, Traced server p.stride (p.first start) (t.walk w server p start).steps stop (t.walk w server p start).error :=
  traced_walkSteps w server hp t.answered (p.first start) t.store t.cursor

theorem covers_walkAttempts (start : Int) (attempts : List (Attempt σ κ)) :
    let walks := walkAttempts w server p start attempts
    let steps := walks.flatMap PagedWalk.steps
    ∃ n, Covers server p.stride (p.first start) n steps ∧
      (walks.getLast?.map PagedWalk.error = some .noError →
        server (p.first start + p.stride * n) = [] ∧ (requests steps).getLast? = some (p.first start + p.stride * n)) := by
  induction attempts generalizing start with
  | nil => exact ⟨0, ⟨rfl, by simp [walkAttempts], by simp [walkAttempts], List.Pairwise.nil⟩, nofun⟩
  | cons t rest ih =>
    obtain ⟨stop, htraced⟩ := t.traced w server hp start
    obtain ⟨n, hstop, hcovers, hlast⟩ := Covers.of_traced htraced
    unfold walkAttempts
    dsimp only
    split
    · rename_i hok
      rw [List.flatMap_singleton]
      exact ⟨n, hcovers, fun _ => ⟨hstop ▸ htraced.empty hok, hstop ▸ hlast⟩⟩
    · rename_i he
      obtain ⟨m, hrest, hend⟩ := ih (resumeAt start (t.walk w server p start).steps)
      rw [hcovers.first_resumeAt (Paging.stride_pos hp) rfl] at hrest hend
      rw [List.flatMap_cons]
      refine ⟨n + m, hcovers.append hrest, fun hfinal => ?_⟩
      rw [List.getLast?_cons, Option.map_some] at hfinal
      cases hwalks : (walkAttempts w server p (resumeAt start (t.walk w server p start).steps) rest).getLast? with
      | none =>
        rw [hwalks] at hfinal
        exact absurd (Option.some.inj hfinal) he
      | some final =>
        rw [hwalks] at hfinal
        obtain ⟨hempty, hlast'⟩ := hend (by rw [hwalks]; exact hfinal)
        rw [Nat.mul_add, ← Nat.add_assoc, requests_append, List.getLast?_append]
        exact ⟨hempty, by rw [hlast']; rfl⟩

/-- A call tells the page callback of a page right after it synced every row of it, and tells it of the first
    pages in order. However often it is interrupted and started again at the last offset accepted: once it
    returns NoError every page from the start on was synced as a whole, the pages were accepted once each and
    in order, no request went back behind an accepted page, and the last one was for the first empty page. An
    uninterrupted walk accepts the same pages and ends at the same one. -/
theorem walkResume (start : Int) :
    (∀ t : Attempt σ κ,
      let walk := t.walk w server p start
      (∀ before next e after, walk.steps = before ++ .paged next e :: after →
        ∃ x, server x ≠ [] ∧ next = x + p.stride ∧ pageSteps server x <:+ before) ∧
      ∃ m, reported walk.steps = List.range' (p.first start + p.stride) m p.stride ∧
        ∀ x ∈ List.range' (p.first start) m p.stride, server x ≠ []) ∧
    ∀ attempts : List (Attempt σ κ),
      let walks := walkAttempts w server p start attempts
      let steps := walks.flatMap PagedWalk.steps
      Forward steps ∧
      (walks.getLast?.map PagedWalk.error = some .noError →
        ∃ n, server (p.first start + p.stride * n) = [] ∧
          (∀ x ∈ List.range' (p.first start) n p.stride, server x ≠ [] ∧ pageSteps server x <:+: steps) ∧
          accepted steps = List.range' (p.first start + p.stride) n p.stride ∧
          (requests steps).getLast? = some (p.first start + p.stride * n) ∧
          ∀ t : Attempt σ κ, (t.walk w server p start).error = .noError →
            requests (t.walk w server p start).steps = List.range' (p.first start) (n + 1) p.stride ∧
            accepted (t.walk w server p start).steps = accepted steps) := by
  refine ⟨fun t => ?_, fun attempts => ?_⟩
  · obtain ⟨stop, htraced⟩ := t.traced w server hp start
    exact ⟨fun _ _ _ _ hsteps => htraced.told hsteps, htraced.reports⟩
  · obtain ⟨n, hcovers, hend⟩ := covers_walkAttempts w server hp start attempts
    refine ⟨hcovers.forward, fun hfinal => ?_⟩
    obtain ⟨hempty, hlast⟩ := hend hfinal
    refine ⟨n, hempty, hcovers.pages, hcovers.accepted, hlast, fun t hok => ?_⟩
    obtain ⟨stop, htraced⟩ := t.traced w server hp start
    obtain ⟨m, hstop, hrequests, haccepted, hpages⟩ := htraced.pages
    -- Both end at the first empty page.
    have hstride := Paging.stride_pos hp
    obtain rfl : m = n := by
      rcases Nat.lt_trichotomy m n with hlt | heq | hlt
      · have hmem : stop ∈ List.range' (p.first start) n p.stride := List.mem_range'.mpr ⟨m, hlt, hstop⟩
        exact absurd (htraced.empty hok) (hcovers.pages stop hmem).1
      · exact heq
      · exact absurd hempty (hpages _ (List.mem_range'.mpr ⟨n, hlt, rfl⟩)).1
    exact ⟨hrequests, haccepted.trans hcovers.accepted.symm⟩

end

/-- Two pages of a list that is paged by number. The first walk loses the connection at row 3, the second one
    starts at page 2. -/
theorem walkResume_rowFailed :
    let server : Nat → List Nat := fun page => if page = 1 then [1, 2] else if page = 2 then [3] else []
    let w : Walker Nat Unit Nat :=
      { list := .file, rowId := some
        sync := fun left _ => if left = 0 then (.errorSQLReconnect, 0) else (.noError, left - 1)
        onPage := fun k _ _ => (.noError, k, none) }
    let answered := [some Save.written, some .written, some .written]
    let steps := (walkAttempts w server .page 0 [⟨answered, 2, ()⟩, ⟨answered, 9, ()⟩]).flatMap PagedWalk.steps
    requests steps = [1, 2, 2, 3] ∧ Forward steps ∧ ∃ n, server (1 + 1 * n) = [] ∧ accepted steps = List.range' 2 n := by
  intro server w answered steps
  obtain ⟨hforward, hend⟩ := (walkResume w server (p := .page) nofun 0).2 [⟨answered, 2, ()⟩, ⟨answered, 9, ()⟩]
  obtain ⟨n, hempty, -, haccepted, -⟩ := hend (by decide)
  exact ⟨by decide, hforward, n, hempty, haccepted⟩

end BxSync
