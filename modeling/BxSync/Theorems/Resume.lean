import BxSync.Theorems.CallLog

/-! Crashes and restarts. Phases are numbered through the cycles, so that the cursor in memory and the saved
    row are places in one order. Neither is ever beyond what the processes have accepted. -/

namespace BxSync

/-! ### Stages -/

def BXChainPhase.index : BXChainPhase → Nat
  | .contactActive => 0
  | .contactArchived => 1
  | .project => 2
  | .invoiceList => 3
  | .invoiceMissed => 4

/-- The phase of a stage. Five stages are a cycle. -/
def phaseAt (stage : Nat) : BXChainPhase :=
  match stage % 5 with
  | 0 => .contactActive
  | 1 => .contactArchived
  | 2 => .project
  | 3 => .invoiceList
  | _ => .invoiceMissed

/-- The first stage of a phase from a stage on. -/
def stageOf (stage : Nat) (phase : BXChainPhase) : Nat := stage + (phase.index + 5 - stage % 5) % 5

theorem phaseAt_index {stage : Nat} {phase : BXChainPhase} : phaseAt stage = phase ↔ stage % 5 = phase.index := by
  unfold phaseAt
  have : stage % 5 < 5 := Nat.mod_lt _ (by decide)
  split <;> cases phase <;> (simp_all [BXChainPhase.index]; try omega)

theorem index_lt (phase : BXChainPhase) : phase.index < 5 := by
  cases phase <;> decide

@[simp] theorem phaseAt_stageOf (stage : Nat) (phase : BXChainPhase) : phaseAt (stageOf stage phase) = phase := by
  rw [phaseAt_index, stageOf]
  have := index_lt phase
  omega

@[simp] theorem phaseAt_start (phase : BXChainPhase) : phaseAt phase.index = phase := by
  cases phase <;> rfl

@[simp] theorem stageOf_phaseAt {stage : Nat} {phase : BXChainPhase} (h : phaseAt stage = phase) : stageOf stage phase = stage := by
  rw [stageOf, ← phaseAt_index.mp h]
  omega

/-- A phase leads to the next stage, and a resumed list over the missed phase. -/
theorem stageOf_leads {stage start : Nat} {next : BXChainPhase} (h : (phaseAt stage).Leads start next) :
    stageOf stage next = stage + 1 ∨
      (phaseAt (stage + 1) = .invoiceMissed ∧ start ≠ 0 ∧ stageOf stage next = stage + 2) := by
  have hindex := phaseAt_index.mp (rfl : phaseAt stage = phaseAt stage)
  rcases h with rfl | ⟨hlist, hstart, rfl⟩
  · left
    rw [stageOf]
    cases hp : phaseAt stage <;> rw [hp] at hindex <;> simp only [BXChainPhase.next, BXChainPhase.index] at hindex ⊢ <;> omega
  · right
    rw [hlist] at hindex
    refine ⟨phaseAt_index.mpr ?_, hstart, ?_⟩
    · simp only [BXChainPhase.index] at hindex ⊢
      omega
    · simp only [stageOf, BXChainPhase.index] at hindex ⊢
      omega

/-! ### Lives of the chain -/

/-- A call as it was logged, up to a crash in it: its stage, the cursor it began with, and the save of the next phase. -/
structure Logged where
  stage : Nat
  start : BXChainCursor
  save : Save
  events : List Event

/-- A process and the row, with the stages of its two cursors, and the calls of all processes so far. -/
structure Life where
  chain : ChainState
  stage : Nat
  rowStage : Nat
  history : List Logged

inductive LifeInput
  | call (i : ChainStepInput)
  /-- A crash after `cut` events of a call. The next process starts from the row, with caches of its own. -/
  | crash (i : ChainStepInput) (cut : Nat) (db : Database) (contacts projects invoices : Cache)

namespace Life

def start (db : Database) (contacts projects invoices : Cache) (row : BXChainCursor) : Life where
  chain := bxChainInit db contacts projects invoices row
  stage := row.phase.index
  rowStage := row.phase.index
  history := []

def logged (l : Life) (i : ChainStepInput) (events : List Event) : Logged where
  stage := l.stage
  start := l.chain.cursors.memory
  save := i.sync.save
  events := events

/-- The row after some events of a call, and its stage. -/
def rowAfter (l : Life) (events : List Event) : BXChainCursor := (lastSaved events).getD l.chain.cursors.row

def rowStageAfter (l : Life) (events : List Event) : Nat :=
  match lastSaved events with
  | none => l.rowStage
  | some c => stageOf l.stage c.phase

def step (l : Life) : LifeInput → Life
  | .call i =>
    let step := chainStep l.chain i
    let events := step.1.out.log
    { chain := step.2
      stage := stageOf l.stage step.2.cursors.memory.phase
      rowStage := l.rowStageAfter events
      history := l.history ++ [l.logged i events] }
  | .crash i cut db contacts projects invoices =>
    let events := (chainStep l.chain i).1.out.log.take cut
    { chain := bxChainInit db contacts projects invoices (l.rowAfter events)
      stage := l.rowStageAfter events
      rowStage := l.rowStageAfter events
      history := l.history ++ [l.logged i events] }

end Life

/-! ### The property -/

/-- The position of a list of the stage was on a page that was accepted. -/
def Logged.accepted (c : Logged) (stage x : Nat) : Prop :=
  c.stage = stage ∧ ∃ o, .accepted (phaseAt stage).list o ∈ c.events ∧ o ≤ x ∧ x < o + bxillListLimit

/-- The phase of the stage returned NoError. -/
def Logged.finished (c : Logged) (stage : Nat) : Prop := c.stage = stage ∧ (phaseAt stage).done ∈ c.events

/-- The same, or the stage is a missed phase that was left out after a list that had been resumed. -/
def Logged.passed (c : Logged) (stage : Nat) : Prop :=
  c.finished stage ∨
    (phaseAt stage = .invoiceMissed ∧ c.stage + 1 = stage ∧ c.finished c.stage ∧ c.start.offset ≠ 0)

/-- What the saved row promises to a restart, and how the memory stands to it. `base` is the row of the first
    process, and `passed` says when a call has passed a stage. -/
structure ResumeSafe (passed : Logged → Nat → Prop) (base : BXChainCursor) (l : Life) : Prop where
  /-- A restart lists every position again that is not on an accepted page. -/
  pages : ∀ x, (l.rowStage = base.phase.index → base.offset ≤ x) → (∀ c ∈ l.history, ¬c.accepted l.rowStage x) →
    (normalize l.chain.cursors.row).offset ≤ x
  /-- No stage before the row is skipped. -/
  stages : ∀ stage, base.phase.index ≤ stage → stage < l.rowStage → ∃ c ∈ l.history, passed c stage
  /-- The memory is in the phase of the row and not after it, or at the start of a later one. -/
  memory : (l.stage = l.rowStage ∧ l.chain.cursors.memory.offset ≤ l.chain.cursors.row.offset) ∨
    (l.rowStage < l.stage ∧ l.chain.cursors.memory.offset = 0)
  /-- It is ahead by stages that were passed by a call whose save failed. -/
  ahead : ∀ stage, l.rowStage ≤ stage → stage < l.stage → ∃ c ∈ l.history, passed c stage ∧ ¬c.save.ok
  phase : phaseAt l.stage = l.chain.cursors.memory.phase
  rowPhase : phaseAt l.rowStage = l.chain.cursors.row.phase

/-! ### What the processes have reached -/

/-- All before the offset of a stage was accepted or passed. -/
structure Reached (history : List Logged) (base : BXChainCursor) (stage offset : Nat) : Prop where
  pages : ∀ x, (stage = base.phase.index → base.offset ≤ x) → x < offset → ∃ c ∈ history, c.accepted stage x
  stages : ∀ p, base.phase.index ≤ p → p < stage → ∃ c ∈ history, c.passed p

namespace Reached

variable {history : List Logged} {base : BXChainCursor} {stage offset : Nat}

theorem append (h : Reached history base stage offset) (c : Logged) : Reached (history ++ [c]) base stage offset where
  pages x hx hlt :=
    let ⟨d, hd, hacc⟩ := h.pages x hx hlt
    ⟨d, List.mem_append_left _ hd, hacc⟩
  stages p hp hlt :=
    let ⟨d, hd, hpassed⟩ := h.stages p hp hlt
    ⟨d, List.mem_append_left _ hd, hpassed⟩

theorem mono (h : Reached history base stage offset) {offset' : Nat} (hle : offset' ≤ offset) :
    Reached history base stage offset' where
  pages x hx hlt := h.pages x hx (hlt.trans_le hle)
  stages := h.stages

theorem extend {c : Logged} {x : Nat} (h : Reached history base stage offset) (hstage : c.stage = stage)
    (hcovered : Covered (phaseAt stage).list offset x c.events) : Reached (history ++ [c]) base stage x where
  pages y hy hlt := by
    rcases Nat.lt_or_ge y offset with hbefore | hafter
    · obtain ⟨d, hd, hacc⟩ := h.pages y hy hbefore
      exact ⟨d, List.mem_append_left _ hd, hacc⟩
    · exact ⟨c, by simp, hstage, hcovered y hafter hlt⟩
  stages := (h.append c).stages

theorem advance {c : Logged} {next : BXChainPhase} (h : Reached history base stage offset) (hstage : c.stage = stage)
    (hleads : (phaseAt stage).Leads c.start.offset next) (hdone : (phaseAt stage).done ∈ c.events) :
    Reached (history ++ [c]) base (stageOf stage next) 0 ∧
      ∀ p, stage ≤ p → p < stageOf stage next → c.passed p := by
  have hfinished : c.finished stage := ⟨hstage, hdone⟩
  have hpassed : ∀ p, stage ≤ p → p < stageOf stage next → c.passed p := by
    intro p hle hlt
    rcases stageOf_leads hleads with hnext | ⟨hmissed, hstart, hnext⟩
    · obtain rfl : p = stage := by omega
      exact Or.inl hfinished
    · rcases Nat.eq_or_lt_of_le hle with rfl | hgt
      · exact Or.inl hfinished
      · obtain rfl : p = stage + 1 := by omega
        exact Or.inr ⟨hmissed, by rw [hstage], by rwa [hstage], hstart⟩
  refine ⟨⟨fun x _ hlt => absurd hlt (by omega), fun p hp hlt => ?_⟩, hpassed⟩
  rcases Nat.lt_or_ge p stage with hbefore | hafter
  · obtain ⟨d, hd, hold⟩ := h.stages p hp hbefore
    exact ⟨d, List.mem_append_left _ hd, hold⟩
  · exact ⟨c, by simp, hpassed p hafter hlt⟩

end Reached

/-! ### Runs -/

structure LifeInv (base : BXChainCursor) (l : Life) : Prop where
  memory : Reached l.history base l.stage l.chain.cursors.memory.offset
  row : Reached l.history base l.rowStage l.chain.cursors.row.offset
  order : (l.stage = l.rowStage ∧ l.chain.cursors.memory.offset ≤ l.chain.cursors.row.offset) ∨
    (l.rowStage < l.stage ∧ l.chain.cursors.memory.offset = 0)
  ahead : ∀ stage, l.rowStage ≤ stage → stage < l.stage → ∃ c ∈ l.history, c.passed stage ∧ ¬c.save.ok
  phase : phaseAt l.stage = l.chain.cursors.memory.phase
  rowPhase : phaseAt l.rowStage = l.chain.cursors.row.phase

theorem offset_normalize (c : BXChainCursor) : (normalize c).offset ≤ c.offset := by
  unfold normalize
  split
  · exact Nat.zero_le _
  · exact le_rfl

theorem LifeInv.safe {base : BXChainCursor} {l : Life} (h : LifeInv base l) : ResumeSafe Logged.passed base l where
  pages x hx hno := by
    by_contra hlt
    obtain ⟨c, hc, hacc⟩ := h.row.pages x hx ((not_le.mp hlt).trans_le (offset_normalize _))
    exact hno c hc hacc
  stages := h.row.stages
  memory := h.order
  ahead := h.ahead
  phase := h.phase
  rowPhase := h.rowPhase

/-- While the phase goes on, the row is where it was or in the stage of the memory. -/
theorem Life.rowStage_walked {l : Life} {log : List Event} {next : BXChainPhase} {start : Nat} {m : Option Nat} {k : Cursors}
    (hw : Walked (phaseAt l.stage) next start l.chain.cursors log m k) :
    (l.rowStageAfter log = l.rowStage ∧ k.row = l.chain.cursors.row ∧ k.memory = l.chain.cursors.memory) ∨
      (l.rowStageAfter log = l.stage ∧ k.memory.offset ≤ k.row.offset) := by
  have hrow := hw.row
  unfold Life.rowStageAfter
  rcases hw.behind with ⟨hlast, hmemory⟩ | ⟨c, hlast, hphase, hle⟩
  · rw [hlast] at hrow ⊢
    exact Or.inl ⟨rfl, hrow, hmemory⟩
  · rw [hlast] at hrow ⊢
    rw [hrow]
    exact Or.inr ⟨stageOf_phaseAt hphase.symm, hle⟩

section

variable {base : BXChainCursor} {l : Life} (h : LifeInv base l) (i : ChainStepInput)

include h

theorem LifeInv.rowAfter {events : List Event} {next : BXChainPhase} {m : Option Nat}
    (ht : Tracked (phaseAt l.stage) next l.chain.cursors.memory.offset events m)
    (hleads : (phaseAt l.stage).Leads l.chain.cursors.memory.offset next) :
    Reached (l.history ++ [l.logged i events]) base (l.rowStageAfter events) (l.rowAfter events).offset ∧
      phaseAt (l.rowStageAfter events) = (l.rowAfter events).phase := by
  unfold Life.rowStageAfter Life.rowAfter
  cases hlast : lastSaved events with
  | none => exact ⟨h.row.append _, h.rowPhase⟩
  | some c =>
    refine ⟨?_, phaseAt_stageOf _ _⟩
    rcases ht.lastSaved_reached hlast with ⟨hphase, hcovered⟩ | ⟨rfl, hdone⟩
    · dsimp only
      rw [hphase, stageOf_phaseAt rfl]
      exact h.memory.extend rfl hcovered
    · exact (h.memory.advance (c := l.logged i events) rfl hleads hdone).1

theorem LifeInv.crash (cut : Nat) (db : Database) (contacts projects invoices : Cache) :
    LifeInv base (l.step (.crash i cut db contacts projects invoices)) := by
  obtain ⟨next, hleads, hcalled⟩ := called_bxChainSync l.chain i.sync
  obtain ⟨_, htracked⟩ := hcalled.tracked
  obtain ⟨m, hcut⟩ := htracked.take cut
  rw [← h.phase] at hleads hcut
  obtain ⟨hrow, hphase⟩ := h.rowAfter i hcut hleads
  exact
    { memory := hrow.mono (offset_normalize _)
      row := hrow
      order := Or.inl ⟨rfl, offset_normalize _⟩
      ahead := fun stage hle hlt => absurd hlt (not_lt.mpr hle)
      phase := hphase.trans (phase_normalize _).symm
      rowPhase := hphase }

theorem LifeInv.call_stays {next : BXChainPhase} {f : Nat} {log : List Event} {k : Cursors}
    (hw : Walked (phaseAt l.stage) next l.chain.cursors.memory.offset l.chain.cursors log (some f) k)
    (hrow : Reached (l.history ++ [l.logged i log]) base (l.rowStageAfter log) (l.rowAfter log).offset ∧
      phaseAt (l.rowStageAfter log) = (l.rowAfter log).phase) {chain : ChainState} (hk : chain.cursors = k) :
    LifeInv base
      { chain, stage := stageOf l.stage chain.cursors.memory.phase, rowStage := l.rowStageAfter log
        history := l.history ++ [l.logged i log] } := by
  obtain rfl := hk
  have hrowEq : chain.cursors.row = l.rowAfter log := hw.row
  have hstage : stageOf l.stage chain.cursors.memory.phase = l.stage := by rw [hw.memory, stageOf_phaseAt rfl]
  rw [← hrowEq] at hrow
  rw [hstage]
  refine { memory := ?_, row := hrow.1, order := ?_, ahead := ?_, phase := hw.memory.symm, rowPhase := hrow.2 }
  · exact (h.memory.extend rfl (hw.tracked.covered rfl).2).mono (hw.low f rfl)
  · rcases Life.rowStage_walked hw with ⟨hs, hr, hm⟩ | ⟨hs, hle⟩
    · dsimp only
      rw [hs, hr, hm]
      exact h.order
    · exact Or.inl ⟨hs.symm, hle⟩
  · intro stage hle hlt
    rcases Life.rowStage_walked hw with ⟨hs, -, -⟩ | ⟨hs, -⟩
    · obtain ⟨c, hc, hpassed⟩ := h.ahead stage (hs ▸ hle) hlt
      exact ⟨c, List.mem_append_left _ hc, hpassed⟩
    · exact absurd hlt (not_lt.mpr (hs ▸ hle))

/-- A phase that ends: the memory is at the next one, and the row as well unless the save failed. -/
theorem LifeInv.call_ends {next : BXChainPhase} {log : List Event} {k : Cursors}
    (hleads : (phaseAt l.stage).Leads l.chain.cursors.memory.offset next)
    (hw : Walked (phaseAt l.stage) next l.chain.cursors.memory.offset l.chain.cursors log none k) {log' : List Event}
    (hlog : log' = log ++ (advancePhase k next i.sync.save).2.2.toList.map Event.saved)
    (hrow : Reached (l.history ++ [l.logged i log']) base (l.rowStageAfter log') (l.rowAfter log').offset ∧
      phaseAt (l.rowStageAfter log') = (l.rowAfter log').phase) {chain : ChainState}
    (hk : chain.cursors = (advancePhase k next i.sync.save).2.1) :
    LifeInv base
      { chain, stage := stageOf l.stage chain.cursors.memory.phase, rowStage := l.rowStageAfter log'
        history := l.history ++ [l.logged i log'] } := by
  have hmemory : chain.cursors.memory = ⟨next, 0⟩ := by rw [hk]; exact normalize_zero next
  have hdone : (phaseAt l.stage).done ∈ log' := by
    rw [hlog]
    exact List.mem_append_left _ (hw.tracked.done_mem rfl)
  obtain ⟨hreached, hpassed⟩ := h.memory.advance (c := l.logged i log') rfl hleads hdone
  have hlater : l.stage < stageOf l.stage next := by
    rcases stageOf_leads hleads with hnext | ⟨-, -, hnext⟩ <;> omega
  have hstage : stageOf l.stage chain.cursors.memory.phase = stageOf l.stage next := by rw [hmemory]
  -- The row is at the next phase, or it is as the walk left it and the save failed.
  have hsaved : (l.rowStageAfter log' = stageOf l.stage next ∧ chain.cursors.row = ⟨next, 0⟩ ∧ l.rowAfter log' = ⟨next, 0⟩) ∨
      (l.rowStageAfter log' = l.rowStageAfter log ∧ chain.cursors.row = l.rowAfter log' ∧ ¬i.sync.save.ok) := by
    have hwritten : lastSaved (log ++ [.saved ⟨next, 0⟩]) = some ⟨next, 0⟩ := by
      rw [lastSaved_append, lastSaved_saved, Option.some_or]
    rw [hk, hlog]
    unfold advancePhase Life.rowStageAfter Life.rowAfter
    rw [normalize_zero]
    cases i.sync.save with
    | failed => exact Or.inr ⟨by simp [Save.wrote], by simp [Save.row, Save.wrote, hw.row], nofun⟩
    | written | unreported => exact Or.inl ⟨by simp [Save.wrote, hwritten], rfl, by simp [Save.wrote, hwritten]⟩
  have hrowEq : chain.cursors.row = l.rowAfter log' := by
    rcases hsaved with ⟨-, hr, hr'⟩ | ⟨-, hr, -⟩
    · exact hr.trans hr'.symm
    · exact hr
  rw [← hrowEq] at hrow
  rw [hstage]
  refine { memory := ?_, row := hrow.1, order := ?_, ahead := ?_, phase := ?_, rowPhase := hrow.2 }
  · dsimp only
    rw [hmemory]
    exact hreached
  · rcases hsaved with ⟨hs, -, -⟩ | ⟨hs, -, -⟩
    · exact Or.inl ⟨hs.symm, by dsimp only; rw [hmemory]; exact Nat.zero_le _⟩
    · refine Or.inr ⟨?_, by dsimp only; rw [hmemory]⟩
      dsimp only
      rcases Life.rowStage_walked hw with ⟨hw', -, -⟩ | ⟨hw', -⟩
      · have := h.order
        omega
      · omega
  · intro stage hle hlt
    dsimp only at hle hlt
    rcases hsaved with ⟨hs, -, -⟩ | ⟨hs, -, hfailed⟩
    · omega
    · rcases Nat.lt_or_ge stage l.stage with hbefore | hafter
      · rcases Life.rowStage_walked hw with ⟨hw', -, -⟩ | ⟨hw', -⟩
        · obtain ⟨c, hc, hold⟩ := h.ahead stage (by omega) hbefore
          exact ⟨c, List.mem_append_left _ hc, hold⟩
        · omega
      · exact ⟨l.logged i log', by simp, hpassed stage hafter hlt, hfailed⟩
  · dsimp only
    rw [phaseAt_stageOf, hmemory]

theorem LifeInv.call : LifeInv base (l.step (.call i)) := by
  obtain ⟨next, hleads, hcalled⟩ := called_bxChainSync l.chain i.sync
  obtain ⟨_, htracked⟩ := hcalled.tracked
  rw [← h.phase] at hleads hcalled htracked
  have hrow := h.rowAfter i htracked hleads
  have hcursors := chainStep_cursors l.chain i
  generalize hlog : (bxChainSync l.chain i.sync).log = log at hcalled hrow
  generalize hk : (bxChainSync l.chain i.sync).state.cursors = k at hcalled hcursors
  have hstep : l.step (.call i) =
      { chain := (chainStep l.chain i).2
        stage := stageOf l.stage (chainStep l.chain i).2.cursors.memory.phase
        rowStage := l.rowStageAfter log
        history := l.history ++ [l.logged i log] } := by
    rw [← hlog]
    rfl
  rw [hstep]
  cases hcalled with
  | stays hw => exact h.call_stays i hw hrow hcursors
  | ends hw => exact h.call_ends i hleads hw rfl hrow hcursors

end

theorem lifeInv_start (db : Database) (contacts projects invoices : Cache) (row : BXChainCursor) :
    LifeInv row (.start db contacts projects invoices row) where
  memory :=
    { pages := fun _ hx hlt => absurd ((hx rfl).trans_lt hlt) (not_lt.mpr (offset_normalize row))
      stages := fun _ hle hlt => absurd hlt (not_lt.mpr hle) }
  row :=
    { pages := fun _ hx hlt => absurd hlt (not_lt.mpr (hx rfl))
      stages := fun _ hle hlt => absurd hlt (not_lt.mpr hle) }
  order := Or.inl ⟨rfl, offset_normalize row⟩
  ahead := fun _ hle hlt => absurd hlt (not_lt.mpr hle)
  phase := (phaseAt_start _).trans (phase_normalize _).symm
  rowPhase := phaseAt_start _

/-- After any calls and crashes, from any row, a restart from the row is safe. -/
theorem resumeSafe (db : Database) (contacts projects invoices : Cache) (row : BXChainCursor) (inputs : List LifeInput) :
    ResumeSafe Logged.passed row (inputs.foldl Life.step (.start db contacts projects invoices row)) := by
  have hrun : ∀ l, LifeInv row l → LifeInv row (inputs.foldl Life.step l) := by
    induction inputs with
    | nil => exact fun _ h => h
    | cons input inputs ih =>
      intro l h
      cases input with
      | call i => exact ih _ (h.call i)
      | crash i cut db contacts projects invoices => exact ih _ (h.crash i cut db contacts projects invoices)
  exact (hrun _ (lifeInv_start db contacts projects invoices row)).safe

/-- An invoice list that was resumed at 500 ends at an empty page. The row is at the contacts of the next
    cycle, and no missed phase finished. -/
theorem resumeSafe_listResumed :
    ¬ResumeSafe Logged.finished ⟨.invoiceList, 500⟩
      ([LifeInput.call (.of { ChainInput.silent with invoices := [savedPage []] })].foldl Life.step
        (.start .empty cacheCreate cacheCreate cacheCreate ⟨.invoiceList, 500⟩)) := by
  intro h
  obtain ⟨c, hc, hstage, -⟩ := h.stages 4 (by decide) (by decide)
  obtain rfl := List.mem_singleton.mp hc
  exact absurd hstage (by decide)

end BxSync
