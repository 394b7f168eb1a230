import BxSync.Theorems.Phases

/-! What one call of the chain writes to its log, and how far each saved cursor in it reaches. The offset up to
    which the pages of the phase were accepted only grows, and a saved cursor is never beyond it. -/

namespace BxSync

/-- The list of a phase. -/
def BXChainPhase.list : BXChainPhase → Listing
  | .contactActive => .contactActive
  | .contactArchived => .contactArchived
  | .project => .project
  | .invoiceList => .invoice
  | .invoiceMissed => .invoice

/-- The event of a phase that returned NoError. -/
def BXChainPhase.done (phase : BXChainPhase) : Event :=
  if phase = .invoiceMissed then .fetchedMissed else .walked phase.list

/-- Neither accepts a page nor saves a cursor nor ends a phase. -/
def Event.quiet : Event → Bool
  | .showed .. | .handed .. | .got .. | .loaded _ | .deleted _ => true
  | .accepted .. | .walked _ | .saved _ | .fetchedMissed => false

def Event.savedCursor : Event → Option BXChainCursor
  | .saved c => some c
  | _ => none

/-- The cursor that was saved last. -/
def lastSaved (log : List Event) : Option BXChainCursor := (log.filterMap Event.savedCursor).getLast?

theorem lastSaved_append (log log' : List Event) : lastSaved (log ++ log') = (lastSaved log').or (lastSaved log) := by
  unfold lastSaved
  rw [List.filterMap_append, List.getLast?_append]

@[simp] theorem lastSaved_nil : lastSaved [] = none := rfl
@[simp] theorem lastSaved_saved (c : BXChainCursor) : lastSaved [.saved c] = some c := rfl

theorem lastSaved_unsaved {e : Event} (h : e.savedCursor = none) : lastSaved [e] = none := by
  simp [lastSaved, h]

/-! ### The shape of a log -/

/-- The log of a phase that began at `start` and is followed by `next`, up to the frontier: the offset up to
    which its pages were accepted, and none when the phase is done. -/
inductive Tracked (phase next : BXChainPhase) (start : Nat) : List Event → Option Nat → Prop
  | nil : Tracked phase next start [] (some start)
  | quiet {log m e} : Tracked phase next start log m → e.quiet = true → Tracked phase next start (log ++ [e]) m
  | accepted {log f} : Tracked phase next start log (some f) →
      Tracked phase next start (log ++ [.accepted phase.list f]) (some (f + bxillListLimit))
  | checkpoint {log f} : Tracked phase next start log (some f) →
      Tracked phase next start (log ++ [.saved ⟨phase, f⟩]) (some f)
  | done {log f} : Tracked phase next start log (some f) → Tracked phase next start (log ++ [phase.done]) none
  | advanced {log} : Tracked phase next start log none → Tracked phase next start (log ++ [.saved ⟨next, 0⟩]) none

/-- The positions from `start` up to `x` are on accepted pages. -/
def Covered (list : Listing) (start x : Nat) (log : List Event) : Prop :=
  ∀ y, start ≤ y → y < x → ∃ o, .accepted list o ∈ log ∧ o ≤ y ∧ y < o + bxillListLimit

theorem Covered.append {list : Listing} {start x : Nat} {log : List Event} (h : Covered list start x log) (log' : List Event) :
    Covered list start x (log ++ log') := fun y hy hlt =>
  let ⟨o, hmem, ho⟩ := h y hy hlt
  ⟨o, List.mem_append_left _ hmem, ho⟩

namespace Tracked

variable {phase next : BXChainPhase} {start : Nat} {log : List Event} {m : Option Nat}

theorem quiet_append (h : Tracked phase next start log m) {log' : List Event} (hq : ∀ e ∈ log', e.quiet = true) :
    Tracked phase next start (log ++ log') m := by
  induction log' generalizing log with
  | nil => simpa using h
  | cons e log' ih =>
    rw [List.forall_mem_cons] at hq
    have := ih (h.quiet hq.1) hq.2
    rwa [List.append_assoc] at this

theorem take (h : Tracked phase next start log m) (n : Nat) : ∃ m', Tracked phase next start (log.take n) m' := by
  have snoc : ∀ {log : List Event} {e : Event} {m' : Option Nat}, Tracked phase next start (log ++ [e]) m' →
      (∃ m', Tracked phase next start (log.take n) m') → ∃ m', Tracked phase next start ((log ++ [e]).take n) m' := by
    intro log e m' hwhole ⟨m'', hpart⟩
    rcases Nat.lt_or_ge log.length n with hlt | hle
    · exact ⟨m', by rwa [List.take_of_length_le (by rw [List.length_append]; exact hlt)]⟩
    · exact ⟨m'', by rwa [List.take_append_of_le_length hle]⟩
  induction h with
  | nil => exact ⟨_, by simpa using .nil⟩
  | quiet h he ih => exact snoc (h.quiet he) ih
  | accepted h ih => exact snoc h.accepted ih
  | checkpoint h ih => exact snoc h.checkpoint ih
  | done h ih => exact snoc h.done ih
  | advanced h ih => exact snoc h.advanced ih

theorem covered {f : Nat} (h : Tracked phase next start log m) (hm : m = some f) :
    start ≤ f ∧ Covered phase.list start f log := by
  induction h generalizing f with
  | nil =>
    obtain rfl := Option.some.inj hm
    exact ⟨le_rfl, fun y hy hlt => absurd hlt (by omega)⟩
  | quiet _ _ ih => exact ⟨(ih hm).1, (ih hm).2.append _⟩
  | @accepted log g _ ih =>
    obtain rfl := Option.some.inj hm
    obtain ⟨hle, hcovered⟩ := ih rfl
    refine ⟨by omega, fun y hy hlt => ?_⟩
    by_cases hyg : y < g
    · exact hcovered.append _ y hy hyg
    · exact ⟨g, by simp, by omega, hlt⟩
  | checkpoint _ ih => exact ⟨(ih hm).1, (ih hm).2.append _⟩
  | done => exact nomatch hm
  | advanced => exact nomatch hm

theorem done_mem (h : Tracked phase next start log m) (hm : m = none) : phase.done ∈ log := by
  induction h with
  | nil | accepted | checkpoint => exact nomatch hm
  | quiet _ _ ih => exact List.mem_append_left _ (ih hm)
  | done => simp
  | advanced _ ih => exact List.mem_append_left _ (ih hm)

/-- A saved cursor is in the phase and over accepted pages, or is the next phase after the phase was done. -/
theorem lastSaved_reached (h : Tracked phase next start log m) {c : BXChainCursor} (hc : lastSaved log = some c) :
    (c.phase = phase ∧ Covered phase.list start c.offset log) ∨ (c = ⟨next, 0⟩ ∧ phase.done ∈ log) := by
  have keep : ∀ {log : List Event} {e : Event}, e.savedCursor = none → lastSaved (log ++ [e]) = some c →
      (lastSaved log = some c →
        (c.phase = phase ∧ Covered phase.list start c.offset log) ∨ (c = ⟨next, 0⟩ ∧ phase.done ∈ log)) →
      (c.phase = phase ∧ Covered phase.list start c.offset (log ++ [e])) ∨ (c = ⟨next, 0⟩ ∧ phase.done ∈ log ++ [e]) := by
    intro log e he hc ih
    rw [lastSaved_append, lastSaved_unsaved he, Option.none_or] at hc
    exact (ih hc).imp (fun h => ⟨h.1, h.2.append _⟩) fun h => ⟨h.1, List.mem_append_left _ h.2⟩
  induction h with
  | nil => exact nomatch hc
  | @quiet _ _ e _ he ih => exact keep (by cases e <;> first | rfl | exact nomatch he) hc ih
  | accepted _ ih => exact keep rfl hc ih
  | @checkpoint log f h _ =>
    rw [lastSaved_append, lastSaved_saved, Option.some_or] at hc
    obtain rfl := Option.some.inj hc
    exact Or.inl ⟨rfl, (h.covered rfl).2.append _⟩
  | done _ ih => exact keep (by unfold BXChainPhase.done; split <;> rfl) hc ih
  | advanced h _ =>
    rw [lastSaved_append, lastSaved_saved, Option.some_or] at hc
    obtain rfl := Option.some.inj hc
    exact Or.inr ⟨rfl, List.mem_append_left _ (h.done_mem rfl)⟩

end Tracked

/-! ### The walk of a phase -/

/-- The log and the cursors of a phase that began with the cursors `k₀`. -/
structure Walked (phase next : BXChainPhase) (start : Nat) (k₀ : Cursors) (log : List Event) (m : Option Nat) (k : Cursors) :
    Prop where
  tracked : Tracked phase next start log m
  memory : k.memory.phase = phase
  low : ∀ f, m = some f → k.memory.offset ≤ f
  row : k.row = (lastSaved log).getD k₀.row
  /-- The memory is where it was, or not ahead of what was saved. -/
  behind : (lastSaved log = none ∧ k.memory = k₀.memory) ∨
    ∃ c, lastSaved log = some c ∧ c.phase = phase ∧ k.memory.offset ≤ c.offset

namespace Walked

variable {phase next : BXChainPhase} {start : Nat} {k₀ k : Cursors} {log : List Event} {m : Option Nat}

theorem lastSaved_quiet {log' : List Event} (hq : ∀ e ∈ log', e.savedCursor = none) : lastSaved (log ++ log') = lastSaved log := by
  have hnone : log'.filterMap Event.savedCursor = [] := List.filterMap_eq_nil_iff.mpr hq
  rw [lastSaved_append]
  simp [lastSaved, hnone]

/-- What neither saves a cursor nor moves the frontier back leaves the rest as it was. -/
theorem extend (h : Walked phase next start k₀ log m k) {log' : List Event} {m' : Option Nat}
    (ht : Tracked phase next start (log ++ log') m') (hq : ∀ e ∈ log', e.savedCursor = none)
    (hm : ∀ f', m' = some f' → ∃ f, m = some f ∧ f ≤ f') : Walked phase next start k₀ (log ++ log') m' k where
  tracked := ht
  memory := h.memory
  low f' hf' :=
    let ⟨f, hf, hle⟩ := hm f' hf'
    (h.low f hf).trans hle
  row := by rw [lastSaved_quiet hq, h.row]
  behind := by
    rw [lastSaved_quiet hq]
    exact h.behind

theorem quiet_append (h : Walked phase next start k₀ log m k) {log' : List Event} (hq : ∀ e ∈ log', e.quiet = true) :
    Walked phase next start k₀ (log ++ log') m k :=
  h.extend (h.tracked.quiet_append hq) (fun e he => by cases e <;> first | rfl | exact nomatch hq _ he)
    fun f hf => ⟨f, hf, le_rfl⟩

theorem onPage (hmissed : phase ≠ .invoiceMissed) {offset : Nat} (h : Walked phase next start k₀ log (some offset) k) (save : Save) :
    Walked phase next start k₀
      (log ++ .accepted phase.list offset ::
        (onValidatedPage phase k (offset + bxillListLimit) save).2.2.toList.map Event.saved)
      (some (offset + bxillListLimit)) (onValidatedPage phase k (offset + bxillListLimit) save).2.1 := by
  have haccepted : Walked phase next start k₀ (log ++ [.accepted phase.list offset]) (some (offset + bxillListLimit)) k :=
    h.extend h.tracked.accepted (by simp [Event.savedCursor]) fun f hf =>
      ⟨offset, rfl, by rw [← Option.some.inj hf]; exact Nat.le_add_right _ _⟩
  have hnorm : normalize ⟨phase, offset + bxillListLimit⟩ = ⟨phase, offset + bxillListLimit⟩ := if_neg hmissed
  unfold onValidatedPage checkpoint
  split
  · exact haccepted
  · dsimp only
    rw [hnorm, List.append_cons]
    -- The row is written or not, and only a call that reports it moves the memory.
    have hsaved : ∀ k' : Cursors, k'.row = ⟨phase, offset + bxillListLimit⟩ → k'.memory.phase = phase →
        k'.memory.offset ≤ offset + bxillListLimit →
        Walked phase next start k₀ (log ++ [.accepted phase.list offset] ++ [.saved ⟨phase, offset + bxillListLimit⟩])
          (some (offset + bxillListLimit)) k' := by
      intro k' hrow hphase hlow
      have hlast : lastSaved (log ++ [.accepted phase.list offset] ++ [.saved ⟨phase, offset + bxillListLimit⟩]) =
          some ⟨phase, offset + bxillListLimit⟩ := by
        rw [lastSaved_append, lastSaved_saved, Option.some_or]
      exact
        { tracked := haccepted.tracked.checkpoint
          memory := hphase
          low := fun f hf => by rw [← Option.some.inj hf]; exact hlow
          row := by rw [hlast, hrow]; rfl
          behind := Or.inr ⟨_, hlast, rfl, hlow⟩ }
    cases save with
    | written => exact hsaved _ rfl rfl le_rfl
    | failed => simpa [Save.ok, Save.row, Save.wrote] using haccepted
    | unreported => exact hsaved _ rfl h.memory (haccepted.low _ rfl)

end Walked

/-- A walk of a phase: it is done when it returned NoError, and else the frontier is somewhere. -/
theorem walked_walkPages {σ ρ : Type} (w : Walker σ Cursors ρ) {phase next : BXChainPhase} {start : Nat} {k₀ : Cursors}
    (hlist : w.list = phase.list) (hpage : w.onPage = onValidatedPage phase) (hmissed : phase ≠ .invoiceMissed)
    (replies : List (Option (PageReply ρ))) (offset : Nat) (s : σ) (k : Cursors) (log : List Event)
    (h : Walked phase next start k₀ log (some offset) k) :
    ∃ m, (m = none ↔ (w.walkPages replies offset s k).error = .noError) ∧
      Walked phase next start k₀ (log ++ (w.walkPages replies offset s k).log) m (w.walkPages replies offset s k).cursor := by
  have hshown : ∀ (rows : List ρ) (s : σ) ids offset,
      ∀ e ∈ Event.showed w.list offset ids :: (w.syncRows rows s).2.2, e.quiet = true := by
    intro rows s ids offset
    refine List.forall_mem_cons.mpr ⟨rfl, fun e he => ?_⟩
    obtain ⟨id, rfl⟩ := w.mem_syncRows rows s e he
    rfl
  -- A page that is not the last: its rows, and what the page callback saves.
  have hstep : ∀ (rows : List ρ) (s : σ) ids offset k save log, Walked phase next start k₀ log (some offset) k →
      Walked phase next start k₀
        (log ++ ((Event.showed w.list offset ids :: (w.syncRows rows s).2.2) ++ .accepted w.list offset ::
          (w.onPage k (offset + bxillListLimit) save).2.2.toList.map Event.saved))
        (some (offset + bxillListLimit)) (w.onPage k (offset + bxillListLimit) save).2.1 := by
    intro rows s ids offset k save log h
    have := (h.quiet_append (hshown rows s ids offset)).onPage hmissed save
    rwa [List.append_assoc, ← hpage, ← hlist] at this
  revert log
  fun_induction w.walkPages replies offset s k
  case case1 offset _ _ | case2 offset _ _ | case3 offset _ _ _ =>
    exact fun log h => ⟨some offset, iff_of_false (Option.some_ne_none _) (by simp), by simpa using h⟩
  case case4 offset _ _ rows _ _ _ he =>
    exact fun log h => ⟨some offset, iff_of_false (Option.some_ne_none _) he, h.quiet_append (hshown rows _ _ _)⟩
  case case5 reply rest offset s k rows _ _ _ _ _ =>
    intro log h
    have hshow := h.quiet_append (hshown rows s (rows.filterMap w.rowId) offset)
    have hdone : phase.done = .walked w.list := by rw [hlist]; exact if_neg hmissed
    refine ⟨none, iff_of_true rfl rfl, ?_⟩
    rw [← List.append_assoc, ← hdone]
    exact hshow.extend hshow.tracked.done (by simp [hdone, Event.savedCursor]) (by simp)
  case case6 reply _ offset s k rows _ _ _ _ _ _ _ _ hp =>
    intro log h
    exact ⟨some (offset + bxillListLimit), iff_of_false (Option.some_ne_none _) hp, hstep rows s _ offset k reply.save log h⟩
  case case7 reply _ offset s k rows _ _ _ _ _ _ _ _ _ _ ih =>
    intro log h
    obtain ⟨m, hm, hrest⟩ := ih _ (hstep rows s (rows.filterMap w.rowId) offset k reply.save log h)
    exact ⟨m, hm, by rwa [List.append_assoc] at hrest⟩

/-! ### One call -/

/-- Where a phase that began at an offset leads. -/
def BXChainPhase.Leads (phase : BXChainPhase) (start : Nat) (next : BXChainPhase) : Prop :=
  next = phase.next ∨ (phase = .invoiceList ∧ start ≠ 0 ∧ next = .contactActive)

/-- The log and the cursors of a call: the phase goes on, or it is done and the cursor advances. -/
inductive Called (phase next : BXChainPhase) (start : Nat) (k₀ : Cursors) (save : Save) : List Event → Cursors → Prop
  | stays {log f k} : Walked phase next start k₀ log (some f) k → Called phase next start k₀ save log k
  | ends {log k} : Walked phase next start k₀ log none k →
      Called phase next start k₀ save (log ++ (advancePhase k next save).2.2.toList.map Event.saved)
        (advancePhase k next save).2.1

@[simp] theorem normalize_zero (phase : BXChainPhase) : normalize ⟨phase, 0⟩ = ⟨phase, 0⟩ := by
  unfold normalize
  split <;> rfl

theorem Called.tracked {phase next : BXChainPhase} {start : Nat} {k₀ k : Cursors} {save : Save} {log : List Event}
    (h : Called phase next start k₀ save log k) : ∃ m, Tracked phase next start log m := by
  cases h with
  | stays h => exact ⟨_, h.tracked⟩
  | ends h =>
    unfold advancePhase
    rw [normalize_zero]
    cases save with
    | failed => exact ⟨none, by simpa [Save.wrote] using h.tracked⟩
    | written | unreported => exact ⟨none, h.tracked.advanced⟩

theorem walked_nil (next : BXChainPhase) {phase : BXChainPhase} {k : Cursors} (h : k.memory.phase = phase) :
    Walked phase next k.memory.offset k [] (some k.memory.offset) k where
  tracked := .nil
  memory := h
  low f hf := by rw [← Option.some.inj hf]
  row := rfl
  behind := Or.inl ⟨rfl, rfl⟩

/-- The missed phase logs its requests, and at its end that it is done. -/
theorem fetchMissed_log (replies : List MissedReply) (iter : CacheIter) (db : Database) (c : Cache) :
    ∃ log, (∀ e ∈ log, e.quiet = true) ∧ (fetchMissed replies iter db c).2.2.2 =
      log ++ if (fetchMissed replies iter db c).1 = .noError then [.fetchedMissed] else [] := by
  fun_induction fetchMissed replies iter db c
  case case1 => exact ⟨[], by simp, rfl⟩
  case case2 | case3 => exact ⟨[.got _ _ _], by simp [Event.quiet], rfl⟩
  case case5 | case6 => exact ⟨[.got _ _ _], by simp [Event.quiet], rfl⟩
  case case7 he => exact ⟨[.got _ _ _], by simp [Event.quiet], by rw [if_neg he]; rfl⟩
  case case4 got _ others ih =>
    obtain ⟨log, hq, heq⟩ := ih
    exact ⟨got :: log, List.forall_mem_cons.mpr ⟨rfl, hq⟩, by rw [heq]; rfl⟩
  case case8 id _ _ _ _ _ _ got _ _ _ _ _ _ others ih =>
    obtain ⟨log, hq, heq⟩ := ih
    exact ⟨got :: .loaded id :: log, List.forall_mem_cons.mpr ⟨rfl, List.forall_mem_cons.mpr ⟨rfl, hq⟩⟩, by rw [heq]; rfl⟩

section

variable {s : ChainState} {i : ChainInput} {phase next : BXChainPhase}

/-- A walk of the phase as the calls run it. -/
theorem called_walk (next : BXChainPhase) {σ ρ : Type} {w : Walker σ Cursors ρ} (hphase : s.cursors.memory.phase = phase) (hlist : w.list = phase.list)
    (hpage : w.onPage = onValidatedPage phase) (hmissed : phase ≠ .invoiceMissed) (replies : List (Option (PageReply ρ)))
    (store : σ) :
    let walk := w.walkPages replies s.cursors.memory.offset store s.cursors
    (walk.error ≠ .noError → Called phase next s.cursors.memory.offset s.cursors i.save walk.log walk.cursor) ∧
      (walk.error = .noError →
        Called phase next s.cursors.memory.offset s.cursors i.save
          (walk.log ++ (advancePhase walk.cursor next i.save).2.2.toList.map Event.saved)
          (advancePhase walk.cursor next i.save).2.1) := by
  obtain ⟨m, hm, hwalked⟩ := walked_walkPages w hlist hpage hmissed replies s.cursors.memory.offset store s.cursors []
    (walked_nil next hphase)
  rw [List.nil_append] at hwalked
  constructor
  · intro he
    cases m with
    | none => exact absurd (hm.mp rfl) he
    | some f => exact .stays hwalked
  · intro he
    obtain rfl := hm.mpr he
    exact .ends hwalked

theorem called_syncContactActive (hphase : s.cursors.memory.phase = .contactActive) :
    Called .contactActive .contactArchived s.cursors.memory.offset s.cursors i.save (syncContactActive s i).log
      (syncContactActive s i).state.cursors := by
  obtain ⟨hfail, hdone⟩ := called_walk (i := i) .contactArchived
    (w := contactWalker false (onValidatedPage .contactActive)) hphase rfl rfl nofun i.contacts (s.db, s.contacts)
  unfold syncContactActive
  dsimp only
  split
  · rename_i he
    exact hfail he
  · rename_i he
    exact hdone (not_not.mp he)

theorem called_syncContactArchived (hphase : s.cursors.memory.phase = .contactArchived) :
    Called .contactArchived .project s.cursors.memory.offset s.cursors i.save (syncContactArchived s i).log
      (syncContactArchived s i).state.cursors := by
  obtain ⟨hfail, hdone⟩ := called_walk (i := i) .project
    (w := contactWalker true (onValidatedPage .contactArchived)) hphase rfl rfl nofun i.contacts (s.db, s.contacts)
  unfold syncContactArchived
  dsimp only
  split
  · rename_i he
    exact hfail he
  · rename_i he
    exact hdone (not_not.mp he)

theorem called_syncProject (hphase : s.cursors.memory.phase = .project) :
    Called .project .invoiceList s.cursors.memory.offset s.cursors i.save (syncProject s i).log
      (syncProject s i).state.cursors := by
  obtain ⟨hfail, hdone⟩ := called_walk (i := i) .invoiceList
    (w := projectWalker (onValidatedPage .project)) hphase rfl rfl nofun i.projects (s.db, s.projects)
  unfold syncProject
  dsimp only
  split
  · rename_i he
    exact hfail he
  · rename_i he
    exact hdone (not_not.mp he)

theorem called_syncInvoiceList (hphase : s.cursors.memory.phase = .invoiceList) :
    ∃ next, BXChainPhase.Leads .invoiceList s.cursors.memory.offset next ∧
      Called .invoiceList next s.cursors.memory.offset s.cursors i.save (syncInvoiceList s i).log
        (syncInvoiceList s i).state.cursors := by
  have hcalled := fun next => called_walk (i := i) next
    (w := invoiceWalker (onValidatedPage .invoiceList)) hphase rfl rfl nofun i.invoices (s.db, s.invoices)
  unfold syncInvoiceList
  dsimp only
  split
  · rename_i he
    exact ⟨.invoiceMissed, Or.inl rfl, (hcalled _).1 he⟩
  · rename_i he
    split
    · rename_i hz
      exact ⟨.contactActive, Or.inr ⟨rfl, hz, rfl⟩, (hcalled _).2 (not_not.mp he)⟩
    · exact ⟨.invoiceMissed, Or.inl rfl, (hcalled _).2 (not_not.mp he)⟩

theorem called_syncInvoiceMissed (hphase : s.cursors.memory.phase = .invoiceMissed) :
    Called .invoiceMissed .contactActive s.cursors.memory.offset s.cursors i.save (syncInvoiceMissed s i).log
      (syncInvoiceMissed s i).state.cursors := by
  obtain ⟨log, hq, heq⟩ := fetchMissed_log i.missed (cacheIterInit s.invoices) s.db s.invoices
  have hrequests := (walked_nil .contactActive hphase).quiet_append hq
  rw [List.nil_append] at hrequests
  unfold syncInvoiceMissed bxInvoiceFetchMissed
  dsimp only
  rw [heq]
  split
  · rw [List.append_nil]
    exact .stays hrequests
  · rename_i he
    rw [if_pos (not_not.mp he)]
    exact .ends (hrequests.extend hrequests.tracked.done (by simp [Event.savedCursor]) nofun)

variable (s i) in
/-- What a call does to the cursors, and what it logs. -/
theorem called_bxChainSync :
    ∃ next, s.cursors.memory.phase.Leads s.cursors.memory.offset next ∧
      Called s.cursors.memory.phase next s.cursors.memory.offset s.cursors i.save (bxChainSync s i).log
        (bxChainSync s i).state.cursors := by
  cases hc : i.connected with
  | false =>
    rw [bxChainSync_disconnected hc]
    exact ⟨s.cursors.memory.phase.next, Or.inl rfl, .stays (walked_nil _ rfl)⟩
  | true =>
    cases hp : s.cursors.memory.phase with
    | contactActive =>
      rw [bxChainSync_contactActive hc hp]
      exact ⟨_, Or.inl rfl, called_syncContactActive hp⟩
    | contactArchived =>
      rw [bxChainSync_contactArchived hc hp]
      exact ⟨_, Or.inl rfl, called_syncContactArchived hp⟩
    | project =>
      rw [bxChainSync_project hc hp]
      exact ⟨_, Or.inl rfl, called_syncProject hp⟩
    | invoiceList =>
      rw [bxChainSync_invoiceList hc hp]
      exact called_syncInvoiceList hp
    | invoiceMissed =>
      rw [bxChainSync_invoiceMissed hc hp]
      exact ⟨_, Or.inl rfl, called_syncInvoiceMissed hp⟩

end

end BxSync
