import Mathlib.Data.List.Nodup
import Mathlib.Logic.Function.Basic

/-! Singly linked lists on a heap: what the usual loops over them find, and what a write to one link leaves of
    them. The number of turns bounds each loop. -/

namespace Linked

variable {κ : Type}

/-- The nodes from a link on, up to another link. -/
def Seg (next : κ → Option κ) : Option κ → List κ → Option κ → Prop
  | link, [], stop => link = stop
  | link, a :: rest, stop => link = some a ∧ Seg next (next a) rest stop

/-- The nodes from a link on. -/
def nodes (next : κ → Option κ) : Nat → Option κ → List κ
  | 0, _ => []
  | _ + 1, none => []
  | turns + 1, some a => a :: nodes next turns (next a)

/-- The last node from one on, and the node before it. -/
def last (next : κ → Option κ) : Nat → Option κ → κ → Option κ × κ
  | 0, previous, current => (previous, current)
  | turns + 1, previous, current =>
    match next current with
    | none => (previous, current)
    | some after => last next turns (some current) after

/-- The first node from a link on that satisfies a predicate, and the node before it. -/
def find (next : κ → Option κ) (p : κ → Bool) : Nat → Option κ → Option κ → Option (Option κ × κ)
  | 0, _, _ => none
  | _ + 1, _, none => none
  | turns + 1, previous, some current =>
    if p current then some (previous, current) else find next p turns (some current) (next current)

variable {next next' : κ → Option κ} {link stop : Option κ} {a : κ} {xs ys : List κ}

@[simp] theorem seg_nil : Seg next link [] stop ↔ link = stop := Iff.rfl

@[simp] theorem seg_cons : Seg next link (a :: xs) stop ↔ link = some a ∧ Seg next (next a) xs stop := Iff.rfl

theorem seg_append : Seg next link (xs ++ ys) stop ↔ ∃ mid, Seg next link xs mid ∧ Seg next mid ys stop := by
  induction xs generalizing link with
  | nil => simp
  | cons a xs ih =>
    rw [List.cons_append, seg_cons, ih]
    constructor
    · rintro ⟨hlink, mid, hxs, hys⟩
      exact ⟨mid, ⟨hlink, hxs⟩, hys⟩
    · rintro ⟨mid, ⟨hlink, hxs⟩, hys⟩
      exact ⟨hlink, mid, hxs, hys⟩

theorem Seg.congr (h : Seg next link xs stop) (hnext : ∀ x ∈ xs, next' x = next x) : Seg next' link xs stop := by
  induction xs generalizing link with
  | nil => exact h
  | cons a xs ih =>
    obtain ⟨rfl, hrest⟩ := h
    refine ⟨rfl, ih ?_ fun x hx => hnext x (List.mem_cons_of_mem _ hx)⟩
    rw [hnext a List.mem_cons_self]
    exact hrest

theorem Seg.nodes_eq (h : Seg next link xs none) {turns : Nat} (hturns : xs.length < turns) :
    nodes next turns link = xs := by
  induction xs generalizing link turns with
  | nil =>
    obtain rfl := h
    cases turns <;> rfl
  | cons a xs ih =>
    obtain ⟨rfl, hrest⟩ := h
    cases turns with
    | zero => exact absurd hturns (Nat.not_lt_zero _)
    | succ turns => exact congrArg (a :: ·) (ih hrest (Nat.lt_of_succ_lt_succ hturns))

/-! ### The loops -/

theorem Seg.last_eq (h : Seg next (some a) (xs ++ [b]) none) {turns : Nat} (hturns : xs.length ≤ turns) (previous : Option κ) :
    last next turns previous a = (xs.getLast?.or previous, b) := by
  induction xs generalizing a turns previous with
  | nil =>
    obtain ⟨hb, hnone⟩ := h
    obtain rfl := Option.some.inj hb
    cases turns with
    | zero => rfl
    | succ turns =>
      unfold last
      rw [seg_nil.mp hnone]
      rfl
  | cons c xs ih =>
    obtain ⟨hc, hrest⟩ := h
    obtain rfl := Option.some.inj hc
    cases turns with
    | zero => exact absurd hturns (Nat.not_succ_le_zero _)
    | succ turns =>
      -- The list goes on, as its last node is still to come.
      obtain ⟨after, hafter⟩ : ∃ after, next a = some after := by
        cases xs with
        | nil => exact ⟨_, hrest.1⟩
        | cons d xs => exact ⟨_, hrest.1⟩
      rw [hafter] at hrest
      unfold last
      rw [hafter]
      dsimp only
      rw [ih hrest (Nat.le_of_succ_le_succ hturns)]
      cases xs with
      | nil => rfl
      | cons d xs => simp [List.getLast?_cons]

theorem Seg.find_cases (h : Seg next link xs none) (p : κ → Bool) {turns : Nat} (hturns : xs.length < turns)
    (previous : Option κ) :
    (find next p turns previous link = none ∧ ∀ x ∈ xs, p x = false) ∨
    ∃ before c after, xs = before ++ c :: after ∧ p c = true ∧
      find next p turns previous link = some (before.getLast?.or previous, c) := by
  induction xs generalizing link turns previous with
  | nil =>
    obtain rfl := h
    refine Or.inl ⟨?_, by simp⟩
    cases turns <;> rfl
  | cons a xs ih =>
    obtain ⟨rfl, hrest⟩ := h
    cases turns with
    | zero => exact absurd hturns (Nat.not_lt_zero _)
    | succ turns =>
      unfold find
      cases hp : p a with
      | true => exact Or.inr ⟨[], a, xs, rfl, hp, rfl⟩
      | false =>
        rcases ih hrest (Nat.lt_of_succ_lt_succ hturns) (some a) with ⟨hnone, hall⟩ | ⟨before, c, after, rfl, hc, hsome⟩
        · refine Or.inl ⟨by simpa using hnone, fun x hx => ?_⟩
          rcases List.mem_cons.mp hx with rfl | hx
          · exact hp
          · exact hall x hx
        · refine Or.inr ⟨a :: before, c, after, rfl, hc, ?_⟩
          rw [if_neg Bool.false_ne_true, hsome, List.getLast?_cons]
          cases before.getLast? <;> rfl

/-! ### Writes -/

variable [DecidableEq κ]

theorem Seg.push (h : Seg next link xs stop) (ha : a ∉ xs) : Seg (Function.update next a link) (some a) (a :: xs) stop := by
  refine ⟨rfl, ?_⟩
  rw [Function.update_self]
  exact h.congr fun _ hx => Function.update_of_ne (ne_of_mem_of_not_mem hx ha) _ _

/-- A write to the last node moves the end of the list. -/
theorem Seg.setLast {b : κ} (h : Seg next link (xs ++ [b]) stop) (hb : b ∉ xs) (stop' : Option κ) :
    Seg (Function.update next b stop') link (xs ++ [b]) stop' := by
  obtain ⟨mid, hxs, rfl, -⟩ := seg_append.mp h
  refine seg_append.mpr ⟨some b, hxs.congr fun _ hx => Function.update_of_ne (ne_of_mem_of_not_mem hx hb) _ _, rfl, ?_⟩
  rw [Function.update_self]
  rfl

theorem Seg.join {b : κ} (h : Seg next link (xs ++ [b]) none) (hb : b ∉ xs) {link' : Option κ} (h' : Seg next link' ys none)
    (hys : b ∉ ys) : Seg (Function.update next b link') link (xs ++ [b] ++ ys) none :=
  seg_append.mpr ⟨link', h.setLast hb link',
    h'.congr fun _ hx => Function.update_of_ne (ne_of_mem_of_not_mem hx hys) _ _⟩

/-- To take a node out that has one before it. -/
theorem Seg.unlink {b c : κ} (h : Seg next link (xs ++ [b] ++ c :: ys) none) (hb : b ∉ xs) (hys : b ∉ ys) :
    Seg (Function.update next b (next c)) link (xs ++ [b] ++ ys) none := by
  obtain ⟨mid, hfront, -, hrest⟩ := seg_append.mp h
  exact seg_append.mpr ⟨next c, hfront.setLast hb (next c),
    hrest.congr fun _ hx => Function.update_of_ne (ne_of_mem_of_not_mem hx hys) _ _⟩

end Linked
