import Mathlib.Data.List.Forall2
import Mathlib.Data.Set.Function
import BxSync.Lib.Machine
import BxSync.Upsert

/-! Whether objects with one checksum have the same values. The fields are hashed one after the other, without
    a mark where one ends or is unset, so the bytes fix the values only among objects of one shape. -/

namespace BxSync

open Encoding Machine

/-! ### The property -/

section

variable (lib : TextLib)

/-- The fields that are set are the same, and strings have the same lengths. -/
def SameShape (fields : List BXJsonField) (obj obj' : Json) : Prop :=
  ∀ field ∈ fields, BXSlot.SameShape (readSlot lib obj field.key field.kind) (readSlot lib obj' field.key field.kind)

variable {κ : Type} [DecidableEq κ] (serverKey : BXSlot → κ) (t : UpsertTable)

end

/-! ### Slots -/

section

variable {α : Type} {code : α → List UInt8} {x y : Option α}

theorem length_elim (hisset : x.isSome = y.isSome) (hcode : ∀ a b, x = some a → y = some b → (code a).length = (code b).length) :
    (x.elim [] code).length = (y.elim [] code).length := by
  cases x <;> cases y
  · rfl
  · exact nomatch hisset
  · exact nomatch hisset
  · exact hcode _ _ rfl rfl

theorem eq_of_elim_eq (hisset : x.isSome = y.isSome) (hcode : ∀ a b, code a = code b → a = b)
    (h : x.elim [] code = y.elim [] code) : x = y := by
  cases x <;> cases y
  · rfl
  · exact nomatch hisset
  · exact nomatch hisset
  · exact congrArg some (hcode _ _ h)

end

theorem leBytes_uint64 {m n : UInt64} (h : leBytes 8 m.toNat = leBytes 8 n.toNat) : m = n :=
  UInt64.toNat_inj.mp (leBytes_inj m.toNat_lt n.toNat_lt h)

namespace BXSlot

variable {a b : BXSlot}

theorem SameShape.length_mixed (h : SameShape a b) : a.mixed.length = b.mixed.length := by
  cases a with
  | uint x =>
    cases b with
    | uint y => exact length_elim h.isset fun _ _ _ _ => by simp
    | _ => exact nomatch h.kind
  | int x =>
    cases b with
    | int y => exact length_elim h.isset fun _ _ _ _ => by simp
    | _ => exact nomatch h.kind
  | str x =>
    cases b with
    | str y =>
      refine length_elim h.isset fun s s' hs hs' => ?_
      have hlen := h.valueLen
      rw [hs, hs'] at hlen
      exact hlen
    | _ => exact nomatch h.kind
  | float x =>
    cases b with
    | float y => exact length_elim h.isset fun _ _ _ _ => by simp
    | _ => exact nomatch h.kind
  | bool x =>
    cases b with
    | bool y => exact length_elim h.isset fun _ _ _ _ => rfl
    | _ => exact nomatch h.kind
  | uuid x =>
    cases b with
    | uuid y => exact length_elim h.isset fun _ _ _ _ => by simp
    | _ => exact nomatch h.kind

theorem SameShape.eq_of_mixed (h : SameShape a b) (hmixed : a.mixed = b.mixed) : a = b := by
  cases a with
  | uint x =>
    cases b with
    | uint y => exact congrArg uint (eq_of_elim_eq h.isset (fun _ _ => leBytes_uint64) hmixed)
    | _ => exact nomatch h.kind
  | int x =>
    cases b with
    | int y =>
      exact congrArg int (eq_of_elim_eq h.isset (fun _ _ heq => congrArg Int64.ofUInt64 (leBytes_uint64 heq)) hmixed)
    | _ => exact nomatch h.kind
  | str x =>
    cases b with
    | str y => exact congrArg str (eq_of_elim_eq h.isset (fun _ _ => id) hmixed)
    | _ => exact nomatch h.kind
  | float x =>
    cases b with
    | float y => exact congrArg float (eq_of_elim_eq h.isset (fun _ _ => leBytes_uint64) hmixed)
    | _ => exact nomatch h.kind
  | bool x =>
    cases b with
    | bool y =>
      refine congrArg bool (eq_of_elim_eq h.isset (fun v w => ?_) hmixed)
      revert v w
      decide
    | _ => exact nomatch h.kind
  | uuid x =>
    cases b with
    | uuid y =>
      refine congrArg uuid (eq_of_elim_eq h.isset (fun v w heq => ?_) hmixed)
      obtain ⟨hfirst, hsecond⟩ := List.append_inj heq (by simp)
      exact Prod.ext (leBytes_uint64 hfirst) (leBytes_uint64 hsecond)
    | _ => exact nomatch h.kind

end BXSlot

variable {lib : TextLib}

section

variable (lib) {κ : Type} [DecidableEq κ] (serverKey : BXSlot → κ) (xxh3 : List UInt8 → UInt64) (t : UpsertTable)

end

/-! ### Two runs

    Country 1 is stored. Then it comes again, as it was or with the first letter of its short name at the end of
    its name. -/

def countryObject (name nameShort : String) : Json :=
  .object [("id", .integer 1), ("name", .string (asciiBytes name)), ("name_short", .string (asciiBytes nameShort))]

def country (name nameShort : String) : UpsertInput :=
  .object (countryObject name nameShort) 0
    { selectPrepared := true, select := .answered, writePrepared := true, write := .ran false false }

end BxSync
