-- JSON values. An object keeps its members in the order they were written, repeated keys
-- included; the value of a key is the last one written for it. A number is an integer of
-- sixty-four bits or a decimal fraction.
import ContractHooks.Decimal.Shortest

namespace ContractHooks

/-! ## Numbers -/

/-- A number: an integer that fits in sixty-four bits, or `± significand · 10 ^ exponent`. -/
inductive Json.Number
  | whole (n : Int)
  | fraction (negative : Bool) (significand : Nat) (exponent : Int)
  deriving Repr, DecidableEq

namespace Json.Number

/-- `f · 10 ^ e` in double precision: one multiplication or division by a power of ten, after
divisions by `10 ^ 308` as long as the exponent is below its reach. Nothing when the result is
out of range. -/
def scaled? : Nat → Float → Int → Option Float
  | 0, f, _ => some f
  | fuel + 1, f, e =>
    if 0 ≤ e ∧ e ≤ 308 then
      let g := f * Float.ofScientific 1 false e.toNat
      if g.isInf then none else some g
    else if -308 ≤ e ∧ e < 0 then some (f / Float.ofScientific 1 false (-e).toNat)
    else if f == 0 then some f
    else if 0 < e then none
    else scaled? fuel (f / Float.ofScientific 1 false 308) (e + 308)

/-- The double nearest to what `scaled?` computes, if it is in range. -/
def float? (negative : Bool) (significand : Nat) (exponent : Int) : Option Float :=
  (scaled? 8 (Float.ofNat significand) exponent).map fun f => if negative then -f else f

end Json.Number

/-! ## Values -/

/-- A JSON value. -/
inductive Json
  | null
  | bool (b : Bool)
  | number (n : Json.Number)
  | text (s : String)
  | list (items : List Json)
  | object (members : List (String × Json))
  deriving Repr, Inhabited

namespace Json

/-- The value that the last member with the key has. -/
def lookup (key : String) : List (String × Json) → Option Json
  | [] => none
  | (k, v) :: rest =>
    match lookup key rest with
    | some w => some w
    | none => if k = key then some v else none

@[simp] theorem lookup_nil (key : String) : lookup key [] = none := rfl

@[simp] theorem lookup_cons (key k : String) (v : Json) (rest : List (String × Json)) :
    lookup key ((k, v) :: rest) = (lookup key rest).or (if k = key then some v else none) := by
  rw [lookup]
  cases lookup key rest <;> rfl

/-- The value of a key, if the value is an object that has it. -/
def get? (j : Json) (key : String) : Option Json :=
  match j with
  | .object members => lookup key members
  | _ => none

/-- The text, if the value is one. -/
def text? : Json → Option String
  | .text s => some s
  | _ => none

/-- The truth value, if the value is one. -/
def bool? : Json → Option Bool
  | .bool b => some b
  | _ => none

/-- The items, if the value is a list. -/
def list? : Json → Option (List Json)
  | .list items => some items
  | _ => none

/-- The text under a key, if there is a text. -/
def textAt? (j : Json) (key : String) : Option String := (j.get? key).bind text?

/-- The items under a key, if there is a list. -/
def listAt? (j : Json) (key : String) : Option (List Json) := (j.get? key).bind list?

/-- Whether the value `true` stands under a key. -/
def flagAt (j : Json) (key : String) : Bool := (j.get? key).bind bool? == some true

/-! ## Members -/

theorem mem_of_lookup {key : String} {members : List (String × Json)} {v : Json}
    (h : lookup key members = some v) : (key, v) ∈ members := by
  induction members with
  | nil => simp [lookup] at h
  | cons m rest ih =>
    obtain ⟨k, w⟩ := m
    unfold lookup at h
    split at h
    · next hrest => exact List.mem_cons_of_mem _ (ih (hrest.trans h))
    · split at h
      · next hk =>
        cases h
        exact hk ▸ List.mem_cons_self
      · cases h

theorem sizeOf_get?_lt {j v : Json} {key : String} (h : j.get? key = some v) :
    sizeOf v < sizeOf j := by
  cases j <;> simp [get?] at h
  next members =>
    have hm := List.sizeOf_lt_of_mem (mem_of_lookup h)
    simp only [Prod.mk.sizeOf_spec, object.sizeOf_spec] at *
    omega

/-- An item of a list under a key is smaller than the whole. -/
theorem sizeOf_lt_of_listAt? {j item : Json} {key : String} {items : List Json}
    (h : j.listAt? key = some items) (hi : item ∈ items) : sizeOf item < sizeOf j := by
  unfold listAt? at h
  obtain ⟨v, hv, hl⟩ := Option.bind_eq_some_iff.1 h
  cases v <;> simp [list?] at hl
  subst hl
  have h1 := sizeOf_get?_lt hv
  have h2 := List.sizeOf_lt_of_mem hi
  simp only [list.sizeOf_spec] at h1
  omega

end Json

end ContractHooks
