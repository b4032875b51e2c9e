-- What a shape reads back from the text of a value. A record is read back from an object that has
-- its fields in order, each with a value that the field is read back from.
import ContractHooks.Proofs.Json.ReadBack
import Mathlib.Data.List.Nodup

namespace ContractHooks.Json

variable {α σ : Type} {depth : Nat}

/-! ## Scalars -/

theorem restores_scalars_text (expected : String) (s : String) :
    Restores (Shape.scalars expected text?).ofText depth (.text s) s := by
  intro limit _ rest place
  rw [compact, toList_quote, List.cons_append]
  simp only [Shape.scalars, skipGap_cons (c := '"') (by decide), isAt_cons]
  rw [← List.cons_append, ← toList_quote, reads_scalar_text]
  rfl

/-! ## Values that may be missing -/

/-- The text of the value starts neither with a gap nor as the word for nothing does. -/
def IsThere (j : Json) : Prop :=
  ∃ c cs, (compact j).toList = c :: cs ∧ Cursor.isGap c = false ∧ c ≠ 'n'

theorem isThere_text (s : String) : IsThere (.text s) :=
  ⟨_, _, toList_quote s, by decide, by decide⟩

theorem isThere_object (ms : List (String × Json)) : IsThere (.object ms) :=
  ⟨_, _, toList_compact_object ms, by decide, by decide⟩

theorem restores_optional_none (inner : Shape α) :
    Restores (Shape.optional inner).ofText depth .null none := by
  intro limit _ rest place
  rfl

theorem restores_optional_some {inner : Shape α} {j : Json} {a : α} (hj : IsThere j)
    (h : Restores inner.ofText depth j a) :
    Restores (Shape.optional inner).ofText depth j (some a) := by
  intro limit hlimit rest place
  obtain ⟨c, cs, htext, hgap, hn⟩ := hj
  have hinner := h limit hlimit rest place
  rw [htext, List.cons_append] at hinner ⊢
  simp only [Shape.optional, skipGap_cons hgap, isAt_cons, beq_false_of_ne hn, hinner]
  rfl

/-- A value that may be missing is read back, if it is wherever it is there. -/
theorem restores_optional {inner : Shape α} {toJson : α → Json} (hthere : ∀ a, IsThere (toJson a))
    (h : ∀ a, Restores inner.ofText depth (toJson a) a) (a : Option α) :
    Restores (Shape.optional inner).ofText depth ((a.map toJson).getD .null) a := by
  cases a with
  | none => exact restores_optional_none inner
  | some a => exact restores_optional_some (hthere a) (h a)

/-! ## Values that are decoded -/

theorem restores_derived {decode : Json → Except Mismatch α} {j : Json} {a : α}
    (h : Restores value depth j j) (hdecode : decode j = .ok a) :
    Restores (Shape.derived decode).ofText depth j a := by
  intro limit hlimit rest place
  simp only [Shape.derived, h limit hlimit rest place, hdecode]

/-! ## Records -/

/-- A field, the value that is written under its name, and how reading that value changes a
record. -/
structure WrittenField (σ : Type) where
  field : Shape.Field σ
  json : Json
  change : σ → σ

namespace WrittenField

/-- A field with a value of its shape, and what that is written as. -/
def of (name : String) (required : Bool) (shape : Shape α) (set : α → σ → σ) (j : Json) (a : α) :
    WrittenField σ where
  field := Shape.field name required shape set
  json := j
  change := set a

/-- The member of an object that writes the field. -/
def member (w : WrittenField σ) : String × Json := (w.field.name, w.json)

/-- The record with all the changes made. -/
def changed (ws : List (WrittenField σ)) (start : σ) : σ := ws.foldl (fun r w => w.change r) start

end WrittenField

open WrittenField (member changed)

/-- The field is read back from the value that is written for it. -/
def IsRestored (depth : Nat) (w : WrittenField σ) : Prop :=
  Restores w.field.ofText depth w.json w.change

theorem isRestored_of {shape : Shape α} {j : Json} {a : α} (name : String) (required : Bool)
    (set : α → σ → σ) (h : Restores shape.ofText depth j a) :
    IsRestored depth (.of name required shape set j a) := by
  intro limit hlimit rest place
  simp only [WrittenField.of, Shape.field, h limit hlimit rest place]

theorem find?_name {fields : List (Shape.Field σ)} (hdistinct : (fields.map Shape.Field.name).Nodup)
    {f : Shape.Field σ} (hf : f ∈ fields) : fields.find? (·.name == f.name) = some f := by
  induction fields with
  | nil => cases hf
  | cons g fields ih =>
    obtain ⟨hg, hrest⟩ := List.nodup_cons.1 hdistinct
    rcases List.mem_cons.1 hf with rfl | hf
    · rw [List.find?_cons_of_pos (by simp)]
    · have hne : g.name ≠ f.name := fun h => hg (h ▸ List.mem_map_of_mem hf)
      rw [List.find?_cons_of_neg (by simpa using hne), ih hrest hf]

theorem firstMissing_eq_none {fields : List (Shape.Field σ)} {seen : List String}
    (h : ∀ f ∈ fields, f.name ∈ seen) : Shape.firstMissing fields seen = none := by
  rw [Shape.firstMissing, Option.map_eq_none_iff, List.find?_eq_none]
  intro f hf
  simp [h f hf]

/-- The text of the members that write some fields. -/
def fieldTexts (first : Bool) (ws : List (WrittenField σ)) : List Char :=
  memberTexts first (ws.map member)

theorem fieldTexts_cons (first : Bool) (w : WrittenField σ) (ws : List (WrittenField σ)) :
    fieldTexts first (w :: ws) =
      (comma first ++ (quote w.field.name).toList)
        ++ ':' :: ((compact w.json).toList ++ fieldTexts false ws) :=
  memberTexts_cons first w.field.name w.json _

variable {fields : List (Shape.Field σ)} {ws : List (WrittenField σ)}

/-- A field that was not seen before is taken off, with its key, and changes the record. -/
theorem recordMembers_step (hdistinct : (fields.map Shape.Field.name).Nodup) {limit : Nat}
    {f : Shape.Field σ} (hf : f ∈ fields) {cs : List Char} {change : σ → σ}
    (h : Reads (f.ofText limit depth) cs change) {seen : List String} (hnew : f.name ∉ seen)
    (fuel : Nat) (first : Bool) (record : σ) (rest : List Char) (place : Place) :
    Shape.recordMembers fields limit depth (fuel + 1) first seen record
        ⟨comma first ++ (quote f.name).toList ++ ':' :: (cs ++ rest), place⟩ =
      Shape.recordMembers fields limit depth fuel false (f.name :: seen) (change record)
        ⟨rest, (comma first ++ (quote f.name).toList ++ ':' :: cs).foldl Place.after place⟩ := by
  rw [Shape.recordMembers, reads_nextKey]
  dsimp only
  rw [find?_name hdistinct hf]
  dsimp only
  rw [if_neg (by simpa using hnew), passColon_colon]
  dsimp only
  rw [h]
  simp only [List.foldl_append, List.foldl_cons]

/-- Fields are read back behind those that were seen before, if none of them was. -/
theorem recordMembers_fieldTexts (hdistinct : (fields.map Shape.Field.name).Nodup) {limit : Nat}
    (h : ∀ w ∈ ws, Reads (w.field.ofText limit depth) (compact w.json).toList w.change)
    (hfields : ∀ w ∈ ws, w.field ∈ fields) {seen : List String}
    (hseen : (ws.map fun w => w.field.name).reverse ++ seen = (fields.map Shape.Field.name).reverse)
    {fuel : Nat} (hfuel : ws.length < fuel) (first : Bool) (record : σ) (rest : List Char)
    (place : Place) :
    Shape.recordMembers fields limit depth fuel first seen record
        ⟨fieldTexts first ws ++ '\x7d' :: rest, place⟩ =
      .ok (changed ws record,
        ⟨'\x7d' :: rest, (fieldTexts first ws).foldl Place.after place⟩) := by
  induction ws generalizing seen fuel first record place with
  | nil =>
    obtain ⟨fuel, rfl⟩ := Nat.exists_eq_succ_of_ne_zero (Nat.ne_zero_of_lt hfuel)
    have hmissing : Shape.firstMissing fields seen = none := by
      refine firstMissing_eq_none fun f hf => ?_
      have hname : f.name ∈ (fields.map Shape.Field.name).reverse :=
        List.mem_reverse.2 (List.mem_map_of_mem hf)
      rwa [← hseen] at hname
    have hnone : fieldTexts first ([] : List (WrittenField σ)) = [] := rfl
    rw [hnone, List.nil_append, Shape.recordMembers, nextKey_end]
    dsimp only
    rw [hmissing]
    rfl
  | cons w ws ih =>
    obtain ⟨fuel, rfl⟩ := Nat.exists_eq_succ_of_ne_zero (Nat.ne_zero_of_lt hfuel)
    obtain ⟨hw, hrest⟩ := List.forall_mem_cons.1 h
    obtain ⟨hfield, hfields⟩ := List.forall_mem_cons.1 hfields
    have hseen : (ws.map fun w => w.field.name).reverse ++ w.field.name :: seen =
        (fields.map Shape.Field.name).reverse := by
      rw [← hseen]
      simp
    have hnew : w.field.name ∉ seen := by
      have hnodup := List.nodup_reverse.2 hdistinct
      rw [← hseen] at hnodup
      exact (List.nodup_cons.1 (List.nodup_append.1 hnodup).2.1).1
    have hbehind := ih hrest hfields hseen (Nat.lt_of_succ_lt_succ hfuel) false (w.change record)
    have htext : fieldTexts first (w :: ws) ++ '\x7d' :: rest =
        comma first ++ (quote w.field.name).toList
          ++ ':' :: ((compact w.json).toList ++ (fieldTexts false ws ++ '\x7d' :: rest)) := by
      rw [fieldTexts_cons]
      simp only [List.append_assoc, List.cons_append]
    rw [htext, recordMembers_step hdistinct hfield hw hnew, hbehind, fieldTexts_cons]
    simp only [List.foldl_append, List.foldl_cons]
    rfl

variable (ws) in
/-- A record is read back from an object that writes its fields in order. -/
theorem restores_record (name : String) {start : σ} (hws : ws.map WrittenField.field = fields)
    (hdistinct : (fields.map Shape.Field.name).Nodup) (h : ∀ w ∈ ws, IsRestored depth w) :
    Restores (Shape.record name fields start).ofText (depth + 1) (.object (ws.map member))
      (changed ws start) := by
  intro limit hlimit rest place
  have hreads : ∀ w ∈ ws, Reads (w.field.ofText limit depth) (compact w.json).toList w.change := by
    intro w hw
    have hlength := length_compact_lt (m := member w) (List.mem_map_of_mem hw)
    exact h w hw limit (Nat.lt_trans hlength hlimit)
  have hfields : ∀ w ∈ ws, w.field ∈ fields := fun w hw => hws ▸ List.mem_map_of_mem hw
  have hseen : (ws.map fun w => w.field.name).reverse ++ [] =
      (fields.map Shape.Field.name).reverse := by
    rw [← hws, List.map_map, List.append_nil]
    rfl
  have hfuel : ws.length < limit := by
    have hlength := length_lt_compact (ws.map member)
    rw [List.length_map] at hlength
    exact Nat.lt_trans hlength hlimit
  have hmembers := recordMembers_fieldTexts hdistinct hreads hfields hseen hfuel true start
  have htext : (compact (.object (ws.map member))).toList =
      '\x7b' :: (fieldTexts true ws ++ ['\x7d']) := toList_compact_object _
  rw [htext, List.cons_append, List.append_assoc, List.singleton_append]
  simp only [Shape.record, skipGap_cons (c := '\x7b') (by decide), isAt_cons, Char.reduceBEq,
    Bool.false_eq_true, if_false, if_true, advance_one, hmembers, closeObject_brace,
    List.foldl_append, List.foldl_cons, List.foldl_nil]

/-! ## Whole texts -/

/-- A shape reads back the whole text of a value. -/
theorem Shape.read_compact {shape : Shape α} {j : Json} {a : α}
    (h : Restores shape.ofText depthBound j a) : shape.read (compact j) = .ok a := by
  have hwhole := h (loopBound (compact j)) (Nat.lt_succ_self _) [] ⟨1, 0⟩
  rw [List.append_nil] at hwhole
  unfold Shape.read wholeText Cursor.start
  rw [hwhole]
  rfl

end ContractHooks.Json
