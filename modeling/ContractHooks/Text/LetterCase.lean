-- Letter case of texts. A character may have a case of several characters, and the Greek
-- capital sigma is the one letter whose lower case hangs on its neighbours: at the end of a
-- word it is `ς`, elsewhere `σ`. The laws say what both functions do to ASCII characters.
import ContractHooks.Text.CaseTable

namespace ContractHooks.Text

/-! ## One character -/

/-- Whether a range of the list holds the character. -/
def inRanges (ranges : List (Nat × Nat)) (c : Char) : Bool :=
  ranges.any fun r => decide (r.1 ≤ c.toNat) && decide (c.toNat ≤ r.2)

/-- Where a run sends a code point, if the run holds it. -/
def CaseRun.image? (run : CaseRun) (n : Nat) : Option Nat :=
  if run.first ≤ n ∧ n ≤ run.last ∧ (n - run.first) % run.step = 0 then
    some (Int.toNat (n + run.offset))
  else none

/-- The case of a character that a table pair gives, itself where the tables are silent. -/
def mapCase (runs : List CaseRun) (expansions : List (Nat × List Nat)) (c : Char) : List Char :=
  match expansions.find? (·.1 == c.toNat) with
  | some (_, codes) => codes.map Char.ofNat
  | none =>
    match runs.findSome? (·.image? c.toNat) with
    | some n => [Char.ofNat n]
    | none => [c]

/-- The upper case of one character. -/
def upperChar (c : Char) : List Char :=
  if c.toNat < 128 then [c.toUpper] else mapCase upperRuns upperExpansions c

/-- The lower case of one character that stands alone. -/
def lowerChar (c : Char) : List Char :=
  if c.toNat < 128 then [c.toLower] else mapCase lowerRuns lowerExpansions c

/-! ## Texts -/

/-- The upper case of a text, character by character. -/
def upper (cs : List Char) : List Char := cs.flatMap upperChar

/-- Whether the first character that is not passed over is a cased letter. -/
def meetsCased : List Char → Bool
  | [] => false
  | c :: cs => if inRanges caseIgnorableRanges c then meetsCased cs else inRanges casedRanges c

/-- The lower case of `cs`, which stands after the characters of `before`, the nearest first. -/
def lowerAfter (before : List Char) : List Char → List Char
  | [] => []
  | c :: cs =>
    let here :=
      if c = 'Σ' then [if meetsCased before && !meetsCased cs then 'ς' else 'σ']
      else lowerChar c
    here ++ lowerAfter (c :: before) cs

/-- The lower case of a text. -/
def lower (cs : List Char) : List Char := lowerAfter [] cs

/-! ## ASCII -/

/-- Every character of the text is ASCII. -/
def IsAscii (cs : List Char) : Prop := ∀ c ∈ cs, c.toNat < 128

instance (cs : List Char) : Decidable (IsAscii cs) :=
  List.decidableBAll (fun c : Char => c.toNat < 128) cs

theorem upperChar_ascii {c : Char} (h : c.toNat < 128) : upperChar c = [c.toUpper] := by
  simp [upperChar, h]

theorem lowerChar_ascii {c : Char} (h : c.toNat < 128) : lowerChar c = [c.toLower] := by
  simp [lowerChar, h]

theorem upper_ascii {cs : List Char} (h : IsAscii cs) : upper cs = cs.map Char.toUpper := by
  induction cs with
  | nil => rfl
  | cons c cs ih =>
    have hc : c.toNat < 128 := h c List.mem_cons_self
    have hcs : IsAscii cs := fun d hd => h d (List.mem_cons_of_mem c hd)
    simp only [upper, List.flatMap_cons, upperChar_ascii hc, List.map_cons]
    simpa [upper] using ih hcs

theorem lowerAfter_ascii {cs : List Char} (h : IsAscii cs) (before : List Char) :
    lowerAfter before cs = cs.map Char.toLower := by
  induction cs generalizing before with
  | nil => rfl
  | cons c cs ih =>
    have hc : c.toNat < 128 := h c List.mem_cons_self
    have hcs : IsAscii cs := fun d hd => h d (List.mem_cons_of_mem c hd)
    have hne : c ≠ 'Σ' := by
      rintro rfl
      revert hc
      decide
    simp [lowerAfter, hne, lowerChar_ascii hc, ih hcs]

theorem lower_ascii {cs : List Char} (h : IsAscii cs) : lower cs = cs.map Char.toLower :=
  lowerAfter_ascii h []

end ContractHooks.Text
