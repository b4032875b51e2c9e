-- The scalar tokens of JSON text: words, quoted texts and numbers. Each reader leaves the
-- cursor behind the token. A text that is passed over and not wanted is read less strictly:
-- its escapes may name any code unit.
import ContractHooks.Json.Cursor
import ContractHooks.Text.Hex

namespace ContractHooks.Json

/-! ## Words -/

/-- The cursor behind the letters of a word. -/
def readWord : List Char → Cursor → Except Failure Cursor
  | [], k => .ok k
  | w :: ws, k =>
    match k.rest with
    | [] => k.refuseHere .endInValue
    | c :: _ => if c = w then readWord ws (k.advance 1) else k.refuse .wrongWord

/-! ## Quoted texts -/

/-- The number that the next four characters write in hexadecimal. -/
def readQuad (k : Cursor) : Except Failure Nat :=
  if (String.ofList (k.rest.take 4)).utf8ByteSize < 4 then .error (.syntactic .endInText k.last)
  else
    let digits := (k.rest.take 4).filterMap Text.hexValue?
    if digits.length = 4 then .ok (digits.foldl (fun n d => 16 * n + d) 0)
    else .error (.syntactic .badEscape (k.place.afterBytes 4 k.rest))

/-- Whether the code unit is the first half of a pair. -/
def isHighHalf (n : Nat) : Bool := decide (0xD800 ≤ n) && decide (n ≤ 0xDBFF)

/-- Whether the code unit is the second half of a pair. -/
def isLowHalf (n : Nat) : Bool := decide (0xDC00 ≤ n) && decide (n ≤ 0xDFFF)

/-- The character that a pair of code units stands for. -/
def joinHalves (high low : Nat) : Char :=
  Char.ofNat (0x10000 + (high - 0xD800) * 0x400 + (low - 0xDC00))

/-- The cursor behind the given character, which has to come next inside a pair. -/
def readPairMark (mark : Char) (k : Cursor) : Except Failure Cursor :=
  match k.rest with
  | [] => k.refuseHere .endInText
  | c :: _ => if c = mark then .ok (k.advance 1) else k.refuse .unfinishedSurrogate

/-- The character of an escape by code units, and how many characters it takes. The cursor
stands behind the `u`. -/
def readCodeUnits (k : Cursor) : Except Failure (Char × Nat) := do
  let high ← readQuad k
  if isLowHalf high then (k.advance 4).refuseHere .loneSurrogate
  else if isHighHalf high then
    let k1 ← readPairMark '\\' (k.advance 4)
    let k2 ← readPairMark 'u' k1
    let low ← readQuad k2
    if isLowHalf low then .ok (joinHalves high low, 10)
    else (k2.advance 4).refuseHere .loneSurrogate
  else .ok (Char.ofNat high, 4)

/-- The character that a letter behind a backslash stands for. -/
def simpleEscape? (c : Char) : Option Char :=
  if c = '"' ∨ c = '\\' ∨ c = '/' then some c
  else if c = 'b' then some (Char.ofNat 0x08)
  else if c = 'f' then some (Char.ofNat 0x0C)
  else if c = 'n' then some '\n'
  else if c = 'r' then some '\r'
  else if c = 't' then some '\t'
  else none

/-- The character of an escape, and how many characters behind the backslash it takes. -/
def readEscape (k : Cursor) : Except Failure (Char × Nat) :=
  match k.rest with
  | [] => k.refuseHere .endInText
  | c :: _ =>
    match simpleEscape? c with
    | some d => .ok (d, 1)
    | none =>
      if c = 'u' then do
        let (d, n) ← readCodeUnits (k.advance 1)
        .ok (d, n + 1)
      else k.refuse .badEscape

/-- The characters up to the closing quote. The cursor stands behind the opening quote, or
later. -/
def readTextBody (k : Cursor) : Read (List Char) :=
  match k with
  | ⟨[], p⟩ => .error (.syntactic .endInText p)
  | ⟨c :: cs, p⟩ =>
    let next : Cursor := ⟨cs, p.after c⟩
    if c = '"' then .ok ([], next)
    else if c = '\\' then
      match readEscape next with
      | .error e => .error e
      | .ok (d, n) =>
        match readTextBody (next.advance n) with
        | .error e => .error e
        | .ok (ds, k) => .ok (d :: ds, k)
    else if c.toNat < 0x20 then Cursor.refuse ⟨c :: cs, p⟩ .controlCharacter
    else
      match readTextBody next with
      | .error e => .error e
      | .ok (ds, k) => .ok (c :: ds, k)
termination_by k.rest.length
decreasing_by
  all_goals simp only [Cursor.advance, List.length_drop, List.length_cons]
  all_goals omega

/-- The text of a quoted text. The cursor stands behind the opening quote. -/
def readText (k : Cursor) : Read String :=
  match readTextBody k with
  | .error e => .error e
  | .ok (cs, k) => .ok (String.ofList cs, k)

/-- How many characters behind the backslash an escape takes that is passed over. -/
def skipEscape (k : Cursor) : Except Failure Nat :=
  match k.rest with
  | [] => k.refuseHere .endInText
  | c :: _ =>
    match simpleEscape? c with
    | some _ => .ok 1
    | none =>
      if c = 'u' then do
        let _ ← readQuad (k.advance 1)
        .ok 5
      else k.refuse .badEscape

/-- The cursor behind the closing quote of a text that is passed over. -/
def skipText (k : Cursor) : Except Failure Cursor :=
  match k with
  | ⟨[], p⟩ => .error (.syntactic .endInText p)
  | ⟨c :: cs, p⟩ =>
    let next : Cursor := ⟨cs, p.after c⟩
    if c = '"' then .ok next
    else if c = '\\' then
      match skipEscape next with
      | .error e => .error e
      | .ok n => skipText (next.advance n)
    else if c.toNat < 0x20 then .error (.syntactic .controlCharacter p)
    else skipText next
termination_by k.rest.length
decreasing_by
  all_goals simp only [Cursor.advance, List.length_drop, List.length_cons]
  all_goals omega

/-! ## Numbers -/

/-- Whether the character is a decimal digit. -/
def isDigit (c : Char) : Bool := decide ('0' ≤ c) && decide (c ≤ '9')

/-- The digits that come next. -/
def Cursor.digits (k : Cursor) : List Char := k.rest.takeWhile isDigit

/-- Whether the given character comes next. -/
def Cursor.isAt (k : Cursor) (c : Char) : Bool := k.rest.head? == some c

/-- The number that digits write behind `n`, as long as it stays within `bound`, and how many
of the digits went into it. -/
def accumulate (bound : Nat) : Nat → List Char → Nat × Nat
  | n, [] => (n, 0)
  | n, c :: cs =>
    let m := 10 * n + (c.toNat - '0'.toNat)
    if bound < m then (n, 0)
    else
      let (r, used) := accumulate bound m cs
      (r, used + 1)

/-- The greatest integer of sixty-four bits. -/
def wordBound : Nat := UInt64.size - 1

/-- How far below zero an integer of sixty-four bits with a sign can go. -/
def signedBound : Nat := UInt64.size / 2

/-- The greatest exponent that is counted. -/
def exponentBound : Nat := UInt32.size / 2 - 1

/-- A fraction that is in the range of double precision; the cursor stands behind it. -/
def fractionInRange (negative : Bool) (significand : Nat) (exponent : Int) (k : Cursor) :
    Read Number :=
  if (Number.float? negative significand exponent).isSome then
    .ok (.fraction negative significand exponent, k)
  else k.refuseHere .numberTooLarge

/-- The rest of a number from its exponent mark on. An exponent too large to count makes the
number zero when it is negative or the digits are, and is refused otherwise. -/
def readExponent (negative : Bool) (significand : Nat) (exponent : Int) (k : Cursor) :
    Read Number :=
  let k := k.advance 1
  let down := k.isAt '-'
  let k := if k.isAt '+' || down then k.advance 1 else k
  match k.rest with
  | [] => k.refuseHere .endInValue
  | c :: _ =>
    if isDigit c then
      let digits := k.digits
      let (e, used) := accumulate exponentBound 0 digits
      if used < digits.length then
        if significand ≠ 0 ∧ down = false then
          (k.advance (used + 1)).refuseHere .numberTooLarge
        else .ok (.fraction negative 0 0, k.advance digits.length)
      else
        fractionInRange negative significand (if down then exponent - e else exponent + e)
          (k.advance digits.length)
    else k.refuse .badNumber

/-- The rest of a number behind its digits before the point, if it has an exponent. -/
def readScale (negative : Bool) (significand : Nat) (exponent : Int) (k : Cursor) :
    Read Number :=
  if k.isAt 'e' || k.isAt 'E' then readExponent negative significand exponent k
  else fractionInRange negative significand exponent k

/-- The rest of a number from its point on. Digits that no longer fit are dropped. -/
def readDecimals (negative : Bool) (significand : Nat) (exponent : Int) (k : Cursor) :
    Read Number :=
  let k := k.advance 1
  let digits := k.digits
  if digits.isEmpty then
    if k.rest.isEmpty then k.refuseHere .endInValue else k.refuse .badNumber
  else
    let (s, used) := accumulate wordBound significand digits
    readScale negative s (exponent - used) (k.advance digits.length)

/-- A number of which the digits before the point are read: `dropped` of them did not fit. -/
def readFraction (negative : Bool) (significand dropped : Nat) (k : Cursor) : Read Number :=
  if k.isAt '.' then readDecimals negative significand dropped k
  else if k.isAt 'e' || k.isAt 'E' then readExponent negative significand dropped k
  else if dropped ≠ 0 then fractionInRange negative significand dropped k
  else if negative then
    if 0 < significand ∧ significand ≤ signedBound then .ok (.whole (-significand), k)
    else fractionInRange true significand 0 k
  else .ok (.whole significand, k)

/-- A number. The cursor stands behind the sign, if there is one. -/
def readNumber (negative : Bool) (k : Cursor) : Read Number :=
  match k.rest with
  | [] => k.refuseHere .endInValue
  | c :: rest =>
    if c = '0' then
      if (rest.head?.map isDigit).getD false then (k.advance 1).refuse .badNumber
      else readFraction negative 0 0 (k.advance 1)
    else if isDigit c then
      let digits := k.digits
      let (s, used) := accumulate wordBound 0 digits
      readFraction negative s (digits.length - used) (k.advance digits.length)
    else k.refuse .badNumber

/-- The cursor behind the exponent of a number that is passed over. -/
def skipExponent (k : Cursor) : Except Failure Cursor :=
  let k := k.advance 1
  let k := if k.isAt '+' || k.isAt '-' then k.advance 1 else k
  if k.digits.isEmpty then k.refuse .badNumber else .ok (k.advance k.digits.length)

/-- The cursor behind what follows the digits before the point. -/
def skipFraction (k : Cursor) : Except Failure Cursor :=
  if k.isAt '.' then
    let k := k.advance 1
    if k.digits.isEmpty then k.refuse .badNumber
    else
      let k := k.advance k.digits.length
      if k.isAt 'e' || k.isAt 'E' then skipExponent k else .ok k
  else if k.isAt 'e' || k.isAt 'E' then skipExponent k
  else .ok k

/-- The cursor behind a number that is passed over, its sign already read. -/
def skipNumber (k : Cursor) : Except Failure Cursor :=
  match k.rest with
  | [] => k.refuse .badNumber
  | c :: rest =>
    if c = '0' then
      if (rest.head?.map isDigit).getD false then (k.advance 1).refuse .badNumber
      else skipFraction (k.advance 1)
    else if isDigit c then skipFraction (k.advance k.digits.length)
    else k.refuse .badNumber

end ContractHooks.Json
