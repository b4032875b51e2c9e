-- The numbers, dates and times of TOML. Digits may be set apart by single underscores, and a
-- number that is out of range is refused.
import ContractHooks.Json.Token

namespace ContractHooks.Toml

/-! ## Digits -/

/-- Digits without the underscores that stand one by one between them. -/
def digits? (isDigit : Char → Bool) : List Char → Option (List Char)
  | [] => none
  | [c] => if isDigit c then some [c] else none
  | c :: '_' :: rest => if isDigit c then (digits? isDigit rest).map (c :: ·) else none
  | c :: rest => if isDigit c then (digits? isDigit rest).map (c :: ·) else none

/-- Decimal digits that do not start with a zero, unless it is the only one. -/
def decimal? (cs : List Char) : Option (List Char) :=
  match digits? Json.isDigit cs with
  | some ('0' :: _ :: _) => none
  | ds => ds

/-- The number that digits write in a base. -/
def numberOf (base : Nat) (cs : List Char) : Nat :=
  cs.foldl (fun n c => base * n + (Text.hexValue? c).getD 0) 0

/-- The rest behind a sign, and whether it was a minus. -/
def splitSign : List Char → Bool × List Char
  | '-' :: cs => (true, cs)
  | '+' :: cs => (false, cs)
  | cs => (false, cs)

/-! ## Integers -/

/-- An integer in a base other than ten. -/
def based? (base : Nat) (isDigit : Char → Bool) (cs : List Char) : Option Int :=
  match digits? isDigit cs with
  | some ds => if numberOf base ds < Json.signedBound then some (numberOf base ds) else none
  | none => none

/-- An integer of sixty-four bits. -/
def integer? : List Char → Option Int
  | '0' :: 'x' :: cs => based? 16 Text.isHexDigit cs
  | '0' :: 'o' :: cs => based? 8 (fun c => decide ('0' ≤ c) && decide (c ≤ '7')) cs
  | '0' :: 'b' :: cs => based? 2 (fun c => c == '0' || c == '1') cs
  | cs =>
    let (negative, cs) := splitSign cs
    match decimal? cs with
    | none => none
    | some ds =>
      let n := numberOf 10 ds
      if negative then if n ≤ Json.signedBound then some (-n) else none
      else if n < Json.signedBound then some n else none

/-! ## Fractions -/

/-- An exponent behind its mark. -/
def exponent? (cs : List Char) : Option Int :=
  let (negative, cs) := splitSign cs
  (digits? Json.isDigit cs).map fun ds =>
    if negative then -(numberOf 10 ds : Int) else (numberOf 10 ds : Int)

/-- Whether `significand · 10 ^ exponent` rounds to infinity in double precision. -/
def overflows (significand : Nat) (exponent : Int) : Bool :=
  let length := (Nat.toDigits 10 significand).length
  if significand = 0 ∨ length + exponent < 300 then false
  else if 320 < length + exponent then true
  else
    let limit := Nat.pow 2 1024 - Nat.pow 2 970
    if 0 ≤ exponent then decide (limit ≤ significand * Nat.pow 10 exponent.toNat)
    else decide (limit * Nat.pow 10 (-exponent).toNat ≤ significand)

/-- A fraction with a point, an exponent or both. Only one below zero may be infinite. -/
def fraction? (cs : List Char) : Option Json.Number := do
  let (negative, cs) := splitSign cs
  let (mantissa, power) := cs.span fun c => c != 'e' && c != 'E'
  let (whole, part) := mantissa.span (· != '.')
  if part.isEmpty && power.isEmpty then none
  else
    let ws ← decimal? whole
    let ps ← if part.isEmpty then some [] else digits? Json.isDigit (part.drop 1)
    let e ← if power.isEmpty then some 0 else exponent? (power.drop 1)
    let significand := numberOf 10 (ws ++ ps)
    let exponent := e - ps.length
    if !negative && overflows significand exponent then none
    else some (.fraction negative significand exponent)

/-- Whether the text is an infinity or no number. -/
def isSpecial (cs : List Char) : Bool :=
  let (_, cs) := splitSign cs
  cs == ['i', 'n', 'f'] || cs == ['n', 'a', 'n']

/-! ## Dates and times -/

/-- The number that exactly so many digits write. -/
def fixed? (count : Nat) (cs : List Char) : Option (Nat × List Char) :=
  let ds := cs.take count
  if ds.length = count ∧ ds.all Json.isDigit then some (numberOf 10 ds, cs.drop count) else none

/-- The days of a month. -/
def daysIn (year month : Nat) : Nat :=
  if month = 2 then
    if year % 4 = 0 ∧ (year % 100 ≠ 0 ∨ year % 400 = 0) then 29 else 28
  else if month = 4 ∨ month = 6 ∨ month = 9 ∨ month = 11 then 30
  else 31

/-- The rest behind a character. -/
def pass (c : Char) : List Char → Option (List Char)
  | [] => none
  | d :: cs => if c = d then some cs else none

/-- The rest behind a date. -/
def passDate (cs : List Char) : Option (List Char) := do
  let (year, cs) ← fixed? 4 cs
  let cs ← pass '-' cs
  let (month, cs) ← fixed? 2 cs
  let cs ← pass '-' cs
  let (day, cs) ← fixed? 2 cs
  if 1 ≤ month ∧ month ≤ 12 ∧ 1 ≤ day ∧ day ≤ daysIn year month then some cs else none

/-- The rest behind an hour and a minute. -/
def passClock (cs : List Char) : Option (List Char) := do
  let (hour, cs) ← fixed? 2 cs
  let cs ← pass ':' cs
  let (minute, cs) ← fixed? 2 cs
  if hour ≤ 23 ∧ minute ≤ 59 then some cs else none

/-- The rest behind a time of day. -/
def passTime (cs : List Char) : Option (List Char) := do
  let cs ← passClock cs
  let cs ← pass ':' cs
  let (second, cs) ← fixed? 2 cs
  if 60 < second then none
  else
    match cs with
    | '.' :: cs =>
      if (cs.takeWhile Json.isDigit).isEmpty then none else some (cs.dropWhile Json.isDigit)
    | cs => some cs

/-- Whether the text is the offset of a time zone, or nothing. -/
def isOffset : List Char → Bool
  | [] => true
  | ['Z'] | ['z'] => true
  | '+' :: cs | '-' :: cs => passClock cs == some []
  | _ => false

/-- Whether the text is a time of day, perhaps with an offset. -/
def isZonedTime (cs : List Char) : Bool := ((passTime cs).map isOffset).getD false

/-- Whether the text is a date, a time of day, or both with a letter between them. -/
def isMoment (cs : List Char) : Bool :=
  passTime cs == some [] ||
    match passDate cs with
    | some [] => true
    | some (c :: rest) => (c == 'T' || c == 't') && isZonedTime rest
    | none => false

/-- Whether the text is a date without a time. -/
def isDate (cs : List Char) : Bool := passDate cs == some []

end ContractHooks.Toml
