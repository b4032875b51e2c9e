-- The shortest decimal that reads back as a given double. A double stands for an interval of
-- numbers, those that round to it; of the decimals in the interval the ones with the fewest
-- digits are taken, and of those the nearest to the double. All comparisons are exact, on
-- natural numbers.
namespace ContractHooks.Decimal

/-- A positive rational, written as a quotient. -/
structure Quotient where
  num : Nat
  den : Nat
  deriving Repr

/-- `m · 2 ^ q`. -/
def Quotient.ofBinary (m : Nat) (q : Int) : Quotient :=
  if 0 ≤ q then ⟨m * Nat.pow 2 q.toNat, 1⟩ else ⟨m, Nat.pow 2 (-q).toNat⟩

/-- `d · 10 ^ k`. -/
def Quotient.ofDecimal (d : Nat) (k : Int) : Quotient :=
  if 0 ≤ k then ⟨d * Nat.pow 10 k.toNat, 1⟩ else ⟨d, Nat.pow 10 (-k).toNat⟩

def Quotient.le (a b : Quotient) : Bool := decide (a.num * b.den ≤ b.num * a.den)

def Quotient.lt (a b : Quotient) : Bool := decide (a.num * b.den < b.num * a.den)

/-- How far apart two quotients are. -/
def Quotient.distance (a b : Quotient) : Quotient :=
  let x := a.num * b.den
  let y := b.num * a.den
  ⟨(x - y) + (y - x), a.den * b.den⟩

/-- A positive double: its value, and the ends of the interval that rounds to it. -/
structure Rounding where
  value : Quotient
  low : Quotient
  high : Quotient
  closed : Bool

/-- The rounding interval of the positive double with the given bits. -/
def Rounding.ofBits (bits : UInt64) : Rounding :=
  let mantissa := (bits &&& 0xFFFFFFFFFFFFF).toNat
  let exponent := ((bits >>> 52) &&& 0x7FF).toNat
  let m := if exponent = 0 then mantissa else mantissa + 0x10000000000000
  let q : Int := if exponent = 0 then -1074 else (exponent : Int) - 1075
  let below := if mantissa = 0 ∧ 1 < exponent then 4 * m - 1 else 4 * m - 2
  { value := .ofBinary m q
    low := .ofBinary below (q - 2)
    high := .ofBinary (4 * m + 2) (q - 2)
    closed := m % 2 == 0 }

def Rounding.contains (r : Rounding) (x : Quotient) : Bool :=
  if r.closed then r.low.le x && x.le r.high else r.low.lt x && x.lt r.high

/-- The greatest `e` with `10 ^ e ≤ x`, sought upwards from `e` for at most `fuel` steps. -/
def magnitudeFrom (x : Quotient) : Nat → Int → Int
  | 0, e => e
  | fuel + 1, e =>
    if (Quotient.ofDecimal 1 (e + 1)).le x then magnitudeFrom x fuel (e + 1) else e

/-- The decimal with `n` digits that is nearest to the value among those in the interval: its
digits as a number and its exponent. -/
def Rounding.withDigits? (r : Rounding) (magnitude : Int) (n : Nat) : Option (Nat × Int) :=
  let k := magnitude - n + 1
  let unit := Quotient.ofDecimal 1 k
  let d := (r.value.num * unit.den) / (r.value.den * unit.num)
  let lower := Quotient.ofDecimal d k
  let upper := Quotient.ofDecimal (d + 1) k
  match r.contains lower, r.contains upper with
  | false, false => none
  | true, false => some (d, k)
  | false, true => some (d + 1, k)
  | true, true =>
    let toLower := r.value.distance lower
    let toUpper := r.value.distance upper
    if toLower.lt toUpper then some (d, k)
    else if toUpper.lt toLower then some (d + 1, k)
    else if d % 2 = 0 then some (d, k) else some (d + 1, k)

/-- A number without the zeros at its end, and an exponent raised by as many. -/
def stripZeros : Nat → Nat → Int → Nat × Int
  | 0, d, k => (d, k)
  | fuel + 1, d, k => if d ≠ 0 ∧ d % 10 = 0 then stripZeros fuel (d / 10) (k + 1) else (d, k)

/-- The shortest decimal `d · 10 ^ k` that reads back as the positive double. -/
def shortest (bits : UInt64) : Nat × Int :=
  let r := Rounding.ofBits bits
  let magnitude := magnitudeFrom r.value 700 (-330)
  match (List.range 17).findSome? fun i => r.withDigits? magnitude (i + 1) with
  | some (d, k) => stripZeros 20 d k
  | none => (0, 0)

/-- The text of a double. It is positional while the point falls at most sixteen places to the
right of the first digit and at most four zeros follow the point, and keeps one digit after
the point; otherwise it has an exponent. -/
def text (x : Float) : String :=
  let bits := x.toBits
  let sign := if bits >>> 63 = 1 then "-" else ""
  let magnitude := bits &&& 0x7FFFFFFFFFFFFFFF
  if magnitude = 0 then sign ++ "0.0"
  else
    let (d, k) := shortest magnitude
    let digits := Nat.toDigits 10 d
    let point : Int := digits.length + k
    let body : List Char :=
      if 0 ≤ k ∧ point ≤ 16 then digits ++ List.replicate k.toNat '0' ++ ['.', '0']
      else if 0 < point ∧ point ≤ 16 then
        digits.take point.toNat ++ '.' :: digits.drop point.toNat
      else if -5 < point ∧ point ≤ 0 then
        '0' :: '.' :: List.replicate (-point).toNat '0' ++ digits
      else
        let exponent := 'e' :: (toString (point - 1)).toList
        match digits with
        | [] => exponent
        | [c] => c :: exponent
        | c :: cs => c :: '.' :: cs ++ exponent
    sign ++ String.ofList body

end ContractHooks.Decimal
