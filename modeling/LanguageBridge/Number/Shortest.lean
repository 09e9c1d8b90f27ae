import LanguageBridge.Number.Double
import LanguageBridge.Text.Numeral

/-! The shortest decimal that reads back as a given double, and its two layouts. -/
namespace LanguageBridge.Double

/-- `coefficient * 10 ^ scale`. -/
structure Decimal where
  coefficient : Nat
  scale : Int
  deriving DecidableEq, Repr

/-- The reals that round to a magnitude, over the denominator `2 ^ 1076`. -/
structure Interval where
  low : Nat
  value : Nat
  high : Nat
  closed : Bool

def interval (magnitude : Nat) : Interval :=
  let unit := Nat.pow 2 (exponent magnitude)
  let value := 4 * significand magnitude * unit
  let narrow := magnitude % Nat.pow 2 52 = 0 ∧ Nat.pow 2 53 ≤ magnitude
  { low := value - (if narrow then unit else 2 * unit)
    value := value
    high := value + 2 * unit
    closed := significand magnitude % 2 = 0 }

/-- Whether `num / den` lies in the interval. -/
def Interval.holds (i : Interval) (num den : Nat) : Bool :=
  let at4 := num * Nat.pow 2 1076
  if i.closed then i.low * den ≤ at4 && at4 ≤ i.high * den
  else i.low * den < at4 && at4 < i.high * den

/-- The decimal exponent of the leading digit of `num / den`. -/
def leadingPlace (num den : Nat) : Int :=
  if den ≤ num then ((Nat.toDigits 10 (num / den)).length : Int) - 1
  else -(((List.range 400).find? fun j => den ≤ num * Nat.pow 10 j).getD 400 : Int)

/-- `coefficient * 10 ^ scale` as a fraction. -/
def Decimal.fraction (d : Decimal) : Nat × Nat :=
  match d.scale with
  | .ofNat k => (d.coefficient * Nat.pow 10 k, 1)
  | .negSucc k => (d.coefficient, Nat.pow 10 (k + 1))

/-- The better of the value's two neighbours on the grid of `10 ^ scale`, if one reads back. -/
def onGrid? (i : Interval) (scale : Int) : Option Decimal :=
  let whole := match scale with
    | .ofNat k => (i.value, Nat.pow 2 1076 * Nat.pow 10 k)
    | .negSucc k => (i.value * Nat.pow 10 (k + 1), Nat.pow 2 1076)
  let below : Decimal := ⟨whole.1 / whole.2, scale⟩
  let above : Decimal := ⟨whole.1 / whole.2 + 1, scale⟩
  let remainder := whole.1 % whole.2
  let fits := fun d : Decimal => i.holds d.fraction.1 d.fraction.2
  let aboveNearer := whole.2 < 2 * remainder ∨ (whole.2 = 2 * remainder ∧ below.coefficient % 2 = 1)
  match fits below, fits above with
  | true, true => some (if aboveNearer then above else below)
  | true, false => some below
  | false, true => some above
  | false, false => none

/-- Moves trailing zeros of the coefficient into the scale. -/
def Decimal.reduce : Nat → Decimal → Decimal
  | 0, d => d
  | fuel + 1, d =>
    if d.coefficient % 10 = 0 ∧ d.coefficient ≠ 0 then
      reduce fuel ⟨d.coefficient / 10, d.scale + 1⟩
    else d

/-- The fewest digits that read back; of two such decimals the nearer one. -/
def shortest (magnitude : Nat) : Decimal :=
  if magnitude = 0 then ⟨0, 0⟩
  else
    let i := interval magnitude
    let place := leadingPlace i.value (Nat.pow 2 1076)
    let found := (List.range 17).findSome? fun n : Nat => onGrid? i (place - n)
    (found.getD ⟨i.value, 0⟩).reduce 20

def zeros (n : Nat) : String := String.ofList (List.replicate n '0')

/-- Digits around a point, with at least one on each side. -/
def Decimal.positional (d : Decimal) : String :=
  let digits := Text.decimal d.coefficient
  match d.scale with
  | .ofNat k => String.ofList digits ++ zeros k ++ ".0"
  | .negSucc k =>
    let places := k + 1
    if places < digits.length then
      String.ofList (digits.take (digits.length - places)) ++ "." ++
        String.ofList (digits.drop (digits.length - places))
    else "0." ++ zeros (places - digits.length) ++ String.ofList digits

/-- The decimal exponent of the leading digit. -/
def Decimal.leading (d : Decimal) : Int := d.scale + (Text.decimal d.coefficient).length - 1

/-- One digit, the others after a point, and a signed exponent. -/
def Decimal.scientific (d : Decimal) : String :=
  let sign := if d.leading < 0 then "-" else "+"
  let power := "e" ++ sign ++ String.ofList (Text.decimal d.leading.natAbs)
  match Text.decimal d.coefficient with
  | [] => power
  | [c] => String.ofList [c] ++ power
  | c :: rest => String.ofList (c :: '.' :: rest) ++ power

def signed (x : Double) (body : String) : String := if x.negative then "-" ++ body else body

/-- Positional from `10 ^ -5` up to below `10 ^ 16`, else with an exponent. -/
def compact (x : Double) : String :=
  let d := shortest x.magnitude
  x.signed (if -5 ≤ d.leading ∧ d.leading < 16 then d.positional else d.scientific)

end LanguageBridge.Double
