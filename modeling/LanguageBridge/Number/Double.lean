/-! Finite doubles in exact arithmetic. The 63 bits below the sign, read as a number, order the
magnitudes, so rounding may carry from the significand into the exponent by plain addition. -/
namespace LanguageBridge

structure Double where
  negative : Bool
  magnitude : Nat
  deriving DecidableEq, Repr

namespace Double

/-- The first magnitude that is not finite. -/
def infinity : Nat := 0x7FF * Nat.pow 2 52

def significand (magnitude : Nat) : Nat :=
  if magnitude < Nat.pow 2 52 then magnitude else magnitude % Nat.pow 2 52 + Nat.pow 2 52

/-- A magnitude stands for `significand * 2 ^ exponent / 2 ^ 1074`. -/
def exponent (magnitude : Nat) : Nat := magnitude / Nat.pow 2 52 - 1

/-- The magnitude nearest to `num / den`; a tie goes to the even significand. -/
def round (num den : Nat) : Nat :=
  let scaled := num * Nat.pow 2 1074
  let shift := (scaled / den).log2 - 52
  let unit := den * Nat.pow 2 shift
  let quotient := scaled / unit
  let twice := 2 * (scaled % unit)
  let up := unit < twice ∨ (unit = twice ∧ quotient % 2 = 1)
  shift * Nat.pow 2 52 + (if up then quotient + 1 else quotient)

def multiply (a b : Nat) : Nat :=
  round (significand a * significand b * Nat.pow 2 (exponent a + exponent b)) (Nat.pow 2 2148)

def divide (a b : Nat) : Nat :=
  round (significand a * Nat.pow 2 (exponent a)) (significand b * Nat.pow 2 (exponent b))

def tenTo (k : Nat) : Nat := round (Nat.pow 10 k) 1

/-- Divides by a power of ten, at most 308 places at a time. -/
def scaleDown (magnitude places : Nat) : Nat :=
  if places ≤ 308 then divide magnitude (tenTo places)
  else if magnitude = 0 then 0
  else scaleDown (divide magnitude (tenTo 308)) (places - 308)
termination_by places

/-- `word * 10 ^ power`: the word is rounded first and then scaled by the double nearest to the
power of ten. There is no result past the finite range. -/
def ofDecimal? (word : Nat) : Int → Option Nat
  | .ofNat places =>
    let base := round word 1
    if places ≤ 308 then
      let product := multiply base (tenTo places)
      if product < infinity then some product else none
    else if base = 0 then some 0 else none
  | .negSucc places => some (scaleDown (round word 1) (places + 1))

end Double

end LanguageBridge
