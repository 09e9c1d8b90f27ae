/-! Decimal numerals: reading with a bound, and the causes of failure. -/
namespace LanguageBridge.Text

inductive NumeralError where
  | empty
  | invalidDigit
  | tooLarge
  deriving DecidableEq, Repr

def NumeralError.message : NumeralError → String
  | .empty => "cannot parse integer from empty string"
  | .invalidDigit => "invalid digit found in string"
  | .tooLarge => "number too large to fit in target type"

def digitValue (c : Char) : Nat := c.toNat - '0'.toNat

/-- Reads on from `n`; the first character that is no digit, or that reaches `bound`, decides. -/
def readDigits (bound : Nat) : Nat → List Char → Except NumeralError Nat
  | n, [] => .ok n
  | n, c :: rest =>
    if c.isDigit then
      if 10 * n + digitValue c < bound then readDigits bound (10 * n + digitValue c) rest
      else .error .tooLarge
    else .error .invalidDigit

/-- A numeral below `bound`: an optional plus sign, then at least one digit. -/
def readNumeral (bound : Nat) : List Char → Except NumeralError Nat
  | [] => .error .empty
  | ['+'] => .error .invalidDigit
  | '+' :: rest => readDigits bound 0 rest
  | cs => readDigits bound 0 cs

def numeral? (bound : Nat) (s : String) : Option Nat := (readNumeral bound s.toList).toOption

/-- The decimal digits of `n`, without leading zeros. -/
def decimal (n : Nat) : List Char := Nat.toDigits 10 n

def showInt (n : Int) : String :=
  if n < 0 then "-" ++ String.ofList (decimal n.natAbs) else String.ofList (decimal n.natAbs)

end LanguageBridge.Text
