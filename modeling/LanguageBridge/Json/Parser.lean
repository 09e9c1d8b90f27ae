import LanguageBridge.Json.Basic
import LanguageBridge.Text.Numeral

/-! Reading JSON text. The grammar is strict, containers nest at most 127 deep, and of equal keys in
one object the last wins. -/
namespace LanguageBridge.Json

/-- A text that is no JSON either stops early or goes wrong at some character. -/
inductive ParseError where
  | endOfInput
  | malformed
  deriving DecidableEq, Repr

abbrev Parsed (α : Type) := Except ParseError (α × List Char)

def isSpace (c : Char) : Bool := c = ' ' || c = '\n' || c = '\t' || c = '\r'

def skipSpace (cs : List Char) : List Char := cs.dropWhile isSpace

/-- The rest of a keyword whose first letter was read. -/
def keyword (value : Json) : List Char → List Char → Parsed Json
  | [], rest => .ok (value, rest)
  | _ :: _, [] => .error .endOfInput
  | e :: expected, c :: rest => if c = e then keyword value expected rest else .error .malformed

def hexValue? (c : Char) : Option Nat :=
  if c.isDigit then some (c.toNat - '0'.toNat)
  else if 'a' ≤ c ∧ c ≤ 'f' then some (c.toNat - 'a'.toNat + 10)
  else if 'A' ≤ c ∧ c ≤ 'F' then some (c.toNat - 'A'.toNat + 10)
  else none

def hexWord? (a b c d : Char) : Option Nat := do
  return 4096 * (← hexValue? a) + 256 * (← hexValue? b) + 16 * (← hexValue? c) + (← hexValue? d)

/-- A hexadecimal escape needs four more bytes, whatever they are. -/
def shortEscape (rest : List Char) : ParseError :=
  if (String.ofList rest).utf8ByteSize < 4 then .endOfInput else .malformed

def simpleEscape? (c : Char) : Option Char :=
  if c = '"' then some '"'
  else if c = '\\' then some '\\'
  else if c = '/' then some '/'
  else if c = 'b' then some '\x08'
  else if c = 'f' then some '\x0c'
  else if c = 'n' then some '\n'
  else if c = 'r' then some '\r'
  else if c = 't' then some '\t'
  else none

def isHighSurrogate (n : Nat) : Bool := 0xD800 ≤ n && n ≤ 0xDBFF

def isLowSurrogate (n : Nat) : Bool := 0xDC00 ≤ n && n ≤ 0xDFFF

def surrogatePair (high low : Nat) : Char :=
  Char.ofNat ((high - 0xD800) * 0x400 + (low - 0xDC00) + 0x10000)

def push (c : Char) : Parsed (List Char) → Parsed (List Char)
  | .ok (cs, rest) => .ok (c :: cs, rest)
  | .error e => .error e

/-- The characters of a string after its opening quote. -/
def stringBody : List Char → Parsed (List Char)
  | [] => .error .endOfInput
  | c :: rest =>
    if c = '"' then .ok ([], rest)
    else if c = '\\' then
      match rest with
      | [] => .error .endOfInput
      | e :: rest =>
        if e = 'u' then
          match rest with
          | h₁ :: h₂ :: h₃ :: h₄ :: rest =>
            match hexWord? h₁ h₂ h₃ h₄ with
            | none => .error .malformed
            | some n =>
              if isLowSurrogate n then .error .malformed
              else if isHighSurrogate n then
                match rest with
                | [] => .error .endOfInput
                | b :: rest =>
                  if b = '\\' then
                    match rest with
                    | [] => .error .endOfInput
                    | u :: rest =>
                      if u = 'u' then
                        match rest with
                        | l₁ :: l₂ :: l₃ :: l₄ :: rest =>
                          match hexWord? l₁ l₂ l₃ l₄ with
                          | none => .error .malformed
                          | some m =>
                            if isLowSurrogate m then push (surrogatePair n m) (stringBody rest)
                            else .error .malformed
                        | short => .error (shortEscape short)
                      else .error .malformed
                  else .error .malformed
              else push (Char.ofNat n) (stringBody rest)
          | short => .error (shortEscape short)
        else
          match simpleEscape? e with
          | some c => push c (stringBody rest)
          | none => .error .malformed
    else if c.toNat < 32 then .error .malformed
    else push c (stringBody rest)

def string (cs : List Char) : Parsed String :=
  match stringBody cs with
  | .ok (body, rest) => .ok (String.ofList body, rest)
  | .error e => .error e

/-- Appends whole digits to a 64-bit word; from the first that does not fit on they only count. -/
def absorbWhole : Nat → List Char → Nat × Nat
  | word, [] => (word, 0)
  | word, c :: rest =>
    if 10 * word + Text.digitValue c < UInt64.size then absorbWhole (10 * word + Text.digitValue c) rest
    else (word, rest.length + 1)

/-- Appends fraction digits to a 64-bit word while they fit, and counts them. -/
def absorbFraction : Nat → Nat → List Char → Nat × Nat
  | word, places, [] => (word, places)
  | word, places, c :: rest =>
    if 10 * word + Text.digitValue c < UInt64.size then
      absorbFraction (10 * word + Text.digitValue c) (places + 1) rest
    else (word, places)

/-- The parts of a number as written. -/
structure Literal where
  negative : Bool
  whole : List Char
  fraction : List Char
  power : Option Int

/-- A literal outside the integers is scaled from its leading digits. -/
def Literal.double? (l : Literal) : Option Double :=
  let (word, dropped) := absorbWhole 0 l.whole
  let (word, places) := absorbFraction word 0 l.fraction
  (Double.ofDecimal? word ((dropped : Int) - places + l.power.getD 0)).map (⟨l.negative, ·⟩)

/-- Whole literals from `-2 ^ 63` to `2 ^ 64 - 1` are integers, except that minus zero is a double. -/
def Literal.number? (l : Literal) : Option Number :=
  let n := Nat.ofDigitChars 10 l.whole 0
  if l.fraction.isEmpty ∧ l.power.isNone ∧
      (if l.negative then 0 < n ∧ n ≤ UInt64.size / 2 else n < UInt64.size) then
    some (.int (if l.negative then -(n : Int) else n))
  else l.double?.map .double

/-- The exponent after its letter. -/
def power (cs : List Char) : Parsed Int :=
  let (sign, rest) := match cs with
    | '+' :: rest => ((1 : Int), rest)
    | '-' :: rest => (-1, rest)
    | rest => (1, rest)
  match rest.takeWhile Char.isDigit with
  | [] => .error (if rest.isEmpty then .endOfInput else .malformed)
  | digits => .ok (sign * (Nat.ofDigitChars 10 digits 0 : Nat), rest.dropWhile Char.isDigit)

/-- An exponent, if a letter announces one. -/
def optionalPower : List Char → Parsed (Option Int)
  | c :: rest =>
    if c = 'e' ∨ c = 'E' then
      match power rest with
      | .ok (p, rest) => .ok (some p, rest)
      | .error e => .error e
    else .ok (none, c :: rest)
  | [] => .ok (none, [])

/-- A fraction, if a point announces one; it has at least one digit. -/
def optionalFraction : List Char → Parsed (List Char)
  | c :: rest =>
    if c = '.' then
      match rest.takeWhile Char.isDigit with
      | [] => .error (if rest.isEmpty then .endOfInput else .malformed)
      | digits => .ok (digits, rest.dropWhile Char.isDigit)
    else .ok ([], c :: rest)
  | [] => .ok ([], [])

/-- What follows the whole digits of a number. -/
def literalTail (negative : Bool) (whole rest : List Char) : Parsed Literal :=
  match optionalFraction rest with
  | .error e => .error e
  | .ok (fraction, rest) =>
    match optionalPower rest with
    | .error e => .error e
    | .ok (p, rest) => .ok (⟨negative, whole, fraction, p⟩, rest)

/-- A number after its sign. A leading zero stands alone. -/
def literal (negative : Bool) (cs : List Char) : Parsed Literal :=
  match cs with
  | [] => .error .endOfInput
  | '0' :: rest =>
    match rest with
    | c :: _ => if c.isDigit then .error .malformed else literalTail negative ['0'] rest
    | [] => literalTail negative ['0'] rest
  | c :: _ =>
    if c.isDigit then literalTail negative (cs.takeWhile Char.isDigit) (cs.dropWhile Char.isDigit)
    else .error .malformed

def number (negative : Bool) (cs : List Char) : Parsed Json :=
  match literal negative cs with
  | .error e => .error e
  | .ok (l, rest) =>
    match l.number? with
    | some n => .ok (.num n, rest)
    | none => .error .malformed

mutual

/-- One value; `depth` containers may still be opened. -/
def value : (fuel depth : Nat) → List Char → Parsed Json
  | 0, _, _ => .error .malformed
  | fuel + 1, depth, cs =>
    match skipSpace cs with
    | [] => .error .endOfInput
    | c :: rest =>
      if c = 'n' then keyword .null "ull".toList rest
      else if c = 't' then keyword (.bool true) "rue".toList rest
      else if c = 'f' then keyword (.bool false) "alse".toList rest
      else if c = '"' then
        match string rest with
        | .ok (s, rest) => .ok (.str s, rest)
        | .error e => .error e
      else if c = '-' then number true rest
      else if c.isDigit then number false (c :: rest)
      else if c = '[' then
        match depth with
        | 0 => .error .malformed
        | depth + 1 =>
          match skipSpace rest with
          | [] => .error .endOfInput
          | d :: after =>
            if d = ']' then .ok (.arr [], after)
            else match items fuel depth (d :: after) with
              | .ok (js, rest) => .ok (.arr js, rest)
              | .error e => .error e
      else if c = '\x7b' then
        match depth with
        | 0 => .error .malformed
        | depth + 1 =>
          match skipSpace rest with
          | [] => .error .endOfInput
          | d :: after =>
            if d = '\x7d' then .ok (.obj [], after)
            else match members fuel depth (d :: after) with
              | .ok (ms, rest) => .ok (.obj (sortMembers ms), rest)
              | .error e => .error e
      else .error .malformed

/-- The items of an array that is not empty. -/
def items : (fuel depth : Nat) → List Char → Parsed (List Json)
  | 0, _, _ => .error .malformed
  | fuel + 1, depth, cs =>
    match value fuel depth cs with
    | .error e => .error e
    | .ok (j, rest) =>
      match skipSpace rest with
      | [] => .error .endOfInput
      | c :: rest =>
        if c = ']' then .ok ([j], rest)
        else if c = ',' then
          match skipSpace rest with
          | [] => .error .endOfInput
          | d :: rest =>
            if d = ']' then .error .malformed
            else match items fuel depth (d :: rest) with
              | .ok (js, rest) => .ok (j :: js, rest)
              | .error e => .error e
        else .error .malformed

/-- The members of an object that is not empty, as written. -/
def members : (fuel depth : Nat) → List Char → Parsed (List (String × Json))
  | 0, _, _ => .error .malformed
  | _ + 1, _, [] => .error .endOfInput
  | fuel + 1, depth, q :: cs =>
    if q ≠ '"' then .error .malformed
    else match string cs with
      | .error e => .error e
      | .ok (key, rest) =>
        match skipSpace rest with
        | [] => .error .endOfInput
        | c :: rest =>
          if c ≠ ':' then .error .malformed
          else match value fuel depth rest with
            | .error e => .error e
            | .ok (j, rest) =>
              match skipSpace rest with
              | [] => .error .endOfInput
              | c :: rest =>
                if c = '\x7d' then .ok ([(key, j)], rest)
                else if c = ',' then
                  match skipSpace rest with
                  | [] => .error .endOfInput
                  | d :: rest =>
                    match members fuel depth (d :: rest) with
                    | .ok (ms, rest) => .ok ((key, j) :: ms, rest)
                    | .error e => .error e
                else .error .malformed

end

def parseChars (cs : List Char) : Except ParseError Json :=
  match value (2 * cs.length + 2) 127 cs with
  | .error e => .error e
  | .ok (j, rest) => if (skipSpace rest).isEmpty then .ok j else .error .malformed

def parse (text : String) : Except ParseError Json := parseChars text.toList

end LanguageBridge.Json
