import LanguageBridge.Text.Numeral

/-! The values without parts in a settings file: texts, numbers, truth values, dates and times. A
reader takes its value off the front of the input. -/
namespace LanguageBridge.Toml

/-- Numbers with a fraction, dates and times are kept as written. -/
inductive Value where
  | text (s : String)
  | integer (n : Int)
  | float (literal : List Char)
  | boolean (b : Bool)
  | moment (literal : List Char)
  | array (items : List Value)
  | table (members : List (String × Value))

/-- What was read, and the rest. -/
abbrev Taken (α : Type) := Option (α × List Char)

def isSpace (c : Char) : Bool := c = ' ' || c = '\t'

def skipSpace (cs : List Char) : List Char := cs.dropWhile isSpace

/-- A line feed, perhaps after a carriage return. -/
def newline? : List Char → Option (List Char)
  | '\n' :: rest => some rest
  | '\r' :: '\n' :: rest => some rest
  | _ => none

/-- Characters that may stand in texts and comments: no controls but the tab. -/
def isPrintable (c : Char) : Bool := c = '\t' || (0x20 ≤ c.toNat && c.toNat ≠ 0x7F)

def isHex (c : Char) : Bool :=
  c.isDigit || ('a' ≤ c && c ≤ 'f') || ('A' ≤ c && c ≤ 'F')

def hexValue (c : Char) : Nat :=
  if c.isDigit then c.toNat - '0'.toNat
  else if 'a' ≤ c then c.toNat - 'a'.toNat + 10
  else c.toNat - 'A'.toNat + 10

/-- A character by its number in `size` hexadecimal digits. -/
def numberedChar (size : Nat) (cs : List Char) : Taken Char :=
  let digits := cs.take size
  let n := digits.foldl (fun n c => 16 * n + hexValue c) 0
  if digits.length = size ∧ digits.all isHex ∧ n.isValidChar then
    some (Char.ofNat n, cs.drop size)
  else none

/-- The character that an escape stands for, after the backslash. -/
def escape : List Char → Taken Char
  | 'b' :: rest => some ('\x08', rest)
  | 'f' :: rest => some ('\x0c', rest)
  | 'n' :: rest => some ('\n', rest)
  | 'r' :: rest => some ('\r', rest)
  | 't' :: rest => some ('\t', rest)
  | '\\' :: rest => some ('\\', rest)
  | '"' :: rest => some ('"', rest)
  | 'u' :: rest => numberedChar 4 rest
  | 'U' :: rest => numberedChar 8 rest
  | _ => none

/-- Skips blanks and line ends. -/
def skipLines : List Char → List Char
  | [] => []
  | '\r' :: '\n' :: rest => skipLines rest
  | c :: rest => if isSpace c || c = '\n' then skipLines rest else c :: rest

def pushChars (front : List Char) : Taken (List Char) → Taken (List Char)
  | some (cs, rest) => some (front ++ cs, rest)
  | none => none

/-- The body of a text in double quotes. -/
def basicBody : (fuel : Nat) → List Char → Taken (List Char)
  | 0, _ => none
  | _, [] => none
  | fuel + 1, c :: rest =>
    if c = '"' then some ([], rest)
    else if c = '\\' then
      match escape rest with
      | some (e, rest) => pushChars [e] (basicBody fuel rest)
      | none => none
    else if isPrintable c then pushChars [c] (basicBody fuel rest)
    else none

/-- The body of a text in single quotes, where a backslash is a character like others. -/
def literalBody : List Char → Taken (List Char)
  | [] => none
  | c :: rest =>
    if c = '\'' then some ([], rest)
    else if isPrintable c then pushChars [c] (literalBody rest)
    else none

/-- Quotes in front of a text. -/
def quoteRun (quote : Char) (cs : List Char) : Nat := (cs.takeWhile (· = quote)).length

/-- Ends a text of several lines: of the quotes, three close it, and up to two before them belong
to it. -/
def closeLong (quote : Char) (cs : List Char) : Taken (List Char) :=
  let run := min (quoteRun quote cs) 5
  some (List.replicate (run - 3) quote, cs.drop run)

/-- The body of a text of several lines; in double quotes it may hold escapes, and a backslash at the
end of a line joins lines. -/
def longBody (quote : Char) : (fuel : Nat) → List Char → Taken (List Char)
  | 0, _ => none
  | _, [] => none
  | fuel + 1, c :: rest =>
    if c = quote then
      if 3 ≤ quoteRun quote (c :: rest) then closeLong quote (c :: rest)
      else pushChars [c] (longBody quote fuel rest)
    else if quote = '"' ∧ c = '\\' then
      match newline? (skipSpace rest) with
      | some after => longBody quote fuel (skipLines after)
      | none =>
        match escape rest with
        | some (e, rest) => pushChars [e] (longBody quote fuel rest)
        | none => none
    else if isPrintable c then pushChars [c] (longBody quote fuel rest)
    else
      match newline? (c :: rest) with
      | some after => pushChars ['\n'] (longBody quote fuel after)
      | none => none

/-- A line end right after the opening quotes does not count. -/
def dropFirstNewline (cs : List Char) : List Char := (newline? cs).getD cs

def toText : Taken (List Char) → Taken String
  | some (cs, rest) => some (String.ofList cs, rest)
  | none => none

/-- A text on one line. -/
def shortText : List Char → Taken String
  | '"' :: rest => toText (basicBody (rest.length + 1) rest)
  | '\'' :: rest => toText (literalBody rest)
  | _ => none

/-- Any text. -/
def anyText : List Char → Taken String
  | '"' :: '"' :: '"' :: rest =>
    toText (longBody '"' (rest.length + 1) (dropFirstNewline rest))
  | '\'' :: '\'' :: '\'' :: rest =>
    toText (longBody '\'' (rest.length + 1) (dropFirstNewline rest))
  | cs => shortText cs

/-- Digits that single underscores may part; gives the digits alone. -/
def digitGroup (isDigit : Char → Bool) : List Char → Taken (List Char)
  | [] => none
  | c :: rest =>
    if isDigit c then
      match rest with
      | '_' :: more =>
        if more.head?.any isDigit then pushChars [c] (digitGroup isDigit more) else none
      | more =>
        if more.head?.any isDigit then pushChars [c] (digitGroup isDigit more)
        else some ([c], more)
    else none

/-- Digits of a whole decimal number: a zero stands alone. -/
def wholeDigits : List Char → Taken (List Char)
  | '0' :: rest => some (['0'], rest)
  | cs => digitGroup Char.isDigit cs

/-- A sign, and whether it is a minus. -/
def sign : List Char → Bool × List Char
  | '+' :: rest => (false, rest)
  | '-' :: rest => (true, rest)
  | cs => (false, cs)

def valueInBase (base : Nat) (digits : List Char) : Nat :=
  digits.foldl (fun n c => base * n + hexValue c) 0

/-- An integer of 64 bits. -/
def boundedInteger (negative : Bool) (n : Nat) (rest : List Char) : Taken Value :=
  if negative then if n ≤ UInt64.size / 2 then some (.integer (-(n : Int)), rest) else none
  else if n < UInt64.size / 2 then some (.integer n, rest)
  else none

def inBase (base : Nat) (isDigit : Char → Bool) (cs : List Char) : Taken Value :=
  match digitGroup isDigit cs with
  | some (digits, rest) => boundedInteger false (valueInBase base digits) rest
  | none => none

def isOctal (c : Char) : Bool := '0' ≤ c && c ≤ '7'

def isBinary (c : Char) : Bool := c = '0' || c = '1'

/-- Whether a decimal is beyond the greatest double. -/
def overflows (digits : List Char) (power : Int) : Bool :=
  let n := Nat.ofDigitChars 10 digits 0
  if n = 0 then false
  else if power < 0 then
    if 1000 + (digits.length : Int) < -power then false
    else (Nat.pow 2 1024 - Nat.pow 2 970) * Nat.pow 10 power.natAbs ≤ n
  else if 400 < power then true
  else Nat.pow 2 1024 - Nat.pow 2 970 ≤ n * Nat.pow 10 power.natAbs

/-- The exponent after its letter. -/
def exponent (cs : List Char) : Taken Int :=
  let (negative, rest) := sign cs
  match digitGroup Char.isDigit rest with
  | some (digits, rest) =>
    let n : Int := Nat.ofDigitChars 10 digits 0
    some (if negative then -n else n, rest)
  | none => none

/-- A number that is no integer must not be too great; its negative may. -/
def boundedFloat (negative : Bool) (digits : List Char) (power : Int) (rest : List Char) :
    Taken Value :=
  if !negative && overflows digits power then none else some (.float digits, rest)

/-- A decimal number after its sign: a fraction or an exponent makes it a float. -/
def decimalNumber (negative : Bool) (cs : List Char) : Taken Value :=
  match wholeDigits cs with
  | none => none
  | some (whole, '.' :: rest) =>
    match digitGroup Char.isDigit rest with
    | none => none
    | some (fraction, rest) =>
      let places : Int := fraction.length
      match rest with
      | c :: after =>
        if c = 'e' ∨ c = 'E' then
          match exponent after with
          | some (power, rest) => boundedFloat negative (whole ++ fraction) (power - places) rest
          | none => none
        else boundedFloat negative (whole ++ fraction) (-places) rest
      | [] => boundedFloat negative (whole ++ fraction) (-places) []
  | some (whole, c :: after) =>
    if c = 'e' ∨ c = 'E' then
      match exponent after with
      | some (power, rest) => boundedFloat negative whole power rest
      | none => none
    else boundedInteger negative (Nat.ofDigitChars 10 whole 0) (c :: after)
  | some (whole, []) => boundedInteger negative (Nat.ofDigitChars 10 whole 0) []

/-- Takes a fixed word. -/
def word (value : Value) : List Char → List Char → Taken Value
  | [], rest => some (value, rest)
  | _ :: _, [] => none
  | e :: expected, c :: rest => if c = e then word value expected rest else none

/-- A number that starts with a sign or a digit. -/
def number (cs : List Char) : Taken Value :=
  match cs with
  | '0' :: 'x' :: rest => inBase 16 isHex rest
  | '0' :: 'o' :: rest => inBase 8 isOctal rest
  | '0' :: 'b' :: rest => inBase 2 isBinary rest
  | _ =>
    let (negative, rest) := sign cs
    match rest with
    | 'i' :: _ => word (.float []) "inf".toList rest
    | 'n' :: _ => word (.float []) "nan".toList rest
    | _ => decimalNumber negative rest

/-- Two digits with a value from `low` to `high`. -/
def twoDigits (low high : Nat) : List Char → Taken Nat
  | a :: b :: rest =>
    let n := 10 * Text.digitValue a + Text.digitValue b
    if a.isDigit ∧ b.isDigit ∧ low ≤ n ∧ n ≤ high then some (n, rest) else none
  | _ => none

def isLeapYear (year : Nat) : Bool := year % 4 = 0 && (year % 100 ≠ 0 || year % 400 = 0)

def daysIn (year month : Nat) : Nat :=
  if month = 2 then if isLeapYear year then 29 else 28
  else if month = 4 ∨ month = 6 ∨ month = 9 ∨ month = 11 then 30
  else 31

/-- Whether the input starts like a date: a year and a dash. -/
def startsDate : List Char → Bool
  | a :: b :: c :: d :: '-' :: _ => a.isDigit && b.isDigit && c.isDigit && d.isDigit
  | _ => false

/-- Whether the input starts like a time: an hour and a colon. -/
def startsTime : List Char → Bool
  | a :: b :: ':' :: _ => (twoDigits 0 23 [a, b]).isSome
  | _ => false

def date (cs : List Char) : Option (List Char) := do
  let year := Nat.ofDigitChars 10 (cs.take 4) 0
  let (month, rest) ← twoDigits 1 12 (cs.drop 5)
  let '-' :: rest := rest | none
  let (day, rest) ← twoDigits 1 31 rest
  if day ≤ daysIn year month then some rest else none

/-- A fraction of a second, if a point announces one. -/
def secondFraction : List Char → Option (List Char)
  | '.' :: rest => if rest.head?.any Char.isDigit then some (rest.dropWhile Char.isDigit) else none
  | rest => some rest

def time (cs : List Char) : Option (List Char) := do
  let (_, rest) ← twoDigits 0 23 cs
  let ':' :: rest := rest | none
  let (_, rest) ← twoDigits 0 59 rest
  let ':' :: rest := rest | none
  let (_, rest) ← twoDigits 0 60 rest
  secondFraction rest

/-- An offset from universal time, if there is one. -/
def offset (cs : List Char) : Option (List Char) :=
  match cs with
  | c :: rest =>
    if c = 'Z' ∨ c = 'z' then some rest
    else if c = '+' ∨ c = '-' then do
      let (_, rest) ← twoDigits 0 23 rest
      let ':' :: rest := rest | none
      let (_, rest) ← twoDigits 0 59 rest
      some rest
    else some cs
  | [] => some []

/-- What may follow a date: a time, perhaps with an offset. -/
def timeAfterDate (cs : List Char) : Option (List Char) :=
  match cs with
  | c :: rest =>
    if (c = 'T' ∨ c = 't' ∨ c = ' ') ∧ startsTime rest then do offset (← time rest) else some cs
  | [] => some []

/-- A date, a time, or both. -/
def moment (cs : List Char) : Taken Value :=
  match if startsDate cs then (date cs).bind timeAfterDate else time cs with
  | some rest => some (.moment (cs.take (cs.length - rest.length)), rest)
  | none => none

/-- A number, a date or a time. -/
def numeric (cs : List Char) : Taken Value :=
  if startsDate cs || startsTime cs then moment cs else number cs

end LanguageBridge.Toml
