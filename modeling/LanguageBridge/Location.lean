import LanguageBridge.Editor.Range
import LanguageBridge.Text.Blank
import LanguageBridge.Text.Lines
import LanguageBridge.Text.Numeral
import LanguageBridge.Text.Split

/-! Places written as `file:line` or `file:line:column`. -/
namespace LanguageBridge

structure Location where
  file : String
  line : UInt32
  column : UInt32
  deriving DecidableEq, Repr

inductive LocationError where
  | empty
  | negative (text : String)
  | badNumber (text : String) (e : Text.NumeralError)
  | malformed
  | noFile
  | zeroLine
  | zeroColumn
  | lineBeyond (line : UInt32) (count : Nat)
  | columnBeyond (column : UInt32) (length : Nat) (line : UInt32)
  deriving DecidableEq, Repr

def LocationError.message : LocationError → String
  | .empty => "Location cannot be empty"
  | .negative text => "Invalid position '" ++ text ++ "': negative values not allowed"
  | .badNumber text e => "Invalid position '" ++ text ++ "': " ++ e.message
  | .malformed =>
    "Invalid location format. Expected: file:line[:column]\nExample: data/people.ttl:10:5"
  | .noFile => "Location is missing a file path"
  | .zeroLine => "Line number must be >= 1 (got 0). Line numbers are 1-indexed."
  | .zeroColumn => "Column number must be >= 1 (got 0). Column numbers are 1-indexed."
  | .lineBeyond line count =>
    "Line " ++ toString line.toNat ++ " exceeds file length (" ++ toString count ++ " lines)"
  | .columnBeyond column length line =>
    "Column " ++ toString column.toNat ++ " exceeds line length (" ++ toString length ++
      " chars) at line " ++ toString line.toNat

namespace Location

def isNumeric (text : List Char) : Bool := !text.isEmpty && text.all Char.isDigit

/-- A letter before a colon may be the name of a drive. -/
def isDrive : List Char → Bool
  | [c] => c.isAlpha
  | _ => false

/-- Takes a number off the end, after the last colon; none if there is no number to take. -/
def takeNumber (text : List Char) : Except LocationError (Option (List Char × UInt32)) :=
  match Text.splitLast ':' text with
  | none => .ok none
  | some (before, after) =>
    if after.head? = some '-' then .error (.negative (String.ofList after))
    else if !isNumeric after || isDrive before then .ok none
    else
      match Text.readNumeral UInt32.size after with
      | .ok n => .ok (some (before, .ofNat n))
      | .error e => .error (.badNumber (String.ofList after) e)

/-- The parts of a location once its numbers are read. -/
def check (file : List Char) (line column : UInt32) : Except LocationError Location :=
  if file.isEmpty then .error .noFile
  else if line = 0 then .error .zeroLine
  else if column = 0 then .error .zeroColumn
  else .ok ⟨String.ofList file, line, column⟩

/-- Numbers are taken from the end, so a file name may hold colons; without a second number the
column is 1. -/
def parse (input : String) : Except LocationError Location :=
  let text := Text.trim input.toList
  if text.isEmpty then .error .empty
  else
    match takeNumber text with
    | .error e => .error e
    | .ok none => .error .malformed
    | .ok (some (rest, last)) =>
      match takeNumber rest with
      | .error e => .error e
      | .ok none => check rest last 1
      | .ok (some (file, line)) => check file line last

def toString (l : Location) : String :=
  l.file ++ ":" ++ l.line.toNat.repr ++ ":" ++ l.column.toNat.repr

def position (l : Location) : Editor.Position := ⟨l.line, l.column⟩

/-- The place has to lie in the text, at most one column beyond the end of its line. -/
def validate (l : Location) (content : String) : Except LocationError Unit :=
  let lines := Text.lines content.toList
  let count := max lines.length 1
  if count < l.line.toNat then .error (.lineBeyond l.line count)
  else
    let length := ((lines[(l.line - 1).toNat]?).map List.length).getD 0
    if length + 1 < l.column.toNat then .error (.columnBeyond l.column length l.line)
    else .ok ()

end Location

end LanguageBridge
