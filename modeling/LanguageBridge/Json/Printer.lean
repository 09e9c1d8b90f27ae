import LanguageBridge.Json.Basic
import LanguageBridge.Number.Shortest

/-! JSON text: the compact form, and a form indented by two spaces. -/
namespace LanguageBridge.Json

def hexDigit (n : Nat) : Char := Nat.digitChar n

/-- Quotes, backslashes and control characters are escaped; everything else stands for itself. -/
def escapeChar (c : Char) : List Char :=
  if c = '"' then ['\\', '"']
  else if c = '\\' then ['\\', '\\']
  else if c = '\n' then ['\\', 'n']
  else if c = '\t' then ['\\', 't']
  else if c = '\r' then ['\\', 'r']
  else if c = '\x08' then ['\\', 'b']
  else if c = '\x0c' then ['\\', 'f']
  else if c.toNat < 32 then
    ['\\', 'u', '0', '0', hexDigit (c.toNat / 16), hexDigit (c.toNat % 16)]
  else [c]

def quote (s : String) : List Char := '"' :: s.toList.flatMap escapeChar ++ ['"']

def numberChars : Number → List Char
  | .int n => (Text.showInt n).toList
  | .double x => x.compact.toList

mutual

def chars : Json → List Char
  | .null => "null".toList
  | .bool true => "true".toList
  | .bool false => "false".toList
  | .num n => numberChars n
  | .str s => quote s
  | .arr [] => "[]".toList
  | .arr (j :: rest) => '[' :: (j.chars ++ itemChars rest)
  | .obj [] => "\x7b\x7d".toList
  | .obj ((k, j) :: rest) => '\x7b' :: (quote k ++ ':' :: (j.chars ++ memberChars rest))

/-- The items after the first, up to the closing bracket. -/
def itemChars : List Json → List Char
  | [] => [']']
  | j :: rest => ',' :: (j.chars ++ itemChars rest)

/-- The members after the first, up to the closing brace. -/
def memberChars : List (String × Json) → List Char
  | [] => ['\x7d']
  | (k, j) :: rest => ',' :: (quote k ++ ':' :: (j.chars ++ memberChars rest))

end

def compact (j : Json) : String := String.ofList j.chars

def newline (depth : Nat) : List Char := '\n' :: List.replicate (2 * depth) ' '

mutual

def prettyChars (depth : Nat) : Json → List Char
  | .arr (j :: rest) =>
    '[' :: (newline (depth + 1) ++ prettyChars (depth + 1) j ++ prettyItems depth rest)
  | .obj ((k, j) :: rest) =>
    '\x7b' :: (newline (depth + 1) ++ quote k ++ ':' :: ' ' :: (prettyChars (depth + 1) j ++
      prettyMembers depth rest))
  | other => other.chars

def prettyItems (depth : Nat) : List Json → List Char
  | [] => newline depth ++ [']']
  | j :: rest => ',' :: (newline (depth + 1) ++ prettyChars (depth + 1) j ++ prettyItems depth rest)

def prettyMembers (depth : Nat) : List (String × Json) → List Char
  | [] => newline depth ++ ['\x7d']
  | (k, j) :: rest =>
    ',' :: (newline (depth + 1) ++ quote k ++ ':' :: ' ' :: (prettyChars (depth + 1) j ++
      prettyMembers depth rest))

end

def pretty (j : Json) : String := String.ofList (prettyChars 0 j)

end LanguageBridge.Json
