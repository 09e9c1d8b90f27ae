import LanguageBridge.Path
import LanguageBridge.Text.Utf8

/-! File URIs. Every byte of a path outside a small set of characters is written by number. -/
namespace LanguageBridge.FileUri

/-- Characters that stand for themselves. -/
def isPlain (c : Char) : Bool :=
  c.isAlphanum || c = '/' || c = '.' || c = '-' || c = '_' || c = '~'

def hexDigit (n : Nat) : Char :=
  if n < 10 then Char.ofNat ('0'.toNat + n) else Char.ofNat ('A'.toNat + (n - 10))

def encodeByte (b : UInt8) : List Char := ['%', hexDigit (b.toNat / 16), hexDigit (b.toNat % 16)]

def encodeChar (c : Char) : List Char :=
  if isPlain c then [c] else (String.utf8EncodeChar c).flatMap encodeByte

def encode (path : List Char) : List Char := path.flatMap encodeChar

def scheme : String := "file://"

/-- The URI of a path, seen from a directory if it is not absolute. -/
def ofPath (directory path : String) : String :=
  scheme ++ String.ofList (encode (Path.join directory path).toList)

def hexValue? (c : Char) : Option Nat :=
  if c.isDigit then some (c.toNat - '0'.toNat)
  else if 'A' ≤ c ∧ c ≤ 'F' then some (c.toNat - 'A'.toNat + 10)
  else none

/-- The bytes that a text of plain characters and numbered bytes stands for. -/
def decodeBytes : List Char → Option (List UInt8)
  | [] => some []
  | '%' :: a :: b :: rest => do
    let byte := 16 * (← hexValue? a) + (← hexValue? b)
    return UInt8.ofNat byte :: (← decodeBytes rest)
  | c :: rest => if isPlain c then return UInt8.ofNat c.toNat :: (← decodeBytes rest) else none

def decode (text : List Char) : Option String := do (Text.decodeUtf8 (← decodeBytes text)).toOption

end LanguageBridge.FileUri
