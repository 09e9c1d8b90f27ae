import LanguageBridge.Text.Hidden

/-! Texts quoted inside messages. -/
namespace LanguageBridge.Text

def showHex (n : Nat) : String := String.ofList (Nat.toDigits 16 n)

def quotedChar (c : Char) : String :=
  if c = '"' then "\\\""
  else if c = '\\' then "\\\\"
  else if c = '\n' then "\\n"
  else if c = '\r' then "\\r"
  else if c = '\t' then "\\t"
  else if c.toNat = 0 then "\\0"
  else if isHidden c then "\\u\x7b" ++ showHex c.toNat ++ "\x7d"
  else c.toString

/-- The text in double quotes, hidden characters by number. -/
def quoted (s : String) : String := "\"" ++ String.join (s.toList.map quotedChar) ++ "\""

end LanguageBridge.Text
