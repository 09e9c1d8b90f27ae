/-! UTF-8 over byte lists. The decoder reports where a bad sequence starts and how many of its
bytes rule it out. -/
namespace LanguageBridge.Text

/-- `invalid index length`: `length` bytes at `index` start no character;
`incomplete index`: the input ends inside the character at `index`. -/
inductive Utf8Error where
  | invalid (index length : Nat)
  | incomplete (index : Nat)
  deriving DecidableEq, Repr

def Utf8Error.message : Utf8Error → String
  | .invalid index length => s!"invalid utf-8 sequence of {length} bytes from index {index}"
  | .incomplete index => s!"incomplete utf-8 byte sequence from index {index}"

def encodeUtf8 (s : String) : List UInt8 := s.toList.flatMap String.utf8EncodeChar

/-- Payload of a continuation byte. -/
def tailBits? (b : UInt8) : Option Nat :=
  if 0x80 ≤ b ∧ b ≤ 0xBF then some (b.toNat - 0x80) else none

/-- Payload of a second byte that has to lie between `low` and `high`. -/
def secondBits? (low high b : UInt8) : Option Nat :=
  if low ≤ b ∧ b ≤ high then some (b.toNat - 0x80) else none

/-- What the first byte of a character asks for: its payload, the range of the second byte and the
number of bytes in all. -/
def leadByte (b : UInt8) : Option (Nat × UInt8 × UInt8 × Nat) :=
  if b < 0xC2 then none
  else if b ≤ 0xDF then some (b.toNat - 0xC0, 0x80, 0xBF, 2)
  else if b = 0xE0 then some (0, 0xA0, 0xBF, 3)
  else if b = 0xED then some (b.toNat - 0xE0, 0x80, 0x9F, 3)
  else if b ≤ 0xEF then some (b.toNat - 0xE0, 0x80, 0xBF, 3)
  else if b = 0xF0 then some (0, 0x90, 0xBF, 4)
  else if b ≤ 0xF3 then some (b.toNat - 0xF0, 0x80, 0xBF, 4)
  else if b = 0xF4 then some (4, 0x80, 0x8F, 4)
  else none

/-- Decodes from byte offset `index` of the whole input. -/
def decodeFrom (index : Nat) : List UInt8 → Except Utf8Error (List Char)
  | [] => .ok []
  | a :: rest =>
    if a < 0x80 then return Char.ofNat a.toNat :: (← decodeFrom (index + 1) rest)
    else match leadByte a with
      | none => .error (.invalid index 1)
      | some (lead, low, high, size) =>
        match rest with
        | [] => .error (.incomplete index)
        | b :: rest =>
          match secondBits? low high b with
          | none => .error (.invalid index 1)
          | some second =>
            let two := lead * 64 + second
            if size = 2 then return Char.ofNat two :: (← decodeFrom (index + 2) rest)
            else match rest with
              | [] => .error (.incomplete index)
              | c :: rest =>
                match tailBits? c with
                | none => .error (.invalid index 2)
                | some third =>
                  let three := two * 64 + third
                  if size = 3 then return Char.ofNat three :: (← decodeFrom (index + 3) rest)
                  else match rest with
                    | [] => .error (.incomplete index)
                    | d :: rest =>
                      match tailBits? d with
                      | none => .error (.invalid index 3)
                      | some fourth =>
                        return Char.ofNat (three * 64 + fourth) :: (← decodeFrom (index + 4) rest)

def decodeUtf8 (bytes : List UInt8) : Except Utf8Error String :=
  (decodeFrom 0 bytes).map String.ofList

end LanguageBridge.Text
