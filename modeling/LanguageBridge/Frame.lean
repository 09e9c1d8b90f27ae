import LanguageBridge.Text.Blank
import LanguageBridge.Text.Numeral
import LanguageBridge.Text.Utf8

/-! Frames on a byte stream: header lines, an empty line, and a body whose byte length the last
`Content-Length` header gives. -/
namespace LanguageBridge.Frame

/-- A body with its length in front. -/
def write (body : String) : String :=
  "Content-Length: " ++ toString body.utf8ByteSize ++ "\r\n\r\n" ++ body

def writeBytes (body : String) : List UInt8 := Text.encodeUtf8 (write body)

inductive Error where
  /-- The stream ended where a header line should start. -/
  | closed
  /-- The stream ended inside a body. -/
  | shortBody
  | headerEncoding (e : Text.Utf8Error)
  | badLength (e : Text.NumeralError)
  | noLength
  /-- No body of the announced length can be held. -/
  | tooLong
  | bodyEncoding (e : Text.Utf8Error)
  deriving DecidableEq, Repr

def Error.isEnd : Error → Bool
  | .closed | .shortBody => true
  | _ => false

def Error.message : Error → String
  | .closed => "Server closed connection"
  | .shortBody => "early eof"
  | .headerEncoding e => e.message
  | .badLength e => e.message
  | .noLength => "Missing Content-Length"
  | .tooLong => "capacity overflow"
  | .bodyEncoding e => e.message

/-- Bytes up to and with the first line feed, and the rest; without a line feed, all bytes. -/
def splitLine : List UInt8 → List UInt8 × List UInt8
  | [] => ([], [])
  | b :: rest =>
    if b = 10 then ([b], rest)
    else
      let (line, rest) := splitLine rest
      (b :: line, rest)

def lengthHeader : List Char := "Content-Length:".toList

/-- What a header line says: nothing follows, a length, or something that does not matter. -/
inductive Header where
  | finish
  | length (n : Nat)
  | other
  deriving DecidableEq, Repr

def header (line : List UInt8) : Except Error Header :=
  match Text.decodeUtf8 line with
  | .error e => .error (.headerEncoding e)
  | .ok text =>
    let text := Text.trim text.toList
    if text.isEmpty then .ok .finish
    else if lengthHeader.isPrefixOf text then
      match Text.readNumeral UInt64.size (Text.trim (text.drop lengthHeader.length)) with
      | .ok n => .ok (.length n)
      | .error e => .error (.badLength e)
    else .ok .other

/-- One attempt to read a frame off the front of a stream. -/
inductive Step where
  | body (text : String) (rest : List UInt8)
  | failed (e : Error) (rest : List UInt8)
  /-- More bytes have to arrive first. -/
  | starved
  deriving DecidableEq

/-- A body takes fewer bytes than this. -/
def bodyLimit : Nat := UInt64.size / 2

/-- The body once the headers are read. -/
def takeBody (ended : Bool) (length : Nat) (bytes : List UInt8) : Step :=
  if bodyLimit ≤ length then .failed .tooLong bytes
  else if length ≤ bytes.length then
    match Text.decodeUtf8 (bytes.take length) with
    | .ok text => .body text (bytes.drop length)
    | .error e => .failed (.bodyEncoding e) (bytes.drop length)
  else if ended then .failed .shortBody []
  else .starved

theorem splitLine_length (bytes : List UInt8) :
    (splitLine bytes).1.length + (splitLine bytes).2.length = bytes.length := by
  induction bytes with
  | nil => rfl
  | cons b rest ih =>
    by_cases h : b = 10
    · simp [splitLine, h]; omega
    · simp only [splitLine, h, if_false, List.length_cons]; omega

theorem splitLine_ne_nil (b : UInt8) (rest : List UInt8) : (splitLine (b :: rest)).1 ≠ [] := by
  by_cases h : b = 10 <;> simp [splitLine, h]

theorem splitLine_rest_lt (b : UInt8) (rest : List UInt8) :
    (splitLine (b :: rest)).2.length < (b :: rest).length := by
  have total := splitLine_length (b :: rest)
  have line := List.length_pos_iff.mpr (splitLine_ne_nil b rest)
  omega

/-- Reads header lines, then the body; `length` is the last length seen. A line is only read once
its line feed has arrived or the stream has ended. -/
def readFrom (ended : Bool) (length : Option Nat) : List UInt8 → Step
  | [] => if ended then .failed .closed [] else .starved
  | b :: rest =>
    let line := (splitLine (b :: rest)).1
    let after := (splitLine (b :: rest)).2
    if line.getLast? ≠ some 10 ∧ ¬ended then .starved
    else
      match header line with
      | .error e => .failed e after
      | .ok .finish =>
        match length with
        | some n => takeBody ended n after
        | none => .failed .noLength after
      | .ok (.length n) => readFrom ended (some n) after
      | .ok .other => readFrom ended length after
termination_by bytes => bytes.length
decreasing_by
  · exact splitLine_rest_lt b rest
  · exact splitLine_rest_lt b rest

/-- The next frame of a stream that may still grow unless it `ended`. -/
def read (ended : Bool) (bytes : List UInt8) : Step := readFrom ended none bytes

theorem takeBody_body_le {ended : Bool} {length : Nat} {bytes rest : List UInt8} {text : String}
    (h : takeBody ended length bytes = .body text rest) : rest.length ≤ bytes.length := by
  unfold takeBody at h
  split at h
  · simp at h
  · split at h
    · split at h
      · simp only [Step.body.injEq] at h
        rw [← h.2, List.length_drop]
        omega
      · simp at h
    · split at h <;> simp at h

theorem readFrom_body_lt {ended : Bool} {length : Option Nat} {bytes rest : List UInt8}
    {text : String} (h : readFrom ended length bytes = .body text rest) :
    rest.length < bytes.length := by
  fun_induction readFrom ended length bytes with
  | case1 => simp at h
  | case2 => simp at h
  | case3 => simp at h
  | case4 => simp at h
  | case5 =>
    exact Nat.lt_of_le_of_lt (takeBody_body_le h) (splitLine_rest_lt _ _)
  | case6 => simp at h
  | case7 _ _ _ _ _ _ _ _ ih => exact Nat.lt_trans (ih h) (splitLine_rest_lt _ _)
  | case8 _ _ _ _ _ _ _ ih => exact Nat.lt_trans (ih h) (splitLine_rest_lt _ _)

/-- A stream that hands out its bytes piece by piece and then ends. -/
structure Source where
  unread : List UInt8
  pieces : List (List UInt8)

/-- The next frame, with as many pieces taken in as it needs. -/
def pull (unread : List UInt8) : List (List UInt8) → Except Error String × Source
  | [] =>
    match read true unread with
    | .body text rest => (.ok text, ⟨rest, []⟩)
    | .failed e rest => (.error e, ⟨rest, []⟩)
    | .starved => (.error .closed, ⟨unread, []⟩)
  | piece :: pieces =>
    match read false unread with
    | .body text rest => (.ok text, ⟨rest, piece :: pieces⟩)
    | .failed e rest => (.error e, ⟨rest, piece :: pieces⟩)
    | .starved => pull (unread ++ piece) pieces

namespace Source

def ofPieces (pieces : List (List UInt8)) : Source := ⟨[], pieces⟩

def next (s : Source) : Except Error String × Source := pull s.unread s.pieces

/-- The answers of so many reads in a row, whatever they are. -/
def reads : Nat → Source → List (Except Error String)
  | 0, _ => []
  | n + 1, s => s.next.1 :: reads n s.next.2

end Source

/-- How a stream of frames stops: it waits for more bytes, or it cannot go on. -/
inductive Halt where
  | starved (bytes : List UInt8)
  | failed (e : Error)
  deriving DecidableEq

/-- All bodies that can be read now. -/
def readAll (ended : Bool) (bytes : List UInt8) : List String × Halt :=
  match _step : read ended bytes with
  | .body text rest =>
    let (bodies, halt) := readAll ended rest
    (text :: bodies, halt)
  | .failed e _ => ([], .failed e)
  | .starved => ([], .starved bytes)
termination_by bytes.length
decreasing_by exact readFrom_body_lt _step

end LanguageBridge.Frame
