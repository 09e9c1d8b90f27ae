import LanguageBridge.Proofs.Blank
import LanguageBridge.Proofs.Numeral
import LanguageBridge.Proofs.Source
import LanguageBridge.Proofs.Utf8
import Mathlib.Data.List.Forall2

/-! Well-framed streams. Every frame is answered by itself, whatever headers stand beside the length,
whatever its body holds and wherever the stream is cut. -/
namespace LanguageBridge.Frame

/-- What a header line announces: a length if `announced` is one, something else otherwise. -/
def Announces (text : List Char) : (announced : Option Nat) → Prop
  | none => ¬lengthHeader <+: text
  | some n => ∃ spaces digits, text = lengthHeader ++ spaces ++ digits ∧
      (∀ c ∈ spaces, c = ' ') ∧ digits ≠ [] ∧ (∀ c ∈ digits, c.isDigit = true) ∧
      Nat.ofDigitChars 10 digits 0 = n ∧ n < UInt64.size

structure HeaderLine where
  text : String
  announced : Option Nat
  oneLine : '\n' ∉ text.toList
  solid : Text.trim text.toList ≠ []
  announces : Announces (Text.trim text.toList) announced

def lineEnd : List UInt8 := [13, 10]

def HeaderLine.bytes (line : HeaderLine) : List UInt8 := Text.encodeUtf8 line.text ++ lineEnd

/-- A body under header lines of which the last length is its own. Bytes that can be held are fewer
than the body limit. -/
structure Envelope where
  lines : List HeaderLine
  body : List UInt8
  measured : (lines.filterMap (·.announced)).getLast? = some body.length
  held : body.length < bodyLimit

def Envelope.bytes (e : Envelope) : List UInt8 :=
  e.lines.flatMap (·.bytes) ++ lineEnd ++ e.body

def Delivers (body : List UInt8) (answer : Except Error String) : Prop :=
  (∀ text, Text.encodeUtf8 text = body → answer = .ok text) ∧
    ((∀ text, Text.encodeUtf8 text ≠ body) → ∃ e, answer = .error (.bodyEncoding e))

theorem splitLine_lineEnd {front : List UInt8} (apart : (10 : UInt8) ∉ front) (rest : List UInt8) :
    splitLine (front ++ lineEnd ++ rest) = (front ++ lineEnd,rest) := by
  induction front with
  | nil => rfl
  | cons b front ih =>
    have other : b ≠ 10 := fun same => apart (by simp [same])
    have inner := ih fun member => apart (by simp [member])
    simp only [List.cons_append,splitLine,if_neg other,inner]

theorem decodeUtf8_line (text : String) :
    Text.decodeUtf8 (Text.encodeUtf8 text ++ lineEnd) = .ok (text ++ "\r\n") := by
  rw [Text.decodeUtf8_eq_ok_iff,Text.encodeUtf8_append]
  rfl

theorem trim_line (cs : List Char) : Text.trim (cs ++ ['\r','\n']) = Text.trim cs := by
  apply Text.trim_append_blank
  simp [Text.isBlank]

theorem header_other {text : String} (solid : Text.trim text.toList ≠ [])
    (other : ¬lengthHeader <+: Text.trim text.toList) :
    header (Text.encodeUtf8 text ++ lineEnd) = .ok .other := by
  simp [header,decodeUtf8_line,trim_line,solid,other]

theorem header_length {text : String} {spaces digits : List Char}
    (shape : Text.trim text.toList = lengthHeader ++ spaces ++ digits)
    (blank : ∀ c ∈ spaces, c = ' ') (some : digits ≠ [])
    (decimal : ∀ c ∈ digits, c.isDigit = true) (fits : Nat.ofDigitChars 10 digits 0 < UInt64.size) :
    header (Text.encodeUtf8 text ++ lineEnd) = .ok (.length (Nat.ofDigitChars 10 digits 0)) := by
  have spaces_blank : ∀ c ∈ spaces, Text.isBlank c := by
    intro c member
    rw [blank c member]
    decide
  have solid : ∀ c ∈ digits, Text.isBlank c = false :=
    fun c member => Text.isBlank_of_isDigit (decimal c member)
  have trimmed : Text.trim (spaces ++ digits) = digits := by
    rw [Text.trim_blank_append spaces_blank]
    exact Text.trim_eq_self (fun c member => solid c (List.mem_of_mem_head? member))
      (fun c member => solid c (List.mem_of_mem_getLast? member))
  have read := Text.readNumeral_digits some decimal fits
  have start : lengthHeader.isPrefixOf (lengthHeader ++ (spaces ++ digits)) = true := by simp
  have filled : (lengthHeader ++ (spaces ++ digits)).isEmpty = false := by simp [some]
  rw [List.append_assoc] at shape
  have line : Text.trim (text ++ "\r\n").toList = lengthHeader ++ (spaces ++ digits) := by
    rw [String.toList_append,← shape]
    exact trim_line _
  simp only [header,decodeUtf8_line,line,filled,start,List.drop_left,trimmed,read]
  rfl

theorem HeaderLine.header_eq (line : HeaderLine) :
    header line.bytes = .ok (line.announced.elim .other .length) := by
  obtain ⟨text,announced,_,solid,announces⟩ := line
  cases announced with
  | none => exact header_other solid announces
  | some n =>
    obtain ⟨spaces,digits,shape,blank,some,decimal,rfl,fits⟩ := announces
    exact header_length shape blank some decimal fits

/-- One header line of any kind is passed over, and its length, if it has one, is remembered. -/
theorem readFrom_headerLine (line : HeaderLine) (length : Option Nat) (rest : List UInt8) :
    readFrom true length (line.bytes ++ rest) = readFrom true (line.announced.or length) rest := by
  have apart : (10 : UInt8) ∉ Text.encodeUtf8 line.text :=
    fun feed => line.oneLine (Text.feed_mem_encodeUtf8 feed)
  have split : splitLine (line.bytes ++ rest) = (line.bytes,rest) := splitLine_lineEnd apart rest
  have whole : (splitLine (line.bytes ++ rest)).1.getLast? = some 10 := by
    rw [split]
    simp [HeaderLine.bytes,lineEnd]
  rw [readFrom_line whole,split,line.header_eq]
  cases line.announced <;> rfl

theorem readFrom_headerLines (lines : List HeaderLine) (length : Option Nat) (rest : List UInt8) :
    readFrom true length (lines.flatMap (·.bytes) ++ rest) =
      readFrom true ((lines.filterMap (·.announced)).getLast?.or length) rest := by
  induction lines generalizing length with
  | nil => rfl
  | cons line lines ih =>
    rw [List.flatMap_cons,List.append_assoc,readFrom_headerLine,ih]
    cases said : line.announced with
    | none => simp [said]
    | some n => simp [said,List.getLast?_cons]

theorem readFrom_lineEnd (length : Nat) (rest : List UInt8) :
    readFrom true (some length) (lineEnd ++ rest) = takeBody true length rest := by
  rw [readFrom_line rfl]
  rfl

/-- The step that answers a body. -/
theorem takeBody_held {body : List UInt8} (held : body.length < bodyLimit) (rest : List UInt8) :
    ∃ answer, Delivers body answer ∧ takeBody true body.length (body ++ rest) = .of answer rest := by
  have fits : ¬bodyLimit ≤ body.length := Nat.not_le.mpr held
  have there : body.length ≤ (body ++ rest).length := by simp
  simp only [takeBody,if_neg fits,if_pos there,List.take_left,List.drop_left]
  cases decoded : Text.decodeUtf8 body with
  | ok text =>
    have spelled := Text.decodeUtf8_eq_ok_iff.mp decoded
    refine ⟨.ok text,⟨fun other same => ?_,fun none => absurd spelled (none text)⟩,rfl⟩
    have again := Text.decodeUtf8_eq_ok_iff.mpr same
    obtain rfl : text = other := by simpa [decoded] using again
    rfl
  | error e =>
    refine ⟨.error (.bodyEncoding e),⟨fun text same => ?_,fun _ => ⟨e,rfl⟩⟩,rfl⟩
    have ok := Text.decodeUtf8_eq_ok_iff.mpr same
    simp [decoded] at ok

theorem Envelope.read_bytes (e : Envelope) (rest : List UInt8) :
    ∃ answer, Delivers e.body answer ∧ read true (e.bytes ++ rest) = .of answer rest := by
  obtain ⟨answer,delivers,step⟩ := takeBody_held e.held rest
  refine ⟨answer,delivers,?_⟩
  rw [read,Envelope.bytes,List.append_assoc,List.append_assoc,readFrom_headerLines,e.measured,
    Option.some_or,readFrom_lineEnd,step]

theorem reads_closed {s : Source} (done : s.remaining = []) (extra : Nat) :
    s.reads extra = List.replicate extra (.error .closed) := by
  induction extra generalizing s with
  | zero => rfl
  | succ extra ih =>
    have step : read true s.remaining = .of (.error .closed) [] := by
      rw [done,read,readFrom.eq_def]
      rfl
    obtain ⟨answer,rest⟩ := Source.next_eq step
    rw [Source.reads,answer,ih rest,List.replicate_succ]

/-- Reading goes from frame to frame and finds the end after the last. -/
theorem reads_envelopes {s : Source} {envelopes : List Envelope}
    (framed : s.remaining = envelopes.flatMap (·.bytes)) (extra : Nat) :
    ∃ answers, List.Forall₂ (fun e answer => Delivers e.body answer) envelopes answers ∧
      s.reads (envelopes.length + extra) = answers ++ List.replicate extra (.error .closed) := by
  induction envelopes generalizing s with
  | nil => exact ⟨[],.nil,by simpa using reads_closed framed extra⟩
  | cons e envelopes ih =>
    obtain ⟨answer,delivers,step⟩ := e.read_bytes (envelopes.flatMap (·.bytes))
    rw [List.flatMap_cons] at framed
    obtain ⟨first,rest⟩ := Source.next_eq (framed ▸ step)
    obtain ⟨answers,all,others⟩ := ih rest
    refine ⟨answer :: answers,.cons delivers all,?_⟩
    rw [List.length_cons,Nat.add_right_comm,Source.reads,first,others,List.cons_append]

theorem toList_lengthText (n : Nat) :
    ("Content-Length: " ++ toString n).toList = lengthHeader ++ [' '] ++ Text.decimal n := by
  have digits : (toString n).toList = Text.decimal n := by simp [Text.decimal]
  rw [String.toList_append,digits]
  rfl

theorem trim_lengthText (n : Nat) :
    Text.trim ("Content-Length: " ++ toString n).toList = lengthHeader ++ [' '] ++ Text.decimal n := by
  rw [toList_lengthText]
  apply Text.trim_eq_self
  · intro c first
    have start : lengthHeader.head? = some 'C' := by decide
    rw [List.append_assoc,List.head?_append,start,Option.some_or,Option.mem_some] at first
    rw [← first]
    decide
  · intro c last
    rw [List.getLast?_append_of_ne_nil _ (Text.decimal_ne_nil n)] at last
    exact Text.isBlank_of_isDigit (Text.isDigit_of_mem_decimal (List.mem_of_mem_getLast? last))

theorem feed_not_mem_lengthText (n : Nat) : '\n' ∉ ("Content-Length: " ++ toString n).toList := by
  rw [toList_lengthText]
  intro feed
  rcases List.mem_append.mp feed with named | digit
  · exact absurd named (by decide)
  · exact absurd (Text.isDigit_of_mem_decimal digit) (by decide)

def lengthLine (n : Nat) (fits : n < UInt64.size) : HeaderLine where
  text := "Content-Length: " ++ toString n
  announced := some n
  oneLine := feed_not_mem_lengthText n
  solid := by
    rw [trim_lengthText]
    exact List.append_ne_nil_of_right_ne_nil _ (Text.decimal_ne_nil n)
  announces := ⟨[' '],Text.decimal n,trim_lengthText n,by simp,Text.decimal_ne_nil n,
    fun _ => Text.isDigit_of_mem_decimal,Text.ofDigitChars_decimal n,fits⟩

def Envelope.ofText (text : String) (held : text.utf8ByteSize < bodyLimit) : Envelope where
  lines := [lengthLine text.utf8ByteSize (Nat.lt_trans held (by decide))]
  body := Text.encodeUtf8 text
  measured := by simp [lengthLine,Text.length_encodeUtf8]
  held := by rwa [Text.length_encodeUtf8]

theorem encodeUtf8_headed (front text : String) :
    Text.encodeUtf8 (front ++ "\r\n\r\n" ++ text) =
      Text.encodeUtf8 front ++ (lineEnd ++ (lineEnd ++ Text.encodeUtf8 text)) := by
  have ends : Text.encodeUtf8 "\r\n\r\n" = lineEnd ++ lineEnd := by decide
  rw [Text.encodeUtf8_append,Text.encodeUtf8_append,ends,List.append_assoc,List.append_assoc]

theorem Envelope.bytes_singleton {e : Envelope} {line : HeaderLine} (lines : e.lines = [line]) :
    e.bytes = Text.encodeUtf8 line.text ++ (lineEnd ++ (lineEnd ++ e.body)) := by
  simp [bytes,lines,HeaderLine.bytes]

theorem writeBytes_eq (text : String) :
    writeBytes text = Text.encodeUtf8 ("Content-Length: " ++ toString text.utf8ByteSize) ++
      (lineEnd ++ (lineEnd ++ Text.encodeUtf8 text)) :=
  encodeUtf8_headed _ text

theorem Envelope.bytes_ofText (text : String) (held : text.utf8ByteSize < bodyLimit) :
    (ofText text held).bytes = writeBytes text := by
  have one : (ofText text held).lines = [lengthLine text.utf8ByteSize (Nat.lt_trans held (by decide))] :=
    rfl
  rw [bytes_singleton one,writeBytes_eq,lengthLine,ofText]

/-- The envelopes that a list of texts is written as. -/
theorem exists_envelopes {texts : List String}
    (held : ∀ text ∈ texts, text.utf8ByteSize < bodyLimit) :
    ∃ envelopes : List Envelope, envelopes.map (·.body) = texts.map Text.encodeUtf8 ∧
      envelopes.flatMap (·.bytes) = texts.flatMap writeBytes := by
  induction texts with
  | nil => exact ⟨[],rfl,rfl⟩
  | cons text texts ih =>
    obtain ⟨envelopes,bodies,framed⟩ := ih fun other member => held other (by simp [member])
    refine ⟨.ofText text (held text (by simp)) :: envelopes,?_,?_⟩
    · simp [bodies,Envelope.ofText]
    · simp [framed,Envelope.bytes_ofText]

theorem answers_eq_texts {envelopes : List Envelope} {answers : List (Except Error String)}
    {texts : List String} (all : List.Forall₂ (fun e answer => Delivers e.body answer) envelopes answers)
    (bodies : envelopes.map (·.body) = texts.map Text.encodeUtf8) : answers = texts.map .ok := by
  induction all generalizing texts with
  | nil =>
    obtain rfl : texts = [] := by simpa using bodies.symm
    rfl
  | cons delivers _ ih =>
    cases texts with
    | nil => simp at bodies
    | cons text texts =>
      simp only [List.map_cons,List.cons.injEq] at bodies
      rw [delivers.1 text bodies.1.symm,ih bodies.2,List.map_cons]

/-- However a well-framed stream is cut, successive reads give the frames in order, a body that is no
text as an error of its own, and then the end for ever. So do texts written one after another. -/
theorem reads_framed (pieces : List (List UInt8)) (extra : Nat) :
    (∀ envelopes : List Envelope, pieces.flatten = envelopes.flatMap (·.bytes) →
      ∃ answers, List.Forall₂ (fun e answer => Delivers e.body answer) envelopes answers ∧
        (Source.ofPieces pieces).reads (envelopes.length + extra) =
          answers ++ List.replicate extra (.error .closed)) ∧
    (∀ texts : List String, (∀ text ∈ texts, text.utf8ByteSize < bodyLimit) →
      pieces.flatten = texts.flatMap writeBytes →
        (Source.ofPieces pieces).reads (texts.length + extra) =
          texts.map .ok ++ List.replicate extra (.error .closed)) := by
  have general : ∀ envelopes : List Envelope, pieces.flatten = envelopes.flatMap (·.bytes) → _ :=
    fun envelopes framed =>
      reads_envelopes ((Source.remaining_ofPieces pieces).trans framed) extra
  refine ⟨general,fun texts held framed => ?_⟩
  obtain ⟨envelopes,bodies,written⟩ := exists_envelopes held
  obtain ⟨answers,all,reads⟩ := general envelopes (framed.trans written.symm)
  have count : envelopes.length = texts.length := by simpa using congrArg List.length bodies
  rw [← count,reads,answers_eq_texts all bodies]

/-- A body that looks like a header, then one that is no text behind a length that is corrected. -/
def mixed : List Envelope :=
  [.ofText "é\r\n\r\nContent-Length: 1" (by decide),
    { lines := [lengthLine 99 (by decide),
        ⟨"X-Note: é",none,by decide,by decide,show ¬lengthHeader <+: _ by decide⟩,
        lengthLine 1 (by decide)]
      body := [0xFF]
      measured := rfl
      held := by decide }]

theorem reads_mixed :
    let bytes := mixed.flatMap (·.bytes)
    ∃ answers, List.Forall₂ (fun e answer => Delivers e.body answer) mixed answers ∧
      (Source.ofPieces [bytes.take 25,bytes.drop 25]).reads 4 =
        answers ++ [.error .closed,.error .closed] :=
  (reads_framed _ 2).1 mixed (by simp)

end LanguageBridge.Frame
