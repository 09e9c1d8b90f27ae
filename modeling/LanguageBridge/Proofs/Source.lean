import LanguageBridge.Frame

/-! Reading from a stream that arrives in pieces. Where the pieces are cut makes no difference: what a
read answers and what it leaves is what the whole stream decides. -/
namespace LanguageBridge.Frame

def Step.extend (more : List UInt8) : Step → Step
  | .body text rest => .body text (rest ++ more)
  | .failed e rest => .failed e (rest ++ more)
  | .starved => .starved

theorem splitLine_append {bytes : List UInt8} (whole : (splitLine bytes).1.getLast? = some 10)
    (more : List UInt8) :
    splitLine (bytes ++ more) = ((splitLine bytes).1,(splitLine bytes).2 ++ more) := by
  induction bytes with
  | nil => simp [splitLine] at whole
  | cons b rest ih =>
    by_cases feed : b = 10
    · simp [splitLine,feed]
    · simp only [splitLine,feed,if_false,List.cons_append] at whole ⊢
      have inner : (splitLine rest).1.getLast? = some 10 := by
        cases line : (splitLine rest).1 with
        | nil => simp [line,feed] at whole
        | cons c cs => simpa [line,List.getLast?_cons_cons] using whole
      rw [ih inner]

theorem takeBody_append (ended : Bool) (length : Nat) (bytes more : List UInt8) :
    takeBody false length bytes = .starved ∨
      takeBody ended length (bytes ++ more) = (takeBody false length bytes).extend more := by
  unfold takeBody
  by_cases huge : bodyLimit ≤ length
  · exact .inr (by simp [huge,Step.extend])
  by_cases there : length ≤ bytes.length
  · right
    have still : length ≤ (bytes ++ more).length := by
      rw [List.length_append]
      omega
    simp only [huge,there,still,if_true,if_false,List.take_append_of_le_length there,
      List.drop_append_of_le_length there]
    cases Text.decodeUtf8 (bytes.take length) <;> rfl
  · exact .inl (by simp [huge,there])

/-- The first line decides how a read goes on. -/
theorem readFrom_line {bytes : List UInt8} (whole : (splitLine bytes).1.getLast? = some 10)
    (ended : Bool) (length : Option Nat) :
    readFrom ended length bytes =
      match header (splitLine bytes).1 with
      | .error e => .failed e (splitLine bytes).2
      | .ok .finish =>
        match length with
        | some n => takeBody ended n (splitLine bytes).2
        | none => .failed .noLength (splitLine bytes).2
      | .ok (.length n) => readFrom ended (some n) (splitLine bytes).2
      | .ok .other => readFrom ended length (splitLine bytes).2 := by
  cases bytes with
  | nil => simp [splitLine] at whole
  | cons b rest =>
    have complete : ¬((splitLine (b :: rest)).1.getLast? ≠ some 10 ∧ ¬ended) :=
      fun cut => cut.1 whole
    rw [readFrom.eq_def]
    exact if_neg complete

theorem readFrom_partial {bytes : List UInt8} (cut : (splitLine bytes).1.getLast? ≠ some 10)
    (length : Option Nat) : readFrom false length bytes = .starved := by
  cases bytes with
  | nil => simp [readFrom]
  | cons b rest =>
    rw [readFrom.eq_def]
    simp [cut]

/-- A step that needs no more bytes is the same whatever follows. -/
theorem readFrom_append (ended : Bool) (length : Option Nat) (bytes more : List UInt8) :
    readFrom false length bytes = .starved ∨
      readFrom ended length (bytes ++ more) = (readFrom false length bytes).extend more := by
  by_cases whole : (splitLine bytes).1.getLast? = some 10
  · have split := splitLine_append whole more
    have still : (splitLine (bytes ++ more)).1.getLast? = some 10 := by rw [split]; exact whole
    have shorter : (splitLine bytes).2.length < bytes.length := by
      cases bytes with
      | nil => simp [splitLine] at whole
      | cons b rest => exact splitLine_rest_lt b rest
    rw [readFrom_line whole,readFrom_line still,split]
    cases said : header (splitLine bytes).1 with
    | error e => exact .inr rfl
    | ok h =>
      cases h with
      | finish =>
        cases length with
        | none => exact .inr rfl
        | some n => exact takeBody_append ended n _ more
      | length n => exact readFrom_append ended (some n) _ more
      | other => exact readFrom_append ended length _ more
  · exact .inl (readFrom_partial whole length)
termination_by bytes.length

theorem takeBody_ended_ne_starved (length : Nat) (bytes : List UInt8) :
    takeBody true length bytes ≠ .starved := by
  unfold takeBody
  split
  · simp
  · split
    · cases Text.decodeUtf8 (bytes.take length) <;> simp
    · simp

theorem readFrom_ended_ne_starved (length : Option Nat) (bytes : List UInt8) :
    readFrom true length bytes ≠ .starved := by
  fun_induction readFrom true length bytes with
  | case1 => simp
  | case2 => simp_all
  | case3 => simp_all
  | case4 => simp
  | case5 => exact takeBody_ended_ne_starved _ _
  | case6 => simp
  | case7 _ _ _ _ _ _ _ _ ih => exact ih
  | case8 _ _ _ _ _ _ _ ih => exact ih

def Step.of : Except Error String → List UInt8 → Step
  | .ok text, rest => .body text rest
  | .error e, rest => .failed e rest

namespace Source

def remaining (s : Source) : List UInt8 := s.unread ++ s.pieces.flatten

end Source

theorem read_pull (unread : List UInt8) (pieces : List (List UInt8)) :
    read true (unread ++ pieces.flatten) =
      .of (pull unread pieces).1 (pull unread pieces).2.remaining := by
  induction pieces generalizing unread with
  | nil =>
    have fed := readFrom_ended_ne_starved none unread
    simp only [List.flatten_nil,List.append_nil,pull]
    cases step : read true unread with
    | body text rest => simp [Step.of,Source.remaining]
    | failed e rest => simp [Step.of,Source.remaining]
    | starved => exact absurd step fed
  | cons piece pieces ih =>
    simp only [pull]
    have settled := readFrom_append true none unread (piece :: pieces).flatten
    cases step : read false unread with
    | starved => simpa using ih (unread ++ piece)
    | body text rest =>
      have step : readFrom false none unread = .body text rest := step
      simpa [read,step,Step.extend,Step.of,Source.remaining] using settled
    | failed e rest =>
      have step : readFrom false none unread = .failed e rest := step
      simpa [read,step,Step.extend,Step.of,Source.remaining] using settled

/-- A read answers as if the whole stream had arrived. -/
theorem Source.next_eq {s : Source} {answer : Except Error String} {rest : List UInt8}
    (step : read true s.remaining = .of answer rest) :
    s.next.1 = answer ∧ s.next.2.remaining = rest := by
  have same := (read_pull s.unread s.pieces).symm.trans step
  change Step.of s.next.1 s.next.2.remaining = .of answer rest at same
  cases first : s.next.1 <;> cases answer <;> simp_all [Step.of]

theorem Source.remaining_ofPieces (pieces : List (List UInt8)) :
    (ofPieces pieces).remaining = pieces.flatten := rfl

end LanguageBridge.Frame
