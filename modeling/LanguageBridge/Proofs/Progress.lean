import LanguageBridge.Proofs.Transport

/-! Reading always gets on. Whatever bytes a stream holds, a read takes some of them or finds the end with
none left, so reads of anything else are no more than there are bytes, and whoever reads frame after frame
comes to an end. -/
namespace LanguageBridge

namespace Frame

def Takes (bytes rest : List UInt8) : Prop := ∃ taken, taken ≠ [] ∧ bytes = taken ++ rest

/-- What a step leaves: nothing where it found the end, and less than there was otherwise. -/
def Step.Advances (bytes : List UInt8) : Step → Prop
  | .body _ rest => Takes bytes rest
  | .failed e rest => e.isEnd = true ∧ rest = [] ∨ e.isEnd = false ∧ Takes bytes rest
  | .starved => False

theorem Takes.prepend {bytes rest : List UInt8} (takes : Takes bytes rest) (front : List UInt8) :
    Takes (front ++ bytes) rest := by
  obtain ⟨taken,some,rfl⟩ := takes
  exact ⟨front ++ taken,by simp [some],by simp⟩

theorem Takes.length_lt {bytes rest : List UInt8} (takes : Takes bytes rest) :
    rest.length < bytes.length := by
  obtain ⟨taken,some,rfl⟩ := takes
  have pos := List.length_pos_iff.mpr some
  rw [List.length_append]
  omega

theorem Step.Advances.prepend {bytes : List UInt8} {step : Step} (advances : step.Advances bytes)
    (front : List UInt8) : step.Advances (front ++ bytes) := by
  cases step with
  | body text rest => exact Takes.prepend advances front
  | failed e rest => exact advances.imp_right fun ⟨goesOn,takes⟩ => ⟨goesOn,takes.prepend front⟩
  | starved => exact advances

theorem splitLine_eq (bytes : List UInt8) : (splitLine bytes).1 ++ (splitLine bytes).2 = bytes := by
  induction bytes with
  | nil => rfl
  | cons b rest ih =>
    by_cases feed : b = 10
    · simp [splitLine,feed]
    · simp [splitLine,feed,ih]

/-- The first line is taken, whatever it holds. -/
theorem takes_line (b : UInt8) (rest : List UInt8) :
    Takes (b :: rest) (splitLine (b :: rest)).2 :=
  ⟨_,splitLine_ne_nil b rest,(splitLine_eq _).symm⟩

theorem header_goesOn {line : List UInt8} {e : Error} (failed : header line = .error e) :
    e.isEnd = false := by
  unfold header at failed
  split at failed
  · cases failed
    rfl
  · dsimp only at failed
    split at failed
    · cases failed
    · split at failed
      · split at failed
        · cases failed
        · cases failed
          rfl
      · cases failed

/-- After the empty line a body of any length gets on, since that line has been taken already. -/
theorem takeBody_advances {bytes after : List UInt8} (takes : Takes bytes after) (length : Nat) :
    (takeBody true length after).Advances bytes := by
  have dropped : Takes bytes (after.drop length) := by
    obtain ⟨taken,some,rfl⟩ := takes
    exact ⟨taken ++ after.take length,by simp [some],by simp⟩
  unfold takeBody
  split
  · exact .inr ⟨rfl,takes⟩
  · split
    · split
      · exact dropped
      · exact .inr ⟨rfl,dropped⟩
    · exact .inl ⟨rfl,rfl⟩

theorem readFrom_advances (length : Option Nat) (bytes : List UInt8) :
    (readFrom true length bytes).Advances bytes := by
  fun_induction readFrom true length bytes with
  | case1 => exact .inl ⟨rfl,rfl⟩
  | case2 => simp_all
  | case3 => simp_all
  | case4 _ b rest _ _ _ e failed => exact .inr ⟨header_goesOn failed,takes_line b rest⟩
  | case5 b rest => exact takeBody_advances (takes_line b rest) _
  | case6 b rest => exact .inr ⟨rfl,takes_line b rest⟩
  | case7 _ b rest _ _ _ _ _ ih =>
    rw [← splitLine_eq (b :: rest)]
    exact ih.prepend _
  | case8 _ b rest _ _ _ _ ih =>
    rw [← splitLine_eq (b :: rest)]
    exact ih.prepend _

def atEnd : Except Error String → Bool
  | .ok _ => false
  | .error e => e.isEnd

namespace Source

theorem next_advances (s : Source) :
    atEnd s.next.1 = true ∧ s.next.2.remaining = [] ∨
      atEnd s.next.1 = false ∧ Takes s.remaining s.next.2.remaining := by
  have step : read true s.remaining = .of s.next.1 s.next.2.remaining := read_pull s.unread s.pieces
  have advances := readFrom_advances none s.remaining
  rw [← read,step] at advances
  cases answer : s.next.1 with
  | ok text =>
    rw [answer] at advances
    exact .inr ⟨rfl,advances⟩
  | error e =>
    rw [answer] at advances
    exact advances

/-- The end is found for good. -/
theorem reads_settled (s : Source) (calls : Nat) :
    (s.reads calls).Pairwise fun earlier later => atEnd earlier = true → atEnd later = true := by
  induction calls generalizing s with
  | zero => exact .nil
  | succ calls ih =>
    refine .cons (fun later member ended => ?_) (ih s.next.2)
    rcases s.next_advances with ⟨_,done⟩ | ⟨goesOn,_⟩
    · rw [reads_closed done] at member
      rw [List.eq_of_mem_replicate member]
      rfl
    · rw [goesOn] at ended
      cases ended

/-- Each answer that is not the end is paid for with a byte. -/
theorem reads_paid (s : Source) (calls : Nat) :
    (s.reads calls).countP (fun answer => !atEnd answer) ≤ s.remaining.length := by
  induction calls generalizing s with
  | zero => exact Nat.zero_le _
  | succ calls ih =>
    have later := ih s.next.2
    rw [reads,List.countP_cons]
    rcases s.next_advances with ⟨ended,done⟩ | ⟨goesOn,takes⟩
    · rw [done,List.length_nil] at later
      simp only [ended,Bool.not_true,Bool.false_eq_true,if_false]
      omega
    · have shorter := takes.length_lt
      simp only [goesOn,Bool.not_false,if_true]
      omega

/-- Reading frame after frame is reading call after call up to the first failure. -/
theorem reads_of_readAll {s : Source} {bodies : List String} {e : Error}
    (all : readAll true s.remaining = (bodies,.failed e)) :
    s.reads (bodies.length + 1) = bodies.map .ok ++ [.error e] := by
  induction bodies generalizing s with
  | nil =>
    cases step : read true s.remaining with
    | starved => exact absurd step (readFrom_ended_ne_starved none _)
    | body text rest => simp [readAll_body step] at all
    | failed other rest =>
      obtain rfl : other = e := by simpa [readAll_failed step] using all
      have failed : read true s.remaining = .of (.error other) rest := step
      simp [reads,(next_eq failed).1]
  | cons text bodies ih =>
    cases step : read true s.remaining with
    | starved => exact absurd step (readFrom_ended_ne_starved none _)
    | failed other rest => simp [readAll_failed step] at all
    | body first rest =>
      rw [readAll_body step] at all
      obtain ⟨first_eq,halt⟩ := Prod.mk.inj all
      obtain ⟨rfl,others⟩ := List.cons.inj first_eq
      have delivered : read true s.remaining = .of (.ok first) rest := step
      obtain ⟨answer,left⟩ := next_eq delivered
      have onward := ih (s := s.next.2) (by rw [left]; exact Prod.ext others halt)
      rw [List.length_cons,reads,answer,onward,List.map_cons,List.cons_append]

end Source

end Frame

/-- Whatever arrives in whatever pieces: every read takes bytes or finds the end with none left, whatever
the reads before it came to; there are no more answers but the end than bytes, and after the end comes
only the end. So the frames that are delivered come to a first failure, where reading is over, and unless
a body could not be held the inbound side is closed there. -/
theorem stream_exhausted (pieces : List (List UInt8)) (i : Inbound) :
    (∀ s : Frame.Source, Frame.atEnd s.next.1 = true ∧ s.next.2.remaining = [] ∨
      ∃ taken, taken ≠ [] ∧ s.remaining = taken ++ s.next.2.remaining) ∧
    (∀ calls, ((Frame.Source.ofPieces pieces).reads calls).countP (fun answer => !Frame.atEnd answer) ≤
      pieces.flatten.length) ∧
    (∀ calls, ((Frame.Source.ofPieces pieces).reads calls).Pairwise fun earlier later =>
      Frame.atEnd earlier = true → Frame.atEnd later = true) ∧
    ∃ (bodies : List String) (e : Frame.Error),
      (Frame.Source.ofPieces pieces).reads (bodies.length + 1) =
        bodies.map .ok ++ [.error e] ∧
      bodies.length ≤ pieces.flatten.length ∧
      (Link.readPieces i pieces).1.reading = false ∧
      (e ≠ .tooLong → (Link.readPieces i pieces).2 = (bodies.foldl Link.deliverBody i).close) := by
  refine ⟨fun s => s.next_advances.imp_right And.right,fun calls => Frame.Source.reads_paid _ calls,
    fun calls => Frame.Source.reads_settled _ calls,?_⟩
  obtain ⟨e,failed⟩ := Frame.readAll_ended pieces.flatten
  have all : Frame.readAll true pieces.flatten = ((Frame.readAll true pieces.flatten).1,.failed e) :=
    Prod.ext rfl failed
  have calls := Frame.Source.reads_of_readAll (s := .ofPieces pieces) all
  obtain ⟨ended,inbound⟩ := Link.finish_feed (l := .fresh) rfl rfl i pieces all
  refine ⟨_,e,calls,?_,ended,fun held => inbound.trans (Link.conclude_failed held _)⟩
  have paid := Frame.Source.reads_paid (.ofPieces pieces)
    ((Frame.readAll true pieces.flatten).1.length + 1)
  rw [calls,List.countP_append,List.countP_map] at paid
  have each : (Frame.readAll true pieces.flatten).1.countP
      ((fun answer => !Frame.atEnd answer) ∘ .ok) = (Frame.readAll true pieces.flatten).1.length :=
    List.countP_eq_length.mpr fun _ _ => rfl
  rw [each] at paid
  exact Nat.le_of_add_right_le paid

namespace Frame.Source

/-- A frame cut in its body, a length that is no number, an empty line, and a byte that is no text. -/
def garbled : List (List UInt8) :=
  [Text.encodeUtf8 "Content-Length: 2\r\n\r\n\x7b",
    Text.encodeUtf8 "\x7dContent-Length: x\r\n\r\n",[0xFF]]

/-- Calls could go on behind the length; the frames that are delivered end there. -/
theorem garbled_exhausted :
    (ofPieces garbled).reads 5 =
      [.ok "\x7b\x7d",.error (.badLength .invalidDigit),.error .noLength,
        .error (.headerEncoding (.invalid 0 1)),.error .closed] ∧
    (Link.readPieces .empty garbled).1.reading = false ∧
    (Link.readPieces .empty garbled).2 = (Link.deliverBody .empty "\x7b\x7d").close := by
  have first : (ofPieces garbled).next.1 = .ok "\x7b\x7d" := by decide +kernel
  have second : (ofPieces garbled).next.2.next.1 = .error (.badLength .invalidDigit) := by
    decide +kernel
  obtain ⟨_,_,_,bodies,e,calls,_,ended,closed⟩ := stream_exhausted garbled .empty
  refine ⟨by decide +kernel,ended,?_⟩
  cases bodies with
  | nil => simp [reads,first] at calls
  | cons body bodies =>
    cases bodies with
    | nil =>
      obtain ⟨rfl,rfl⟩ : "\x7b\x7d" = body ∧ .badLength .invalidDigit = e := by
        simpa [reads,first,second] using calls
      exact closed (by decide)
    | cons body bodies => simp [reads,first,second] at calls

end Frame.Source

end LanguageBridge
