import LanguageBridge.Proofs.Exchange
import LanguageBridge.Proofs.Numeral

/-! What the events of a run say about its calls, without a look at any state: which responses are
meant for a call, how much time has passed, and what justifies an outcome. -/
namespace LanguageBridge

/-- A response is meant for a call when its id is the number of the call or text that spells it. -/
def Response.Answers (r : Response) (number : UInt64) : Prop :=
  r.id = some (.number number) ∨
    ∃ text, r.id = some (.text text) ∧ Text.numeral? UInt64.size text = some number.toNat

theorem Response.Answers.unique {r : Response} {m n : UInt64} (first : r.Answers m)
    (second : r.Answers n) : m = n := by
  rcases first with first | ⟨text,first,value⟩ <;> rcases second with second | ⟨text',second,value'⟩
  · simpa [first] using second
  · simp [first] at second
  · simp [first] at second
  · obtain rfl : text = text' := by simpa [first] using second
    rw [value] at value'
    exact UInt64.toNat_inj.mp (Option.some.inj value')

theorem Pending.target?_number {p : Pending} {number : UInt64}
    (pending : p.isPending (.number number) = true) {m : UInt64} :
    p.target? (.number m) = some (.number number) ↔ m = number := by
  constructor
  · intro found
    unfold target? at found
    split at found
    · simpa using found
    · simp at found
  · rintro rfl
    simp only [target?,pending,if_true]

theorem Pending.target?_text {p : Pending} {number : UInt64}
    (pending : p.isPending (.number number) = true) {s : String}
    (absent : p.isPending (.text s) = false) :
    p.target? (.text s) = some (.number number) ↔
      Text.numeral? UInt64.size s = some number.toNat := by
  simp only [target?,absent,Bool.false_eq_true,if_false]
  constructor
  · intro found
    split at found
    next n value =>
      split at found
      next =>
        obtain rfl : UInt64.ofNat n = number := by simpa using found
        rw [value,UInt64.toNat_ofNat_of_lt' (Text.numeral?_lt value)]
      next => simp at found
    next => simp at found
  · intro value
    simp only [value,UInt64.ofNat_toNat,pending,if_true]

/-- Where only numbers are waited for, the table sends a response to whom it is meant for. -/
theorem Pending.target_iff {p : Pending} (numeric : ∀ w ∈ p.waiters, ∃ n, w.1 = .number n)
    {number : UInt64} (pending : p.isPending (.number number) = true) (r : Response) :
    r.id.bind p.target? = some (.number number) ↔ r.Answers number := by
  rcases id : r.id with _ | m | s
  · simp [Response.Answers,id]
  · rw [Option.bind_some,target?_number pending]
    simp [Response.Answers,id]
  · have absent : p.isPending (.text s) = false := by
      rw [Bool.eq_false_iff,ne_eq,isPending_iff]
      rintro ⟨ticket,entry⟩
      obtain ⟨n,key⟩ := numeric _ entry
      simp at key
    rw [Option.bind_some,target?_text pending absent]
    simp [Response.Answers,id]

namespace Exchange

variable {α : Type}

def Event.duration : Event α → Nat
  | .elapse nanoseconds => nanoseconds
  | _ => 0

def Event.isStart : Event α → Bool
  | .start _ _ _ _ => true
  | _ => false

def elapsed (events : List (Event α)) (place : Nat) : Nat :=
  (events.take place).foldl (fun passed event => passed + event.duration) 0

def calls (events : List (Event α)) : Nat := events.countP Event.isStart

def AnswerAt (events : List (Event α)) (number : UInt64) (place : Nat) (r : Response) : Prop :=
  events[place]? = some (.deliver (.response r)) ∧ r.Answers number

/-- `r` comes at `place`, the first answer to `number` after `since`. -/
structure FirstAnswer (events : List (Event α)) (number : UInt64) (since place : Nat)
    (r : Response) : Prop where
  later : since < place
  answer : AnswerAt events number place r
  first : ∀ earlier q, since < earlier → earlier < place → ¬ AnswerAt events number earlier q

def Justified (profile : Profile) (events : List (Event α)) (e : Ending α) : Prop :=
  ∃ method params token expected,
    events[e.since]? = some (.start method params token expected) ∧
    match e.outcome with
    | .ok _ | .error (.server _ _) | .error (.protocol _) =>
      ∃ place r, place < e.ended ∧ FirstAnswer events e.number e.since place r ∧
        e.outcome = expected.expect r.concluded
    | .error (.timeout waited allowed) =>
      waited = method ∧ allowed = profile.deadline method ∧
      elapsed events e.since + allowed.nanoseconds ≤ elapsed events e.ended ∧
      ∀ place r, e.since < place → place < e.ended → ¬ AnswerAt events e.number place r
    | .error .cancelled =>
      ∃ own place, token = some own ∧ place < e.ended ∧ events[place]? = some (.fire own)
    | .error .channelClosed =>
      (∃ place, place < e.ended ∧ events[place]? = some .close) ∨
      (e.ended = e.since ∧ ∃ place, place < e.since ∧ events[place]? = some .hangUp)
    | .error .writerClosed | .error (.duplicateId _) | .error (.decode _) => False

/-- A response makes a value, a failure of the server or a breach of protocol, never anything else. -/
theorem expect_concluded (expected : Reads α) (r : Response) :
    (∃ a, expected.expect r.concluded = .ok a) ∨
    (∃ code text, expected.expect r.concluded = .error (.server code text)) ∨
    ∃ reason, expected.expect r.concluded = .error (.protocol reason) := by
  cases outcome : r.outcome with
  | error e =>
    have concluded : r.concluded = .error (.server e.code e.message) := by
      simp [Response.concluded,outcome,Except.mapError,CallError.ofResponse]
    exact .inr (.inl ⟨e.code,e.message,by rw [concluded]; rfl⟩)
  | ok result =>
    have concluded : r.concluded = .ok result := by
      simp [Response.concluded,outcome,Except.mapError]
    cases read : expected result with
    | ok a => exact .inl ⟨a,by simp [concluded,Reads.expect,read]⟩
    | error e => exact .inr (.inr ⟨e.message,by simp [concluded,Reads.expect,read]⟩)

theorem Justified.of_answer {profile : Profile} {events : List (Event α)} {e : Ending α}
    {method : String} {params : Option Json} {token : Option String} {expected : Reads α}
    (started : events[e.since]? = some (.start method params token expected))
    {place : Nat} {r : Response} (before : place < e.ended)
    (first : FirstAnswer events e.number e.since place r)
    (value : e.outcome = expected.expect r.concluded) : Justified profile events e := by
  refine ⟨method,params,token,expected,started,?_⟩
  have reason : ∃ place r, place < e.ended ∧ FirstAnswer events e.number e.since place r ∧
      e.outcome = expected.expect r.concluded := ⟨place,r,before,first,value⟩
  rcases expect_concluded expected r with ⟨a,kind⟩ | ⟨code,text,kind⟩ | ⟨text,kind⟩
  all_goals
    rw [value.trans kind] at reason ⊢
    exact reason

section Snoc

variable {events : List (Event α)} {event : Event α}

theorem at_snoc {place : Nat} {x : Event α} (found : events[place]? = some x) :
    (events ++ [event])[place]? = some x := by
  obtain ⟨bound,_⟩ := List.getElem?_eq_some_iff.mp found
  rw [List.getElem?_append_left bound,found]

theorem of_at_snoc {place : Nat} {x : Event α} (found : (events ++ [event])[place]? = some x) :
    events[place]? = some x ∨ (place = events.length ∧ event = x) := by
  by_cases bound : place < events.length
  · rw [List.getElem?_append_left bound] at found
    exact .inl found
  · have final : place = events.length := by
      obtain ⟨inside,_⟩ := List.getElem?_eq_some_iff.mp found
      simp at inside
      omega
    subst final
    exact .inr ⟨rfl,by simpa using found⟩

theorem exists_at_snoc {x : Event α} (found : (∃ place : Nat, events[place]? = some x) ∨ event = x) :
    ∃ place : Nat, (events ++ [event])[place]? = some x := by
  rcases found with ⟨place,found⟩ | rfl
  · exact ⟨place,at_snoc found⟩
  · exact ⟨events.length,by simp⟩

theorem place_lt {place : Nat} {x : Event α} (found : events[place]? = some x) :
    place < events.length :=
  (List.getElem?_eq_some_iff.mp found).1

theorem elapsed_snoc {place : Nat} (bound : place ≤ events.length) :
    elapsed (events ++ [event]) place = elapsed events place := by
  rw [elapsed,List.take_append_of_le_length bound,elapsed]

theorem elapsed_length_snoc :
    elapsed (events ++ [event]) (events.length + 1) = elapsed events events.length + event.duration := by
  simp [elapsed,List.take_of_length_le]

theorem calls_snoc :
    calls (events ++ [event]) = calls events + if event.isStart then 1 else 0 := by
  simp [calls,List.countP_append]

theorem AnswerAt.snoc {number : UInt64} {place : Nat} {r : Response}
    (answer : AnswerAt events number place r) : AnswerAt (events ++ [event]) number place r :=
  ⟨at_snoc answer.1,answer.2⟩

theorem AnswerAt.of_snoc {number : UInt64} {place : Nat} {r : Response}
    (answer : AnswerAt (events ++ [event]) number place r) (bound : place < events.length) :
    AnswerAt events number place r := by
  rcases of_at_snoc answer.1 with found | ⟨final,_⟩
  · exact ⟨found,answer.2⟩
  · omega

theorem FirstAnswer.snoc {number : UInt64} {since place : Nat} {r : Response}
    (answer : FirstAnswer events number since place r) :
    FirstAnswer (events ++ [event]) number since place r := by
  refine ⟨answer.later,answer.answer.snoc,?_⟩
  intro earlier q after before found
  have bound := place_lt answer.answer.1
  exact answer.first earlier q after before (found.of_snoc (by omega))

theorem Justified.snoc {profile : Profile} {e : Ending α} (justified : Justified profile events e)
    (ended : e.ended ≤ events.length) : Justified profile (events ++ [event]) e := by
  obtain ⟨method,params,token,expected,started,reason⟩ := justified
  have since := place_lt started
  refine ⟨method,params,token,expected,at_snoc started,?_⟩
  split at reason
  iterate 3
    obtain ⟨place,r,before,first,value⟩ := reason
    exact ⟨place,r,before,first.snoc,value⟩
  · obtain ⟨waited,allowed,late,quiet⟩ := reason
    refine ⟨waited,allowed,?_,fun place r after before found => ?_⟩
    · rwa [elapsed_snoc (by omega),elapsed_snoc ended]
    · exact quiet place r after before (found.of_snoc (by omega))
  · obtain ⟨own,place,token,before,fired⟩ := reason
    exact ⟨own,place,token,before,at_snoc fired⟩
  · rcases reason with ⟨place,before,closed⟩ | ⟨same,place,before,gone⟩
    · exact .inl ⟨place,before,at_snoc closed⟩
    · exact .inr ⟨same,place,before,at_snoc gone⟩
  all_goals exact reason

end Snoc

end Exchange

end LanguageBridge
