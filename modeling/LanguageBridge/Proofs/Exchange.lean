import LanguageBridge.Engine
import LanguageBridge.Proofs.Pending

/-! Runs of one engine that alone uses the pending table of its channel. Calls are started, given up
and looked after, messages come in and go out, time passes, tokens fire and either side goes away, all
in any order. Every start and every end of a call is entered in the books with its place in the run. -/
namespace LanguageBridge

theorem Outbox.abandoned_of_take {o rest : Outbox} {text : String}
    (taken : o.take = some (text,rest)) : rest.abandoned = o.abandoned := by
  unfold take at taken
  split at taken
  · simp at taken
  · simp only [Option.some.injEq,Prod.mk.injEq] at taken
    rw [← taken.2]

namespace Channel

theorem pending_deliver_response (c : Channel) (r : Response) :
    (c.deliver (.response r)).pending = (c.pending.resolve r).2 := rfl

/-- Sending touches the outbox only, and fails exactly when nobody takes messages any more. -/
theorem send_cases (c : Channel) (m : Message) :
    (c.outbox.abandoned = true ∧ c.send m = .error .channelClosed) ∨
    ∃ o : Outbox, c.outbox.abandoned = false ∧ o.abandoned = false ∧
      c.send m = .ok { c with outbox := o } := by
  cases gone : c.outbox.abandoned with
  | true => exact .inl ⟨rfl,by simp [send,Outbox.send,Outbox.enqueue,gone,Except.map]⟩
  | false =>
    refine .inr ⟨{ c.outbox with queue := c.outbox.queue ++ [m.encode] },rfl,gone,?_⟩
    simp [send,Outbox.send,Outbox.enqueue,gone,Except.map]

@[simp] theorem pending_trySend (c : Channel) (m : Message) :
    (c.trySend m).pending = c.pending := by
  unfold trySend
  rcases send_cases c m with ⟨_,failed⟩ | ⟨o,_,_,sent⟩
  · rw [failed]
  · rw [sent]
    rfl

@[simp] theorem abandoned_trySend (c : Channel) (m : Message) :
    (c.trySend m).outbox.abandoned = c.outbox.abandoned := by
  unfold trySend
  rcases send_cases c m with ⟨_,failed⟩ | ⟨o,before,after,sent⟩
  · rw [failed]
  · rw [sent,before]
    exact after

end Channel

@[simp] theorem Call.pending_abandon (call : Call) (c : Channel) :
    (call.abandon c).pending = c.pending.drop call.handle :=
  Channel.pending_trySend _ _

@[simp] theorem Call.abandoned_abandon (call : Call) (c : Channel) :
    (call.abandon c).outbox.abandoned = c.outbox.abandoned :=
  Channel.abandoned_trySend _ _

/-- Everything that starting a call can do. -/
theorem Engine.call_cases (e : Engine) (c : Channel) (now : Nat) (method : String)
    (params : Option Json) (token : Option String) :
    (∃ error, c.pending.register (.number e.nextId) = .error error ∧
      e.call c now method params token =
        ({ e with nextId := e.nextId + 1 },c,.error error)) ∨
    ∃ h p, c.pending.register (.number e.nextId) = .ok (h,p) ∧
      ((c.outbox.abandoned = true ∧ e.call c now method params token =
        ({ e with nextId := e.nextId + 1 },c.setPending (p.drop h),.error .channelClosed)) ∨
      ∃ o : Outbox, o.abandoned = false ∧ e.call c now method params token =
        ({ e with nextId := e.nextId + 1 },{ c.setPending p with outbox := o },
          .ok ⟨e.nextId,h,method,e.profile.deadline method,
            now + (e.profile.deadline method).nanoseconds,token⟩)) := by
  cases registered : c.pending.register (.number e.nextId) with
  | error error => exact .inl ⟨error,rfl,by simp [call,registered]⟩
  | ok result =>
    obtain ⟨h,p⟩ := result
    refine .inr ⟨h,p,rfl,?_⟩
    rcases (c.setPending p).send_cases (.request (.new (.number e.nextId) method params)) with
      ⟨gone,failed⟩ | ⟨o,_,taken,sent⟩
    · exact .inl ⟨gone,by simp [call,registered,failed]⟩
    · exact .inr ⟨o,taken,by simp [call,registered,sent]⟩

/-- The response and the token of a call are looked at in either order. -/
def Call.look (call : Call) (c : Channel) (now : Nat) (fired : List String) (tokenFirst : Bool) :
    Channel × Option (Except CallError Json) :=
  if tokenFirst && call.token.any fired.contains then
    (call.abandon c,some (.error .cancelled))
  else call.poll c now fired

def Response.concluded (r : Response) : Except CallError Json := r.outcome.mapError .ofResponse

/-- Everything that a look at a call can find. -/
theorem Call.look_cases (call : Call) (c : Channel) (now : Nat) (fired : List String)
    (tokenFirst : Bool) :
    (c.pending.poll call.handle = .waiting ∧ call.look c now fired tokenFirst = (c,none)) ∨
    (∃ r, c.pending.poll call.handle = .ready r ∧ call.look c now fired tokenFirst =
      (c.setPending (c.pending.collect call.handle),some r.concluded)) ∨
    (c.pending.poll call.handle = .closed ∧ call.look c now fired tokenFirst =
      (c.setPending (c.pending.collect call.handle),some (.error .channelClosed))) ∨
    (c.pending.poll call.handle = .waiting ∧ call.deadline ≤ now ∧
      call.look c now fired tokenFirst =
        (call.abandon c,some (.error (.timeout call.method call.allowed)))) ∨
    ((∃ token ∈ fired, call.token = some token) ∧ call.look c now fired tokenFirst =
      (call.abandon c,some (.error .cancelled))) := by
  have cancels (h : call.token.any fired.contains = true) :
      ∃ token ∈ fired, call.token = some token := by
    cases own : call.token with
    | none => simp [own] at h
    | some token => exact ⟨token,by simpa [own] using h,rfl⟩
  by_cases early : (tokenFirst && call.token.any fired.contains) = true
  · have own := (Bool.and_eq_true_iff.mp early).2
    exact .inr (.inr (.inr (.inr ⟨cancels own,by rw [Call.look,if_pos early]⟩)))
  have look : call.look c now fired tokenFirst = call.poll c now fired := by
    simp [Call.look,early]
  rw [look]
  cases found : c.pending.poll call.handle with
  | ready r =>
    refine .inr (.inl ⟨r,rfl,?_⟩)
    cases result : r.outcome <;> simp [poll,found,Response.concluded,result,Except.mapError]
  | closed => exact .inr (.inr (.inl ⟨rfl,by simp [poll,found]⟩))
  | waiting =>
    by_cases late : call.deadline ≤ now
    · exact .inr (.inr (.inr (.inl ⟨rfl,late,by simp [poll,found,late]⟩)))
    by_cases own : call.token.any fired.contains = true
    · exact .inr (.inr (.inr (.inr ⟨cancels own,by simp [poll,found,late,own]⟩)))
    · exact .inl ⟨rfl,by simp [poll,found,late,own]⟩

/-- A look that ends nothing changes nothing. -/
theorem Call.eq_of_look_none {call : Call} {c d : Channel} {now : Nat} {fired : List String}
    {tokenFirst : Bool} (looked : call.look c now fired tokenFirst = (d,none)) : d = c := by
  rcases call.look_cases c now fired tokenFirst with
    ⟨_,found⟩ | ⟨_,_,found⟩ | ⟨_,found⟩ | ⟨_,_,found⟩ | ⟨_,found⟩
  all_goals
    rw [found] at looked
    simp_all

/-- A call under way; `since` is the place of its start in the run. -/
structure Exchange.Underway (α : Type) where
  call : Call
  since : Nat
  expected : Reads α

/-- A call that is over; `ended` is the place of the event that ended it. -/
structure Exchange.Ending (α : Type) where
  number : UInt64
  since : Nat
  ended : Nat
  outcome : Except CallError α

/-- `position` counts the events so far, and `issued` are the ids of all calls by their places. -/
structure Exchange (α : Type) where
  engine : Engine
  channel : Channel
  clock : Nat
  fired : List String
  position : Nat
  issued : List (Nat × UInt64)
  underway : List (Exchange.Underway α)
  endings : List (Exchange.Ending α)

namespace Exchange

variable {α : Type}

inductive Event (α : Type) where
  | start (method : String) (params : Option Json) (token : Option String) (expected : Reads α)
  | look (number : UInt64) (tokenFirst : Bool)
  | drop (number : UInt64)
  | deliver (m : Message)
  | close
  | send (m : Message)
  | take
  | hangUp
  | elapse (nanoseconds : Nat)
  | fire (token : String)

def opening (profile : Profile) : Exchange α :=
  { engine := .new profile
    channel := .empty
    clock := 0
    fired := []
    position := 0
    issued := []
    underway := []
    endings := [] }

def start (s : Exchange α) (method : String) (params : Option Json) (token : Option String)
    (expected : Reads α) : Exchange α :=
  let number := s.engine.nextId
  let issued := (s.position,number) :: s.issued
  match s.engine.call s.channel s.clock method params token with
  | (engine,channel,.ok call) =>
    { s with
      engine := engine
      channel := channel
      issued := issued
      underway := ⟨call,s.position,expected⟩ :: s.underway }
  | (engine,channel,.error error) =>
    { s with
      engine := engine
      channel := channel
      issued := issued
      endings := ⟨number,s.position,s.position,.error error⟩ :: s.endings }

def find? (s : Exchange α) (number : UInt64) : Option (Underway α) :=
  s.underway.find? fun u => u.call.number = number

def others (s : Exchange α) (number : UInt64) : List (Underway α) :=
  s.underway.filter fun u => u.call.number ≠ number

def look (s : Exchange α) (number : UInt64) (tokenFirst : Bool) : Exchange α :=
  match s.find? number with
  | none => s
  | some u =>
    match u.call.look s.channel s.clock s.fired tokenFirst with
    | (channel,none) => { s with channel := channel }
    | (channel,some result) =>
      { s with
        channel := channel
        underway := s.others number
        endings := ⟨number,u.since,s.position,u.expected.expect result⟩ :: s.endings }

def drop (s : Exchange α) (number : UInt64) : Exchange α :=
  match s.find? number with
  | none => s
  | some u =>
    { s with
      channel := s.channel.setPending (s.channel.pending.drop u.call.handle)
      underway := s.others number }

def handle (s : Exchange α) : Event α → Exchange α
  | .start method params token expected => s.start method params token expected
  | .look number tokenFirst => s.look number tokenFirst
  | .drop number => s.drop number
  | .deliver m => { s with channel := s.channel.deliver m }
  | .close => { s with channel := s.channel.close }
  | .send m => { s with channel := s.channel.trySend m }
  | .take =>
    match s.channel.outbox.take with
    | none => s
    | some (_,outbox) => { s with channel := { s.channel with outbox := outbox } }
  | .hangUp => { s with channel := { s.channel with outbox := s.channel.outbox.abandon } }
  | .elapse nanoseconds => { s with clock := s.clock + nanoseconds }
  | .fire token => { s with fired := token :: s.fired }

def step (s : Exchange α) (event : Event α) : Exchange α :=
  { s.handle event with position := s.position + 1 }

def run (profile : Profile) (events : List (Event α)) : Exchange α :=
  events.foldl step (opening profile)

@[simp] theorem run_snoc (profile : Profile) (events : List (Event α)) (event : Event α) :
    run profile (events ++ [event]) = (run profile events).step event := by
  simp [run]

end Exchange

end LanguageBridge
