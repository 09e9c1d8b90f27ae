import LanguageBridge.Channel.Basic
import LanguageBridge.Profile

/-! Calls over a channel. A call registers for its response before its request is sent, and ends by
the response, by its deadline, by its cancellation or by the end of the channel. -/
namespace LanguageBridge

/-- A call that waits. `token` names what can cancel it. -/
structure Call where
  number : UInt64
  handle : Handle
  method : String
  allowed : Duration
  deadline : Nat
  token : Option String
  deriving DecidableEq

/-- What a call-back did; nobody but the journal takes note. -/
inductive Reaction where
  | done
  | failed
  | crashed
  deriving DecidableEq, Repr

/-- Answers requests of the server, perhaps after a delay. -/
structure MethodHandler where
  delay : Duration
  respond : Option Json → Except ResponseError Json

/-- Takes notifications of the server: diagnostics, or an observer with a name. -/
inductive NotificationHandler where
  | diagnostics
  | observer (name : String) (react : Json → Reaction)

structure Engine where
  profile : Profile
  nextId : UInt64
  methods : List (String × MethodHandler)
  observers : List (String × NotificationHandler)

namespace Engine

def new (profile : Profile) : Engine := ⟨profile, 1, [], []⟩

/-- A later handler of a method replaces an earlier one. -/
def addMethod (e : Engine) (method : String) (handler : MethodHandler) : Engine :=
  { e with methods := (method, handler) :: e.methods.filter (·.1 ≠ method) }

def onNotification (e : Engine) (method : String) (handler : NotificationHandler) : Engine :=
  { e with observers := (method, handler) :: e.observers.filter (·.1 ≠ method) }

/-- Starts a call at time `now`. Every attempt uses up an id; a failed one leaves the channel as
it was. -/
def call (e : Engine) (c : Channel) (now : Nat) (method : String) (params : Option Json)
    (token : Option String) : Engine × Channel × Except CallError Call :=
  let id := e.nextId
  let e := { e with nextId := id + 1 }
  match c.pending.register (.number id) with
  | .error error => (e, c, .error error)
  | .ok (handle, pending) =>
    match (c.setPending pending).send (.request (.new (.number id) method params)) with
    | .error error => (e, c.setPending (pending.drop handle), .error error)
    | .ok c =>
      let allowed := e.profile.deadline method
      (e, c, .ok ⟨id, handle, method, allowed, now + allowed.nanoseconds, token⟩)

/-- The response to a request of the server once its handler has returned. -/
def respond (id : RequestId) : Except ResponseError Json → Response
  | .ok result => .success id result
  | .error error => .failure id error

end Engine

/-- Sends a notification. -/
def Channel.notify (c : Channel) (method : String) (params : Option Json) :
    Except CallError Channel :=
  c.send (.notification (.new method params))

/-- Sends what may fail without consequence. -/
def Channel.trySend (c : Channel) (m : Message) : Channel :=
  match c.send m with
  | .ok c => c
  | .error _ => c

namespace Call

/-- Gives a call up and tells the server so. -/
def abandon (call : Call) (c : Channel) : Channel :=
  (c.setPending (c.pending.drop call.handle)).trySend
    (.notification (.new Method.cancelRequest (some (.obj [("id", .ofWord64 call.number)]))))

/-- Looks after a call at time `now`: a response counts before the deadline, the deadline before the
cancellation. -/
def poll (call : Call) (c : Channel) (now : Nat) (fired : List String) :
    Channel × Option (Except CallError Json) :=
  match c.pending.poll call.handle with
  | .ready r =>
    (c.setPending (c.pending.collect call.handle),
      some (match r.outcome with
        | .ok result => .ok result
        | .error e => .error (.ofResponse e)))
  | .closed => (c.setPending (c.pending.collect call.handle), some (.error .channelClosed))
  | .waiting =>
    if call.deadline ≤ now then
      (call.abandon c, some (.error (.timeout call.method call.allowed)))
    else if call.token.any fired.contains then (call.abandon c, some (.error .cancelled))
    else (c, none)

end Call

/-- A result of the expected type, or a breach of protocol. -/
def Reads.expect {α : Type} (read : Reads α) : Except CallError Json → Except CallError α
  | .error e => .error e
  | .ok result =>
    match read result with
    | .ok a => .ok a
    | .error e => .error (.protocol e.message)

end LanguageBridge
