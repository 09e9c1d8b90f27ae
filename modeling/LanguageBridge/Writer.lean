import LanguageBridge.Channel.Basic

/-! Writing messages. Writing a request takes until its response was seen. -/
namespace LanguageBridge

structure Writer where
  patience : Duration
  ended : Bool
  deriving DecidableEq

/-- A written request whose response has not been seen. -/
structure Receipt where
  handle : Handle
  method : String
  allowed : Duration
  deadline : Nat
  deriving DecidableEq

namespace Writer

def finish (w : Writer) : Writer := { w with ended := true }

def send (w : Writer) (c : Channel) (m : Message) : Except CallError Channel :=
  if w.ended then .error .writerClosed else c.send m

/-- Registers a request, then sends it; other messages are only sent. A request that cannot be sent
gives its handle up again. -/
def write (w : Writer) (c : Channel) (now : Nat) (m : Message) :
    Channel × Except CallError (Option Receipt) :=
  match m with
  | .request r =>
    match c.pending.register r.id with
    | .error e => (c, .error e)
    | .ok (handle, pending) =>
      match w.send (c.setPending pending) m with
      | .error e => (c.setPending (pending.drop handle), .error e)
      | .ok c => (c, .ok (some ⟨handle, r.method, w.patience, now + w.patience.nanoseconds⟩))
  | _ =>
    match w.send c m with
    | .error e => (c, .error e)
    | .ok c => (c, .ok none)

end Writer

/-- Looks after a written request at time `now`; the response itself does not matter. -/
def Receipt.poll (r : Receipt) (c : Channel) (now : Nat) :
    Channel × Option (Except CallError Unit) :=
  match c.pending.poll r.handle with
  | .ready _ => (c.setPending (c.pending.collect r.handle), some (.ok ()))
  | .closed => (c.setPending (c.pending.collect r.handle), some (.error .channelClosed))
  | .waiting =>
    if r.deadline ≤ now then
      (c.setPending (c.pending.drop r.handle), some (.error (.timeout r.method r.allowed)))
    else (c, none)

end LanguageBridge
