import LanguageBridge.Channel.Fanout
import LanguageBridge.Channel.Pending

/-! One channel to a server: what comes in, split by kind, and what goes out. -/
namespace LanguageBridge

structure Inbound where
  requests : Fanout Request
  notifications : Fanout Notification
  pending : Pending

namespace Inbound

def empty : Inbound := ⟨.empty, .empty, .empty⟩

/-- Every message goes to the part that its kind belongs to. -/
def deliver (i : Inbound) : Message → Inbound
  | .request r => { i with requests := i.requests.publish r }
  | .notification n => { i with notifications := i.notifications.publish n }
  | .response r => { i with pending := (i.pending.resolve r).2 }

/-- Both sequences end, and every waiting request fails. -/
def close (i : Inbound) : Inbound :=
  ⟨i.requests.close, i.notifications.close, i.pending.close⟩

end Inbound

/-- Messages written but not yet taken away, oldest first. -/
structure Outbox where
  queue : List String
  abandoned : Bool
  deriving DecidableEq, Repr

namespace Outbox

def empty : Outbox := ⟨[], false⟩

/-- Fails once nobody takes messages any more. -/
def enqueue (o : Outbox) (text : String) : Except CallError Outbox :=
  if o.abandoned then .error .channelClosed else .ok { o with queue := o.queue ++ [text] }

/-- The oldest message. -/
def take (o : Outbox) : Option (String × Outbox) :=
  match o.queue with
  | [] => none
  | text :: rest => some (text, { o with queue := rest })

/-- Nobody takes messages any more. -/
def abandon (_ : Outbox) : Outbox := ⟨[], true⟩

def send (o : Outbox) (m : Message) : Except CallError Outbox := o.enqueue m.encode

end Outbox

structure Channel where
  inbound : Inbound
  outbox : Outbox

namespace Channel

def empty : Channel := ⟨.empty, .empty⟩

def deliver (c : Channel) (m : Message) : Channel := { c with inbound := c.inbound.deliver m }

def close (c : Channel) : Channel := { c with inbound := c.inbound.close }

def pending (c : Channel) : Pending := c.inbound.pending

def setPending (c : Channel) (p : Pending) : Channel :=
  { c with inbound := { c.inbound with pending := p } }

def send (c : Channel) (m : Message) : Except CallError Channel :=
  (c.outbox.send m).map fun o => { c with outbox := o }

end Channel

end LanguageBridge
