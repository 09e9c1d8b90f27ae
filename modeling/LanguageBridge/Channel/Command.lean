import LanguageBridge.Channel.Basic

/-! A channel worked by commands. Subscriptions and handles go by names; to take a name again is to
let go of what it stood for. -/
namespace LanguageBridge

/-- One of the two sequences of a channel, with the key of its subscriber. -/
inductive Subscription where
  | requests (key : Nat)
  | notifications (key : Nat)
  deriving DecidableEq, Repr

structure Desk where
  channel : Channel
  subscriptions : List (String × Subscription)
  handles : List (String × Handle)

inductive DeskCommand where
  | requests (name : String)
  | notifications (name : String)
  | drain (name : String)
  | receive (name : String)
  | unsubscribe (name : String)
  | register (name : String) (id : RequestId)
  | poll (name : String)
  | drop (name : String)
  | resolve (r : Response)
  | deliver (m : Message)
  | close
  | closePending
  | enqueue (text : String)
  | take
  | abandon

inductive DeskReply where
  | done
  | unknown
  | existed (b : Bool)
  | items (ms : List Message) (ended : Bool)
  | received (m : Received Message)
  | registered (id : RequestId)
  | waiting
  | answered (r : Response)
  | failed (e : CallError)
  | taken (text : String)
  | nothing
  | gone

/-- What is received, as something else. -/
def Received.map {α β : Type} (f : α → β) : Received α → Received β
  | .item a => .item (f a)
  | .nothing => .nothing
  | .ended => .ended

namespace Desk

def empty : Desk := ⟨.empty, [], []⟩

def setInbound (d : Desk) (i : Inbound) : Desk :=
  { d with channel := { d.channel with inbound := i } }

/-- Forgets a subscriber and what it has not received. -/
def unsubscribe (d : Desk) (name : String) : Desk :=
  let i := d.channel.inbound
  let others := d.subscriptions.filter (·.1 ≠ name)
  match d.subscriptions.lookup name with
  | none => d
  | some (.requests key) =>
    { d.setInbound { i with requests := i.requests.unsubscribe key } with subscriptions := others }
  | some (.notifications key) =>
    { d.setInbound { i with notifications := i.notifications.unsubscribe key } with
      subscriptions := others }

/-- Gives up waiting for a response. -/
def drop (d : Desk) (name : String) : Desk :=
  match d.handles.lookup name with
  | none => d
  | some handle =>
    { d with
      channel := d.channel.setPending (d.channel.pending.drop handle)
      handles := d.handles.filter (·.1 ≠ name) }

/-- Takes the next item of a subscriber. -/
def receive (d : Desk) : Subscription → Desk × DeskReply
  | .requests key =>
    let i := d.channel.inbound
    let (item, f) := i.requests.receive key
    (d.setInbound { i with requests := f }, .received (item.map .request))
  | .notifications key =>
    let i := d.channel.inbound
    let (item, f) := i.notifications.receive key
    (d.setInbound { i with notifications := f }, .received (item.map .notification))

/-- Takes all that a subscriber can have. -/
def drain (d : Desk) : Subscription → Desk × DeskReply
  | .requests key =>
    let i := d.channel.inbound
    let (items, ended, f) := i.requests.drain key
    (d.setInbound { i with requests := f }, .items (items.map .request) ended)
  | .notifications key =>
    let i := d.channel.inbound
    let (items, ended, f) := i.notifications.drain key
    (d.setInbound { i with notifications := f }, .items (items.map .notification) ended)

/-- Looks whether the response has come; a handle is used up by it. -/
def poll (d : Desk) (name : String) (handle : Handle) : Desk × DeskReply :=
  let used : Desk := { d with
    channel := d.channel.setPending (d.channel.pending.collect handle)
    handles := d.handles.filter (·.1 ≠ name) }
  match d.channel.pending.poll handle with
  | .waiting => (d, .waiting)
  | .ready r => (used, .answered r)
  | .closed => (used, .failed .channelClosed)

def step (d : Desk) : DeskCommand → Desk × DeskReply
  | .requests name =>
    let i := d.channel.inbound
    let (key, f) := i.requests.subscribe
    let d := (d.setInbound { i with requests := f }).unsubscribe name
    ({ d with subscriptions := (name, .requests key) :: d.subscriptions }, .done)
  | .notifications name =>
    let i := d.channel.inbound
    let (key, f) := i.notifications.subscribe
    let d := (d.setInbound { i with notifications := f }).unsubscribe name
    ({ d with subscriptions := (name, .notifications key) :: d.subscriptions }, .done)
  | .drain name =>
    match d.subscriptions.lookup name with
    | none => (d, .unknown)
    | some subscription => d.drain subscription
  | .receive name =>
    match d.subscriptions.lookup name with
    | none => (d, .unknown)
    | some subscription => d.receive subscription
  | .unsubscribe name => (d.unsubscribe name, .existed (d.subscriptions.lookup name).isSome)
  | .register name id =>
    match d.channel.pending.register id with
    | .error e => (d, .failed e)
    | .ok (handle, pending) =>
      let d := { d with channel := d.channel.setPending pending }.drop name
      ({ d with handles := (name, handle) :: d.handles }, .registered handle.id)
  | .poll name =>
    match d.handles.lookup name with
    | none => (d, .unknown)
    | some handle => d.poll name handle
  | .drop name => (d.drop name, .existed (d.handles.lookup name).isSome)
  | .resolve r =>
    let (found, pending) := d.channel.pending.resolve r
    ({ d with channel := d.channel.setPending pending }, .existed found)
  | .deliver m => ({ d with channel := d.channel.deliver m }, .done)
  | .close => ({ d with channel := d.channel.close }, .done)
  | .closePending => ({ d with channel := d.channel.setPending d.channel.pending.close }, .done)
  | .enqueue text =>
    match d.channel.outbox.enqueue text with
    | .error e => (d, .failed e)
    | .ok o => ({ d with channel := { d.channel with outbox := o } }, .done)
  | .take =>
    match d.channel.outbox.take with
    | some (text, o) => ({ d with channel := { d.channel with outbox := o } }, .taken text)
    | none => (d, if d.channel.outbox.abandoned then .gone else .nothing)
  | .abandon =>
    ({ d with channel := { d.channel with outbox := d.channel.outbox.abandon } },
      .existed !d.channel.outbox.abandoned)

end Desk

end LanguageBridge
