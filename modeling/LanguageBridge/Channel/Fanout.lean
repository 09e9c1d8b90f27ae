/-! A sequence with many subscribers: each sees every item published after it subscribed. -/
namespace LanguageBridge

/-- The sending end for one subscriber, with what the subscriber has not received yet. Without a buffer
the subscriber is gone. -/
structure Sender (α : Type) where
  key : Nat
  buffer : Option (List α)

namespace Sender

variable {α : Type}

/-- Fails where the subscriber is gone. -/
def send (a : α) (s : Sender α) : Option (Sender α) :=
  s.buffer.map fun items => { s with buffer := some (items ++ [a]) }

def inbox? (s : Sender α) : Option (Nat × List α) := s.buffer.map fun items => (s.key, items)

end Sender

/-- A sender is kept, also without its subscriber, until something could not be sent. -/
structure Fanout (α : Type) where
  closed : Bool
  next : Nat
  senders : List (Sender α)

inductive Received (α : Type) where
  | item (a : α)
  | nothing
  | ended
  deriving DecidableEq, Repr

namespace Fanout

variable {α : Type}

def empty : Fanout α := ⟨false, 0, []⟩

/-- A new subscriber; after the close it gets no sender, so its sequence ends at once. -/
def subscribe (f : Fanout α) : Nat × Fanout α :=
  (f.next, { f with
    next := f.next + 1
    senders := if f.closed then f.senders else f.senders ++ [⟨f.next, some []⟩] })

/-- A subscriber goes; its sender stays behind. -/
def unsubscribe (f : Fanout α) (key : Nat) : Fanout α :=
  { f with senders := f.senders.map fun s => if s.key = key then { s with buffer := none } else s }

/-- Senders that fail are dropped. -/
def publish (f : Fanout α) (a : α) : Fanout α :=
  if f.closed then f else { f with senders := f.senders.filterMap (·.send a) }

/-- What every subscriber that is left has not received yet. -/
def inboxes (f : Fanout α) : List (Nat × List α) := f.senders.filterMap (·.inbox?)

/-- What a subscriber has not received yet. -/
def buffered (f : Fanout α) (key : Nat) : List α := (f.inboxes.lookup key).getD []

/-- No item can come to this subscriber any more beyond those buffered. -/
def isOver (f : Fanout α) (key : Nat) : Bool := f.closed || (f.inboxes.lookup key).isNone

/-- Replaces what a subscriber has not received yet. -/
def setBuffered (f : Fanout α) (key : Nat) (items : List α) : Fanout α :=
  { f with senders := f.senders.map fun s =>
      if s.key = key then { s with buffer := s.buffer.map fun _ => items } else s }

/-- The next item of a subscriber. -/
def receive (f : Fanout α) (key : Nat) : Received α × Fanout α :=
  match f.buffered key with
  | a :: rest => (.item a, f.setBuffered key rest)
  | [] => (if f.isOver key then .ended else .nothing, f)

/-- Everything that a subscriber can receive now, and whether its sequence ends there. -/
def drain (f : Fanout α) (key : Nat) : List α × Bool × Fanout α :=
  (f.buffered key, f.isOver key, f.setBuffered key [])

/-- Nothing is published any more; what is buffered stays. -/
def close (f : Fanout α) : Fanout α := { f with closed := true }

end Fanout

end LanguageBridge
