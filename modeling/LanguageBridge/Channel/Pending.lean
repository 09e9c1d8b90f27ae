import LanguageBridge.Error

/-! The table of requests that wait for a response. A handle is the right to one response; its
ticket tells it apart from later handles for the same id. -/
namespace LanguageBridge

structure Handle where
  ticket : Nat
  id : RequestId
  deriving DecidableEq, Repr

/-- `waiters` are the tickets still waiting, by id; `mail` are responses not yet collected. -/
structure Pending where
  closed : Bool
  next : Nat
  waiters : List (RequestId × Nat)
  mail : List (Nat × Response)
  deriving DecidableEq

/-- What a handle finds when it looks. -/
inductive Poll where
  | waiting
  | ready (r : Response)
  | closed
  deriving DecidableEq

namespace Pending

def empty : Pending := ⟨false, 0, [], []⟩

def isPending (p : Pending) (id : RequestId) : Bool := (p.waiters.lookup id).isSome

def count (p : Pending) : Nat := p.waiters.length

/-- A new handle for an id that nothing waits for. -/
def register (p : Pending) (id : RequestId) : Except CallError (Handle × Pending) :=
  if p.closed then .error .channelClosed
  else if p.isPending id then .error (.duplicateId id)
  else .ok (⟨p.next, id⟩,
    { p with next := p.next + 1, waiters := (id, p.next) :: p.waiters })

/-- Forgets whatever waits for an id. -/
def forget (p : Pending) (id : RequestId) : Pending :=
  { p with waiters := p.waiters.filter (·.1 ≠ id) }

/-- The id under which a response is expected: its own, or the number that its text spells. -/
def target? (p : Pending) (id : RequestId) : Option RequestId :=
  if p.isPending id then some id
  else match id with
    | .number _ => none
    | .text s =>
      match Text.numeral? UInt64.size s with
      | some n => if p.isPending (.number (.ofNat n)) then some (.number (.ofNat n)) else none
      | none => none

/-- Hands a response to the handle that waits for it; says whether there was one. -/
def resolve (p : Pending) (r : Response) : Bool × Pending :=
  match r.id.bind p.target? with
  | none => (false, p)
  | some id =>
    match p.waiters.lookup id with
    | none => (false, p)
    | some ticket => (true, { p.forget id with mail := (ticket, r) :: p.mail })

def poll (p : Pending) (h : Handle) : Poll :=
  match p.mail.lookup h.ticket with
  | some r => .ready r
  | none => if p.waiters.any (·.2 = h.ticket) then .waiting else .closed

/-- How many responses that arrived before the one of a handle have not been collected. -/
def arrival (p : Pending) (h : Handle) : Nat :=
  p.mail.length - 1 - p.mail.findIdx (·.1 = h.ticket)

/-- The table after a handle has got its answer. -/
def collect (p : Pending) (h : Handle) : Pending :=
  { p with mail := p.mail.filter (·.1 ≠ h.ticket) }

/-- The table after a handle was given up before it got its answer. -/
def drop (p : Pending) (h : Handle) : Pending := (p.forget h.id).collect h

/-- Everything that waits fails, and nothing can be registered any more. -/
def close (p : Pending) : Pending := { p with closed := true, waiters := [] }

end Pending

end LanguageBridge
