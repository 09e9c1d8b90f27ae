import LanguageBridge.Channel.Basic
import LanguageBridge.Engine

/-! Listeners to the requests of the server. -/
namespace LanguageBridge

structure Listener where
  key : UInt64
  name : String
  react : Request → Reaction

/-- One call of a listener. -/
structure Heard where
  listener : String
  request : Request
  reaction : Reaction
  deriving DecidableEq

/-- A subscriber to the requests with its listeners, in order of registration. -/
structure Reader where
  subscription : Nat
  next : UInt64
  listeners : List Listener

namespace Reader

/-- A reader subscribes when it is made. -/
def new (f : Fanout Request) : Reader × Fanout Request :=
  (⟨f.subscribe.1, 0, []⟩, f.subscribe.2)

/-- Adds a listener; its key releases it. -/
def listen (r : Reader) (name : String) (react : Request → Reaction) : UInt64 × Reader :=
  (r.next, { r with next := r.next + 1, listeners := r.listeners ++ [⟨r.next, name, react⟩] })

def dispose (r : Reader) (key : UInt64) : Reader :=
  { r with listeners := r.listeners.filter (·.key ≠ key) }

/-- Every listener hears the request, whatever the others made of it. -/
def hear (r : Reader) (request : Request) : List Heard :=
  r.listeners.map fun l => ⟨l.name, request, l.react request⟩

/-- Lets the listeners hear all requests that have come, in order; says whether that was the end. -/
def run (r : Reader) (f : Fanout Request) : List Heard × Bool × Fanout Request :=
  ((f.drain r.subscription).1.flatMap r.hear, (f.drain r.subscription).2)

end Reader

end LanguageBridge
