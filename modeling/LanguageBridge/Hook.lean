import LanguageBridge.Engine

/-! Hooks: work between the handshake and the running phase of a session. Hooks go on side by side;
which failure ends them all depends on how many there are. -/
namespace LanguageBridge

inductive HookStep where
  | notify (method : String) (params : Option Json)
  | request (method : String) (params : Option Json)
  | fail (reason : String)
  | sleep (d : Duration)
  deriving DecidableEq

/-- The steps of a hook are done one after another. -/
abbrev Hook := List HookStep

/-- What a hook waits for. -/
inductive HookWait where
  | call (c : Call)
  | time (due : Nat)
  deriving DecidableEq

/-- A hook under way: what it waits for, from when on, and the steps after that. -/
structure HookRun where
  waiting : HookWait
  since : Nat
  rest : List HookStep
  deriving DecidableEq

/-- A hook that was looked after. -/
inductive HookProgress where
  | waiting (run : HookRun)
  | finished
  | failed (e : BridgeError)
  deriving DecidableEq

namespace HookRun

/-- Does steps at time `now` until one has to wait. -/
def advance (now : Nat) (e : Engine) (c : Channel) :
    List HookStep → Engine × Channel × HookProgress
  | [] => (e, c, .finished)
  | .notify method params :: rest =>
    match c.notify method params with
    | .ok c => advance now e c rest
    | .error error => (e, c, .failed (.call error))
  | .request method params :: rest =>
    match e.call c now method params none with
    | (e, c, .error error) => (e, c, .failed (.call error))
    | (e, c, .ok call) =>
      match call.poll c now [] with
      | (c, none) => (e, c, .waiting ⟨.call call, now, rest⟩)
      | (c, some (.ok _)) => advance now e c rest
      | (c, some (.error error)) => (e, c, .failed (.call error))
  | .fail reason :: _ => (e, c, .failed (.handshake reason))
  | .sleep d :: rest =>
    if d.nanoseconds = 0 then advance now e c rest
    else (e, c, .waiting ⟨.time (now + d.nanoseconds), now, rest⟩)

/-- Looks after a hook that waited. -/
def poll (now : Nat) (e : Engine) (c : Channel) (run : HookRun) :
    Engine × Channel × HookProgress :=
  match run.waiting with
  | .call call =>
    match call.poll c now [] with
    | (c, none) => (e, c, .waiting run)
    | (c, some (.ok _)) => advance now e c run.rest
    | (c, some (.error error)) => (e, c, .failed (.call error))
  | .time due => if due ≤ now then advance now e c run.rest else (e, c, .waiting run)

/-- Gives a hook up; the server is not told. -/
def drop (run : HookRun) (c : Channel) : Channel :=
  match run.waiting with
  | .call call => c.setPending (c.pending.drop call.handle)
  | .time _ => c

/-- What makes a hook go on. -/
inductive Wake where
  | response (arrival : Nat)
  | closed
  | time (due since : Nat)
  deriving DecidableEq, Repr

def wake (run : HookRun) (c : Channel) : Wake :=
  match run.waiting with
  | .time due => .time due run.since
  | .call call =>
    match c.pending.poll call.handle with
    | .ready _ => .response (c.pending.arrival call.handle)
    | .closed => .closed
    | .waiting => .time call.deadline run.since

/-- Responses come first, as they arrived, then the end of the channel, then times; of equal times
the one that was set first. -/
def Wake.notAfter : Wake → Wake → Bool
  | .response a, .response b => a ≤ b
  | .response _, _ => true
  | .closed, .response _ => false
  | .closed, _ => true
  | .time due since, .time due' since' => due < due' || (due == due' && since ≤ since')
  | .time _ _, _ => false

end HookRun

namespace HookProgress

def isFinished : HookProgress → Bool
  | finished => true
  | _ => false

def failure? : HookProgress → Option BridgeError
  | failed e => some e
  | _ => none

def run? : HookProgress → Option HookRun
  | waiting run => some run
  | _ => none

end HookProgress

/-- Which failure of a group of hooks counts. -/
inductive HookRule where
  /-- Any failure, as soon as it occurs. -/
  | first
  /-- A failure once all hooks before it have finished. -/
  | inOrder
  deriving DecidableEq, Repr

namespace HookRule

/-- Groups of more than thirty hooks are judged in order. -/
def ofCount (n : Nat) : HookRule := if n ≤ 30 then first else inOrder

/-- How a group has ended, if it has. -/
def verdict (rule : HookRule) (members : List HookProgress) : Option (Except BridgeError Unit) :=
  match rule with
  | first =>
    match members.findSome? (·.failure?) with
    | some e => some (.error e)
    | none => if members.all (·.isFinished) then some (.ok ()) else none
  | inOrder =>
    match members.dropWhile (·.isFinished) with
    | [] => some (.ok ())
    | .failed e :: _ => some (.error e)
    | _ => none

/-- Whether no failure has ended a group. -/
def goesOn (rule : HookRule) (members : List HookProgress) : Bool :=
  match rule.verdict members with
  | some (.error _) => false
  | _ => true

/-- The order in which the members of a group are looked after: as they stand, or as they wake. -/
def schedule (rule : HookRule) (c : Channel) (members : List HookProgress) : List Nat :=
  match rule with
  | first => List.range members.length
  | inOrder =>
    let waiting := members.zipIdx.filterMap fun (p, i) => p.run?.map fun run => (run.wake c, i)
    (waiting.mergeSort fun a b => a.1.notAfter b.1).map (·.2)

end HookRule

/-- Hooks that go on side by side. -/
structure HookGroup where
  rule : HookRule
  members : List HookProgress
  deriving DecidableEq

namespace HookGroup

/-- Starts hooks in order; behind a failure that counts no hook is started. -/
def startMembers (rule : HookRule) (now : Nat) (e : Engine) (c : Channel)
    (started : List HookProgress) : List Hook → Engine × Channel × List HookProgress
  | [] => (e, c, started)
  | hook :: others =>
    if rule.goesOn started then
      let (e, c, progress) := HookRun.advance now e c hook
      startMembers rule now e c (started ++ [progress]) others
    else (e, c, started)

def start (now : Nat) (e : Engine) (c : Channel) (hooks : List Hook) :
    Engine × Channel × HookGroup :=
  let rule := HookRule.ofCount hooks.length
  let (e, c, members) := startMembers rule now e c [] hooks
  (e, c, ⟨rule, members⟩)

/-- Looks after members along a schedule, until a failure counts. -/
def pollMembers (rule : HookRule) (now : Nat) (e : Engine) (c : Channel)
    (members : List HookProgress) : List Nat → Engine × Channel × List HookProgress
  | [] => (e, c, members)
  | i :: rest =>
    match members[i]? with
    | some (.waiting run) =>
      if rule.goesOn members then
        let (e, c, progress) := run.poll now e c
        pollMembers rule now e c (members.set i progress) rest
      else (e, c, members)
    | _ => pollMembers rule now e c members rest

def poll (now : Nat) (e : Engine) (c : Channel) (g : HookGroup) : Engine × Channel × HookGroup :=
  let (e, c, members) := pollMembers g.rule now e c g.members (g.rule.schedule c g.members)
  (e, c, { g with members })

/-- Gives up all members that still wait. -/
def drop (g : HookGroup) (c : Channel) : Channel :=
  (g.members.filterMap (·.run?)).foldl (fun c run => run.drop c) c

def verdict (g : HookGroup) : Option (Except BridgeError Unit) := g.rule.verdict g.members

end HookGroup

end LanguageBridge
