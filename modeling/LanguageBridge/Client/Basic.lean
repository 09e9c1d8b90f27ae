import LanguageBridge.Link
import LanguageBridge.Session
import LanguageBridge.Writer

/-! A client: a session, a writer and a reader on one channel, with the tasks that are under way. -/
namespace LanguageBridge

/-- Work that takes time. -/
inductive Task where
  | request (call : Call) (expected : Reads Json)
  | provide (call : Call) (query : Query)
  | write (receipt : Receipt)
  | reply (reply : DelayedReply)
  | session (run : SessionRun)
  | wait (target : Stage)
  | listening

/-- How a task ended. -/
inductive Outcome where
  | value (j : Json)
  | answer (a : Answer)
  | done
  | reached (stage : Stage)
  | ended
  | failed (e : BridgeError)

/-- Whether a task waits for a stage of the session. -/
def Task.isWait : Task → Bool
  | .wait _ => true
  | _ => false

/-- An outcome from a result of a call. -/
def Outcome.ofCall {α : Type} (success : α → Outcome) : Except CallError α → Outcome
  | .ok a => success a
  | .error e => .failed (.call e)

def Outcome.ofBridge {α : Type} (success : α → Outcome) : Except BridgeError α → Outcome
  | .ok a => success a
  | .error e => .failed e

/-- A task that was looked after: it is still there, it ended with an outcome, or nobody asked for
one. -/
inductive TaskProgress where
  | waiting (task : Task)
  | finished (outcome : Outcome)
  | vanished

/-- Where a listener that can be released is registered. -/
inductive Registration where
  | session (key : UInt64)
  | reader (key : UInt64)
  deriving DecidableEq, Repr

/-- `fired` are the tokens that have been cancelled, `heard` what the reader's listeners heard, and
`finished` the outcomes since the last report. -/
structure Client where
  session : Session
  writer : Writer
  reader : Reader
  link : Option Link
  fired : List String
  registrations : List (String × Registration)
  tasks : List (String × Task)
  heard : List Heard
  finished : List (String × Outcome)

namespace Client

def new (profile : Profile) (link : Option Link) : Client :=
  let session := Session.new .empty profile
  let (reader, requests) := Reader.new session.channel.inbound.requests
  { session := session.setRequests requests
    writer := ⟨profile.base, false⟩
    reader := reader
    link := link
    fired := []
    registrations := []
    tasks := []
    heard := []
    finished := [] }

def channel (c : Client) : Channel := c.session.channel

def setChannel (c : Client) (channel : Channel) : Client :=
  { c with session := { c.session with channel := channel } }

def finish (c : Client) (name : String) (outcome : Outcome) : Client :=
  { c with finished := c.finished ++ [(name, outcome)] }

def spawn (c : Client) (name : String) (task : Task) : Client :=
  { c with tasks := c.tasks ++ [(name, task)] }

/-- Looks after one task. -/
def pollTask (c : Client) : Task → Client × TaskProgress
  | .request call expected =>
    match call.poll c.channel c.session.clock c.fired with
    | (channel, none) => (c.setChannel channel, .waiting (.request call expected))
    | (channel, some result) =>
      (c.setChannel channel, .finished (Outcome.ofCall .value (expected.expect result)))
  | .provide call query =>
    match call.poll c.channel c.session.clock c.fired with
    | (channel, none) => (c.setChannel channel, .waiting (.provide call query))
    | (channel, some result) =>
      (c.setChannel channel, .finished (Outcome.ofBridge .answer (query.conclude result)))
  | .write receipt =>
    match receipt.poll c.channel c.session.clock with
    | (channel, none) => (c.setChannel channel, .waiting (.write receipt))
    | (channel, some result) =>
      (c.setChannel channel, .finished (Outcome.ofCall (fun _ => .done) result))
  | .reply reply =>
    match c.session.settleReply (some reply) with
    | (session, none) => ({ c with session := session }, .vanished)
    | (session, some reply) => ({ c with session := session }, .waiting (.reply reply))
  | .session run =>
    match c.session.poll run with
    | (session, .waiting run) => ({ c with session := session }, .waiting (.session run))
    | (session, .over result) =>
      ({ c with session := session }, .finished (Outcome.ofBridge (fun _ => .done) result))
  | .wait target =>
    if target.rank ≤ c.session.stage.rank then (c, .finished (.reached c.session.stage))
    else (c, .waiting (.wait target))
  | .listening =>
    let (heard, ended, requests) := c.reader.run c.channel.inbound.requests
    ({ c with session := c.session.setRequests requests, heard := c.heard ++ heard },
      if ended then .finished .ended else .waiting .listening)

/-- Looks after tasks in order, and keeps those that are not over. -/
def pollTasks (c : Client) : List (String × Task) → Client × List (String × Task)
  | [] => (c, [])
  | (name, task) :: rest =>
    match c.pollTask task with
    | (c, .waiting task) =>
      let (c, tasks) := pollTasks c rest
      (c, (name, task) :: tasks)
    | (c, .finished outcome) => pollTasks (c.finish name outcome) rest
    | (c, .vanished) => pollTasks c rest

/-- Takes in what came over the link. -/
def pumpIn (c : Client) : Client :=
  match c.link with
  | none => c
  | some link =>
    let (link, inbound) := link.pumpIn c.channel.inbound
    { c.setChannel { c.channel with inbound := inbound } with link := some link }

/-- Lets everything move that can. Tasks never wake each other, but for those that wait for a stage
of the session, which come last. -/
def settle (c : Client) : Client :=
  let c := c.pumpIn
  let (c, working) := c.pollTasks (c.tasks.filter fun t => !t.2.isWait)
  let (c, waiting) := c.pollTasks (c.tasks.filter fun t => t.2.isWait)
  { c with tasks := working ++ waiting }

/-- What goes out to the server: messages, or bytes over a link. -/
structure Outgoing where
  texts : List String
  bytes : List UInt8
  deriving DecidableEq, Repr

/-- Takes out what is to be sent. -/
def flush (c : Client) : Client × Outgoing :=
  match c.link with
  | none =>
    (c.setChannel { c.channel with outbox := { c.channel.outbox with queue := [] } },
      ⟨c.channel.outbox.queue, []⟩)
  | some link =>
    let (link, outbox, bytes) := link.pumpOut c.channel.outbox
    ({ c.setChannel { c.channel with outbox := outbox } with link := some link }, ⟨[], bytes⟩)

end Client

end LanguageBridge
