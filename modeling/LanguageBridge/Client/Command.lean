import LanguageBridge.Client.Basic

/-! What a client can be told to do, and what it reports. -/
namespace LanguageBridge

inductive Command where
  | request (name method : String) (params : Option Json) (expected : Reads Json)
      (cancellable : Bool)
  | cancel (token : String)
  | notify (method : String) (params : Option Json)
  | addMethod (method : String) (handler : MethodHandler)
  | onNotification (method : String) (handler : NotificationHandler)
  | receive (m : Message)
  | send (m : Message)
  | write (name : String) (m : Message)
  | endWriter
  | deliver (m : Message)
  | close
  | elapse (d : Duration)
  | losePeer
  | peerBytes (bytes : List UInt8)
  | peerEnd
  | shutdown
  | addLanguage (language : Editor.Language)
  | openDocument (d : Editor.Document)
  | closeDocument (uri : String)
  | publish (p : Wire.Publication)
  | provide (name language : String) (query : Query) (cancellable : Bool)
  | start (name : String)
  | wait (name : String) (target : Stage)
  | pushHook (hook : Hook)
  | listen (name : String) (react : Request → Reaction)
  | readerListen (name : String) (react : Request → Reaction)
  | readerRun (name : String)
  | dispose (name : String)

/-- What a command says at once. -/
inductive Reply where
  | nothing
  | accepted (b : Bool)
  | sent (result : Except CallError Unit)
  | language (id : String)
  | document (d : Option Editor.Document)
  | listeners (n : Nat)

/-- What happened since the last report. -/
structure Report where
  reply : Reply
  sent : Client.Outgoing
  events : List Event
  heard : List Heard
  finished : List (String × Outcome)

namespace Client

def sendResult (c : Client) : Except CallError Channel → Client × Reply
  | .ok channel => (c.setChannel channel, .sent (.ok ()))
  | .error e => (c, .sent (.error e))

/-- Starts a call, or finishes at once if it cannot be sent. -/
def startCall (c : Client) (name method : String) (params : Option Json) (cancellable : Bool)
    (task : Call → Task) : Client :=
  let token := if cancellable then some name else none
  match c.session.engine.call c.channel c.session.clock method params token with
  | (engine, channel, .ok call) =>
    { c with session := { c.session with engine := engine, channel := channel } }.spawn name
      (task call)
  | (engine, channel, .error e) =>
    { c with session := { c.session with engine := engine, channel := channel } }.finish name
      (.failed (.call e))

/-- A language that was not added is not asked about. -/
def provide (c : Client) (name language : String) (query : Query) (cancellable : Bool) : Client :=
  if c.session.bridge.isRegistered language then
    c.startCall name query.method (some query.params) cancellable (.provide · query)
  else c.finish name (.failed (.unknownLanguage language))

/-- Handles a message as if the session's loops had taken it. -/
def receive (c : Client) : Message → Client
  | .response r => c.setChannel (c.channel.deliver (.response r))
  | .notification n => { c with session := c.session.handleNotification n }
  | .request r =>
    match c.session.handleRequest r with
    | (session, none) => { c with session := session }
    | (session, some reply) => { c with session := session }.spawn "" (.reply reply)

def write (c : Client) (name : String) (m : Message) : Client :=
  match c.writer.write c.channel c.session.clock m with
  | (channel, .error e) => (c.setChannel channel).finish name (.failed (.call e))
  | (channel, .ok none) => (c.setChannel channel).finish name .done
  | (channel, .ok (some receipt)) => (c.setChannel channel).spawn name (.write receipt)

def release (c : Client) : Option Registration → Client
  | none => c
  | some (.session key) => { c with session := { c.session with reader := c.session.reader.dispose key } }
  | some (.reader key) => { c with reader := c.reader.dispose key }

/-- A registration under a name releases an older one under that name. -/
def register (c : Client) (name : String) (r : Registration) : Client :=
  { c.release (c.registrations.lookup name) with
    registrations := (name, r) :: c.registrations.filter (·.1 ≠ name) }

def overLink (c : Client) (f : Link → Link) : Client := { c with link := c.link.map f }

/-- Does what a command says, up to where something has to be waited for. -/
def perform (c : Client) : Command → Client × Reply
  | .request name method params expected cancellable =>
    (c.startCall name method params cancellable (.request · expected), .nothing)
  | .cancel token => ({ c with fired := token :: c.fired }, .nothing)
  | .notify method params => c.sendResult (c.channel.notify method params)
  | .addMethod method handler =>
    ({ c with session := { c.session with
        engine := c.session.engine.addMethod method handler } }, .nothing)
  | .onNotification method handler =>
    ({ c with session := { c.session with
        engine := c.session.engine.onNotification method handler } }, .nothing)
  | .receive m => (c.receive m, .nothing)
  | .send m => c.sendResult (c.writer.send c.channel m)
  | .write name m => (c.write name m, .nothing)
  | .endWriter => ({ c with writer := c.writer.finish }, .nothing)
  | .deliver m => (c.setChannel (c.channel.deliver m), .nothing)
  | .close => (c.setChannel c.channel.close, .nothing)
  | .elapse d =>
    ({ c with session := { c.session with clock := c.session.clock + d.nanoseconds } }, .nothing)
  | .losePeer =>
    match c.link with
    | some link => ({ c with link := some link.losePeer }, .nothing)
    | none =>
      (c.setChannel { c.channel with outbox := c.channel.outbox.abandon }, .nothing)
  | .peerBytes bytes =>
    match c.link with
    | some link =>
      let (accepted, link) := link.receive bytes
      ({ c with link := some link }, .accepted accepted)
    | none => (c, .accepted false)
  | .peerEnd => (c.overLink Link.receiveEnd, .nothing)
  | .shutdown =>
    let channel := c.channel.close
    ({ (c.setChannel { channel with outbox := channel.outbox.abandon }) with
      link := c.link.map Link.shutdown }, .nothing)
  | .addLanguage language =>
    let (id, session) := c.session.addLanguage language
    ({ c with session := session }, .language id)
  | .openDocument d =>
    ({ c with session := { c.session with bridge := c.session.bridge.openDocument d } },
      .document (c.session.bridge.document? d.uri))
  | .closeDocument uri =>
    ({ c with session := { c.session with bridge := c.session.bridge.closeDocument uri } },
      .document (c.session.bridge.document? uri))
  | .publish p => ({ c with session := c.session.publish p }, .nothing)
  | .provide name language query cancellable =>
    (c.provide name language query cancellable, .nothing)
  | .start name =>
    match c.session.start with
    | (session, .waiting run) => ({ c with session := session }.spawn name (.session run), .nothing)
    | (session, .over result) =>
      ({ c with session := session }.finish name (Outcome.ofBridge (fun _ => .done) result),
        .nothing)
  | .wait name target => (c.spawn name (.wait target), .nothing)
  | .pushHook hook =>
    ({ c with session := { c.session with hooks := c.session.hooks ++ [hook] } }, .nothing)
  | .listen name react =>
    let (key, reader) := c.session.reader.listen name react
    ({ c with session := { c.session with reader := reader } }.register name (.session key),
      .nothing)
  | .readerListen name react =>
    let (key, reader) := c.reader.listen name react
    let c := { c with reader := reader }.register name (.reader key)
    (c, .listeners c.reader.listeners.length)
  | .readerRun name => (c.spawn name .listening, .nothing)
  | .dispose name =>
    let c := { c.release (c.registrations.lookup name) with
      registrations := c.registrations.filter (·.1 ≠ name) }
    (c, .listeners c.reader.listeners.length)

/-- One command, and everything that moves because of it. -/
def step (c : Client) (command : Command) : Client × Report :=
  let (c, reply) := c.perform command
  let (c, sent) := c.settle.flush
  ({ c with session := { c.session with journal := [] }, heard := [], finished := [] },
    ⟨reply, sent, c.session.journal, c.heard, c.finished⟩)

/-- Commands in order, with a report for each. -/
def run (c : Client) : List Command → Client × List Report
  | [] => (c, [])
  | command :: rest =>
    let (c, report) := c.step command
    let (c, reports) := run c rest
    (c, report :: reports)

end Client

end LanguageBridge
