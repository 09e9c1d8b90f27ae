import LanguageBridge.Bridge
import LanguageBridge.Hook
import LanguageBridge.Reader
import LanguageBridge.Wire.Handshake

/-! A session: the handshake with a server, the hooks after it, and the loops that take what the
server sends until the channel ends. -/
namespace LanguageBridge

inductive Stage where
  | uninitialized
  | initializing
  | initialized
  | running
  | stopped
  deriving DecidableEq, Repr

namespace Stage

/-- Sessions move to higher ranks only. -/
def rank : Stage → Nat
  | uninitialized => 0
  | initializing => 1
  | initialized => 2
  | running => 3
  | stopped => 4

def name : Stage → String
  | uninitialized => "Uninitialized"
  | initializing => "Initializing"
  | initialized => "Initialized"
  | running => "Running"
  | stopped => "Stopped"

def all : List Stage := [uninitialized, initializing, initialized, running, stopped]

def named? (name : String) : Option Stage := all.find? (·.name = name)

end Stage

/-- What is worth telling about. -/
inductive Event where
  | registered (language : Editor.Language)
  | marked (update : MarkerUpdate)
  | listened (heard : Heard)
  | notified (observer : String) (params : Json) (reaction : Reaction)

structure Session where
  clock : Nat
  channel : Channel
  engine : Engine
  bridge : Bridge
  surface : Surface
  reader : Reader
  stage : Stage
  hooks : List Hook
  journal : List Event

/-- A response that waits for its time. -/
structure DelayedReply where
  response : Response
  due : Nat
  deriving DecidableEq

/-- What a session under way waits for. -/
inductive Phase where
  | handshake (call : Call)
  | hooks (group : HookGroup)
  | running (reply : Option DelayedReply)
  deriving DecidableEq

/-- The subscriptions of a session. -/
structure Inboxes where
  requests : Nat
  notifications : Nat
  deriving DecidableEq

/-- A session under way. -/
structure SessionRun where
  inboxes : Inboxes
  phase : Phase
  deriving DecidableEq

/-- A session that was looked after: it waits for something, or it is over. -/
inductive SessionProgress where
  | waiting (run : SessionRun)
  | over (result : Except BridgeError Unit)

namespace Session

def new (channel : Channel) (profile : Profile) : Session :=
  let (reader, requests) := Reader.new channel.inbound.requests
  { clock := 0
    channel := { channel with inbound := { channel.inbound with requests := requests } }
    engine := .new profile
    bridge := .new profile.owner
    surface := .empty
    reader := reader
    stage := .uninitialized
    hooks := []
    journal := [] }

def record (s : Session) (events : List Event) : Session :=
  { s with journal := s.journal ++ events }

/-- Adds a language and gives its id; the surface is told about a new one. -/
def addLanguage (s : Session) (language : Editor.Language) : String × Session :=
  match s.bridge.addLanguage language.id with
  | (false, _) => (language.id, s)
  | (true, bridge) =>
    (language.id, { s with bridge := bridge, surface := s.surface.register language.id }.record
      [.registered language])

/-- Shows a publication if its document is open. -/
def publish (s : Session) (p : Wire.Publication) : Session :=
  match s.bridge.diagnose p with
  | none => s
  | some update => { s with surface := s.surface.apply update }.record [.marked update]

/-- Hands a notification to its handler; without params the handler gets null. -/
def handleNotification (s : Session) (n : Notification) : Session :=
  let params := n.params.getD .null
  match s.engine.observers.lookup n.method with
  | none => s
  | some (.observer name react) => s.record [.notified name params (react params)]
  | some .diagnostics =>
    match Wire.Publication.read params with
    | .ok p => s.publish p
    | .error _ => s

def trySend (s : Session) (m : Message) : Session := { s with channel := s.channel.trySend m }

/-- Answers a request, or says when its answer is due. -/
def handleRequest (s : Session) (r : Request) : Session × Option DelayedReply :=
  match s.engine.methods.lookup r.method with
  | none => (s.trySend (.response (.failure r.id (.methodNotFound r.method))), none)
  | some handler =>
    let response := Engine.respond r.id (handler.respond r.params)
    if handler.delay.nanoseconds = 0 then (s.trySend (.response response), none)
    else (s, some ⟨response, s.clock + handler.delay.nanoseconds⟩)

/-- Answers requests one after another until an answer has to wait; gives the requests left. -/
def serve (s : Session) : List Request → Session × Option DelayedReply × List Request
  | [] => (s, none, [])
  | r :: rest =>
    match s.handleRequest r with
    | (s, none) => serve s rest
    | (s, some reply) => (s, some reply, rest)

def setRequests (s : Session) (f : Fanout Request) : Session :=
  { s with channel := { s.channel with inbound := { s.channel.inbound with requests := f } } }

def setNotifications (s : Session) (f : Fanout Notification) : Session :=
  { s with channel := { s.channel with inbound := { s.channel.inbound with notifications := f } } }

/-- Sends a delayed reply if its time has come. -/
def settleReply (s : Session) : Option DelayedReply → Session × Option DelayedReply
  | none => (s, none)
  | some reply =>
    if reply.due ≤ s.clock then (s.trySend (.response reply.response), none) else (s, some reply)

/-- Takes all notifications; says whether their sequence has ended. -/
def takeNotifications (s : Session) (key : Nat) : Session × Bool :=
  let (items, ended, rest) := s.channel.inbound.notifications.drain key
  (items.foldl handleNotification (s.setNotifications rest), ended)

/-- Takes requests until an answer has to wait; says whether their sequence has ended. -/
def takeRequests (s : Session) (key : Nat) (reply : Option DelayedReply) :
    Session × Option DelayedReply × Bool :=
  match s.settleReply reply with
  | (s, some reply) => (s, some reply, false)
  | (s, none) =>
    let fanout := s.channel.inbound.requests
    let (s, reply, rest) := s.serve (fanout.buffered key)
    (s.setRequests (s.channel.inbound.requests.setBuffered key rest), reply,
      reply.isNone && fanout.isOver key)

/-- Lets the listeners hear all requests; says whether their sequence has ended. -/
def takeListened (s : Session) : Session × Bool :=
  let (heard, ended, rest) := s.reader.run s.channel.inbound.requests
  ((s.setRequests rest).record (heard.map .listened), ended)

/-- Ends a session with a result. -/
def stop (s : Session) (i : Inboxes) (result : Except BridgeError Unit) :
    Session × SessionProgress :=
  let inbound := s.channel.inbound
  (({ s with stage := .stopped }.setRequests (inbound.requests.unsubscribe i.requests)
    ).setNotifications (inbound.notifications.unsubscribe i.notifications), .over result)

/-- The running phase: notifications, requests and listeners, until all three sequences end. -/
def pollRunning (s : Session) (i : Inboxes) (reply : Option DelayedReply) :
    Session × SessionProgress :=
  let (s, noticesEnded) := s.takeNotifications i.notifications
  let (s, reply, requestsEnded) := s.takeRequests i.requests reply
  let (s, listenersEnded) := s.takeListened
  if noticesEnded && requestsEnded && listenersEnded then s.stop i (.ok ())
  else (s, .waiting ⟨i, .running reply⟩)

/-- Goes on once hooks were looked after. -/
def afterHooks (s : Session) (i : Inboxes) (group : HookGroup) : Session × SessionProgress :=
  match group.verdict with
  | some (.error e) => { s with channel := group.drop s.channel }.stop i (.error e)
  | some (.ok ()) => { s with stage := .running }.pollRunning i none
  | none => (s, .waiting ⟨i, .hooks group⟩)

/-- Goes on with the server's answer to the handshake: its legend is kept, the server is told, and
the hooks start. -/
def afterHandshake (s : Session) (i : Inboxes) :
    Except CallError Json → Session × SessionProgress
  | .error e => s.stop i (.error (.call e))
  | .ok value =>
    match Wire.InitializeResult.read value with
    | .error e => s.stop i (.error (.handshake ("invalid initialize result: " ++ e.message)))
    | .ok result =>
      match result.legend? with
      | none => s.stop i (.error (.handshake "server declared no semantic token legend"))
      | some legend =>
        let s := { s with bridge := s.bridge.setLegend legend, stage := .initialized }
        match s.channel.notify Method.handshakeDone (some (.obj [])) with
        | .error e => s.stop i (.error (.call e))
        | .ok channel =>
          let (engine, channel, group) := HookGroup.start s.clock s.engine channel s.hooks
          { s with engine := engine, channel := channel, hooks := [] }.afterHooks i group

/-- Looks after a session under way. -/
def poll (s : Session) (run : SessionRun) : Session × SessionProgress :=
  match run.phase with
  | .handshake call =>
    match call.poll s.channel s.clock [] with
    | (channel, none) => ({ s with channel := channel }, .waiting run)
    | (channel, some outcome) => { s with channel := channel }.afterHandshake run.inboxes outcome
  | .hooks group =>
    let (engine, channel, group) := group.poll s.clock s.engine s.channel
    { s with engine := engine, channel := channel }.afterHooks run.inboxes group
  | .running reply => s.pollRunning run.inboxes reply

/-- What the bridge tells a server about itself. -/
def handshakeParams (p : Profile) : Json :=
  (Wire.InitializeParams.mk none ⟨p.clientName, p.clientVersion⟩
    (.obj [("textDocument", .obj [("publishDiagnostics", .obj [])])]) none).toJson.sorted

/-- Reading files for the server is refused in the result. -/
def readFileHandler : MethodHandler where
  delay := .zero
  respond _ := .ok (.obj [("error", .str "Not implemented")])

def addHandlers (e : Engine) : Engine :=
  (e.onNotification Method.publishDiagnostics .diagnostics).addMethod Method.readFile
    readFileHandler

/-- Starts a session: subscriptions first, so that nothing is missed, then the handshake. A session
starts once. -/
def start (s : Session) : Session × SessionProgress :=
  if s.stage ≠ .uninitialized then (s, .over (.error (.handshake "session already started")))
  else
    let (notifications, noticeFanout) := s.channel.inbound.notifications.subscribe
    let (requests, requestFanout) := s.channel.inbound.requests.subscribe
    let inboxes : Inboxes := ⟨requests, notifications⟩
    let s := ({ s with stage := .initializing, engine := addHandlers s.engine }.setNotifications
      noticeFanout).setRequests requestFanout
    match s.engine.call s.channel s.clock Method.handshake
        (some (handshakeParams s.engine.profile)) none with
    | (engine, channel, .ok call) =>
      ({ s with engine := engine, channel := channel },
        .waiting ⟨inboxes, .handshake call⟩)
    | (engine, channel, .error e) =>
      { s with engine := engine, channel := channel }.stop inboxes (.error (.call e))

end Session

end LanguageBridge
