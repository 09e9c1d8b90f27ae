import LanguageBridge.Client.Command

/-! A session among all that its client does. The admitted start of a session goes on stride by stride,
and between any two strides the client may start it again, perform commands, look after other tasks, and
take in or give out what is on its way. -/
namespace LanguageBridge

def Fanout.isSpent {α : Type} (f : Fanout α) (key : Nat) : Bool :=
  f.isOver key && (f.buffered key).isEmpty

namespace Session

/-- The first half of a start: the stage changes, and the session subscribes before it asks for
anything. -/
def claim (s : Session) : Inboxes × Session :=
  let notifications := s.channel.inbound.notifications.subscribe
  let requests := s.channel.inbound.requests.subscribe
  (⟨requests.1,notifications.1⟩,
    ({ s with stage := .initializing, engine := addHandlers s.engine }.setNotifications
      notifications.2).setRequests requests.2)

def ask (s : Session) : Engine × Channel × Except CallError Call :=
  s.engine.call s.channel s.clock Method.handshake (some (handshakeParams s.engine.profile)) none

def legendIn : Except CallError Json → Except BridgeError Wire.TokenLegend
  | .error e => .error (.call e)
  | .ok value =>
    match Wire.InitializeResult.read value with
    | .error e => .error (.handshake ("invalid initialize result: " ++ e.message))
    | .ok result =>
      match result.legend? with
      | none => .error (.handshake "server declared no semantic token legend")
      | some legend => .ok legend

def drained (s : Session) (i : Inboxes) (reply : Option DelayedReply) : Bool :=
  s.channel.inbound.notifications.isSpent i.notifications &&
    (reply.isNone && s.channel.inbound.requests.isSpent i.requests) &&
    s.channel.inbound.requests.isSpent s.reader.subscription

end Session

inductive Point where
  | claimed
  | handshake (call : Call)
  | greeted
  | announced
  | hooks (group : HookGroup)
  | running (reply : Option DelayedReply)

/-- What an admitted start does next. Only what its point allows has an effect. -/
inductive Stride where
  | ask
  | hear
  | announce
  | launch
  | tend
  | judge
  | notices
  | requests
  | listeners
  | finish
  deriving DecidableEq, Repr

inductive Deed where
  | start
  | go (stride : Stride)
  | perform (command : Command)
  | attend (place : Nat)
  | pump
  | flush

/-- `admitted` is the start that was let in, as long as it is under way, and `returned` are the results
of all starts that are over. The other tasks are those of the client. -/
structure Attachment where
  client : Client
  admitted : Option (Inboxes × Point)
  returned : List (Except BridgeError Unit)

def alreadyStarted : BridgeError := .handshake "session already started"

def Command.isStart : Command → Bool
  | .start _ => true
  | _ => false

def Client.attend (c : Client) (place : Nat) : Client :=
  match c.tasks[place]? with
  | none => c
  | some (name,task) =>
    match c.pollTask task with
    | (c,.waiting task) => { c with tasks := c.tasks.set place (name,task) }
    | (c,.finished outcome) => { c.finish name outcome with tasks := c.tasks.eraseIdx place }
    | (c,.vanished) => { c with tasks := c.tasks.eraseIdx place }

namespace Attachment

def opening (profile : Profile) (link : Option Link) : Attachment := ⟨.new profile link,none,[]⟩

def session (a : Attachment) : Session := a.client.session

def withSession (a : Attachment) (s : Session) : Attachment :=
  { a with client := { a.client with session := s } }

def proceed (a : Attachment) (i : Inboxes) (s : Session) (p : Point) : Attachment :=
  { a.withSession s with admitted := some (i,p) }

def leave (a : Attachment) (i : Inboxes) (s : Session) (result : Except BridgeError Unit) :
    Attachment :=
  { a.withSession (s.stop i result).1 with
    admitted := none
    returned := a.returned ++ [result] }

def ask (a : Attachment) (i : Inboxes) : Attachment :=
  match a.session.ask with
  | (engine,channel,.ok call) =>
    a.proceed i { a.session with engine := engine, channel := channel } (.handshake call)
  | (engine,channel,.error e) =>
    a.leave i { a.session with engine := engine, channel := channel } (.error (.call e))

def hear (a : Attachment) (i : Inboxes) (call : Call) : Attachment :=
  match call.poll a.session.channel a.session.clock [] with
  | (channel,none) => a.proceed i { a.session with channel := channel } (.handshake call)
  | (channel,some outcome) =>
    match Session.legendIn outcome with
    | .error e => a.leave i { a.session with channel := channel } (.error e)
    | .ok legend =>
      a.proceed i { a.session with
        channel := channel
        bridge := a.session.bridge.setLegend legend
        stage := .initialized } .greeted

def announce (a : Attachment) (i : Inboxes) : Attachment :=
  match a.session.channel.notify Method.handshakeDone (some (.obj [])) with
  | .error e => a.leave i a.session (.error (.call e))
  | .ok channel => a.proceed i { a.session with channel := channel } .announced

def launch (a : Attachment) (i : Inboxes) : Attachment :=
  let s := a.session
  let (engine,channel,group) := HookGroup.start s.clock s.engine s.channel s.hooks
  a.proceed i { s with engine := engine, channel := channel, hooks := [] } (.hooks group)

def tend (a : Attachment) (i : Inboxes) (group : HookGroup) : Attachment :=
  let s := a.session
  let (engine,channel,group) := group.poll s.clock s.engine s.channel
  a.proceed i { s with engine := engine, channel := channel } (.hooks group)

def judge (a : Attachment) (i : Inboxes) (group : HookGroup) : Attachment :=
  match group.verdict with
  | some (.error e) =>
    a.leave i { a.session with channel := group.drop a.session.channel } (.error e)
  | some (.ok ()) => a.proceed i { a.session with stage := .running } (.running none)
  | none => a

def serve (a : Attachment) (i : Inboxes) (reply : Option DelayedReply) : Attachment :=
  let (s,reply,_) := a.session.takeRequests i.requests reply
  a.proceed i s (.running reply)

def finish (a : Attachment) (i : Inboxes) (reply : Option DelayedReply) : Attachment :=
  if a.session.drained i reply then a.leave i a.session (.ok ()) else a

def advance (a : Attachment) (i : Inboxes) : Point → Stride → Attachment
  | .claimed,.ask => a.ask i
  | .handshake call,.hear => a.hear i call
  | .greeted,.announce => a.announce i
  | .announced,.launch => a.launch i
  | .hooks group,.tend => a.tend i group
  | .hooks group,.judge => a.judge i group
  | .running reply,.notices =>
    a.proceed i (a.session.takeNotifications i.notifications).1 (.running reply)
  | .running reply,.requests => a.serve i reply
  | .running reply,.listeners => a.proceed i a.session.takeListened.1 (.running reply)
  | .running reply,.finish => a.finish i reply
  | _,_ => a

def step (a : Attachment) : Deed → Attachment
  | .start =>
    if a.session.stage = .uninitialized then a.proceed a.session.claim.1 a.session.claim.2 .claimed
    else { a with returned := a.returned ++ [.error alreadyStarted] }
  | .go stride =>
    match a.admitted with
    | none => a
    | some (i,point) => a.advance i point stride
  | .perform command =>
    if command.isStart then a else { a with client := (a.client.perform command).1 }
  | .attend place => { a with client := a.client.attend place }
  | .pump => { a with client := a.client.pumpIn }
  | .flush => { a with client := a.client.flush.1 }

def run (a : Attachment) (deeds : List Deed) : Attachment := deeds.foldl step a

@[simp] theorem run_nil (a : Attachment) : a.run [] = a := rfl

@[simp] theorem run_cons (a : Attachment) (d : Deed) (deeds : List Deed) :
    a.run (d :: deeds) = (a.step d).run deeds := rfl

@[simp] theorem run_snoc (a : Attachment) (deeds : List Deed) (d : Deed) :
    a.run (deeds ++ [d]) = (a.run deeds).step d := by
  simp [run]

end Attachment

end LanguageBridge
