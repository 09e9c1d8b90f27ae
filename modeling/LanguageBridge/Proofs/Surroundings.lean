import LanguageBridge.Proofs.Attachment
import LanguageBridge.Proofs.Exchange
import LanguageBridge.Proofs.Loops
import LanguageBridge.Proofs.Traffic
import LanguageBridge.Proofs.Writing

/-! What the rest of a client can do to a session under way. Whatever a client is told to do, besides
starting the session, it leaves the stage and the legend alone, and subscribers find what was delivered
behind what they had. -/
namespace LanguageBridge

namespace Channel

def EndsLike (c d : Channel) : Prop :=
  (d.inbound.requests.closed = c.inbound.requests.closed ∧
    d.inbound.notifications.closed = c.inbound.notifications.closed ∧
    d.pending.closed = c.pending.closed) ∨
  (d.inbound.requests.closed = true ∧ d.inbound.notifications.closed = true ∧
    d.pending.closed = true)

/-- What everybody but the session makes of a channel while `ms` are delivered. The subscriber `reader`
may take what it has, the others only get more. -/
structure Moves (c : Channel) (reader : Nat) (ms : List Message) (d : Channel) : Prop where
  requests : ∀ key ≠ reader, d.inbound.requests.queue? key = (c.inbound.requests.queue? key).map
    (· ++ if c.inbound.requests.closed then [] else ms.filterMap Message.request?)
  notifications : ∀ key, d.inbound.notifications.queue? key =
    (c.inbound.notifications.queue? key).map
      (· ++ if c.inbound.notifications.closed then [] else ms.filterMap Message.notification?)
  nextRequest : d.inbound.requests.next = c.inbound.requests.next
  nextNotification : d.inbound.notifications.next = c.inbound.notifications.next
  pending : c.pending.Evolves (ms.filterMap Message.response?) d.pending
  ends : c.EndsLike d
  abandoned : c.outbox.abandoned = true → d.outbox.abandoned = true

namespace Moves

variable {c d e : Channel} {reader : Nat} {ms : List Message}

theorem of_talks {may : Notification → Prop} (talks : c.Talks may d) (reader : Nat) :
    c.Moves reader [] d where
  requests key _ := by simp [talks.requests]
  notifications key := by simp [talks.notifications]
  nextRequest := by rw [talks.requests]
  nextNotification := by rw [talks.notifications]
  pending := talks.pending
  ends := .inl ⟨by rw [talks.requests],by rw [talks.notifications],talks.closed⟩
  abandoned gone := talks.abandoned.trans gone

theorem of_evolves {p : Pending} (evolves : c.pending.Evolves [] p)
    (closed : p.closed = c.pending.closed) : c.Moves reader [] (c.setPending p) :=
  of_talks (Channel.talks_setPending evolves closed : c.Talks Notification.GivesUp _) reader

theorem refl (c : Channel) (reader : Nat) : c.Moves reader [] c := of_evolves .refl rfl

/-- Another outbox makes no difference to what comes in. -/
theorem of_inbound (inbound : d.inbound = c.inbound)
    (abandoned : c.outbox.abandoned = true → d.outbox.abandoned = true) : c.Moves reader [] d := by
  obtain ⟨inner,outbox⟩ := d
  obtain rfl : inner = c.inbound := inbound
  have same := refl c reader
  exact ⟨same.requests,same.notifications,rfl,rfl,.refl,.inl ⟨rfl,rfl,rfl⟩,abandoned⟩

/-- Messages delivered in order. -/
theorem deliverAll (c : Channel) (reader : Nat) (ms : List Message) :
    c.Moves reader ms { c with inbound := ms.foldl Inbound.deliver c.inbound } where
  requests key _ := by
    rw [Inbound.requests_deliverAll,Fanout.queue?_publishAll]
  notifications key := by
    rw [Inbound.notifications_deliverAll,Fanout.queue?_publishAll]
  nextRequest := by
    rw [Inbound.requests_deliverAll,Fanout.next_publishAll]
  nextNotification := by
    rw [Inbound.notifications_deliverAll,Fanout.next_publishAll]
  pending := by
    simp only [Channel.pending,Inbound.pending_deliverAll]
    exact .resolveAll _ _
  ends := by
    simp [EndsLike,Channel.pending,Inbound.requests_deliverAll,Inbound.notifications_deliverAll,
      Inbound.pending_deliverAll]
  abandoned gone := gone

theorem closes (moves : c.Moves reader ms d) : c.Moves reader ms d.close where
  requests := moves.requests
  notifications := moves.notifications
  nextRequest := moves.nextRequest
  nextNotification := moves.nextNotification
  pending := moves.pending.close
  ends := .inr ⟨rfl,rfl,rfl⟩
  abandoned := moves.abandoned

theorem trans (first : c.Moves reader ms d) (second : d.Moves reader [] e) : c.Moves reader ms e where
  requests key other := by
    rw [second.requests key other,first.requests key other]
    simp [Function.comp_def]
  notifications key := by
    rw [second.notifications key,first.notifications key]
    simp [Function.comp_def]
  nextRequest := second.nextRequest.trans first.nextRequest
  nextNotification := second.nextNotification.trans first.nextNotification
  pending := by simpa using first.pending.trans second.pending
  ends := by
    rcases second.ends with ⟨requests,notifications,pending⟩ | shut
    · rw [EndsLike,requests,notifications,pending]
      exact first.ends
    · exact .inr shut
  abandoned gone := second.abandoned (first.abandoned gone)

theorem send {m : Message} (sent : c.send m = .ok d) : c.Moves reader [] d := by
  obtain ⟨_,failed⟩ | ⟨o,taking,_,ok⟩ := c.send_cases m
  · rw [failed] at sent
    cases sent
  · rw [ok] at sent
    cases sent
    exact of_inbound rfl fun gone => absurd gone (by simp [taking])

end Moves

end Channel

def Task.isSession : Task → Bool
  | .session _ => true
  | _ => false

namespace Session

/-- What nobody but the admitted start changes; hooks may be added to those that wait. -/
structure Keeps (s t : Session) : Prop where
  stage : t.stage = s.stage
  legend : t.bridge.legend = s.bridge.legend
  listens : t.reader.subscription = s.reader.subscription
  hooks : s.hooks <+: t.hooks

theorem Keeps.refl (s : Session) : s.Keeps s := ⟨rfl,rfl,rfl,List.prefix_rfl⟩

theorem handleNotification_frame (s : Session) (n : Notification) :
    ∃ surface journal, s.handleNotification n = { s with surface := surface, journal := journal } := by
  rw [handleNotification_eq]
  cases s.engine.addressee n with
  | none => exact ⟨_,_,rfl⟩
  | some call => exact s.invoke_frame call

end Session

namespace Client

def Detached (c : Client) : Prop := ∀ t ∈ c.tasks, t.2.isSession = false

structure Spares (c : Client) (ms : List Message) (d : Client) : Prop where
  keeps : c.session.Keeps d.session
  reads : d.reader.subscription = c.reader.subscription
  moves : c.session.channel.Moves c.reader.subscription ms d.session.channel
  detached : c.Detached → d.Detached

variable {c d : Client}

theorem Detached.spawn (detached : c.Detached) (name : String) {task : Task}
    (other : task.isSession = false) : (c.spawn name task).Detached := by
  intro t member
  rcases List.mem_append.mp member with old | new
  · exact detached t old
  · obtain rfl := List.mem_singleton.mp new
    exact other

theorem Spares.refl (c : Client) : c.Spares [] c := ⟨.refl _,rfl,.refl _ _,id⟩

theorem Spares.trans {e : Client} {ms : List Message} (first : c.Spares ms d)
    (second : d.Spares [] e) : c.Spares ms e where
  keeps := ⟨second.keeps.stage.trans first.keeps.stage,second.keeps.legend.trans first.keeps.legend,
    second.keeps.listens.trans first.keeps.listens,first.keeps.hooks.trans second.keeps.hooks⟩
  reads := second.reads.trans first.reads
  moves := by
    have moves := second.moves
    rw [first.reads] at moves
    exact first.moves.trans moves
  detached detached := second.detached (first.detached detached)

/-- A client that did something to its channel. -/
theorem spares_setChannel {ms : List Message} {channel : Channel}
    (moves : c.session.channel.Moves c.reader.subscription ms channel) :
    c.Spares ms (c.setChannel channel) :=
  ⟨⟨rfl,rfl,rfl,List.prefix_rfl⟩,rfl,moves,id⟩

theorem Spares.finish {ms : List Message} (spares : c.Spares ms d) (name : String) (outcome : Outcome) :
    c.Spares ms (d.finish name outcome) :=
  ⟨spares.keeps,spares.reads,spares.moves,spares.detached⟩

theorem Spares.spawn {ms : List Message} (spares : c.Spares ms d) (name : String) {task : Task}
    (other : task.isSession = false) : c.Spares ms (d.spawn name task) :=
  ⟨spares.keeps,spares.reads,spares.moves,fun detached => (spares.detached detached).spawn name other⟩

theorem spares_sendResult {result : Except CallError Channel}
    (sent : ∀ channel, result = .ok channel →
      c.session.channel.Moves c.reader.subscription [] channel) :
    c.Spares [] (c.sendResult result).1 := by
  cases result with
  | error e => exact .refl c
  | ok channel => exact spares_setChannel (sent channel rfl)

theorem spares_startCall (c : Client) (name method : String) (params : Option Json) (cancellable : Bool)
    {task : Call → Task} (other : ∀ call, (task call).isSession = false) :
    c.Spares [] (c.startCall name method params cancellable task) := by
  have talks := c.session.engine.talks_call c.channel c.session.clock method params
    (if cancellable then some name else none)
  unfold startCall
  dsimp only
  generalize c.session.engine.call c.channel c.session.clock method params
    (if cancellable then some name else none) = called at talks ⊢
  obtain ⟨engine,channel,outcome⟩ := called
  have spares : c.Spares [] { c with session :=
      { c.session with engine := engine, channel := channel } } :=
    ⟨⟨rfl,rfl,rfl,List.prefix_rfl⟩,rfl,.of_talks talks _,id⟩
  cases outcome with
  | ok call => exact spares.spawn name (other call)
  | error e => exact spares.finish name _

theorem moves_writerSend {w : Writer} {channel sent : Channel} {m : Message} {reader : Nat}
    (ok : w.send channel m = .ok sent) : channel.Moves reader [] sent := by
  unfold Writer.send at ok
  split at ok
  · cases ok
  · exact .send ok

theorem moves_write (w : Writer) (channel : Channel) (now : Nat) (m : Message) (reader : Nat) :
    channel.Moves reader [] (w.write channel now m).1 := by
  have shut {id : RequestId} {h : Handle} {p : Pending}
      (registered : channel.pending.register id = .ok (h,p)) : p.closed = channel.pending.closed := by
    obtain ⟨_,_,_,rfl⟩ := Pending.register_cases registered
    rfl
  obtain ⟨_,_,written⟩ | ⟨_,h,_,_,_,registered,_,written⟩ | ⟨_,_,sent,written⟩ |
    ⟨_,_,_,_,_,registered,sent,written⟩ := w.write_cases channel now m
  · rw [written]
    exact .refl channel reader
  · rw [written]
    have evolves := (Pending.Evolves.register .refl registered).drop h
    have closed := shut registered
    exact .of_evolves evolves closed
  · rw [written]
    exact moves_writerSend sent
  · rw [written]
    have evolves := Pending.Evolves.register .refl registered
    exact (Channel.Moves.of_evolves evolves (shut registered)).trans (moves_writerSend sent)

theorem spares_write (c : Client) (name : String) (m : Message) : c.Spares [] (c.write name m) := by
  have spares := spares_setChannel (c := c)
    (moves_write c.writer c.channel c.session.clock m c.reader.subscription)
  unfold write
  split
  next written =>
    rw [written] at spares
    exact spares.finish name _
  next written =>
    rw [written] at spares
    exact spares.finish name _
  next written =>
    rw [written] at spares
    exact spares.spawn name rfl

theorem spares_receive (c : Client) (m : Message) :
    c.Spares (m.response?.toList.map .response) (c.receive m) := by
  cases m with
  | response r => exact spares_setChannel (.deliverAll _ _ [.response r])
  | notification n =>
    obtain ⟨surface,journal,handled⟩ := c.session.handleNotification_frame n
    rw [receive,handled]
    exact ⟨⟨rfl,rfl,rfl,List.prefix_rfl⟩,rfl,.refl _ _,id⟩
  | request r =>
    rw [receive]
    obtain ⟨o,handled,sends⟩ | ⟨reply,handled,_⟩ := c.session.handleRequest_cases r
    · rw [handled]
      exact ⟨⟨rfl,rfl,rfl,List.prefix_rfl⟩,rfl,
        .of_inbound rfl fun gone => sends.abandoned.trans gone,id⟩
    · rw [handled]
      exact .spawn (.refl c) "" rfl

/-- Whatever happens to the registrations, listeners come and go but subscriptions stay. -/
theorem spares_release (c : Client) (registration : Option Registration)
    (registrations : List (String × Registration)) :
    c.Spares [] { c.release registration with registrations := registrations } := by
  cases registration with
  | none => exact ⟨.refl _,rfl,.refl _ _,id⟩
  | some registration =>
    cases registration <;> exact ⟨⟨rfl,rfl,rfl,List.prefix_rfl⟩,rfl,.refl _ _,id⟩

end Client

def Command.delivers : Command → List Message
  | .deliver m => [m]
  | .receive (.response r) => [.response r]
  | _ => []

namespace Client

theorem spares_perform (c : Client) {command : Command} (other : command.isStart = false) :
    c.Spares command.delivers (c.perform command).1 := by
  cases command with
  | request name method params expected cancellable =>
    exact c.spares_startCall name method params cancellable fun _ => rfl
  | notify method params => exact spares_sendResult fun channel sent => .send sent
  | receive m =>
    have spares := c.spares_receive m
    cases m <;> exact spares
  | send m => exact spares_sendResult fun channel sent => moves_writerSend sent
  | write name m => exact c.spares_write name m
  | deliver m => exact spares_setChannel (.deliverAll _ _ [m])
  | close => exact spares_setChannel (Channel.Moves.closes (.refl _ _))
  | losePeer =>
    simp only [perform]
    split
    · exact ⟨.refl _,rfl,.refl _ _,id⟩
    · exact spares_setChannel (.of_inbound rfl fun _ => rfl)
  | peerBytes bytes =>
    simp only [perform]
    split
    · exact ⟨.refl _,rfl,.refl _ _,id⟩
    · exact .refl c
  | shutdown =>
    have moves := (Channel.Moves.refl c.channel c.reader.subscription).closes
    exact ⟨⟨rfl,rfl,rfl,List.prefix_rfl⟩,rfl,moves.trans (.of_inbound rfl fun _ => rfl),id⟩
  | addLanguage language =>
    simp only [perform,Session.addLanguage,Bridge.addLanguage]
    split
    · exact .refl c
    next bridge added =>
      split at added
      · cases added
      · cases added
        exact ⟨⟨rfl,rfl,rfl,List.prefix_rfl⟩,rfl,.refl _ _,id⟩
  | publish p =>
    simp only [perform,Session.publish]
    split
    · exact .refl c
    · exact ⟨⟨rfl,rfl,rfl,List.prefix_rfl⟩,rfl,.refl _ _,id⟩
  | provide name language query cancellable =>
    simp only [perform,provide]
    split
    · exact c.spares_startCall _ _ _ _ fun _ => rfl
    · exact .finish (.refl c) _ _
  | start name => cases other
  | wait name target => exact .spawn (.refl c) name rfl
  | pushHook hook => exact ⟨⟨rfl,rfl,rfl,List.prefix_append _ _⟩,rfl,.refl _ _,id⟩
  | readerRun name => exact .spawn (.refl c) name rfl
  | listen name react =>
    have listening : c.Spares [] { c with session := { c.session with
        reader := (c.session.reader.listen name react).2 } } :=
      ⟨⟨rfl,rfl,rfl,List.prefix_rfl⟩,rfl,.refl _ _,id⟩
    exact listening.trans (spares_release _ _ _)
  | readerListen name react =>
    have listening : c.Spares [] { c with reader := (c.reader.listen name react).2 } :=
      ⟨.refl _,rfl,.refl _ _,id⟩
    exact listening.trans (spares_release _ _ _)
  | dispose name => exact spares_release _ _ _
  | _ => exact ⟨⟨rfl,rfl,rfl,List.prefix_rfl⟩,rfl,.refl _ _,id⟩

theorem moves_receiptPoll (receipt : Receipt) (channel : Channel) (now reader : Nat) :
    channel.Moves reader [] (receipt.poll channel now).1 := by
  unfold Receipt.poll
  split
  · exact .of_evolves (.collect .refl _) rfl
  · exact .of_evolves (.collect .refl _) rfl
  · split
    · exact .of_evolves (.drop .refl _) rfl
    · exact .refl _ _

theorem spares_call (c : Client) (call : Call) :
    c.Spares [] (c.setChannel (call.poll c.channel c.session.clock c.fired).1) :=
  spares_setChannel (.of_talks (call.talks_poll _ _ _) _)

/-- Looking after a task spares the session, and a task that goes on is of the same kind. -/
theorem spares_pollTask (c : Client) {task : Task} (other : task.isSession = false) :
    c.Spares [] (c.pollTask task).1 ∧
    ∀ later, (c.pollTask task).2 = .waiting later → later.isSession = false := by
  cases task with
  | request call expected =>
    have spares := c.spares_call call
    simp only [pollTask]
    split
    next polled =>
      rw [polled] at spares
      exact ⟨spares,by rintro _ ⟨⟩; rfl⟩
    next polled =>
      rw [polled] at spares
      exact ⟨spares,by rintro _ ⟨⟩⟩
  | provide call query =>
    have spares := c.spares_call call
    simp only [pollTask]
    split
    next polled =>
      rw [polled] at spares
      exact ⟨spares,by rintro _ ⟨⟩; rfl⟩
    next polled =>
      rw [polled] at spares
      exact ⟨spares,by rintro _ ⟨⟩⟩
  | write receipt =>
    have spares := spares_setChannel (moves_receiptPoll receipt c.channel c.session.clock _)
    simp only [pollTask]
    split
    next polled =>
      rw [polled] at spares
      exact ⟨spares,by rintro _ ⟨⟩; rfl⟩
    next polled =>
      rw [polled] at spares
      exact ⟨spares,by rintro _ ⟨⟩⟩
  | reply reply =>
    obtain ⟨r,_,unsettled⟩ | ⟨o,settled,sends⟩ := c.session.settleReply_cases (some reply)
    · simp only [pollTask,unsettled]
      exact ⟨.refl c,by rintro _ ⟨⟩; rfl⟩
    · simp only [pollTask,settled]
      exact ⟨⟨⟨rfl,rfl,rfl,List.prefix_rfl⟩,rfl,
        .of_inbound rfl fun gone => sends.abandoned.trans gone,id⟩,by rintro _ ⟨⟩⟩
  | session run => cases other
  | wait target =>
    simp only [pollTask]
    split
    · exact ⟨.refl c,by rintro _ ⟨⟩⟩
    · exact ⟨.refl c,by rintro _ ⟨⟩; rfl⟩
  | listening =>
    refine ⟨⟨⟨rfl,rfl,rfl,List.prefix_rfl⟩,rfl,?_,id⟩,?_⟩
    · have same := Channel.Moves.refl c.channel c.reader.subscription
      refine ⟨fun key other => ?_,same.notifications,rfl,rfl,.refl,.inl ⟨rfl,rfl,rfl⟩,id⟩
      refine (Fanout.queue?_setBuffered _ _ _ key).trans ?_
      simp only [other,if_false,Option.map_id']
      exact same.requests key other
    · intro later waiting
      simp only [pollTask] at waiting
      split at waiting <;> cases waiting
      rfl

theorem spares_attend {c : Client} (detached : c.Detached) (place : Nat) :
    c.Spares [] (c.attend place) := by
  unfold attend
  split
  · exact .refl c
  next name task found =>
    have other : task.isSession = false := detached _ (List.mem_of_getElem? found)
    obtain ⟨spares,kind⟩ := c.spares_pollTask other
    split
    next d later polled =>
      rw [polled] at spares kind
      refine ⟨spares.keeps,spares.reads,spares.moves,fun before t member => ?_⟩
      rcases List.mem_or_eq_of_mem_set member with old | rfl
      · exact spares.detached before t old
      · exact kind later rfl
    next d outcome polled =>
      rw [polled] at spares
      refine ⟨spares.keeps,spares.reads,spares.moves,fun before t member => ?_⟩
      exact spares.detached before t (List.mem_of_mem_eraseIdx member)
    next d polled =>
      rw [polled] at spares
      refine ⟨spares.keeps,spares.reads,spares.moves,fun before t member => ?_⟩
      exact spares.detached before t (List.mem_of_mem_eraseIdx member)

def arrivals (c : Client) : List Message :=
  match c.link with
  | none => []
  | some link =>
    if link.reading then
      (Frame.readAll (!link.peerWrites) link.unread).1.filterMap fun body =>
        (Message.decode body).toOption
    else []

theorem foldl_deliverBody (bodies : List String) (i : Inbound) :
    bodies.foldl Link.deliverBody i =
      (bodies.filterMap fun body => (Message.decode body).toOption).foldl Inbound.deliver i := by
  induction bodies generalizing i with
  | nil => rfl
  | cons body bodies ih =>
    rw [List.foldl_cons,ih,Link.deliverBody]
    cases decoded : Message.decode body with
    | error e => simp [decoded,Except.toOption]
    | ok m => simp [decoded,Except.toOption]

theorem spares_pumpIn (c : Client) : c.Spares c.arrivals c.pumpIn := by
  unfold pumpIn arrivals
  cases c.link with
  | none => exact .refl c
  | some link =>
    simp only [Link.pumpIn]
    split
    next reading =>
      have moves := Channel.Moves.deliverAll c.channel c.reader.subscription
        ((Frame.readAll (!link.peerWrites) link.unread).1.filterMap fun body =>
          (Message.decode body).toOption)
      rw [← foldl_deliverBody] at moves
      split
      · exact ⟨⟨rfl,rfl,rfl,List.prefix_rfl⟩,rfl,moves,id⟩
      · exact ⟨⟨rfl,rfl,rfl,List.prefix_rfl⟩,rfl,moves,id⟩
      · exact ⟨⟨rfl,rfl,rfl,List.prefix_rfl⟩,rfl,moves.closes,id⟩
    next => exact ⟨⟨rfl,rfl,rfl,List.prefix_rfl⟩,rfl,.refl _ _,id⟩

theorem spares_flush (c : Client) : c.Spares [] c.flush.1 := by
  unfold flush
  split
  · exact spares_setChannel (.of_inbound rfl id)
  next link found =>
    simp only [Link.pumpOut]
    split
    · split
      · exact ⟨⟨rfl,rfl,rfl,List.prefix_rfl⟩,rfl,.of_inbound rfl id,id⟩
      · exact ⟨⟨rfl,rfl,rfl,List.prefix_rfl⟩,rfl,.of_inbound rfl fun _ => rfl,id⟩
    · exact ⟨⟨rfl,rfl,rfl,List.prefix_rfl⟩,rfl,.refl _ _,id⟩

end Client

end LanguageBridge
