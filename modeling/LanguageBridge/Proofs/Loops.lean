import LanguageBridge.Proofs.Inbound
import LanguageBridge.Session

/-! What the loops of a running session do with what they take: notifications go to their handlers,
requests are answered one after another, and listeners hear along. -/
namespace LanguageBridge

def Engine.answer (e : Engine) (r : Request) : Message :=
  match e.methods.lookup r.method with
  | none => .response (.failure r.id (.methodNotFound r.method))
  | some handler => .response (respond r.id (handler.respond r.params))

theorem Engine.answer_response (e : Engine) (r : Request) : ∃ s, e.answer r = .response s := by
  unfold answer
  split <;> exact ⟨_,rfl⟩

def Engine.addressee (e : Engine) (n : Notification) : Option (NotificationHandler × Json) :=
  (e.observers.lookup n.method).map fun handler => (handler,n.params.getD .null)

/-- What an observer makes of a notification: its name, what it is told and how it takes that. -/
def Engine.observation? (e : Engine) (n : Notification) : Option (String × Json × Reaction) :=
  match e.observers.lookup n.method with
  | some (.observer name react) => some (name,n.params.getD .null,react (n.params.getD .null))
  | _ => none

def Event.notified? : Event → Option (String × Json × Reaction)
  | .notified name params reaction => some (name,params,reaction)
  | _ => none

namespace Session

def invoke (s : Session) : NotificationHandler × Json → Session
  | (.observer name react,params) => s.record [.notified name params (react params)]
  | (.diagnostics,params) =>
    match Wire.Publication.read params with
    | .ok p => s.publish p
    | .error _ => s

def observed? : NotificationHandler × Json → Option (String × Json × Reaction)
  | (.observer name react,params) => some (name,params,react params)
  | (.diagnostics,_) => none

theorem observation?_eq (e : Engine) (n : Notification) :
    e.observation? n = (e.addressee n).bind observed? := by
  unfold Engine.observation? Engine.addressee
  cases e.observers.lookup n.method with
  | none => rfl
  | some handler => cases handler <;> rfl

theorem handleNotification_eq (s : Session) (n : Notification) :
    s.handleNotification n = (s.engine.addressee n).elim s s.invoke := by
  unfold handleNotification Engine.addressee
  cases s.engine.observers.lookup n.method with
  | none => rfl
  | some handler => cases handler <;> rfl

/-- A handler reaches the surface and the journal, and nothing else of a session. -/
theorem invoke_frame (s : Session) (call : NotificationHandler × Json) :
    ∃ surface journal, s.invoke call = { s with surface := surface, journal := journal } := by
  obtain ⟨handler,params⟩ := call
  cases handler with
  | observer name react => exact ⟨_,_,rfl⟩
  | diagnostics =>
    simp only [invoke]
    split
    · unfold publish
      split <;> exact ⟨_,_,rfl⟩
    · exact ⟨_,_,rfl⟩

theorem foldl_invoke_frame (s : Session) (calls : List (NotificationHandler × Json)) :
    ∃ surface journal, calls.foldl invoke s = { s with surface := surface, journal := journal } := by
  induction calls generalizing s with
  | nil => exact ⟨_,_,rfl⟩
  | cons call calls ih =>
    obtain ⟨surface,journal,first⟩ := s.invoke_frame call
    obtain ⟨_,_,rest⟩ := ih (s.invoke call)
    exact ⟨_,_,by rw [List.foldl_cons,rest,first]⟩

/-- An observer leaves one entry of its own in the journal, diagnostics leave none. -/
theorem journal_invoke (s : Session) (call : NotificationHandler × Json) :
    ∃ told, (s.invoke call).journal = s.journal ++ told ∧
      told.filterMap Event.notified? = (observed? call).toList := by
  obtain ⟨handler,params⟩ := call
  have silent : ∃ told : List Event, s.journal = s.journal ++ told ∧
      told.filterMap Event.notified? = [] := ⟨[],by simp,rfl⟩
  cases handler with
  | observer name react => exact ⟨_,rfl,rfl⟩
  | diagnostics =>
    simp only [invoke]
    split
    · unfold publish
      split
      · exact silent
      next update _ => exact ⟨[.marked update],rfl,rfl⟩
    · exact silent

theorem journal_foldl_invoke (s : Session) (calls : List (NotificationHandler × Json)) :
    ∃ told, (calls.foldl invoke s).journal = s.journal ++ told ∧
      told.filterMap Event.notified? = calls.filterMap observed? := by
  induction calls generalizing s with
  | nil => exact ⟨[],by simp,rfl⟩
  | cons call calls ih =>
    obtain ⟨first,begun,own⟩ := s.journal_invoke call
    obtain ⟨rest,ended,others⟩ := ih (s.invoke call)
    refine ⟨first ++ rest,?_,?_⟩
    · rw [List.foldl_cons,ended,begun,List.append_assoc]
    · rw [List.filterMap_append,own,others]
      cases seen : observed? call <;> simp [seen]

/-- Notifications without a handler make no difference, the others go to their handlers in order. -/
theorem foldl_handleNotification (s : Session) (items : List Notification) :
    items.foldl handleNotification s = (items.filterMap s.engine.addressee).foldl invoke s := by
  induction items generalizing s with
  | nil => rfl
  | cons n items ih =>
    rw [List.foldl_cons,ih,handleNotification_eq]
    cases addressed : s.engine.addressee n with
    | none => simp [addressed]
    | some call =>
      obtain ⟨_,_,called⟩ := s.invoke_frame call
      have engine : (s.invoke call).engine = s.engine := by rw [called]
      simp [addressed,engine]

/-- What a session is after its notifications for a subscriber were handled. -/
theorem takeNotifications_eq (s : Session) (key : Nat) :
    s.takeNotifications key =
      (((s.channel.inbound.notifications.buffered key).filterMap s.engine.addressee).foldl invoke
        (s.setNotifications (s.channel.inbound.notifications.setBuffered key [])),
        s.channel.inbound.notifications.isOver key) := by
  simp only [takeNotifications,Fanout.drain,foldl_handleNotification]
  rfl

/-- Two sessions that differ in their channels, their surfaces and their journals at most. -/
structure Alike (s t : Session) : Prop where
  clock : t.clock = s.clock
  engine : t.engine = s.engine
  bridge : t.bridge = s.bridge
  reader : t.reader = s.reader
  stage : t.stage = s.stage
  hooks : t.hooks = s.hooks

theorem takeNotifications_alike (s : Session) (key : Nat) : s.Alike (s.takeNotifications key).1 := by
  obtain ⟨surface,journal,invoked⟩ := (s.setNotifications (s.channel.inbound.notifications.setBuffered
    key [])).foldl_invoke_frame
      ((s.channel.inbound.notifications.buffered key).filterMap s.engine.addressee)
  rw [takeNotifications_eq,invoked]
  exact ⟨rfl,rfl,rfl,rfl,rfl,rfl⟩

theorem channel_takeNotifications (s : Session) (key : Nat) :
    (s.takeNotifications key).1.channel =
      (s.setNotifications (s.channel.inbound.notifications.setBuffered key [])).channel := by
  obtain ⟨surface,journal,invoked⟩ := (s.setNotifications (s.channel.inbound.notifications.setBuffered
    key [])).foldl_invoke_frame
      ((s.channel.inbound.notifications.buffered key).filterMap s.engine.addressee)
  rw [takeNotifications_eq,invoked]

theorem channel_takeListened (s : Session) :
    s.takeListened.1.channel =
      (s.setRequests (s.channel.inbound.requests.setBuffered s.reader.subscription [])).channel := rfl

def withOutbox (s : Session) (o : Outbox) : Session :=
  { s with channel := { s.channel with outbox := o } }

/-- The messages `sent` have gone out, unless nobody takes messages any more. -/
structure Sends (before : Outbox) (sent : List Message) (after : Outbox) : Prop where
  abandoned : after.abandoned = before.abandoned
  queue : before.abandoned = false → after.queue = before.queue ++ sent.map Message.encode
  gone : before.abandoned = true → after.queue = before.queue

theorem Sends.refl (o : Outbox) : Sends o [] o := ⟨rfl,by simp,fun _ => rfl⟩

theorem Sends.trans {o p q : Outbox} {sent more : List Message} (first : Sends o sent p)
    (second : Sends p more q) : Sends o (sent ++ more) q := by
  refine ⟨second.abandoned.trans first.abandoned,fun taking => ?_,fun gone => ?_⟩
  · rw [second.queue (first.abandoned.trans taking),first.queue taking]
    simp
  · rw [second.gone (first.abandoned.trans gone),first.gone gone]

/-- What stands in the outbox afterwards is nothing but what was sent. -/
theorem Sends.exists_out {o p : Outbox} {sent : List Message} (sends : Sends o sent p) :
    ∃ out : List Message, out ⊆ sent ∧ p.queue = o.queue ++ out.map Message.encode := by
  cases gone : o.abandoned with
  | true => exact ⟨[],List.nil_subset _,by simp [sends.gone gone]⟩
  | false => exact ⟨sent,List.Subset.refl _,sends.queue gone⟩

theorem trySend_eq (s : Session) (m : Message) :
    ∃ o, s.trySend m = s.withOutbox o ∧ Sends s.channel.outbox [m] o := by
  cases gone : s.channel.outbox.abandoned with
  | true =>
    refine ⟨s.channel.outbox,?_,rfl,by simp [gone],fun _ => rfl⟩
    simp [trySend,Channel.trySend,Channel.send,Outbox.send,Outbox.enqueue,gone,Except.map,withOutbox]
  | false =>
    refine ⟨{ s.channel.outbox with queue := s.channel.outbox.queue ++ [m.encode] },?_,rfl,by simp,
      by simp [gone]⟩
    simp [trySend,Channel.trySend,Channel.send,Outbox.send,Outbox.enqueue,gone,Except.map,withOutbox]

/-- A request is answered at once or its answer is kept for later. -/
theorem handleRequest_cases (s : Session) (r : Request) :
    (∃ o, s.handleRequest r = (s.withOutbox o,none) ∧
      Sends s.channel.outbox [s.engine.answer r] o) ∨
    ∃ reply, s.handleRequest r = (s,some reply) ∧ .response reply.response = s.engine.answer r := by
  unfold handleRequest Engine.answer
  cases s.engine.methods.lookup r.method with
  | none =>
    obtain ⟨o,sent,sends⟩ := s.trySend_eq (.response (.failure r.id (.methodNotFound r.method)))
    exact .inl ⟨o,by rw [sent],sends⟩
  | some handler =>
    dsimp only
    split
    · obtain ⟨o,sent,sends⟩ := s.trySend_eq (.response (Engine.respond r.id (handler.respond r.params)))
      exact .inl ⟨o,by rw [sent],sends⟩
    · exact .inr ⟨_,rfl,rfl⟩

def kept (reply : Option DelayedReply) : List Message := reply.toList.map fun r => .response r.response

/-- Requests are taken in order up to one whose answer has to wait; all before that are answered. -/
theorem serve_spec (s : Session) (rs : List Request) : ∃ taken o sent,
    rs = taken ++ (s.serve rs).2.2 ∧ (s.serve rs).1 = s.withOutbox o ∧
    Sends s.channel.outbox sent o ∧
    taken.map s.engine.answer = sent ++ kept (s.serve rs).2.1 ∧
    ((s.serve rs).2.1 = none → (s.serve rs).2.2 = []) := by
  induction rs generalizing s with
  | nil => exact ⟨[],_,[],rfl,rfl,.refl _,rfl,fun _ => rfl⟩
  | cons r rest ih =>
    rcases s.handleRequest_cases r with ⟨o,handled,sends⟩ | ⟨reply,handled,response⟩
    · obtain ⟨taken,p,sent,split,after,more,answers,idle⟩ := ih (s.withOutbox o)
      have same : s.serve (r :: rest) = (s.withOutbox o).serve rest := by
        simp [serve,handled]
      rw [same]
      refine ⟨r :: taken,p,s.engine.answer r :: sent,?_,after,sends.trans more,?_,idle⟩
      · rw [List.cons_append,← split]
      · rw [List.map_cons,List.cons_append,← answers]
        rfl
    · have same : s.serve (r :: rest) = (s,some reply,rest) := by
        simp [serve,handled]
      rw [same]
      refine ⟨[r],_,[],rfl,rfl,.refl _,?_,by simp⟩
      simp [kept,response]

/-- What the loop of requests made of the session `s` with the kept answer `before`: it took `taken`
off the buffer and left `rest`. All answers due went out, in the order of their requests, but for the
one that is kept now. -/
structure Serves (s : Session) (key : Nat) (before : Option DelayedReply) (t : Session)
    (after : Option DelayedReply) (taken rest : List Request) : Prop where
  buffer : s.channel.inbound.requests.buffered key = taken ++ rest
  alike : s.Alike t
  surface : t.surface = s.surface
  journal : t.journal = s.journal
  notifications : t.channel.inbound.notifications = s.channel.inbound.notifications
  pending : t.channel.pending = s.channel.pending
  closed : t.channel.inbound.requests.closed = s.channel.inbound.requests.closed
  next : t.channel.inbound.requests.next = s.channel.inbound.requests.next
  queues : ∀ other, t.channel.inbound.requests.queue? other =
    (s.channel.inbound.requests.queue? other).map fun old => if other = key then rest else old
  sent : ∃ sent, Sends s.channel.outbox sent t.channel.outbox ∧
    kept before ++ taken.map s.engine.answer = sent ++ kept after
  idle : after = none → rest = []

/-- The loop of requests sends responses only. -/
theorem Serves.responds {s t : Session} {key : Nat} {before after : Option DelayedReply}
    {taken rest : List Request} (serves : Serves s key before t after taken rest) :
    ∃ out : List Message, (∀ m ∈ out, ∃ r, m = .response r) ∧
      t.channel.outbox.queue = s.channel.outbox.queue ++ out.map Message.encode := by
  obtain ⟨sent,sends,balance⟩ := serves.sent
  obtain ⟨out,subset,queue⟩ := sends.exists_out
  refine ⟨out,fun m member => ?_,queue⟩
  have due : m ∈ kept before ++ taken.map s.engine.answer := by
    rw [balance]
    exact List.mem_append_left _ (subset member)
  rcases List.mem_append.mp due with old | new
  · obtain ⟨reply,_,rfl⟩ := List.mem_map.mp old
    exact ⟨_,rfl⟩
  · obtain ⟨r,_,rfl⟩ := List.mem_map.mp new
    exact s.engine.answer_response r

theorem settleReply_cases (s : Session) (reply : Option DelayedReply) :
    (∃ r, reply = some r ∧ s.settleReply reply = (s,some r)) ∨
    ∃ o, s.settleReply reply = (s.withOutbox o,none) ∧ Sends s.channel.outbox (kept reply) o := by
  cases reply with
  | none => exact .inr ⟨s.channel.outbox,rfl,.refl _⟩
  | some r =>
    simp only [settleReply]
    split
    · obtain ⟨o,sent,sends⟩ := s.trySend_eq (.response r.response)
      exact .inr ⟨o,by rw [sent],sends⟩
    · exact .inl ⟨r,rfl,rfl⟩

theorem queue?_eq_map_buffered {α : Type} (f : Fanout α) (key other : Nat) :
    f.queue? other = (f.queue? other).map fun old => if other = key then f.buffered key else old := by
  cases found : f.queue? other with
  | none => rfl
  | some old =>
    simp only [Option.map_some,Option.some.injEq]
    split
    next same =>
      subst same
      rw [Fanout.buffered_eq,found]
      rfl
    next => rfl

theorem takeRequests_spec (s : Session) (key : Nat) (reply : Option DelayedReply) : ∃ taken rest,
    Serves s key reply (s.takeRequests key reply).1 (s.takeRequests key reply).2.1 taken rest ∧
    (s.takeRequests key reply).2.2 =
      ((s.takeRequests key reply).2.1.isNone && s.channel.inbound.requests.isOver key) := by
  rcases s.settleReply_cases reply with ⟨r,rfl,unsettled⟩ | ⟨o,settled,sends⟩
  · have same : s.takeRequests key (some r) = (s,some r,false) := by
      simp [takeRequests,unsettled]
    rw [same]
    refine ⟨[],_,⟨rfl,⟨rfl,rfl,rfl,rfl,rfl,rfl⟩,rfl,rfl,rfl,rfl,rfl,rfl,
      queue?_eq_map_buffered _ key,⟨[],.refl _,?_⟩,by simp⟩,rfl⟩
    simp
  · obtain ⟨taken,p,sent,split,after,more,answers,idle⟩ :=
      (s.withOutbox o).serve_spec (s.channel.inbound.requests.buffered key)
    generalize served : (s.withOutbox o).serve (s.channel.inbound.requests.buffered key) = result
      at split after answers idle
    obtain ⟨t,later,rest⟩ := result
    have same : s.takeRequests key reply =
        ((s.withOutbox p).setRequests (s.channel.inbound.requests.setBuffered key rest),later,
          later.isNone && s.channel.inbound.requests.isOver key) := by
      obtain rfl : t = s.withOutbox p := after
      simp only [takeRequests,settled]
      exact congrArg (fun result : Session × Option DelayedReply × List Request =>
        (result.1.setRequests (result.1.channel.inbound.requests.setBuffered key result.2.2),
          result.2.1,result.2.1.isNone && s.channel.inbound.requests.isOver key)) served
    rw [same]
    refine ⟨taken,rest,⟨split,⟨rfl,rfl,rfl,rfl,rfl,rfl⟩,rfl,rfl,rfl,rfl,rfl,rfl,?_,
      ⟨_,sends.trans more,?_⟩,idle⟩,rfl⟩
    · exact Fanout.queue?_setBuffered _ _ _
    · rw [List.append_assoc,← answers]
      rfl

end Session

end LanguageBridge
