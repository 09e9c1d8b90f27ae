import LanguageBridge.Proofs.Correlation
import LanguageBridge.Proofs.Notice

/-! Accounts of the calls that were given up. As long as somebody takes what is written, a call that ends
by its deadline or by its token is followed by one notice, and nothing else is. -/
namespace LanguageBridge

namespace Channel

variable {c : Channel}

def posted (c : Channel) (m : Message) : Channel :=
  { c with outbox := ⟨c.outbox.queue ++ [m.encode],false⟩ }

theorem send_open (taken : c.outbox.abandoned = false) (m : Message) : c.send m = .ok (c.posted m) := by
  simp [send,Outbox.send,Outbox.enqueue,taken,Except.map,posted]

theorem trySend_open (taken : c.outbox.abandoned = false) (m : Message) : c.trySend m = c.posted m := by
  rw [trySend,send_open taken]

end Channel

theorem Call.abandon_open {c : Channel} (call : Call) (taken : c.outbox.abandoned = false) :
    call.abandon c = (c.setPending (c.pending.drop call.handle)).posted (.notice call.number) :=
  Channel.trySend_open (c := c.setPending (c.pending.drop call.handle)) taken _

/-- A call is refused by the table, or its request is written. -/
theorem Engine.call_open {c : Channel} (e : Engine) (taken : c.outbox.abandoned = false) (now : Nat)
    (method : String) (params : Option Json) (token : Option String) :
    (∃ error, c.pending.register (.number e.nextId) = .error error ∧
      e.call c now method params token = ({ e with nextId := e.nextId + 1 },c,.error error)) ∨
    ∃ p call, call.number = e.nextId ∧ e.call c now method params token =
      ({ e with nextId := e.nextId + 1 },
        (c.setPending p).posted (.request (.new (.number e.nextId) method params)),.ok call) := by
  cases registered : c.pending.register (.number e.nextId) with
  | error error => exact .inl ⟨error,rfl,by simp [call,registered]⟩
  | ok result =>
    obtain ⟨h,p⟩ := result
    have sent := Channel.send_open (c := c.setPending p) taken
      (.request (.new (.number e.nextId) method params))
    refine .inr ⟨p,⟨e.nextId,h,method,e.profile.deadline method,
      now + (e.profile.deadline method).nanoseconds,token⟩,rfl,?_⟩
    simp [call,registered,sent]

namespace Exchange

variable {α : Type}

def Ending.isAbandoned (e : Ending α) : Bool :=
  match e.outcome with
  | .error (.timeout _ _) | .error .cancelled => true
  | _ => false

theorem isAbandoned_answer {e : Ending α} {expected : Reads α} {r : Response}
    (outcome : e.outcome = expected.expect r.concluded) : e.isAbandoned = false := by
  rcases expect_concluded expected r with ⟨a,kind⟩ | ⟨code,text,kind⟩ | ⟨reason,kind⟩
  all_goals simp [Ending.isAbandoned,outcome,kind]

theorem isAbandoned_refusal {p : Pending} {id : RequestId} {error : CallError} {e : Ending α}
    (refused : p.register id = .error error) (outcome : e.outcome = .error error) :
    e.isAbandoned = false := by
  unfold Pending.register at refused
  split at refused
  · obtain rfl := Except.error.inj refused
    simp [Ending.isAbandoned,outcome]
  · split at refused
    · obtain rfl := Except.error.inj refused
      simp [Ending.isAbandoned,outcome]
    · simp at refused

def taken (s : Exchange α) : Event α → List String
  | .take => (s.channel.outbox.take.map Prod.fst).toList
  | _ => []

def collected (s : Exchange α) : List (Event α) → List String
  | [] => []
  | event :: events => s.taken event ++ (s.step event).collected events

def stream (profile : Profile) (events : List (Event α)) : List String :=
  (opening profile).collected events ++ (run profile events).channel.outbox.queue

theorem collected_snoc (s : Exchange α) (events : List (Event α)) (event : Event α) :
    s.collected (events ++ [event]) = s.collected events ++ (events.foldl step s).taken event := by
  induction events generalizing s with
  | nil => simp [collected]
  | cons first events ih =>
    rw [List.cons_append,collected,ih,collected,List.append_assoc,List.foldl_cons]

inductive Posts (s t : Exchange α) : Event α → List String → Prop where
  | aside {event : Event α} (underway : t.underway ⊆ s.underway) (endings : t.endings = s.endings) :
      Posts s t event []
  | sent {m : Message} (underway : t.underway ⊆ s.underway) (endings : t.endings = s.endings) :
      Posts s t (.send m) [m.encode]
  | started {method : String} {params : Option Json} {token : Option String} {expected : Reads α}
      {u : Underway α} (since : u.since = s.position) (underway : t.underway = u :: s.underway)
      (endings : t.endings = s.endings) :
      Posts s t (.start method params token expected)
        [(Message.request (.new (.number u.call.number) method params)).encode]
  | ended {event : Event α} {e : Ending α} (other : e.isAbandoned = false)
      (underway : t.underway ⊆ s.underway) (endings : t.endings = e :: s.endings) :
      Posts s t event []
  | abandoned {event : Event α} {u : Underway α} {e : Ending α} (running : u ∈ s.underway)
      (number : e.number = u.call.number) (since : e.since = u.since) (ended : e.ended = s.position)
      (abandoned : e.isAbandoned = true) (underway : t.underway ⊆ s.underway)
      (endings : t.endings = e :: s.endings) :
      Posts s t event [(Message.notice e.number).encode]

structure Writes (s : Exchange α) (event : Event α) (texts : List String) : Prop where
  posts : Posts s (s.handle event) event texts
  queue : s.taken event ++ (s.handle event).channel.outbox.queue = s.channel.outbox.queue ++ texts
  stays : (s.handle event).channel.outbox.abandoned = false

section Step

variable {s t : Exchange α} {event : Event α}

theorem Writes.quiet (handled : s.handle event = t) (isOpen : s.channel.outbox.abandoned = false)
    (takes : s.taken event = []) (outbox : t.channel.outbox = s.channel.outbox)
    (posts : Posts s t event []) : Writes s event [] := by
  subst handled
  refine ⟨posts,?_,?_⟩
  · rw [takes,outbox,List.nil_append,List.append_nil]
  · rw [outbox,isOpen]

theorem Writes.post {m : Message} {c : Channel} (handled : s.handle event = t)
    (takes : s.taken event = []) (after : t.channel = c.posted m)
    (before : c.outbox = s.channel.outbox) (posts : Posts s t event [m.encode]) :
    Writes s event [m.encode] := by
  subst handled
  refine ⟨posts,?_,?_⟩
  · rw [takes,after,← before]
    rfl
  · rw [after]
    rfl

theorem others_subset (s : Exchange α) (number : UInt64) : s.others number ⊆ s.underway :=
  List.filter_subset_self _

theorem writes_start (isOpen : s.channel.outbox.abandoned = false) (method : String)
    (params : Option Json) (token : Option String) (expected : Reads α) :
    ∃ texts, Writes s (.start method params token expected) texts := by
  rcases s.engine.call_open isOpen s.clock method params token with
    ⟨error,refused,called⟩ | ⟨p,call,number,called⟩
  · have handled : s.handle (.start method params token expected) =
        { s with
          engine := { s.engine with nextId := s.engine.nextId + 1 }
          issued := (s.position,s.engine.nextId) :: s.issued
          endings := ⟨s.engine.nextId,s.position,s.position,.error error⟩ :: s.endings } := by
      simp only [handle,start,called]
    refine ⟨[],.quiet handled isOpen rfl rfl ?_⟩
    exact .ended (isAbandoned_refusal refused rfl) (List.Subset.refl _) rfl
  · have handled : s.handle (.start method params token expected) =
        { s with
          engine := { s.engine with nextId := s.engine.nextId + 1 }
          channel := (s.channel.setPending p).posted
            (.request (.new (.number s.engine.nextId) method params))
          issued := (s.position,s.engine.nextId) :: s.issued
          underway := ⟨call,s.position,expected⟩ :: s.underway } := by
      simp only [handle,start,called]
    refine ⟨_,.post handled rfl rfl rfl ?_⟩
    rw [← number]
    exact .started (u := ⟨call,s.position,expected⟩) rfl rfl rfl

/-- A look writes a notice exactly when it gives the call up. -/
theorem writes_look (isOpen : s.channel.outbox.abandoned = false) (number : UInt64)
    (tokenFirst : Bool) : ∃ texts, Writes s (.look number tokenFirst) texts := by
  cases found : s.find? number with
  | none =>
    have handled : s.handle (.look number tokenFirst) = s := by simp only [handle,look,found]
    exact ⟨[],.quiet handled isOpen rfl rfl (.aside (List.Subset.refl _) rfl)⟩
  | some u =>
    obtain ⟨running,rfl⟩ := mem_of_find? found
    have finished {c : Channel} {result : Except CallError Json}
        (looked : u.call.look s.channel s.clock s.fired tokenFirst = (c,some result)) :
        s.handle (.look u.call.number tokenFirst) =
          { s with
            channel := c
            underway := s.others u.call.number
            endings := ⟨u.call.number,u.since,s.position,u.expected.expect result⟩ :: s.endings } := by
      simp only [handle,look,found,looked]
    have givenUp {error : CallError}
        (looked : u.call.look s.channel s.clock s.fired tokenFirst =
          (u.call.abandon s.channel,some (.error error)))
        (kind : Ending.isAbandoned (⟨u.call.number,u.since,s.position,.error error⟩ : Ending α) = true) :
        ∃ texts, Writes s (.look u.call.number tokenFirst) texts := by
      refine ⟨_,.post (finished looked) rfl (u.call.abandon_open isOpen) rfl ?_⟩
      exact .abandoned (u := u) (e := ⟨u.call.number,u.since,s.position,.error error⟩) running rfl rfl
        rfl kind (others_subset s _) rfl
    rcases u.call.look_cases s.channel s.clock s.fired tokenFirst with
      ⟨_,looked⟩ | ⟨r,_,looked⟩ | ⟨_,looked⟩ | ⟨_,_,looked⟩ | ⟨_,looked⟩
    · have handled : s.handle (.look u.call.number tokenFirst) = s := by
        simp only [handle,look,found,looked]
      exact ⟨[],.quiet handled isOpen rfl rfl (.aside (List.Subset.refl _) rfl)⟩
    · refine ⟨[],.quiet (finished looked) isOpen rfl rfl ?_⟩
      exact .ended (isAbandoned_answer rfl) (others_subset s _) rfl
    · refine ⟨[],.quiet (finished looked) isOpen rfl rfl ?_⟩
      exact .ended rfl (others_subset s _) rfl
    · exact givenUp looked rfl
    · exact givenUp looked rfl

theorem writes_drop (isOpen : s.channel.outbox.abandoned = false) (number : UInt64) :
    Writes s (.drop number) [] := by
  cases found : s.find? number with
  | none =>
    have handled : s.handle (.drop number) = s := by simp only [handle,drop,found]
    exact .quiet handled isOpen rfl rfl (.aside (List.Subset.refl _) rfl)
  | some u =>
    have handled : s.handle (.drop number) =
        { s with
          channel := s.channel.setPending (s.channel.pending.drop u.call.handle)
          underway := s.others number } := by
      simp only [handle,drop,found]
    exact .quiet handled isOpen rfl rfl (.aside (others_subset s number) rfl)

theorem writes_take (isOpen : s.channel.outbox.abandoned = false) : Writes s .take [] := by
  cases queue : s.channel.outbox.queue with
  | nil =>
    have none : s.channel.outbox.take = none := by simp [Outbox.take,queue]
    have handled : s.handle .take = s := by simp only [handle,none]
    exact .quiet handled isOpen (by simp [taken,none]) rfl (.aside (List.Subset.refl _) rfl)
  | cons text rest =>
    have some : s.channel.outbox.take = some (text,{ s.channel.outbox with queue := rest }) := by
      simp [Outbox.take,queue]
    have handled : s.handle .take =
        { s with channel := { s.channel with outbox := { s.channel.outbox with queue := rest } } } := by
      simp only [handle,some]
    refine ⟨?_,?_,?_⟩ <;> rw [handled]
    · exact .aside (List.Subset.refl _) rfl
    · simp [taken,some,queue]
    · exact isOpen

/-- Every event but the end of the other side writes behind what was written before. -/
theorem step_writes (isOpen : s.channel.outbox.abandoned = false) (stays : event ≠ .hangUp) :
    ∃ texts, Writes s event texts := by
  cases event with
  | start method params token expected => exact writes_start isOpen method params token expected
  | look number tokenFirst => exact writes_look isOpen number tokenFirst
  | drop number => exact ⟨[],writes_drop isOpen number⟩
  | take => exact ⟨[],writes_take isOpen⟩
  | hangUp => exact absurd rfl stays
  | send m =>
    refine ⟨_,.post rfl rfl (Channel.trySend_open isOpen m) rfl ?_⟩
    exact .sent (List.Subset.refl _) rfl
  | deliver m =>
    refine ⟨[],.quiet rfl isOpen rfl ?_ (.aside (List.Subset.refl _) rfl)⟩
    cases m <;> rfl
  | close => exact ⟨[],.quiet rfl isOpen rfl rfl (.aside (List.Subset.refl _) rfl)⟩
  | elapse nanoseconds => exact ⟨[],.quiet rfl isOpen rfl rfl (.aside (List.Subset.refl _) rfl)⟩
  | fire token => exact ⟨[],.quiet rfl isOpen rfl rfl (.aside (List.Subset.refl _) rfl)⟩

end Step

section Texts

variable {s t : Exchange α} {event : Event α} {texts : List String}

theorem Posts.running (posts : Posts s t event texts) {u : Underway α} (member : u ∈ t.underway) :
    u ∈ s.underway ∨ ∃ method params token expected,
      event = .start method params token expected ∧ u.since = s.position ∧
      texts = [(Message.request (.new (.number u.call.number) method params)).encode] := by
  cases posts with
  | aside underway => exact .inl (underway member)
  | sent underway => exact .inl (underway member)
  | ended _ underway => exact .inl (underway member)
  | abandoned _ _ _ _ _ underway => exact .inl (underway member)
  | started since underway =>
    rw [underway] at member
    rcases List.mem_cons.mp member with rfl | old
    · exact .inr ⟨_,_,_,_,rfl,since,rfl⟩
    · exact .inl old

theorem Posts.ending (posts : Posts s t event texts) {e : Ending α} (member : e ∈ t.endings)
    (kind : e.isAbandoned = true) :
    e ∈ s.endings ∨ ∃ u ∈ s.underway, e.number = u.call.number ∧ e.since = u.since ∧
      e.ended = s.position ∧ texts = [(Message.notice e.number).encode] := by
  cases posts with
  | aside _ endings => exact .inl (endings ▸ member)
  | sent _ endings => exact .inl (endings ▸ member)
  | started _ _ endings => exact .inl (endings ▸ member)
  | ended other _ endings =>
    rw [endings] at member
    rcases List.mem_cons.mp member with rfl | old
    · simp [other] at kind
    · exact .inl old
  | @abandoned _ u _ running number since ended _ _ endings =>
    rw [endings] at member
    rcases List.mem_cons.mp member with rfl | old
    · exact .inr ⟨u,running,number,since,ended,rfl⟩
    · exact .inl old

theorem Posts.kept (posts : Posts s t event texts) : s.endings ⊆ t.endings := by
  cases posts with
  | aside _ endings => rw [endings]; exact List.Subset.refl _
  | sent _ endings => rw [endings]; exact List.Subset.refl _
  | started _ _ endings => rw [endings]; exact List.Subset.refl _
  | ended _ _ endings => rw [endings]; exact List.subset_cons_self _ _
  | abandoned _ _ _ _ _ _ endings => rw [endings]; exact List.subset_cons_self _ _

/-- Of the texts that are written only a notice of a call just given up tells of a cancellation. -/
theorem Posts.genuine (posts : Posts s t event texts)
    (own : ∀ k : Notification, event = .send (.notification k) → k.method ≠ Method.cancelRequest)
    {k : Notification} (cancels : k.method = Method.cancelRequest)
    (member : (Message.notification k).encode ∈ texts) :
    ∃ e, t.endings = e :: s.endings ∧ e.isAbandoned = true ∧
      (Message.notification k).encode = (Message.notice e.number).encode := by
  cases posts with
  | aside => simp at member
  | ended => simp at member
  | sent underway endings =>
    obtain ⟨sent,rfl,method⟩ := Message.encode_notification (List.mem_singleton.mp member).symm
    exact absurd (method.trans cancels) (own sent rfl)
  | started since underway endings =>
    obtain ⟨_,impossible,_⟩ := Message.encode_notification (List.mem_singleton.mp member).symm
    cases impossible
  | abandoned running number since ended kind underway endings =>
    exact ⟨_,endings,kind,List.mem_singleton.mp member⟩

def abandonments (s : Exchange α) (number : UInt64) : Nat :=
  s.endings.countP fun e => e.isAbandoned && e.number = number

theorem Posts.balance (posts : Posts s t event texts)
    (own : ∀ k : Notification, event = .send (.notification k) → k.method ≠ Method.cancelRequest)
    (number : UInt64) :
    t.abandonments number = s.abandonments number + texts.count (Message.notice number).encode := by
  have absent (none : ∀ e, t.endings = e :: s.endings → e.isAbandoned = false) :
      texts.count (Message.notice number).encode = 0 := by
    rw [List.count_eq_zero]
    intro member
    obtain ⟨e,endings,kind,_⟩ := posts.genuine own rfl member
    simp [none e endings] at kind
  unfold abandonments
  cases posts with
  | aside underway endings => rw [absent (by simp [endings]),endings,Nat.add_zero]
  | sent underway endings => rw [absent (by simp [endings]),endings,Nat.add_zero]
  | started since underway endings => rw [absent (by simp [endings]),endings,Nat.add_zero]
  | ended other underway endings => simp [endings,other]
  | @abandoned _ u e running same since ended kind underway endings =>
    rw [endings,List.countP_cons,kind]
    by_cases own : e.number = number
    · simp [own]
    · have apart : (Message.notice e.number).encode ≠ (Message.notice number).encode :=
        fun equal => own (Message.notice_inj equal)
      simp [own,apart]

end Texts

section Run

variable {profile : Profile} {events : List (Event α)} {event : Event α} {s : Exchange α}
variable {texts : List String}

theorem stream_snoc (writes : Writes (run profile events) event texts) :
    stream profile (events ++ [event]) = stream profile events ++ texts := by
  calc stream profile (events ++ [event])
    _ = (opening profile).collected events ++ ((run profile events).taken event ++
          ((run profile events).handle event).channel.outbox.queue) := by
      rw [stream,collected_snoc,List.append_assoc,run_snoc]
      rfl
    _ = stream profile events ++ texts := by
      rw [writes.queue,← List.append_assoc]
      rfl

/-- The request of the call `number` that started at `since` follows all that was written before. -/
def Requested (profile : Profile) (events : List (Event α)) (since : Nat) (number : UInt64)
    (texts : List String) : Prop :=
  ∃ method params token expected between,
    events[since]? = some (.start method params token expected) ∧
    texts = stream profile (events.take since) ++
      (Message.request (.new (.number number) method params)).encode :: between

structure Noticed (profile : Profile) (events : List (Event α)) (e : Ending α) : Prop where
  ended : e.ended < events.length
  requested : Requested profile events e.since e.number (stream profile (events.take e.ended))
  noticed : ∃ after, stream profile events =
    stream profile (events.take e.ended) ++ (Message.notice e.number).encode :: after

theorem Requested.snoc {since : Nat} {number : UInt64} {written : List String}
    (requested : Requested profile events since number written) (event : Event α)
    (more : List String) :
    Requested profile (events ++ [event]) since number (written ++ more) := by
  obtain ⟨method,params,token,expected,between,started,rfl⟩ := requested
  refine ⟨method,params,token,expected,between ++ more,at_snoc started,?_⟩
  rw [List.take_append_of_le_length (place_lt started).le]
  simp

theorem Noticed.snoc {e : Ending α} (noticed : Noticed profile events e)
    (writes : Writes (run profile events) event texts) : Noticed profile (events ++ [event]) e := by
  have before : (events ++ [event]).take e.ended = events.take e.ended :=
    List.take_append_of_le_length noticed.ended.le
  refine ⟨?_,?_,?_⟩
  · rw [List.length_append]
    exact Nat.lt_add_right _ noticed.ended
  · rw [before]
    simpa using noticed.requested.snoc event []
  · obtain ⟨after,whole⟩ := noticed.noticed
    refine ⟨after ++ texts,?_⟩
    rw [before,stream_snoc writes,whole]
    simp

/-- Nobody hangs up, and nobody but the calls themselves sends cancellations. -/
structure Unprompted (events : List (Event α)) : Prop where
  stays : .hangUp ∉ events
  own : ∀ k : Notification, .send (.notification k) ∈ events → k.method ≠ Method.cancelRequest

theorem Unprompted.left {earlier later : List (Event α)} (unprompted : Unprompted (earlier ++ later)) :
    Unprompted earlier where
  stays member := unprompted.stays (List.mem_append_left _ member)
  own k member := unprompted.own k (List.mem_append_left _ member)

structure Ledger (profile : Profile) (events : List (Event α)) (s : Exchange α) : Prop where
  position : s.position = events.length
  isOpen : s.channel.outbox.abandoned = false
  requested : ∀ u ∈ s.underway, Requested profile events u.since u.call.number (stream profile events)
  noticed : ∀ e ∈ s.endings, e.isAbandoned = true → Noticed profile events e
  genuine : ∀ k : Notification, k.method = Method.cancelRequest →
    (Message.notification k).encode ∈ stream profile events →
    ∃ e ∈ s.endings, e.isAbandoned = true ∧
      (Message.notification k).encode = (Message.notice e.number).encode
  counted : ∀ number, (stream profile events).count (Message.notice number).encode =
    s.abandonments number

theorem opening_ledger (profile : Profile) : Ledger profile ([] : List (Event α)) (opening profile) := by
  refine ⟨rfl,rfl,by simp [opening],by simp [opening],?_,fun _ => rfl⟩
  intro k _ member
  cases member

namespace Ledger

theorem writes (ledger : Ledger profile events s) (unprompted : Unprompted (events ++ [event])) :
    ∃ texts, Writes s event texts := by
  apply step_writes ledger.isOpen
  rintro rfl
  exact unprompted.stays (by simp)

/-- What a step adds to the stream is what it enters into the books. -/
theorem step (ledger : Ledger profile events (run profile events))
    (writes : Writes (run profile events) event texts)
    (own : ∀ k : Notification, event = .send (.notification k) → k.method ≠ Method.cancelRequest) :
    Ledger profile (events ++ [event]) ((run profile events).step event) := by
  have longer := stream_snoc writes
  have whole : (events ++ [event]).take events.length = events := by simp
  refine ⟨?_,writes.stays,?_,?_,?_,?_⟩
  · rw [List.length_append,← ledger.position]
    rfl
  · intro u member
    rw [longer]
    rcases writes.posts.running member with old | ⟨method,params,token,expected,rfl,since,rfl⟩
    · exact (ledger.requested u old).snoc event texts
    · rw [ledger.position] at since
      refine ⟨method,params,token,expected,[],?_,?_⟩
      · rw [since,List.getElem?_concat_length]
      · rw [since,whole]
  · intro e member kind
    rcases writes.posts.ending member kind with old | ⟨u,running,number,since,ended,rfl⟩
    · exact (ledger.noticed e old kind).snoc writes
    · rw [ledger.position] at ended
      refine ⟨?_,?_,[],?_⟩
      · simp [ended]
      · rw [ended,whole,since,number]
        simpa using (ledger.requested u running).snoc event []
      · rw [longer,ended,whole]
  · intro k cancels member
    rw [longer] at member
    rcases List.mem_append.mp member with old | new
    · obtain ⟨e,ended,rest⟩ := ledger.genuine k cancels old
      exact ⟨e,writes.posts.kept ended,rest⟩
    · obtain ⟨e,endings,rest⟩ := writes.posts.genuine own cancels new
      refine ⟨e,?_,rest⟩
      change e ∈ ((run profile events).handle event).endings
      rw [endings]
      exact List.mem_cons_self
  · intro number
    rw [longer,List.count_append,ledger.counted number]
    exact (writes.posts.balance own number).symm

end Ledger

end Run

theorem run_ledger (profile : Profile) {events : List (Event α)} (unprompted : Unprompted events) :
    Ledger profile events (run profile events) := by
  induction events using List.reverseRecOn with
  | nil => exact opening_ledger profile
  | append_singleton events event ih =>
    have ledger := ih unprompted.left
    obtain ⟨texts,writes⟩ := ledger.writes unprompted
    rw [run_snoc]
    apply ledger.step writes
    rintro k rfl
    exact unprompted.own k (by simp)

/-- What has ended stays in the books. -/
theorem endings_subset (profile : Profile) {earlier later : List (Event α)}
    (unprompted : Unprompted (earlier ++ later)) :
    (run profile earlier).endings ⊆ (run profile (earlier ++ later)).endings := by
  induction later using List.reverseRecOn with
  | nil => simp
  | append_singleton later event ih =>
    rw [← List.append_assoc] at unprompted ⊢
    obtain ⟨texts,writes⟩ := (run_ledger profile unprompted.left).writes unprompted
    rw [run_snoc]
    exact List.Subset.trans (ih unprompted.left) writes.posts.kept

section Books

variable {profile : Profile} {events : List (Event α)} {s : Exchange α}

/-- Where no two calls of a number have ended, at most one was given up. -/
theorem abandonments_eq_ite (once : (s.endings.map Ending.number).Nodup) (number : UInt64) :
    s.abandonments number =
      if ∃ e ∈ s.endings, e.number = number ∧ e.isAbandoned = true then 1 else 0 := by
  split
  next given =>
    obtain ⟨e,member,rfl,kind⟩ := given
    have some : 0 < s.abandonments e.number := List.countP_pos_iff.mpr ⟨e,member,by simp [kind]⟩
    have most : s.abandonments e.number ≤ 1 := by
      calc s.abandonments e.number
        _ ≤ s.endings.countP fun d => d.number == e.number := by
          apply List.countP_mono_left
          simp
        _ = (s.endings.map Ending.number).count e.number := by
          rw [List.count,List.countP_map]
          rfl
        _ ≤ 1 := List.nodup_iff_count_le_one.mp once e.number
    omega
  next none =>
    apply List.countP_eq_zero.mpr
    intro e member counts
    rw [Bool.and_eq_true,decide_eq_true_eq] at counts
    exact none ⟨e,member,counts.2,counts.1⟩

namespace Invariant

/-- Nothing waits under the number of a call that has returned. -/
theorem isPending_returned (inv : Invariant profile events s) {e : Ending α} (member : e ∈ s.endings) :
    s.channel.pending.isPending (.number e.number) = false := by
  rw [Bool.eq_false_iff,ne_eq,Pending.isPending_iff]
  rintro ⟨ticket,entry⟩
  obtain ⟨u,running,handle⟩ := inv.table.owned _ entry
  have id := (inv.tracked u running).id
  rw [handle] at id
  exact inv.books.apart e member u running (by simpa using id)

/-- A response to a call that nothing waits for is dropped. -/
theorem resolve_unawaited (inv : Invariant profile events s) {number : UInt64}
    (free : s.channel.pending.isPending (.number number) = false) {r : Response}
    (answers : r.Answers number) : s.channel.pending.resolve r = (false,s.channel.pending) := by
  obtain ⟨_,unmatched⟩ | ⟨id,ticket,target,entry,_⟩ := Pending.resolve_cases s.channel.pending r
  · exact unmatched
  · obtain ⟨other,rfl⟩ := inv.numeric _ entry
    have pending := Pending.isPending_iff.mpr ⟨ticket,entry⟩
    have meant := (Pending.target_iff inv.numeric pending r).mp target
    rw [answers.unique meant,pending] at free
    cases free

end Invariant

end Books

/-- The account of all calls of a run that were given up. Their notices are the only cancellations in
the stream, one for each of them, and each follows its request. As long as no id is used twice, a call
has one notice if it was given up and else none, and once it has returned nothing waits for it, so that
what still comes for it is dropped. -/
structure Accounted (profile : Profile) (events : List (Event α)) : Prop where
  genuine : ∀ k : Notification, k.method = Method.cancelRequest →
    (Message.notification k).encode ∈ stream profile events →
    ∃ e ∈ (run profile events).endings, e.isAbandoned = true ∧
      (Message.notification k).encode = (Message.notice e.number).encode
  counted : ∀ number, (stream profile events).count (Message.notice number).encode =
    (run profile events).abandonments number
  noticed : ∀ e ∈ (run profile events).endings, e.isAbandoned = true → Noticed profile events e
  single : calls events < UInt64.size → ∀ i ∈ (run profile events).issued,
    (stream profile events).count (Message.notice i.2).encode =
      if ∃ e ∈ (run profile events).endings, e.number = i.2 ∧ e.isAbandoned = true then 1 else 0
  returned : calls events < UInt64.size → ∀ earlier later, events = earlier ++ later →
    ∀ e ∈ (run profile earlier).endings,
      (run profile events).channel.pending.isPending (.number e.number) = false ∧
      ∀ r : Response, r.Answers e.number →
        (run profile events).channel.pending.resolve r = (false,(run profile events).channel.pending)

theorem run_accounted (profile : Profile) (events : List (Event α)) (unprompted : Unprompted events) :
    Accounted profile events := by
  have ledger := run_ledger profile unprompted
  refine ⟨ledger.genuine,ledger.counted,ledger.noticed,?_,?_⟩
  · intro few i _
    rw [ledger.counted,abandonments_eq_ite (run_invariant profile events few).books.once]
  · rintro few earlier later rfl e member
    have inv := run_invariant profile (earlier ++ later) few
    have free := inv.isPending_returned (endings_subset profile unprompted member)
    exact ⟨free,fun r answers => inv.resolve_unawaited free answers⟩

/-- One call is late, one is cancelled, one is answered and one is dropped; a late response follows. -/
def forsaken : List (Event Json) :=
  [.start "late" none none .any,.start "cancelled" none (some "stop") .any,
    .start "answered" none none .any,.start "dropped" none none .any,.take,
    .deliver (.response ⟨"2.0",some (.number 3),some (.str "a"),none⟩),.fire "stop",
    .look 2 false,.look 3 true,.drop 4,.send (.notification ⟨"2.0","other",none⟩),
    .elapse 5000000000,.look 1 false,
    .deliver (.response ⟨"2.0",some (.text "1"),some (.str "b"),none⟩),.close]

theorem forsaken_accounted :
    (Unprompted forsaken ∧ calls forsaken < UInt64.size ∧
      (run ⟨.ofSeconds 5,"client",none,"owner"⟩ forsaken).endings.map
        (fun e => (e.number,e.isAbandoned)) = [(1,true),(3,false),(2,true)]) ∧
    Accounted ⟨.ofSeconds 5,"client",none,"owner"⟩ forsaken := by
  have unprompted : Unprompted forsaken := by
    refine ⟨by simp [forsaken],fun k sent => ?_⟩
    obtain rfl : k = ⟨"2.0","other",none⟩ := by simpa [forsaken] using sent
    decide
  exact ⟨⟨unprompted,by decide,by rfl⟩,run_accounted _ forsaken unprompted⟩

end Exchange

end LanguageBridge
