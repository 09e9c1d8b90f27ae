import LanguageBridge.Proofs.Standing

/-! Nothing that comes in while a session is started is lost, doubled or put out of order: requests are
answered and notifications are handed to their handlers in the order of their delivery, whenever they
were delivered. -/
namespace LanguageBridge

/-- What was taken off the front of a list when `left` is left of it. -/
def consumed {α : Type} (old left : List α) : List α := old.take (old.length - left.length)

@[simp] theorem consumed_self {α : Type} (items : List α) : consumed items items = [] := by
  simp [consumed]

@[simp] theorem consumed_append {α : Type} (front left : List α) :
    consumed (front ++ left) left = front := by
  simp [consumed]

@[simp] theorem consumed_nil {α : Type} (items : List α) : consumed items [] = items := by
  simp [consumed]

namespace Moment

variable (m : Moment)

/-- The messages that are delivered once the session is claimed and while its inbound side is open. -/
def heard : List Message :=
  if m.before.session.stage = .uninitialized ∨ m.before.session.channel.inbound.requests.closed then []
  else m.deed.delivers m.before.client

def requests : List Request := m.heard.filterMap Message.request?

def notices : List Notification := m.heard.filterMap Message.notification?

def taken : List Request :=
  match m.deed,m.before.admitted with
  | .go .requests,some (i,_) =>
    consumed (m.before.session.channel.inbound.requests.buffered i.requests)
      (m.after.session.channel.inbound.requests.buffered i.requests)
  | _,_ => []

def answers : List String :=
  match m.deed with
  | .go .requests =>
    m.after.session.channel.outbox.queue.drop m.before.session.channel.outbox.queue.length
  | _ => []

def owed : List String := m.taken.map fun r => (m.before.session.engine.answer r).encode

def handed : List Notification :=
  match m.deed,m.before.admitted with
  | .go .notices,some (i,_) =>
    consumed (m.before.session.channel.inbound.notifications.buffered i.notifications)
      (m.after.session.channel.inbound.notifications.buffered i.notifications)
  | _,_ => []

structure Mute : Prop where
  taken : m.taken = []
  answers : m.answers = []
  handed : m.handed = []

variable {m}

theorem Mute.owed (mute : m.Mute) : m.owed = [] := by
  rw [Moment.owed,mute.taken,List.map_nil]

theorem mute_of_deed (requests : m.deed ≠ .go .requests) (notices : m.deed ≠ .go .notices) :
    m.Mute := by
  constructor
  · unfold taken
    split
    next deed _ => exact absurd deed requests
    next => rfl
  · unfold answers
    split
    next deed => exact absurd deed requests
    next => rfl
  · unfold handed
    split
    next deed _ => exact absurd deed notices
    next => rfl

theorem mute_of_eq (same : m.after = m.before) : m.Mute := by
  constructor
  · unfold taken
    split
    · rw [same,consumed_self]
    · rfl
  · unfold answers
    split
    · rw [same,List.drop_length]
    · rfl
  · unfold handed
    split
    · rw [same,consumed_self]
    · rfl

end Moment

def Point.kept : Point → List Message
  | .running reply => Session.kept reply
  | _ => []

namespace Attachment

variable {a b : Attachment} {d : Deed} {past : List Moment} {i : Inboxes} {p q : Point}

theorem mute_of_aside (other : d.isOwn = false) : Moment.Mute ⟨a,d,b⟩ := by
  refine Moment.mute_of_deed ?_ ?_ <;>
  · rintro rfl
    cases other

/-- Only two of the loops take or answer anything. -/
theorem mute_of_stride {stride : Stride} (other : stride ∉ [.requests,.notices]) :
    Moment.Mute ⟨a,.go stride,b⟩ := by
  refine Moment.mute_of_deed ?_ ?_ <;>
  · rintro ⟨⟩
    simp at other

/-- Nothing is taken or answered but in the loops of a session under way. -/
theorem Turn.mute (turn : a.Turn d b) :
    Moment.Mute ⟨a,d,b⟩ ∨ ∃ i reply, a.admitted = some (i,.running reply) ∧
      (d = .go .notices ∧
        b = a.proceed i (a.session.takeNotifications i.notifications).1 (.running reply) ∨
      d = .go .requests ∧ b = a.serve i reply) := by
  cases turn with
  | aside other => exact .inl (mute_of_aside other)
  | still => exact .inl (Moment.mute_of_eq rfl)
  | failed stride early =>
    refine .inl (mute_of_stride fun loop => ?_)
    simp only [List.mem_cons,List.not_mem_nil,or_false] at loop
    rcases loop with rfl | rfl <;> simp at early
  | noticed admitted => exact .inr ⟨_,_,admitted,.inl ⟨rfl,rfl⟩⟩
  | served admitted => exact .inr ⟨_,_,admitted,.inr ⟨rfl,rfl⟩⟩
  | refused => exact .inl (Moment.mute_of_deed (by simp) (by simp))
  | claimed => exact .inl (Moment.mute_of_deed (by simp) (by simp))
  | _ => exact .inl (mute_of_stride (by decide))

/-- What a session under way has heard is what it has taken and what waits in its inboxes; what it owes
has been answered, but for the answer that it keeps. -/
structure Attending (past : List Moment) (a : Attachment) (i : Inboxes) (p : Point) : Prop where
  listener : i.requests ≠ a.session.reader.subscription
  reader : i.requests ≠ a.client.reader.subscription
  tuned : (a.session.channel.inbound.requests.queue? i.requests).isSome ∨
    a.session.channel.inbound.requests.closed = true
  requests : past.flatMap Moment.requests =
    past.flatMap Moment.taken ++ a.session.channel.inbound.requests.buffered i.requests
  notices : past.flatMap Moment.notices =
    past.flatMap Moment.handed ++ a.session.channel.inbound.notifications.buffered i.notifications
  answers : a.session.channel.outbox.abandoned = false →
    past.flatMap Moment.owed = past.flatMap Moment.answers ++ p.kept.map Message.encode

theorem heard_own (own : d.isOwn = true) : Moment.heard ⟨a,d,b⟩ = [] := by
  have none : d.delivers a.client = [] := by
    cases d with
    | start => rfl
    | go stride => rfl
    | _ => cases own
  simp [Moment.heard,none]

/-- A stride that takes nothing out of the inboxes of the session. -/
theorem Attending.keep (attending : Attending past a i p) (own : d.isOwn = true)
    (mute : Moment.Mute ⟨a,d,b⟩)
    (listener : b.session.reader.subscription = a.session.reader.subscription)
    (reader : b.client.reader.subscription = a.client.reader.subscription)
    (closed : b.session.channel.inbound.requests.closed = a.session.channel.inbound.requests.closed)
    (requests : b.session.channel.inbound.requests.queue? i.requests =
      a.session.channel.inbound.requests.queue? i.requests)
    (notices : b.session.channel.inbound.notifications.queue? i.notifications =
      a.session.channel.inbound.notifications.queue? i.notifications)
    (abandoned : b.session.channel.outbox.abandoned = a.session.channel.outbox.abandoned)
    (kept : q.kept = p.kept) : Attending (past ++ [⟨a,d,b⟩]) b i q where
  listener := listener ▸ attending.listener
  reader := reader ▸ attending.reader
  tuned := by
    rw [requests,closed]
    exact attending.tuned
  requests := by
    rw [Fanout.buffered_eq,requests,← Fanout.buffered_eq]
    simpa [Moment.requests,heard_own own,mute.taken] using attending.requests
  notices := by
    rw [Fanout.buffered_eq,notices,← Fanout.buffered_eq]
    simpa [Moment.notices,heard_own own,mute.handed] using attending.notices
  answers taking := by
    rw [abandoned] at taking
    simpa [mute.owed,mute.answers,kept] using attending.answers taking

theorem Attending.talk (attending : Attending past a i p) (own : d.isOwn = true)
    (mute : Moment.Mute ⟨a,d,b⟩)
    (listener : b.session.reader.subscription = a.session.reader.subscription)
    (reader : b.client.reader.subscription = a.client.reader.subscription)
    {may : Notification → Prop} (talks : a.session.channel.Talks may b.session.channel)
    (kept : q.kept = p.kept) :
    Attending (past ++ [⟨a,d,b⟩]) b i q :=
  attending.keep own mute listener reader (by rw [talks.requests]) (by rw [talks.requests])
    (by rw [talks.notifications]) talks.abandoned kept

end Attachment

/-- A subscriber that got more. -/
theorem Fanout.buffered_grown {α : Type} {f g : Fanout α} {key : Nat} {new : List α}
    (grown : g.queue? key = (f.queue? key).map (· ++ new))
    (tuned : (f.queue? key).isSome ∨ new = []) : g.buffered key = f.buffered key ++ new := by
  rw [buffered_eq,buffered_eq,grown]
  cases found : f.queue? key with
  | some items => rfl
  | none =>
    obtain none | rfl := tuned
    · simp [found] at none
    · rfl

namespace Attachment

variable {a b : Attachment} {d : Deed} {past : List Moment} {i : Inboxes} {p q : Point}

/-- The rest of the client delivers to the inboxes of the session, and takes nothing out of them. -/
theorem Attending.aside (attending : Attending past a i p) (tuned : a.Tuned i)
    (together : a.session.channel.EndsTogether) (begun : a.session.stage ≠ .uninitialized)
    (mute : Moment.Mute ⟨a,d,b⟩) (spares : a.client.Spares (d.delivers a.client) b.client) :
    Attending (past ++ [⟨a,d,b⟩]) b i p := by
  have grown := spares.moves.requests i.requests attending.reader
  have told := spares.moves.notifications i.notifications
  have heard : Moment.heard ⟨a,d,b⟩ =
      if a.session.channel.inbound.requests.closed = true then [] else d.delivers a.client := by
    simp [Moment.heard,begun]
  have requests : Moment.requests ⟨a,d,b⟩ = if a.session.channel.inbound.requests.closed = true
      then [] else (d.delivers a.client).filterMap Message.request? := by
    rw [Moment.requests,heard]
    split <;> rfl
  have notices : Moment.notices ⟨a,d,b⟩ = if a.session.channel.inbound.notifications.closed = true
      then [] else (d.delivers a.client).filterMap Message.notification? := by
    rw [Moment.notices,heard,together.notifications]
    split <;> rfl
  refine ⟨?_,?_,?_,?_,?_,?_⟩
  · exact spares.keeps.listens ▸ attending.listener
  · exact spares.reads ▸ attending.reader
  · rcases attending.tuned with subscribed | shut
    · exact .inl ((congrArg Option.isSome grown).trans (Option.isSome_map.trans subscribed))
    · rcases spares.moves.ends with ⟨same,_⟩ | ⟨ended,_⟩
      · exact .inr (same.trans shut)
      · exact .inr ended
  · have more : b.session.channel.inbound.requests.buffered i.requests =
        a.session.channel.inbound.requests.buffered i.requests ++ Moment.requests ⟨a,d,b⟩ := by
      rw [requests]
      exact Fanout.buffered_grown grown (attending.tuned.imp_right fun shut => if_pos shut)
    rw [more]
    simp [mute.taken,attending.requests]
  · have more : b.session.channel.inbound.notifications.buffered i.notifications =
        a.session.channel.inbound.notifications.buffered i.notifications ++
          Moment.notices ⟨a,d,b⟩ := by
      rw [notices]
      exact Fanout.buffered_grown told (tuned.imp_right fun shut => if_pos shut)
    rw [more]
    simp [mute.handed,attending.notices]
  · intro taking
    have before : a.session.channel.outbox.abandoned = false := by
      rw [Bool.eq_false_iff] at taking ⊢
      exact fun gone => taking (spares.moves.abandoned gone)
    simpa [mute.owed,mute.answers] using attending.answers before

/-- All notifications in the inbox are taken. -/
theorem handed_notices {reply : Option DelayedReply} (admitted : a.admitted = some (i,.running reply))
    (after : b = a.proceed i (a.session.takeNotifications i.notifications).1 (.running reply)) :
    b.session.channel.inbound.notifications.buffered i.notifications = [] ∧
    Moment.handed ⟨a,.go .notices,b⟩ =
      a.session.channel.inbound.notifications.buffered i.notifications := by
  have emptied : b.session.channel.inbound.notifications.buffered i.notifications = [] := by
    rw [after,session_proceed,Session.channel_takeNotifications]
    exact Fanout.buffered_emptied _ _
  exact ⟨emptied,by simp [Moment.handed,admitted,emptied]⟩

theorem Attending.notice {reply : Option DelayedReply} (attending : Attending past a i (.running reply))
    (admitted : a.admitted = some (i,.running reply))
    (after : b = a.proceed i (a.session.takeNotifications i.notifications).1 (.running reply)) :
    Attending (past ++ [⟨a,.go .notices,b⟩]) b i (.running reply) := by
  have alike := a.session.takeNotifications_alike i.notifications
  have channel : b.session.channel = (a.session.setNotifications
      (a.session.channel.inbound.notifications.setBuffered i.notifications [])).channel := by
    rw [after,session_proceed,Session.channel_takeNotifications]
  have requests : b.session.channel.inbound.requests = a.session.channel.inbound.requests := by
    rw [channel]
    rfl
  obtain ⟨emptied,handed⟩ := handed_notices admitted after
  have heard : Moment.heard ⟨a,.go .notices,b⟩ = [] := heard_own rfl
  have answers : Moment.answers ⟨a,.go .notices,b⟩ = [] := rfl
  have taken : Moment.taken ⟨a,.go .notices,b⟩ = [] := rfl
  refine ⟨?_,?_,?_,?_,?_,?_⟩
  · rw [after,session_proceed,alike.reader]
    exact attending.listener
  · rw [after]
    exact attending.reader
  · rw [requests]
    exact attending.tuned
  · rw [requests]
    simpa [Moment.requests,heard,taken] using attending.requests
  · simpa [Moment.notices,heard,handed,emptied] using attending.notices
  · rw [channel]
    intro taking
    simpa [Moment.owed,taken,answers] using attending.answers taking

/-- Requests are taken up to one whose answer has to wait, and all that is due is answered. -/
theorem Attending.serve {reply : Option DelayedReply} (attending : Attending past a i (.running reply))
    (admitted : a.admitted = some (i,.running reply)) (after : b = a.serve i reply) :
    Attending (past ++ [⟨a,.go .requests,b⟩]) b i
      (.running (a.session.takeRequests i.requests reply).2.1) := by
  obtain ⟨taken,rest,serves,_⟩ := a.session.takeRequests_spec i.requests reply
  have session : b.session = (a.session.takeRequests i.requests reply).1 := by rw [after]; rfl
  rw [← session] at serves
  have left : b.session.channel.inbound.requests.buffered i.requests = rest := by
    rw [Fanout.buffered_eq,serves.queues]
    have whole := serves.buffer
    rw [Fanout.buffered_eq] at whole
    cases found : a.session.channel.inbound.requests.queue? i.requests with
    | none =>
      rw [found] at whole
      exact (List.append_eq_nil_iff.mp whole.symm).2.symm
    | some old => simp
  have took : Moment.taken ⟨a,.go .requests,b⟩ = taken := by
    simp [Moment.taken,admitted,left,serves.buffer]
  have heard : Moment.heard ⟨a,.go .requests,b⟩ = [] := heard_own rfl
  have handed : Moment.handed ⟨a,.go .requests,b⟩ = [] := rfl
  refine ⟨?_,?_,?_,?_,?_,?_⟩
  · rw [serves.alike.reader]
    exact attending.listener
  · rw [after]
    exact attending.reader
  · rw [serves.queues,serves.closed,Option.isSome_map]
    exact attending.tuned
  · simpa [Moment.requests,heard,took,left,serves.buffer] using attending.requests
  · rw [serves.notifications]
    simpa [Moment.notices,heard,handed] using attending.notices
  · intro taking
    obtain ⟨sent,sends,due⟩ := serves.sent
    have before : a.session.channel.outbox.abandoned = false := sends.abandoned.symm.trans taking
    have answers : Moment.answers ⟨a,.go .requests,b⟩ = sent.map Message.encode := by
      simp [Moment.answers,sends.queue before]
    have owed : Moment.owed ⟨a,.go .requests,b⟩ =
        (taken.map a.session.engine.answer).map Message.encode := by
      simp [Moment.owed,took]
    calc (past ++ [(⟨a,.go .requests,b⟩ : Moment)]).flatMap Moment.owed
        = past.flatMap Moment.answers ++ (Session.kept reply ++
            taken.map a.session.engine.answer).map Message.encode := by
          simp [attending.answers before,owed,Point.kept]
      _ = (past ++ [(⟨a,.go .requests,b⟩ : Moment)]).flatMap Moment.answers ++
            (Session.kept (a.session.takeRequests i.requests reply).2.1).map Message.encode := by
          simp [due,answers]

structure Unheard (past : List Moment) (a : Attachment) : Prop where
  listener : a.session.reader.subscription < a.session.channel.inbound.requests.next
  reader : a.client.reader.subscription < a.session.channel.inbound.requests.next
  requests : ∀ key, a.session.channel.inbound.requests.next ≤ key →
    a.session.channel.inbound.requests.queue? key = none
  notifications : ∀ key, a.session.channel.inbound.notifications.next ≤ key →
    a.session.channel.inbound.notifications.queue? key = none
  quiet : ∀ m ∈ past, m.heard = [] ∧ m.Mute

/-- A start that has returned well has taken and answered all that was heard, and no more will be. -/
structure Settled (past : List Moment) (a : Attachment) : Prop where
  idle : a.admitted = none
  begun : a.session.stage ≠ .uninitialized
  closed : a.session.channel.inbound.requests.closed = true
  requests : past.flatMap Moment.requests = past.flatMap Moment.taken
  notices : past.flatMap Moment.notices = past.flatMap Moment.handed
  answers : a.session.channel.outbox.abandoned = false →
    past.flatMap Moment.owed = past.flatMap Moment.answers

theorem mute_of_idle (turn : a.Turn d b) (idle : a.admitted = none) : Moment.Mute ⟨a,d,b⟩ := by
  rcases turn.mute with mute | ⟨i,reply,admitted,_⟩
  · exact mute
  · simp [idle] at admitted

theorem Unheard.turn (unheard : Unheard past a) (turn : a.Turn d b) (idle : a.admitted = none)
    (fresh : a.session.stage = .uninitialized) (other : d ≠ .start) :
    Unheard (past ++ [⟨a,d,b⟩]) b := by
  obtain ⟨_,_,spares⟩ := turn.of_idle idle other
  have heard : Moment.heard ⟨a,d,b⟩ = [] := by simp [Moment.heard,fresh]
  have next := spares.moves.nextRequest
  refine ⟨?_,?_,fun key high => ?_,fun key high => ?_,fun m member => ?_⟩
  · rw [show b.session.reader.subscription = _ from spares.keeps.listens]
    exact lt_of_lt_of_eq unheard.listener next.symm
  · rw [spares.reads]
    exact lt_of_lt_of_eq unheard.reader next.symm
  · have above : a.session.channel.inbound.requests.next ≤ key := le_of_eq_of_le next.symm high
    have other : key ≠ a.client.reader.subscription := (lt_of_lt_of_le unheard.reader above).ne'
    exact (spares.moves.requests key other).trans
      (Option.map_eq_none_iff.mpr (unheard.requests key above))
  · have above : a.session.channel.inbound.notifications.next ≤ key :=
      le_of_eq_of_le spares.moves.nextNotification.symm high
    exact (spares.moves.notifications key).trans
      (Option.map_eq_none_iff.mpr (unheard.notifications key above))
  · rcases List.mem_append.mp member with old | new
    · exact unheard.quiet m old
    · obtain rfl := List.mem_singleton.mp new
      exact ⟨heard,mute_of_idle turn idle⟩

/-- A session that has just been claimed has heard nothing. -/
theorem Unheard.claim (unheard : Unheard past a)
    (after : b = a.proceed a.session.claim.1 a.session.claim.2 .claimed) :
    Attending (past ++ [⟨a,.start,b⟩]) b a.session.claim.1 .claimed := by
  have quiet : ∀ m ∈ past ++ [(⟨a,.start,b⟩ : Moment)], m.heard = [] ∧ m.Mute := by
    intro m member
    rcases List.mem_append.mp member with old | new
    · exact unheard.quiet m old
    · obtain rfl := List.mem_singleton.mp new
      exact ⟨heard_own rfl,Moment.mute_of_deed (by simp) (by simp)⟩
  have requests : (past ++ [(⟨a,.start,b⟩ : Moment)]).flatMap Moment.requests = [] :=
    List.flatMap_eq_nil_iff.mpr fun m member => by
      rw [Moment.requests,(quiet m member).1,List.filterMap_nil]
  have notices : (past ++ [(⟨a,.start,b⟩ : Moment)]).flatMap Moment.notices = [] :=
    List.flatMap_eq_nil_iff.mpr fun m member => by
      rw [Moment.notices,(quiet m member).1,List.filterMap_nil]
  have taken : (past ++ [(⟨a,.start,b⟩ : Moment)]).flatMap Moment.taken = [] :=
    List.flatMap_eq_nil_iff.mpr fun m member => (quiet m member).2.taken
  have handed : (past ++ [(⟨a,.start,b⟩ : Moment)]).flatMap Moment.handed = [] :=
    List.flatMap_eq_nil_iff.mpr fun m member => (quiet m member).2.handed
  have owed : (past ++ [(⟨a,.start,b⟩ : Moment)]).flatMap Moment.owed = [] :=
    List.flatMap_eq_nil_iff.mpr fun m member => (quiet m member).2.owed
  have answers : (past ++ [(⟨a,.start,b⟩ : Moment)]).flatMap Moment.answers = [] :=
    List.flatMap_eq_nil_iff.mpr fun m member => (quiet m member).2.answers
  refine ⟨?_,?_,?_,?_,?_,fun _ => ?_⟩
  · rw [after]
    exact unheard.listener.ne'
  · rw [after]
    exact unheard.reader.ne'
  · rw [after]
    exact a.session.channel.inbound.requests.subscribed
  · rw [requests,taken,after]
    exact (Fanout.buffered_subscribe (unheard.requests _ le_rfl)).symm
  · rw [notices,handed,after]
    exact (Fanout.buffered_subscribe (unheard.notifications _ le_rfl)).symm
  · rw [owed,answers]
    rfl

/-- When all loops have come to their ends, nothing is left. -/
theorem Attending.settle {reply : Option DelayedReply} (attending : Attending past a i (.running reply))
    (drained : a.session.drained i reply = true) (after : b = a.leave i a.session (.ok ())) :
    Settled (past ++ [⟨a,.go .finish,b⟩]) b := by
  simp only [Session.drained,Fanout.isSpent,Bool.and_eq_true,List.isEmpty_iff,
    Option.isNone_iff_eq_none] at drained
  obtain ⟨⟨⟨_,notices⟩,answered,ended,requests⟩,_⟩ := drained
  have shut : a.session.channel.inbound.requests.closed = true := by
    rcases attending.tuned with subscribed | shut
    · exact Fanout.closed_of_isOver subscribed ended
    · exact shut
  have heard : Moment.heard ⟨a,.go .finish,b⟩ = [] := heard_own rfl
  have mute : Moment.Mute ⟨a,.go .finish,b⟩ := mute_of_stride (by decide)
  have begun : b.session.stage ≠ .uninitialized := by
    rw [after]
    exact Stage.noConfusion
  subst after answered
  refine ⟨rfl,begun,shut,?_,?_,fun taking => ?_⟩
  · simpa [Moment.requests,heard,mute.taken,requests] using attending.requests
  · simpa [Moment.notices,heard,mute.handed,notices] using attending.notices
  · simpa [mute.owed,mute.answers,Point.kept,Session.kept] using attending.answers taking

/-- After that nothing is heard, taken or answered. -/
theorem Settled.turn (settled : Settled past a) (turn : a.Turn d b) :
    Settled (past ++ [⟨a,d,b⟩]) b := by
  have mute := mute_of_idle turn settled.idle
  have heard : Moment.heard ⟨a,d,b⟩ = [] := by simp [Moment.heard,settled.closed]
  have requests : (past ++ [(⟨a,d,b⟩ : Moment)]).flatMap Moment.requests =
      (past ++ [(⟨a,d,b⟩ : Moment)]).flatMap Moment.taken := by
    simpa [Moment.requests,heard,mute.taken] using settled.requests
  have notices : (past ++ [(⟨a,d,b⟩ : Moment)]).flatMap Moment.notices =
      (past ++ [(⟨a,d,b⟩ : Moment)]).flatMap Moment.handed := by
    simpa [Moment.notices,heard,mute.handed] using settled.notices
  have answers (taking : a.session.channel.outbox.abandoned = false) :
      (past ++ [(⟨a,d,b⟩ : Moment)]).flatMap Moment.owed =
        (past ++ [(⟨a,d,b⟩ : Moment)]).flatMap Moment.answers := by
    simpa [mute.owed,mute.answers] using settled.answers taking
  by_cases start : d = .start
  · subst start
    cases turn with
    | refused => exact ⟨settled.idle,settled.begun,settled.closed,requests,notices,answers⟩
    | claimed fresh => exact absurd fresh settled.begun
    | aside other => cases other
  · obtain ⟨idle,_,spares⟩ := turn.of_idle settled.idle start
    refine ⟨idle,?_,?_,requests,notices,fun taking => answers ?_⟩
    · rw [show b.session.stage = a.session.stage from spares.keeps.stage]
      exact settled.begun
    · rcases spares.moves.ends with ⟨same,_⟩ | ⟨ended,_⟩
      · exact same.trans settled.closed
      · exact ended
    · rw [Bool.eq_false_iff] at taking ⊢
      exact fun gone => taking (spares.moves.abandoned gone)

structure Attentive (past : List Moment) (a : Attachment) : Prop where
  fresh : a.session.stage = .uninitialized → Unheard past a
  under : ∀ i p, a.admitted = some (i,p) → Attending past a i p
  done : .ok () ∈ a.returned → Settled past a

theorem Attentive.under_turn (attentive : Attentive past a) (standing : Standing past a)
    (grounded : a.Grounded) (turn : a.Turn d b) (after : b.admitted = some (i,q)) :
    Attending (past ++ [⟨a,d,b⟩]) b i q := by
  cases turn with
  | refused =>
    exact (attentive.under i q after).keep rfl (Moment.mute_of_deed (by simp) (by simp)) rfl rfl
      rfl rfl rfl rfl rfl
  | claimed fresh =>
    cases after
    exact (attentive.fresh fresh).claim rfl
  | aside other admitted returned spares =>
    have before := admitted.symm.trans after
    have poised := standing.poised i q before
    refine (attentive.under i q before).aside poised.tuned grounded.together ?_
      (mute_of_aside other) spares
    rw [poised.stage]
    exact q.begun
  | still =>
    exact (attentive.under i q after).keep rfl (Moment.mute_of_eq rfl) rfl rfl rfl rfl rfl rfl rfl
  | failed => cases after
  | asked admitted called =>
    have talks := a.session.talks_ask
    rw [called] at talks
    cases after
    exact (attentive.under _ _ admitted).talk rfl (mute_of_stride (by decide)) rfl rfl talks rfl
  | heard admitted =>
    cases after
    exact (attentive.under _ _ admitted).keep rfl (mute_of_stride (by decide)) rfl rfl
      rfl rfl rfl rfl rfl
  | announced admitted sent =>
    cases after
    exact (attentive.under _ _ admitted).talk rfl (mute_of_stride (by decide)) rfl rfl
      (Channel.talks_notify sent) rfl
  | launched admitted =>
    cases after
    exact (attentive.under _ _ admitted).talk rfl (mute_of_stride (by decide)) rfl rfl
      (HookGroup.talks_start _ _ _ _) rfl
  | tended admitted =>
    cases after
    exact (attentive.under _ _ admitted).talk rfl (mute_of_stride (by decide)) rfl rfl
      (HookGroup.talks_poll _ _ _ _) rfl
  | judged admitted =>
    cases after
    exact (attentive.under _ _ admitted).keep rfl (mute_of_stride (by decide)) rfl rfl
      rfl rfl rfl rfl rfl
  | noticed admitted =>
    cases after
    exact (attentive.under _ _ admitted).notice admitted rfl
  | served admitted =>
    cases after
    exact (attentive.under _ _ admitted).serve admitted rfl
  | listened admitted =>
    have attending := attentive.under _ _ admitted
    cases after
    refine attending.keep rfl (mute_of_stride (by decide)) rfl rfl rfl ?_ rfl rfl rfl
    refine (Fanout.queue?_setBuffered _ _ _ _).trans ?_
    simp [attending.listener]
  | finished => cases after

theorem Attentive.done_turn (attentive : Attentive past a) (turn : a.Turn d b)
    (ok : .ok () ∈ b.returned) : Settled (past ++ [⟨a,d,b⟩]) b := by
  by_cases before : .ok () ∈ a.returned
  · exact (attentive.done before).turn turn
  cases turn with
  | refused => exact absurd (by simpa using ok) before
  | aside _ _ returned => exact absurd (returned ▸ ok) before
  | failed => exact absurd (by simpa [leave] using ok) before
  | finished admitted drained => exact (attentive.under _ _ admitted).settle drained rfl
  | _ => exact absurd ok before

theorem Attentive.turn (attentive : Attentive past a) (standing : Standing past a)
    (grounded : a.Grounded) (turn : a.Turn d b) : Attentive (past ++ [⟨a,d,b⟩]) b where
  fresh fresh := by
    obtain ⟨before,other⟩ := (turn.fresh_iff standing.stage).mp fresh
    exact (attentive.fresh before).turn turn (standing.unasked before).1 before other
  under _ _ := attentive.under_turn standing grounded turn
  done := attentive.done_turn turn

end Attachment

end LanguageBridge
