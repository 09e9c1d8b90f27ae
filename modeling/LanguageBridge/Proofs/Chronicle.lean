import LanguageBridge.Proofs.Course
import LanguageBridge.Proofs.Surroundings

/-! The chronicle of a run: every deed with the attachments before and after it. What a deed can do is
said once, as a turn. -/
namespace LanguageBridge

structure Moment where
  before : Attachment
  deed : Deed
  after : Attachment

namespace Attachment

def chronicle (a : Attachment) : List Deed → List Moment
  | [] => []
  | d :: deeds => ⟨a,d,a.step d⟩ :: (a.step d).chronicle deeds

theorem chronicle_snoc (a : Attachment) (deeds : List Deed) (d : Deed) :
    a.chronicle (deeds ++ [d]) =
      a.chronicle deeds ++ [⟨a.run deeds,d,(a.run deeds).step d⟩] := by
  induction deeds generalizing a with
  | nil => rfl
  | cons first deeds ih => simp [chronicle,ih]

/-- Every moment of a run stands at the end of a shorter run. -/
theorem chronicle_split {a : Attachment} {deeds : List Deed} {past future : List Moment} {m : Moment}
    (split : a.chronicle deeds = past ++ m :: future) :
    ∃ early d, past = a.chronicle early ∧ m = ⟨a.run early,d,(a.run early).step d⟩ := by
  induction past generalizing a deeds with
  | nil =>
    cases deeds with
    | nil => cases split
    | cons d deeds =>
      obtain ⟨rfl,_⟩ := List.cons.inj split
      exact ⟨[],d,rfl,rfl⟩
  | cons first past ih =>
    cases deeds with
    | nil => cases split
    | cons d deeds =>
      obtain ⟨rfl,rest⟩ := List.cons.inj split
      obtain ⟨early,last,history,moment⟩ := ih rest
      exact ⟨d :: early,last,by rw [chronicle,history],moment⟩

end Attachment

def Deed.delivers (c : Client) : Deed → List Message
  | .perform command => command.delivers
  | .pump => c.arrivals
  | _ => []

def Deed.isOwn : Deed → Bool
  | .start => true
  | .go _ => true
  | _ => false

theorem Session.talks_ask (s : Session) : s.channel.Talks Notification.GivesUp s.ask.2.1 :=
  s.engine.talks_call s.channel s.clock Method.handshake (some (handshakeParams s.engine.profile)) none

namespace Attachment

/-- The steps that hooks have still to do when they are looked after next. -/
def agenda (a : Attachment) : List HookStep :=
  match a.admitted with
  | some (_,.announced) => a.session.hooks.flatten
  | some (_,.hooks group) => group.agenda
  | _ => []

/-- What a stride may tell the server: that the handshake is done, if it is the one to say so, and what
the hooks say. -/
def MayTell (a : Attachment) (stride : Stride) (n : Notification) : Prop :=
  stride = .announce ∧ n = .new Method.handshakeDone (some (.obj [])) ∨ HookStep.Allows a.agenda n

/-- Everything that a deed can make of an attachment. -/
inductive Turn (a : Attachment) : Deed → Attachment → Prop where
  | refused (begun : a.session.stage ≠ .uninitialized) :
      a.Turn .start { a with returned := a.returned ++ [.error alreadyStarted] }
  | claimed (fresh : a.session.stage = .uninitialized) :
      a.Turn .start (a.proceed a.session.claim.1 a.session.claim.2 .claimed)
  | aside {d : Deed} {b : Attachment} (other : d.isOwn = false) (admitted : b.admitted = a.admitted)
      (returned : b.returned = a.returned) (spares : a.client.Spares (d.delivers a.client) b.client) :
      a.Turn d b
  | still (stride : Stride) : a.Turn (.go stride) a
  | failed {i : Inboxes} {p : Point} {engine : Engine} {channel : Channel} {e : BridgeError}
      (stride : Stride) (early : stride ∈ [.ask,.hear,.announce,.judge])
      (admitted : a.admitted = some (i,p)) (talks : a.session.channel.Talks Notification.GivesUp channel)
      (mute : stride = .announce → channel = a.session.channel) :
      a.Turn (.go stride)
        (a.leave i { a.session with engine := engine, channel := channel } (.error e))
  | asked {i : Inboxes} {engine : Engine} {channel : Channel} {call : Call}
      (admitted : a.admitted = some (i,.claimed))
      (called : a.session.ask = (engine,channel,.ok call)) :
      a.Turn (.go .ask)
        (a.proceed i { a.session with engine := engine, channel := channel } (.handshake call))
  | heard {i : Inboxes} {call : Call} {r : Response} {legend : Wire.TokenLegend}
      (admitted : a.admitted = some (i,.handshake call))
      (ready : a.session.channel.pending.poll call.handle = .ready r)
      (read : Session.legendIn r.concluded = .ok legend) :
      a.Turn (.go .hear) (a.proceed i { a.session with
        channel := a.session.channel.setPending (a.session.channel.pending.collect call.handle)
        bridge := a.session.bridge.setLegend legend
        stage := .initialized } .greeted)
  | announced {i : Inboxes} {channel : Channel} (admitted : a.admitted = some (i,.greeted))
      (sent : a.session.channel.notify Method.handshakeDone (some (.obj [])) = .ok channel) :
      a.Turn (.go .announce) (a.proceed i { a.session with channel := channel } .announced)
  | launched {i : Inboxes} (admitted : a.admitted = some (i,.announced)) :
      a.Turn (.go .launch) (a.launch i)
  | tended {i : Inboxes} {group : HookGroup} (admitted : a.admitted = some (i,.hooks group)) :
      a.Turn (.go .tend) (a.tend i group)
  | judged {i : Inboxes} {group : HookGroup} (admitted : a.admitted = some (i,.hooks group))
      (passed : group.verdict = some (.ok ())) :
      a.Turn (.go .judge) (a.proceed i { a.session with stage := .running } (.running none))
  | noticed {i : Inboxes} {reply : Option DelayedReply}
      (admitted : a.admitted = some (i,.running reply)) :
      a.Turn (.go .notices)
        (a.proceed i (a.session.takeNotifications i.notifications).1 (.running reply))
  | served {i : Inboxes} {reply : Option DelayedReply}
      (admitted : a.admitted = some (i,.running reply)) : a.Turn (.go .requests) (a.serve i reply)
  | listened {i : Inboxes} {reply : Option DelayedReply}
      (admitted : a.admitted = some (i,.running reply)) :
      a.Turn (.go .listeners) (a.proceed i a.session.takeListened.1 (.running reply))
  | finished {i : Inboxes} {reply : Option DelayedReply}
      (admitted : a.admitted = some (i,.running reply)) (drained : a.session.drained i reply = true) :
      a.Turn (.go .finish) (a.leave i a.session (.ok ()))

variable {a : Attachment} {i : Inboxes}

theorem turn_ask (admitted : a.admitted = some (i,.claimed)) : a.Turn (.go .ask) (a.ask i) := by
  have talks := a.session.talks_ask
  unfold ask
  split
  next called => exact .asked admitted called
  next engine channel e called =>
    rw [called] at talks
    exact .failed .ask (by simp) admitted talks (by simp)

theorem turn_hear {call : Call} (admitted : a.admitted = some (i,.handshake call)) :
    a.Turn (.go .hear) (a.hear i call) := by
  have talks := call.talks_poll a.session.channel a.session.clock []
  have cases := call.look_cases a.session.channel a.session.clock [] false
  simp only [Call.look,Bool.false_and,Bool.false_eq_true,if_false] at cases
  unfold hear
  rcases cases with ⟨_,waits⟩ | ⟨r,ready,polled⟩ | ⟨_,polled⟩ | ⟨_,_,polled⟩ | ⟨_,polled⟩
  · rw [waits]
    exact proceed_self admitted ▸ .still _
  · rw [polled] at talks ⊢
    dsimp only
    cases read : Session.legendIn r.concluded with
    | error e => exact .failed .hear (by simp) admitted talks (by simp)
    | ok legend => exact .heard admitted ready read
  all_goals
    rw [polled] at talks ⊢
    exact .failed .hear (by simp) admitted talks (by simp)

theorem turn_announce (admitted : a.admitted = some (i,.greeted)) :
    a.Turn (.go .announce) (a.announce i) := by
  unfold announce
  split
  · exact .failed .announce (by simp) admitted (.refl _) fun _ => rfl
  next sent => exact .announced admitted sent

theorem turn_judge {group : HookGroup} (admitted : a.admitted = some (i,.hooks group)) :
    a.Turn (.go .judge) (a.judge i group) := by
  unfold judge
  split
  · exact .failed .judge (by simp) admitted (group.talks_drop _) (by simp)
  next passed => exact .judged admitted passed
  · exact .still .judge

theorem turn_finish {reply : Option DelayedReply} (admitted : a.admitted = some (i,.running reply)) :
    a.Turn (.go .finish) (a.finish i reply) := by
  unfold finish
  split
  next drained => exact .finished admitted drained
  · exact .still .finish

theorem turn_advance {p : Point} (admitted : a.admitted = some (i,p)) (stride : Stride) :
    a.Turn (.go stride) (a.advance i p stride) := by
  unfold advance
  split
  · exact turn_ask admitted
  · exact turn_hear admitted
  · exact turn_announce admitted
  · exact .launched admitted
  · exact .tended admitted
  · exact turn_judge admitted
  · exact .noticed admitted
  · exact .served admitted
  · exact .listened admitted
  · exact turn_finish admitted
  · exact .still stride

/-- No deed does anything else. -/
theorem step_turn (detached : a.client.Detached) (d : Deed) : a.Turn d (a.step d) := by
  cases d with
  | start =>
    simp only [step]
    split
    next fresh => exact .claimed fresh
    next begun => exact .refused begun
  | go stride =>
    simp only [step]
    split
    · exact .still stride
    next admitted => exact turn_advance admitted stride
  | perform command =>
    simp only [step]
    split
    next start =>
      cases command with
      | start name => exact .aside rfl rfl rfl (.refl _)
      | _ => cases start
    next other => exact .aside rfl rfl rfl (a.client.spares_perform (by simpa using other))
  | attend place => exact .aside rfl rfl rfl (Client.spares_attend detached place)
  | pump => exact .aside rfl rfl rfl a.client.spares_pumpIn
  | flush => exact .aside rfl rfl rfl a.client.spares_flush

/-- Answering requests changes nothing of a session but its channel. -/
theorem serve_alike (a : Attachment) (i : Inboxes) (reply : Option DelayedReply) :
    a.session.Alike (a.serve i reply).session := by
  obtain ⟨_,_,serves,_⟩ := a.session.takeRequests_spec i.requests reply
  exact serves.alike

/-- A stride of a start that goes on talks to the server or belongs to one of the loops. -/
theorem Turn.talks_or_loops {b : Attachment} {stride : Stride} (turn : a.Turn (.go stride) b)
    (under : b.admitted.isSome) :
    a.session.channel.Talks (a.MayTell stride) b.session.channel ∨
    ∃ i reply, a.admitted = some (i,.running reply) ∧
      (stride = .notices ∧
        b = a.proceed i (a.session.takeNotifications i.notifications).1 (.running reply) ∨
      stride = .requests ∧ b = a.serve i reply ∨
      stride = .listeners ∧ b = a.proceed i a.session.takeListened.1 (.running reply)) := by
  cases turn with
  | aside other => cases other
  | still => exact .inl (.refl _)
  | failed => cases under
  | asked admitted called =>
    have talks := a.session.talks_ask
    rw [called] at talks
    exact .inl (talks.weaken fun _ gives => .inr (.inl gives))
  | heard => exact .inl (Channel.talks_setPending (.collect .refl _) rfl)
  | announced admitted sent =>
    exact .inl ((Channel.talks_notify sent).weaken fun _ same => .inl ⟨rfl,same⟩)
  | launched admitted =>
    have agenda : a.agenda = a.session.hooks.flatten := by simp [agenda,admitted]
    exact .inl ((HookGroup.talks_start _ _ _ _).weaken fun _ allows => .inr (agenda ▸ allows))
  | @tended i group admitted =>
    have agenda : a.agenda = group.agenda := by simp [agenda,admitted]
    exact .inl ((HookGroup.talks_poll _ _ _ _).weaken fun _ allows => .inr (agenda ▸ allows))
  | judged => exact .inl (.refl _)
  | noticed admitted => exact .inr ⟨_,_,admitted,.inl ⟨rfl,rfl⟩⟩
  | served admitted => exact .inr ⟨_,_,admitted,.inr (.inl ⟨rfl,rfl⟩)⟩
  | listened admitted => exact .inr ⟨_,_,admitted,.inr (.inr ⟨rfl,rfl⟩)⟩
  | finished => cases under

/-- What the strides write, but for the loop of requests. -/
theorem Turn.tells {b : Attachment} {stride : Stride} (turn : a.Turn (.go stride) b)
    (other : stride ≠ .requests) : ∃ out : List Message, (∀ m ∈ out, m.Tells (a.MayTell stride)) ∧
      b.session.channel.outbox.queue =
        a.session.channel.outbox.queue ++ out.map Message.encode := by
  have same : ∃ out : List Message, (∀ m ∈ out, m.Tells (a.MayTell stride)) ∧
      a.session.channel.outbox.queue =
        a.session.channel.outbox.queue ++ out.map Message.encode := ⟨[],by simp,by simp⟩
  by_cases under : b.admitted.isSome
  · rcases turn.talks_or_loops under with talks | ⟨i,reply,_,⟨_,rfl⟩ | ⟨serving,_⟩ | ⟨_,rfl⟩⟩
    · exact talks.sent
    · rw [session_proceed,Session.channel_takeNotifications]
      exact same
    · exact absurd serving other
    · exact same
  · cases turn with
    | aside own => cases own
    | failed _ _ _ talks => exact (talks.weaken fun _ gives => .inr (.inl gives)).sent
    | still => exact same
    | finished => exact same
    | _ => exact absurd rfl under

theorem Turn.responds {b : Attachment} (turn : a.Turn (.go .requests) b) :
    ∃ out : List Message, (∀ m ∈ out, ∃ r, m = .response r) ∧
      b.session.channel.outbox.queue =
        a.session.channel.outbox.queue ++ out.map Message.encode := by
  cases turn with
  | aside own => cases own
  | still => exact ⟨[],by simp,by simp⟩
  | failed _ early => simp at early
  | @served i reply admitted =>
    obtain ⟨_,_,serves,_⟩ := a.session.takeRequests_spec i.requests reply
    exact serves.responds

/-- Where no start is under way, nothing but a start reaches the session. -/
theorem Turn.of_idle {b : Attachment} {d : Deed} (turn : a.Turn d b) (idle : a.admitted = none)
    (other : d ≠ .start) : b.admitted = none ∧ b.returned = a.returned ∧
      a.client.Spares (d.delivers a.client) b.client := by
  cases turn with
  | refused => exact absurd rfl other
  | claimed => exact absurd rfl other
  | aside _ admitted returned spares => exact ⟨admitted.trans idle,returned,spares⟩
  | still => exact ⟨idle,rfl,.refl _⟩
  | _ => simp_all

end Attachment

end LanguageBridge
