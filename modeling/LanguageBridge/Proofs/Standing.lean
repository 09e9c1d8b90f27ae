import LanguageBridge.Proofs.Chronicle
import LanguageBridge.Proofs.History
import LanguageBridge.Proofs.Hooks
import Mathlib.Data.List.Induction
import Mathlib.Logic.Relation

/-! What holds of a session at every point of its start, seen together with all that has happened to
it: its stage, its legend, what it waits for, and whether the server has been told. -/
namespace LanguageBridge

inductive Stage.Leads : Stage → Stage → Prop where
  | stays (s : Stage) : Leads s s
  | claims : Leads .uninitialized .initializing
  | greets : Leads .initializing .initialized
  | runs : Leads .initialized .running
  | stops {s : Stage} (begun : s ≠ .uninitialized) : Leads s .stopped

namespace Channel

structure Drifts (c : Channel) (rs : List Response) (d : Channel) : Prop where
  pending : c.pending.Evolves rs d.pending
  ends : c.EndsLike d

theorem Drifts.refl (c : Channel) : c.Drifts [] c := ⟨.refl,.inl ⟨rfl,rfl,rfl⟩⟩

theorem Talks.drifts {c d : Channel} {may : Notification → Prop} (talks : c.Talks may d) :
    c.Drifts [] d :=
  ⟨talks.pending,.inl ⟨by rw [talks.requests],by rw [talks.notifications],talks.closed⟩⟩

structure EndsTogether (c : Channel) : Prop where
  notifications : c.inbound.notifications.closed = c.inbound.requests.closed
  pending : c.pending.closed = c.inbound.requests.closed

theorem EndsTogether.drift {c d : Channel} (together : c.EndsTogether) (ends : c.EndsLike d) :
    d.EndsTogether := by
  rcases ends with ⟨requests,notifications,pending⟩ | ⟨requests,notifications,pending⟩
  · exact ⟨by rw [requests,notifications,together.notifications],
      by rw [requests,pending,together.pending]⟩
  · exact ⟨notifications.trans requests.symm,pending.trans requests.symm⟩

end Channel

namespace Attachment

variable {a b : Attachment} {d : Deed}

/-- Responses come into the table by deliveries only. -/
theorem Turn.drifts (turn : a.Turn d b) : a.session.channel.Drifts
    ((d.delivers a.client).filterMap Message.response?) b.session.channel := by
  cases turn with
  | refused begun => exact .refl _
  | claimed fresh => exact ⟨.refl,.inl ⟨rfl,rfl,rfl⟩⟩
  | aside _ _ _ spares => exact ⟨spares.moves.pending,spares.moves.ends⟩
  | still stride => exact .refl _
  | failed _ _ _ talks => exact ⟨talks.pending,talks.drifts.ends⟩
  | asked admitted called =>
    have talks := a.session.talks_ask
    rw [called] at talks
    exact talks.drifts
  | heard admitted ready read =>
    exact ⟨.collect .refl _,.inl ⟨rfl,rfl,rfl⟩⟩
  | announced admitted sent => exact (Channel.talks_notify sent).drifts
  | launched admitted => exact (HookGroup.talks_start _ _ _ _).drifts
  | tended admitted => exact (HookGroup.talks_poll _ _ _ _).drifts
  | judged admitted passed => exact .refl _
  | @noticed i reply admitted =>
    rw [session_proceed,Session.channel_takeNotifications]
    exact ⟨.refl,.inl ⟨rfl,rfl,rfl⟩⟩
  | @served i reply admitted =>
    obtain ⟨taken,rest,serves,_⟩ := a.session.takeRequests_spec i.requests reply
    exact ⟨.of_eq serves.pending,.inl ⟨serves.closed,congrArg Fanout.closed serves.notifications,
      congrArg Pending.closed serves.pending⟩⟩
  | listened admitted => exact ⟨.refl,.inl ⟨rfl,rfl,rfl⟩⟩
  | finished admitted drained => exact ⟨.refl,.inl ⟨rfl,rfl,rfl⟩⟩

theorem Turn.detached (turn : a.Turn d b) (detached : a.client.Detached) : b.client.Detached := by
  cases turn with
  | aside _ _ _ spares => exact spares.detached detached
  | _ => exact detached

structure Grounded (a : Attachment) : Prop where
  detached : a.client.Detached
  numbered : a.session.channel.pending.Numbered
  together : a.session.channel.EndsTogether

theorem Grounded.turn (grounded : a.Grounded) (turn : a.Turn d b) : b.Grounded where
  detached := turn.detached grounded.detached
  numbered := grounded.numbered.evolve turn.drifts.pending
  together := grounded.together.drift turn.drifts.ends

theorem grounded_opening (profile : Profile) (link : Option Link) :
    (opening profile link).Grounded where
  detached := nofun
  numbered := ⟨nofun,nofun⟩
  together := ⟨rfl,rfl⟩

end Attachment

def Point.stage : Point → Stage
  | .claimed => .initializing
  | .handshake _ => .initializing
  | .greeted => .initialized
  | .announced => .initialized
  | .hooks _ => .initialized
  | .running _ => .running

def Point.told : Point → Bool
  | .announced => true
  | .hooks _ => true
  | .running _ => true
  | _ => false

theorem Point.begun (p : Point) : p.stage ≠ .uninitialized := by
  cases p <;> simp [stage]

namespace Moment

structure Announces (m : Moment) : Prop where
  deed : m.deed = .go .announce
  sent : m.after.session.channel.outbox ≠ m.before.session.channel.outbox

structure Asks (m : Moment) (number : UInt64) : Prop where
  deed : m.deed = .go .ask
  sent : m.after.session.channel.outbox.queue = m.before.session.channel.outbox.queue ++
    [(Message.request (.new (.number number) Method.handshake
      (some (Session.handshakeParams m.before.session.engine.profile)))).encode]

def Brings (m : Moment) (r : Response) : Prop := .response r ∈ m.deed.delivers m.before.client

end Moment

def Answered (past : List Moment) (number : UInt64) (r : Response) : Prop :=
  ∃ asked brought, [asked,brought].Sublist past ∧ asked.Asks number ∧ brought.Brings r ∧
    r.Answers number

def Learned (past : List Moment) (legend : Wire.TokenLegend) : Prop :=
  ∃ number r value result, Answered past number r ∧ r.concluded = .ok value ∧
    Wire.InitializeResult.read value = .ok result ∧ result.legend? = some legend

/-- The handshake was asked for, and nothing but an answer to it is in the mail. -/
structure Awaits (past : List Moment) (a : Attachment) (call : Call) : Prop where
  id : call.handle.id = .number call.number
  asked : ∃ m ∈ past, m.Asks call.number
  expects : a.session.channel.pending.Expects call.handle (Answered past call.number)

def HookGroup.Tended (g h : HookGroup) : Prop := ∃ now e c, h = (g.poll now e c).2.2

/-- A group of hooks is that of all hooks that were queued when they started, after the server was
told. -/
def Launched (past : List Moment) (group : HookGroup) : Prop :=
  ∃ told launch, [told,launch].Sublist past ∧ told.Announces ∧ launch.deed = .go .launch ∧
    group.Complete launch.before.session.hooks.length ∧
    ∃ i started, launch.after.admitted = some (i,.hooks started) ∧
      Relation.ReflTransGen HookGroup.Tended started group

theorem Pending.mem_mail_of_ready {p : Pending} {h : Handle} {r : Response}
    (ready : p.poll h = .ready r) : (h.ticket,r) ∈ p.mail := by
  unfold poll at ready
  split at ready
  next found =>
    cases ready
    exact Lookup.mem_of_lookup found
  next => split at ready <;> cases ready

/-- A legend is found in an answer that can be read and declares it. -/
theorem Session.legendIn_ok {outcome : Except CallError Json} {legend : Wire.TokenLegend}
    (found : legendIn outcome = .ok legend) : ∃ value result, outcome = .ok value ∧
      Wire.InitializeResult.read value = .ok result ∧ result.legend? = some legend := by
  cases outcome with
  | error e => cases found
  | ok value =>
    simp only [legendIn] at found
    cases read : Wire.InitializeResult.read value with
    | error e => simp [read] at found
    | ok result =>
      cases declared : result.legend? with
      | none => simp [read,declared] at found
      | some other =>
        obtain rfl : other = legend := by simpa [read,declared] using found
        exact ⟨value,result,rfl,read,declared⟩

namespace Attachment

/-- The session still gets notifications, unless there will be none. -/
def Tuned (a : Attachment) (i : Inboxes) : Prop :=
  (a.session.channel.inbound.notifications.queue? i.notifications).isSome ∨
    a.session.channel.inbound.notifications.closed = true

structure Poised (past : List Moment) (a : Attachment) (i : Inboxes) (p : Point) : Prop where
  stage : a.session.stage = p.stage
  legend : a.session.bridge.legend.isSome = decide (p.stage ≠ .initializing)
  learned : ∀ legend, a.session.bridge.legend = some legend → Learned past legend
  tuned : a.Tuned i
  told : (∃ m ∈ past, m.Announces) ↔ p.told = true
  awaits : ∀ call, p = .handshake call → Awaits past a call
  launched : ∀ group, p = .hooks group → Launched past group

structure Standing (past : List Moment) (a : Attachment) : Prop where
  fresh : a.session.stage = .uninitialized ↔ ∀ m ∈ past, m.deed ≠ .start
  unasked : a.session.stage = .uninitialized →
    a.admitted = none ∧ a.session.bridge.legend = none ∧ ∀ m ∈ past, ¬m.Announces
  idle : a.admitted = none → a.session.stage = .uninitialized ∨ a.session.stage = .stopped
  poised : ∀ i p, a.admitted = some (i,p) → Poised past a i p

variable {a b : Attachment} {d : Deed} {past : List Moment} {i : Inboxes} {p q : Point}

theorem tuned_claim (a : Attachment) (p : Point) :
    (a.proceed a.session.claim.1 a.session.claim.2 p).Tuned a.session.claim.1 :=
  a.session.channel.inbound.notifications.subscribed

theorem Turn.tuned (turn : a.Turn d b) (tuned : a.Tuned i) (before : a.admitted = some (i,p))
    (after : b.admitted = some (i,q)) : b.Tuned i := by
  cases d with
  | start =>
    cases turn with
    | refused => exact tuned
    | claimed =>
      obtain ⟨rfl,_⟩ : a.session.claim.1 = i ∧ Point.claimed = q := by simpa using after
      exact a.tuned_claim _
    | aside other => cases other
  | go stride =>
    rcases turn.talks_or_loops (by simp [after]) with talks | ⟨j,reply,running,loops⟩
    · rw [Tuned,talks.notifications]
      exact tuned
    · rcases loops with ⟨_,rfl⟩ | ⟨_,rfl⟩ | ⟨_,rfl⟩
      · rw [Tuned,session_proceed,Session.channel_takeNotifications]
        refine tuned.imp_left fun subscribed => ?_
        have emptied := a.session.channel.inbound.notifications.queue?_setBuffered j.notifications []
          i.notifications
        exact (congrArg Option.isSome emptied).trans (by simpa using subscribed)
      · obtain ⟨taken,rest,serves,_⟩ := a.session.takeRequests_spec j.requests reply
        have session : (a.serve j reply).session = (a.session.takeRequests j.requests reply).1 := rfl
        rw [Tuned,session,serves.notifications]
        exact tuned
      · exact tuned
  | _ =>
    cases turn with
    | aside _ _ _ spares =>
      rcases tuned with subscribed | shut
      · refine .inl ((congrArg Option.isSome (spares.moves.notifications _)).trans ?_)
        exact Option.isSome_map.trans subscribed
      · rcases spares.moves.ends with ⟨_,same,_⟩ | ⟨_,ended,_⟩
        · exact .inr (same.trans shut)
        · exact .inr ended

theorem Turn.announces (turn : a.Turn d b) (announces : Moment.Announces ⟨a,d,b⟩) : ∃ i channel,
    a.admitted = some (i,.greeted) ∧
    a.session.channel.notify Method.handshakeDone (some (.obj [])) = .ok channel ∧
    b = a.proceed i { a.session with channel := channel } .announced := by
  obtain ⟨rfl,sent⟩ : d = .go .announce ∧ b.session.channel.outbox ≠ a.session.channel.outbox :=
    ⟨announces.deed,announces.sent⟩
  cases turn with
  | aside other => cases other
  | still => exact absurd rfl sent
  | failed _ _ _ _ mute =>
    obtain rfl := mute rfl
    exact absurd rfl sent
  | announced admitted told => exact ⟨_,_,admitted,told,rfl⟩

/-- The stage moves forward only. -/
theorem Turn.leads (turn : a.Turn d b)
    (stage : ∀ i p, a.admitted = some (i,p) → a.session.stage = p.stage) :
    a.session.stage.Leads b.session.stage := by
  have begun : ∀ {i p}, a.admitted = some (i,p) → a.session.stage ≠ .uninitialized := by
    intro i p admitted
    rw [stage i p admitted]
    exact p.begun
  cases turn with
  | refused => exact .stays _
  | claimed fresh =>
    rw [fresh]
    exact .claims
  | aside _ _ _ spares =>
    rw [show b.session.stage = a.session.stage from spares.keeps.stage]
    exact .stays _
  | still => exact .stays _
  | failed _ _ admitted => exact .stops (begun admitted)
  | asked => exact .stays _
  | heard admitted =>
    rw [stage _ _ admitted]
    exact .greets
  | announced => exact .stays _
  | launched => exact .stays _
  | tended => exact .stays _
  | judged admitted =>
    rw [stage _ _ admitted]
    exact .runs
  | @noticed i =>
    rw [session_proceed,(a.session.takeNotifications_alike i.notifications).stage]
    exact .stays _
  | @served i reply =>
    rw [(a.serve_alike i reply).stage]
    exact .stays _
  | listened => exact .stays _
  | finished admitted => exact .stops (begun admitted)

end Attachment

theorem Pending.isPending_of_target (p : Pending) {id target : RequestId}
    (found : p.target? id = some target) : p.isPending target = true := by
  unfold target? at found
  split at found
  next pending =>
    cases found
    exact pending
  next =>
    split at found
    · cases found
    · split at found
      · split at found
        next pending =>
          cases found
          exact pending
        next => cases found
      · cases found

/-- A response goes to a number only if it is meant for it. -/
theorem Pending.answers_of_target {p : Pending} {r : Response} {number : UInt64}
    (target : r.id.bind p.target? = some (.number number)) : r.Answers number := by
  rcases id : r.id with _ | m | s
  · simp [id] at target
  · rw [id,Option.bind_some] at target
    have pending : p.isPending (.number number) = true := p.isPending_of_target target
    exact .inl (by rw [id,(target?_number pending).mp target])
  · rw [id,Option.bind_some] at target
    have pending : p.isPending (.number number) = true := p.isPending_of_target target
    have absent : p.isPending (.text s) = false := by
      cases found : p.isPending (.text s) with
      | false => rfl
      | true => simp [target?,found] at target
    exact .inr ⟨s,id,(target?_text pending absent).mp target⟩

theorem Answered.snoc {past : List Moment} {number : UInt64} {r : Response}
    (answered : Answered past number r) (m : Moment) : Answered (past ++ [m]) number r := by
  obtain ⟨asked,brought,order,asks,brings,answers⟩ := answered
  exact ⟨asked,brought,order.trans (List.sublist_append_left _ _),asks,brings,answers⟩

theorem Learned.snoc {past : List Moment} {legend : Wire.TokenLegend} (learned : Learned past legend)
    (m : Moment) : Learned (past ++ [m]) legend := by
  obtain ⟨number,r,value,result,answered,facts⟩ := learned
  exact ⟨number,r,value,result,answered.snoc m,facts⟩

theorem Launched.snoc {past : List Moment} {group : HookGroup} (launched : Launched past group)
    (m : Moment) : Launched (past ++ [m]) group := by
  obtain ⟨told,launch,order,facts⟩ := launched
  exact ⟨told,launch,order.trans (List.sublist_append_left _ _),facts⟩

namespace Attachment

variable {a b : Attachment} {d : Deed} {past : List Moment} {i : Inboxes} {p q : Point}

theorem Turn.awaits (turn : a.Turn d b) {call : Call} (awaits : Awaits past a call) :
    Awaits (past ++ [⟨a,d,b⟩]) b call where
  id := awaits.id
  asked := by
    obtain ⟨m,member,asks⟩ := awaits.asked
    exact ⟨m,List.mem_append_left _ member,asks⟩
  expects := by
    have earlier := awaits.expects.weaken fun r answered => answered.snoc ⟨a,d,b⟩
    refine earlier.evolve turn.drifts.pending fun r came table target => ?_
    obtain ⟨m,member,asks⟩ := awaits.asked
    rw [awaits.id] at target
    have brings : Moment.Brings ⟨a,d,b⟩ r := by
      obtain ⟨message,delivered,kind⟩ := List.mem_filterMap.mp came
      cases message with
      | response r' =>
        obtain rfl : r' = r := Option.some.inj kind
        exact delivered
      | request => cases kind
      | notification => cases kind
    exact ⟨m,⟨a,d,b⟩,(List.singleton_sublist.mpr member).append (.refl _),asks,brings,
      Pending.answers_of_target target⟩

/-- When the session asks for the handshake, there is no mail for it. -/
theorem awaits_ask {engine : Engine} {channel : Channel} {call : Call} (grounded : a.Grounded)
    (called : a.session.ask = (engine,channel,.ok call)) (asked : b.session.channel = channel)
    (past : List Moment) : Awaits (past ++ [⟨a,.go .ask,b⟩]) b call := by
  obtain ⟨registered,sent⟩ := Engine.call_ok called
  subst asked
  refine ⟨?_,⟨⟨a,.go .ask,b⟩,by simp,rfl,sent⟩,grounded.numbered.expects registered _⟩
  obtain ⟨_,_,handle,_⟩ := Pending.register_cases registered
  rw [handle]

theorem Turn.fresh_iff (turn : a.Turn d b)
    (stage : ∀ i p, a.admitted = some (i,p) → a.session.stage = p.stage) :
    b.session.stage = .uninitialized ↔ a.session.stage = .uninitialized ∧ d ≠ .start := by
  constructor
  · intro fresh
    have leads := turn.leads stage
    rw [fresh] at leads
    constructor
    · generalize a.session.stage = before at leads
      cases leads
      rfl
    · rintro rfl
      cases turn with
      | refused begun => exact begun fresh
      | claimed => cases fresh
      | aside other => cases other
  · rintro ⟨fresh,other⟩
    have idle : a.admitted = none := by
      cases admitted : a.admitted with
      | none => rfl
      | some entry =>
        rw [stage entry.1 entry.2 admitted] at fresh
        exact absurd fresh entry.2.begun
    exact (turn.of_idle idle other).2.2.keeps.stage.trans fresh

namespace Standing

variable (standing : Standing past a) (turn : a.Turn d b)

include standing

theorem stage (i : Inboxes) (p : Point) (admitted : a.admitted = some (i,p)) :
    a.session.stage = p.stage :=
  (standing.poised i p admitted).stage

include turn

theorem idle_turn (idle : b.admitted = none) :
    b.session.stage = .uninitialized ∨ b.session.stage = .stopped := by
  cases turn with
  | refused => exact standing.idle idle
  | aside _ admitted _ spares =>
    rw [show b.session.stage = a.session.stage from spares.keeps.stage]
    exact standing.idle (admitted.symm.trans idle)
  | still => exact standing.idle idle
  | failed => exact .inr rfl
  | finished => exact .inr rfl
  | _ => cases idle

theorem unasked_turn (fresh : b.session.stage = .uninitialized) : b.admitted = none ∧
    b.session.bridge.legend = none ∧ ∀ m ∈ past ++ [⟨a,d,b⟩], ¬m.Announces := by
  obtain ⟨untouched,other⟩ := (turn.fresh_iff standing.stage).mp fresh
  obtain ⟨idle,legend,quiet⟩ := standing.unasked untouched
  obtain ⟨rest,_,spares⟩ := turn.of_idle idle other
  refine ⟨rest,spares.keeps.legend.trans legend,fun m member announces => ?_⟩
  rcases List.mem_append.mp member with old | new
  · exact quiet m old announces
  · obtain rfl := List.mem_singleton.mp new
    obtain ⟨i,_,admitted,_⟩ := turn.announces announces
    simp [idle] at admitted

theorem fresh_turn :
    b.session.stage = .uninitialized ↔ ∀ m ∈ past ++ [⟨a,d,b⟩], m.deed ≠ .start := by
  rw [turn.fresh_iff standing.stage,standing.fresh,List.forall_mem_append,List.forall_mem_singleton]

end Standing

theorem told_snoc {m : Moment} (quiet : ¬m.Announces) :
    (∃ e ∈ past ++ [m], e.Announces) ↔ ∃ e ∈ past, e.Announces := by
  constructor
  · rintro ⟨e,member,announces⟩
    rcases List.mem_append.mp member with old | new
    · exact ⟨e,old,announces⟩
    · obtain rfl := List.mem_singleton.mp new
      exact absurd announces quiet
  · rintro ⟨e,member,announces⟩
    exact ⟨e,List.mem_append_left _ member,announces⟩

/-- A start that goes from one point to another, with nothing told to the server or learned from it. -/
theorem Poised.turn (poised : Poised past a i p) (turn : a.Turn d b) (before : a.admitted = some (i,p))
    (after : b.admitted = some (i,q)) (stage : b.session.stage = q.stage)
    (legend : b.session.bridge.legend = a.session.bridge.legend)
    (late : decide (q.stage ≠ .initializing) = decide (p.stage ≠ .initializing))
    (told : q.told = p.told)
    (awaits : ∀ call, q = .handshake call → Awaits (past ++ [⟨a,d,b⟩]) b call)
    (launched : ∀ group, q = .hooks group → Launched (past ++ [⟨a,d,b⟩]) group) :
    Poised (past ++ [⟨a,d,b⟩]) b i q := by
  have quiet : ¬Moment.Announces ⟨a,d,b⟩ := by
    intro announces
    obtain ⟨j,channel,greeted,_,rfl⟩ := turn.announces announces
    obtain ⟨rfl,rfl⟩ : i = j ∧ p = .greeted := by simpa [before] using greeted
    obtain rfl : q = .announced := by simpa [eq_comm] using after
    cases told
  refine ⟨stage,?_,fun found known => ?_,turn.tuned poised.tuned before after,
    (told_snoc quiet).trans (told ▸ poised.told),awaits,launched⟩
  · rw [legend,poised.legend,late]
  · exact (poised.learned found (legend ▸ known)).snoc _

/-- The answer to the handshake has come in, and its legend is the first. -/
theorem Poised.hears {call : Call} {r : Response} {legend : Wire.TokenLegend}
    (poised : Poised past a i (.handshake call))
    (ready : a.session.channel.pending.poll call.handle = .ready r)
    (read : Session.legendIn r.concluded = .ok legend) :
    Learned past legend ∧ (a.session.bridge.setLegend legend).legend = some legend := by
  have unset : a.session.bridge.legend = none := by
    simpa [Point.stage] using poised.legend
  have answered := (poised.awaits call rfl).expects.mail _ (Pending.mem_mail_of_ready ready) rfl
  obtain ⟨value,result,facts⟩ := Session.legendIn_ok read
  exact ⟨⟨call.number,r,value,result,answered,facts⟩,by simp [Bridge.setLegend,unset]⟩

/-- A start that stays at its point. -/
theorem Poised.stay (poised : Poised past a i p) (turn : a.Turn d b) (before : a.admitted = some (i,p))
    (after : b.admitted = some (i,p)) (stage : b.session.stage = a.session.stage)
    (legend : b.session.bridge.legend = a.session.bridge.legend) :
    Poised (past ++ [⟨a,d,b⟩]) b i p :=
  poised.turn turn before after (stage.trans poised.stage) legend rfl rfl
    (fun call point => turn.awaits (poised.awaits call point))
    fun group point => (poised.launched group point).snoc _

theorem Standing.poised_turn (standing : Standing past a) (grounded : a.Grounded) (turn : a.Turn d b)
    (i : Inboxes) (q : Point) (after : b.admitted = some (i,q)) :
    Poised (past ++ [⟨a,d,b⟩]) b i q := by
  cases turn with
  | refused begun =>
    exact (standing.poised i q after).stay (.refused begun) after after rfl rfl
  | claimed fresh =>
    obtain ⟨_,legend,quiet⟩ := standing.unasked fresh
    cases after
    have untold : ¬∃ m ∈ past, m.Announces := fun ⟨m,member,announces⟩ => quiet m member announces
    have silent : ¬Moment.Announces ⟨a,.start,a.proceed a.session.claim.1 a.session.claim.2 .claimed⟩ :=
      fun announces => by cases announces.deed
    refine ⟨rfl,congrArg Option.isSome legend,fun found known => ?_,a.tuned_claim _,?_,nofun,nofun⟩
    · cases legend.symm.trans known
    · rw [told_snoc silent]
      simpa [Point.told] using untold
  | aside other admitted returned spares =>
    have before := admitted.symm.trans after
    exact (standing.poised i q before).stay (.aside other admitted returned spares) before after
      spares.keeps.stage spares.keeps.legend
  | still stride => exact (standing.poised i q after).stay (.still stride) after after rfl rfl
  | failed => cases after
  | asked admitted called =>
    have poised := standing.poised _ _ admitted
    cases after
    refine poised.turn (.asked admitted called) admitted rfl poised.stage rfl rfl rfl ?_ nofun
    intro call point
    cases point
    exact awaits_ask grounded called rfl past
  | heard admitted ready read =>
    have poised := standing.poised _ _ admitted
    have turn := Turn.heard admitted ready read
    have learned := poised.hears ready read
    cases after
    refine ⟨rfl,?_,fun found known => ?_,turn.tuned poised.tuned admitted rfl,?_,nofun,nofun⟩
    · simp [Bridge.setLegend,Point.stage]
    · obtain rfl := Option.some.inj (learned.2.symm.trans known)
      exact learned.1.snoc _
    · rw [told_snoc fun announces => by cases announces.deed]
      exact poised.told
  | @announced _ channel admitted sent =>
    have poised := standing.poised _ _ admitted
    have turn := Turn.announced admitted sent
    cases after
    refine ⟨poised.stage,poised.legend,fun found known => (poised.learned found known).snoc _,
      turn.tuned poised.tuned admitted rfl,?_,nofun,nofun⟩
    simp only [Point.told,iff_true]
    refine ⟨_,List.mem_append_right _ (List.mem_singleton_self _),rfl,?_⟩
    rw [session_proceed,Channel.send_ok sent]
    intro same
    simpa using congrArg Outbox.queue same
  | launched admitted =>
    have poised := standing.poised _ _ admitted
    cases after
    refine poised.turn (.launched admitted) admitted rfl poised.stage rfl rfl rfl nofun ?_
    intro group point
    cases point
    obtain ⟨told,member,announces⟩ := poised.told.mpr rfl
    exact ⟨told,_,(List.singleton_sublist.mpr member).append (.refl _),announces,rfl,
      HookGroup.complete_start _ _ _ _,i,_,rfl,.refl⟩
  | tended admitted =>
    have poised := standing.poised _ _ admitted
    cases after
    refine poised.turn (.tended admitted) admitted rfl poised.stage rfl rfl rfl nofun ?_
    intro group point
    cases point
    obtain ⟨told,launch,order,announces,deed,complete,j,started,under,lineage⟩ :=
      (poised.launched _ rfl).snoc ⟨a,.go .tend,_⟩
    exact ⟨told,launch,order,announces,deed,complete.poll _ _ _,j,started,under,
      lineage.tail ⟨_,_,_,rfl⟩⟩
  | judged admitted passed =>
    have poised := standing.poised _ _ admitted
    cases after
    exact poised.turn (.judged admitted passed) admitted rfl rfl rfl rfl rfl nofun nofun
  | @noticed i reply admitted =>
    have poised := standing.poised _ _ admitted
    have alike := a.session.takeNotifications_alike i.notifications
    cases after
    exact poised.turn (.noticed admitted) admitted rfl (alike.stage.trans poised.stage)
      (congrArg Bridge.legend alike.bridge) rfl rfl nofun nofun
  | @served i reply admitted =>
    have poised := standing.poised _ _ admitted
    have alike := a.serve_alike i reply
    cases after
    exact poised.turn (.served admitted) admitted rfl (alike.stage.trans poised.stage)
      (congrArg Bridge.legend alike.bridge) rfl rfl nofun nofun
  | listened admitted =>
    have poised := standing.poised _ _ admitted
    cases after
    exact poised.turn (.listened admitted) admitted rfl poised.stage rfl rfl rfl nofun nofun
  | finished => cases after

theorem Standing.turn (standing : Standing past a) (grounded : a.Grounded) (turn : a.Turn d b) :
    Standing (past ++ [⟨a,d,b⟩]) b where
  fresh := standing.fresh_turn turn
  unasked := standing.unasked_turn turn
  idle := standing.idle_turn turn
  poised := standing.poised_turn grounded turn

theorem standing_opening (profile : Profile) (link : Option Link) :
    Standing [] (opening profile link) := by
  have stage : (opening profile link).session.stage = .uninitialized := rfl
  have idle : (opening profile link).admitted = none := rfl
  refine ⟨by simp [stage],fun _ => ⟨idle,rfl,by simp⟩,fun _ => .inl stage,fun i p admitted => ?_⟩
  rw [idle] at admitted
  cases admitted

/-- All runs of a session keep to its life. -/
theorem run_standing (profile : Profile) (link : Option Link) (deeds : List Deed) :
    ((opening profile link).run deeds).Grounded ∧
    Standing ((opening profile link).chronicle deeds) ((opening profile link).run deeds) := by
  induction deeds using List.reverseRecOn with
  | nil => exact ⟨grounded_opening profile link,standing_opening profile link⟩
  | append_singleton deeds d ih =>
    obtain ⟨grounded,standing⟩ := ih
    have turn := step_turn grounded.detached d
    rw [run_snoc,chronicle_snoc]
    exact ⟨grounded.turn turn,standing.turn grounded turn⟩

end Attachment

end LanguageBridge
