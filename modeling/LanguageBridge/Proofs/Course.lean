import LanguageBridge.Proofs.Attachment
import LanguageBridge.Proofs.Loops

/-! A session starts and is looked after in one go. Both are courses of strides with nothing in between,
so that whatever holds of all runs of an attachment holds of these. -/
namespace LanguageBridge

def Point.ofPhase : Phase → Point
  | .handshake call => .handshake call
  | .hooks group => .hooks group
  | .running reply => .running reply

def Stride.loops : List Stride := [.notices,.requests,.listeners,.finish]

def Stride.welcome : List Stride := .announce :: .launch :: .judge :: loops

/-- The strides that a look at a session consists of. -/
def Phase.course : Phase → List Stride
  | .handshake _ => .hear :: Stride.welcome
  | .hooks _ => .tend :: .judge :: Stride.loops
  | .running _ => Stride.loops

namespace Attachment

def absorb (a : Attachment) : Session × SessionProgress → Attachment
  | (s,.waiting run) => a.proceed run.inboxes s (.ofPhase run.phase)
  | (s,.over result) => { a.withSession s with admitted := none, returned := a.returned ++ [result] }

def enter (a : Attachment) : Attachment :=
  match a.session.start with
  | (s,.waiting run) => a.proceed run.inboxes s (.ofPhase run.phase)
  | (s,.over result) => { a.withSession s with returned := a.returned ++ [result] }

def look (a : Attachment) (run : SessionRun) : Attachment := a.absorb (a.session.poll run)

@[simp] theorem session_proceed (a : Attachment) (i : Inboxes) (s : Session) (p : Point) :
    (a.proceed i s p).session = s := rfl

@[simp] theorem admitted_proceed (a : Attachment) (i : Inboxes) (s : Session) (p : Point) :
    (a.proceed i s p).admitted = some (i,p) := rfl

@[simp] theorem absorb_proceed (a : Attachment) (i : Inboxes) (s : Session) (p : Point)
    (next : Session × SessionProgress) : (a.proceed i s p).absorb next = a.absorb next := by
  obtain ⟨_,progress⟩ := next
  cases progress <;> rfl

theorem proceed_self {a : Attachment} {i : Inboxes} {p : Point} (admitted : a.admitted = some (i,p)) :
    a.proceed i a.session p = a := by
  obtain ⟨client,_,returned⟩ := a
  obtain rfl := admitted
  rfl

theorem step_go {a : Attachment} {i : Inboxes} {p : Point} (admitted : a.admitted = some (i,p))
    (stride : Stride) : a.step (.go stride) = a.advance i p stride := by
  simp [step,admitted]

/-- Strides one after another with nothing in between. -/
def go (a : Attachment) (strides : List Stride) : Attachment := a.run (strides.map .go)

theorem go_nil (a : Attachment) : a.go [] = a := rfl

theorem go_cons {a : Attachment} {i : Inboxes} {p : Point} (admitted : a.admitted = some (i,p))
    (stride : Stride) (rest : List Stride) :
    a.go (stride :: rest) = (a.advance i p stride).go rest := by
  rw [go,List.map_cons,run_cons,step_go admitted,go]

/-- Strides that do not belong to the point have no effect. -/
theorem go_still {a : Attachment} {i : Inboxes} {p : Point} (admitted : a.admitted = some (i,p))
    {strides : List Stride} (still : ∀ stride ∈ strides, a.advance i p stride = a) :
    a.go strides = a := by
  induction strides with
  | nil => rfl
  | cons stride strides ih =>
    rw [go_cons admitted,still stride (by simp)]
    exact ih fun other later => still other (List.mem_cons_of_mem _ later)

/-- Strides have no effect once the start is over. -/
theorem go_idle {a : Attachment} (idle : a.admitted = none) (strides : List Stride) :
    a.go strides = a := by
  induction strides with
  | nil => rfl
  | cons stride strides ih =>
    have still : a.step (.go stride) = a := by simp [step,idle]
    rw [go,List.map_cons,run_cons,still]
    exact ih

end Attachment

/-- A subscriber whose buffer was emptied is at the end when its sequence is. -/
theorem Fanout.isSpent_emptied {α : Type} {f g : Fanout α} {key : Nat} (closed : g.closed = f.closed)
    (emptied : g.queue? key = (f.queue? key).map fun _ => []) : g.isSpent key = f.isOver key := by
  rw [isSpent,isOver_eq,buffered_eq,isOver_eq,emptied,closed]
  cases f.queue? key <;> simp

theorem Fanout.isSpent_setBuffered {α : Type} (f : Fanout α) (key : Nat) :
    (f.setBuffered key []).isSpent key = f.isOver key := by
  have emptied : (f.setBuffered key []).queue? key = (f.queue? key).map fun _ => [] := by
    simp [queue?_setBuffered]
  exact isSpent_emptied rfl emptied

namespace Session

/-- One round of the loops finds out whether all of them have come to their ends. -/
theorem drained_round (s : Session) (i : Inboxes) (reply : Option DelayedReply) :
    let notices := s.takeNotifications i.notifications
    let requests := notices.1.takeRequests i.requests reply
    let listeners := requests.1.takeListened
    listeners.1.drained i requests.2.1 = (notices.2 && requests.2.2 && listeners.2) := by
  intro notices requests listeners
  obtain ⟨taken,rest,serves,ended⟩ := notices.1.takeRequests_spec i.requests reply
  have ended : requests.2.2 = (requests.2.1.isNone &&
      notices.1.channel.inbound.requests.isOver i.requests) := ended
  have quiet : listeners.1.channel.inbound.notifications.isSpent i.notifications = notices.2 := by
    have same : listeners.1.channel.inbound.notifications =
        s.channel.inbound.notifications.setBuffered i.notifications [] := by
      rw [channel_takeListened]
      exact serves.notifications.trans (by rw [channel_takeNotifications]; rfl)
    rw [same,Fanout.isSpent_setBuffered]
    exact (congrArg Prod.snd (s.takeNotifications_eq _)).symm
  have heard : listeners.1.channel.inbound.requests.isSpent listeners.1.reader.subscription =
      listeners.2 :=
    Fanout.isSpent_setBuffered requests.1.channel.inbound.requests _
  have answered : (requests.2.1.isNone && listeners.1.channel.inbound.requests.isSpent i.requests) =
      requests.2.2 := by
    rw [ended]
    cases later : requests.2.1 with
    | some _ => rfl
    | none =>
      have emptied := serves.queues i.requests
      rw [serves.idle later] at emptied
      refine congrArg (true && ·) (Fanout.isSpent_emptied serves.closed ?_)
      rw [channel_takeListened]
      refine (Fanout.queue?_setBuffered _ _ _ _).trans ?_
      rw [emptied,Option.map_map]
      congr 1
      funext old
      simp
  rw [drained,quiet,answered,heard]

def greet (s : Session) (i : Inboxes) (legend : Wire.TokenLegend) : Session × SessionProgress :=
  let s := { s with bridge := s.bridge.setLegend legend, stage := .initialized }
  match s.channel.notify Method.handshakeDone (some (.obj [])) with
  | .error e => s.stop i (.error (.call e))
  | .ok channel =>
    let (engine,channel,group) := HookGroup.start s.clock s.engine channel s.hooks
    { s with engine := engine, channel := channel, hooks := [] }.afterHooks i group

theorem afterHandshake_eq (s : Session) (i : Inboxes) (outcome : Except CallError Json) :
    s.afterHandshake i outcome =
      match legendIn outcome with
      | .error e => s.stop i (.error e)
      | .ok legend => s.greet i legend := by
  cases outcome with
  | error e => rfl
  | ok value =>
    simp only [afterHandshake,legendIn]
    rcases Wire.InitializeResult.read value with e | result
    · rfl
    · dsimp only
      cases result.legend? <;> rfl

/-- A start that gets as far as to wait for the handshake. -/
theorem start_asked (s : Session) {engine : Engine} {channel : Channel} {call : Call}
    (fresh : s.stage = .uninitialized) (asked : s.claim.2.ask = (engine,channel,.ok call)) :
    s.start = ({ s.claim.2 with engine := engine, channel := channel },
      .waiting ⟨s.claim.1,.handshake call⟩) := by
  simp only [claim,ask] at asked
  simp only [start,fresh,ne_eq,not_true_eq_false,if_false,asked]
  rfl

/-- A start that cannot ask for the handshake. -/
theorem start_refused (s : Session) {engine : Engine} {channel : Channel} {e : CallError}
    (fresh : s.stage = .uninitialized) (asked : s.claim.2.ask = (engine,channel,.error e)) :
    s.start = { s.claim.2 with engine := engine, channel := channel }.stop s.claim.1
      (.error (.call e)) := by
  simp only [claim,ask] at asked
  simp only [start,fresh,ne_eq,not_true_eq_false,if_false,asked]
  rfl

end Session

namespace Attachment

variable {a : Attachment} {i : Inboxes}

theorem go_loops {reply : Option DelayedReply} (admitted : a.admitted = some (i,.running reply)) :
    a.go Stride.loops = a.absorb (a.session.pollRunning i reply) := by
  have ends := a.session.drained_round i reply
  dsimp only at ends
  simp only [Stride.loops,go_cons admitted,go_nil,advance,serve,go_cons (admitted_proceed _ _ _ _),
    session_proceed,finish,ends,Session.pollRunning]
  split <;> rfl

theorem go_judge {group : HookGroup} (admitted : a.admitted = some (i,.hooks group)) :
    a.go (.judge :: Stride.loops) = a.absorb (a.session.afterHooks i group) := by
  rw [go_cons admitted,advance,judge,Session.afterHooks]
  cases group.verdict with
  | none =>
    dsimp only
    rw [go_still admitted fun stride member => ?_]
    · exact (proceed_self admitted).symm
    · simp only [Stride.loops,List.mem_cons,List.not_mem_nil,or_false] at member
      rcases member with rfl | rfl | rfl | rfl <;> rfl
  | some result =>
    cases result with
    | error e => exact go_idle (a := a.leave _ _ _) rfl _
    | ok =>
      dsimp only
      rw [go_loops (admitted_proceed _ _ _ _),absorb_proceed,session_proceed]

/-- What follows the answer to the handshake. -/
theorem go_welcome (s : Session) (legend : Wire.TokenLegend) :
    (a.proceed i { s with bridge := s.bridge.setLegend legend, stage := .initialized } .greeted).go
      Stride.welcome = a.absorb (s.greet i legend) := by
  rw [Stride.welcome,go_cons (admitted_proceed _ _ _ _),advance,announce,session_proceed,Session.greet]
  dsimp only
  cases s.channel.notify Method.handshakeDone (some (.obj [])) with
  | error e => exact go_idle (a := a.leave _ _ _) rfl _
  | ok channel =>
    dsimp only
    rw [go_cons (admitted_proceed _ _ _ _),advance,launch]
    dsimp only
    rw [go_judge (admitted_proceed _ _ _ _)]
    rfl

/-- A look at a session is a course of strides. -/
theorem look_eq {phase : Phase} (admitted : a.admitted = some (i,.ofPhase phase)) :
    a.look ⟨i,phase⟩ = a.go phase.course := by
  cases phase with
  | handshake call =>
    rw [look,Session.poll,Phase.course,go_cons admitted,Point.ofPhase,advance,hear]
    dsimp only
    generalize call.poll a.session.channel a.session.clock [] = polled
    obtain ⟨channel,_ | outcome⟩ := polled
    · refine (go_still (admitted_proceed _ _ _ _) fun stride member => ?_).symm
      simp only [Stride.welcome,Stride.loops,List.mem_cons,List.not_mem_nil,or_false] at member
      rcases member with rfl | rfl | rfl | rfl | rfl | rfl | rfl <;> rfl
    · dsimp only
      rw [Session.afterHandshake_eq]
      cases Session.legendIn outcome with
      | error e => exact (go_idle (a := a.leave _ _ _) rfl _).symm
      | ok legend => exact (go_welcome _ legend).symm
  | hooks group =>
    rw [look,Session.poll,Phase.course,go_cons admitted,Point.ofPhase,advance]
    exact (go_judge (admitted_proceed _ _ _ _)).symm
  | running reply => exact (go_loops admitted).symm

/-- The first start claims the session and asks for the handshake. -/
theorem enter_claims (fresh : a.session.stage = .uninitialized) (idle : a.admitted = none) :
    a.enter = a.run [.start,.go .ask] := by
  have claimed : a.step .start = a.proceed a.session.claim.1 a.session.claim.2 .claimed := by
    simp [step,fresh]
  rw [run_cons,claimed,run_cons,run_nil,step_go (admitted_proceed _ _ _ _),advance,ask,enter]
  dsimp only [session_proceed]
  cases asked : a.session.claim.2.ask with
  | mk engine sent =>
    obtain ⟨channel,e | call⟩ := sent
    · rw [a.session.start_refused fresh asked]
      exact congrArg (fun admitted => { a.leave _ _ _ with admitted := admitted }) idle
    · rw [a.session.start_asked fresh asked]
      rfl

/-- Every other start is refused. -/
theorem enter_refused (begun : a.session.stage ≠ .uninitialized) : a.enter = a.step .start := by
  have refused : a.session.start = (a.session,.over (.error alreadyStarted)) := by
    simp [Session.start,begun,alreadyStarted]
  rw [enter,refused]
  simp only [step,begun,if_false]
  rfl

end Attachment

end LanguageBridge
