import LanguageBridge.Proofs.Display
import LanguageBridge.Proofs.Standing

/-! The markers of a client. Whatever is done in a run of a session, the display moves by its acts alone,
so that markers show the last publication that found its document open. -/
namespace LanguageBridge

theorem Engine.observers_call (e : Engine) (c : Channel) (now : Nat) (method : String)
    (params : Option Json) (token : Option String) :
    (e.call c now method params token).1.observers = e.observers := by
  unfold call
  dsimp only
  split
  · rfl
  · split <;> rfl

namespace HookRun

theorem observers_advance (now : Nat) (e : Engine) (c : Channel) (steps : List HookStep) :
    (advance now e c steps).1.observers = e.observers := by
  induction steps generalizing e c with
  | nil => rfl
  | cons step rest ih =>
    cases step with
    | notify method params =>
      simp only [advance]
      split
      · exact ih _ _
      · rfl
    | request method params =>
      have called := e.observers_call c now method params none
      simp only [advance]
      split
      next ok =>
        rw [ok] at called
        exact called
      next ok =>
        rw [ok] at called
        split
        · exact called
        · exact (ih _ _).trans called
        · exact called
    | fail reason => rfl
    | sleep d =>
      simp only [advance]
      split
      · exact ih _ _
      · rfl

theorem observers_poll (now : Nat) (e : Engine) (c : Channel) (run : HookRun) :
    (run.poll now e c).1.observers = e.observers := by
  unfold poll
  split
  · split
    · rfl
    · exact observers_advance _ _ _ _
    · rfl
  · split
    · exact observers_advance _ _ _ _
    · rfl

end HookRun

namespace HookGroup

theorem observers_start (now : Nat) (e : Engine) (c : Channel) (hooks : List Hook) :
    (start now e c hooks).1.observers = e.observers := by
  have members : ∀ (rule : HookRule) (started : List HookProgress),
      (startMembers rule now e c started hooks).1.observers = e.observers := by
    intro rule
    induction hooks generalizing e c with
    | nil => exact fun _ => rfl
    | cons hook others ih =>
      intro started
      simp only [startMembers]
      split
      · exact (ih _ _ _).trans (HookRun.observers_advance now e c hook)
      · rfl
  exact members _ []

theorem observers_poll (now : Nat) (e : Engine) (c : Channel) (g : HookGroup) :
    (g.poll now e c).1.observers = e.observers := by
  have along : ∀ (schedule : List Nat) (members : List HookProgress),
      (pollMembers g.rule now e c members schedule).1.observers = e.observers := by
    intro schedule
    induction schedule generalizing e c with
    | nil => exact fun _ => rfl
    | cons i rest ih =>
      intro members
      simp only [pollMembers]
      split
      next run _ =>
        split
        · exact (ih _ _ _).trans (HookRun.observers_poll now e c run)
        · rfl
      · exact ih _ _ _
  exact along _ _

end HookGroup

def Command.acts : Command → List Act
  | .openDocument d => [.opened d]
  | .closeDocument uri => [.closed uri]
  | .onNotification method handler => [.handled method handler]
  | .receive (.notification n) => [.noticed n]
  | .publish p => [.published p]
  | _ => []

/-- The acts of a deed: a start brings the diagnostics handler, and a running session takes note of all
notifications that came in. -/
def Deed.acts (a : Attachment) : Deed → List Act
  | .start =>
    if a.session.stage = .uninitialized then [.handled Method.publishDiagnostics .diagnostics] else []
  | .perform command => command.acts
  | .go .notices =>
    match a.admitted with
    | some (i,.running _) =>
      (a.session.channel.inbound.notifications.buffered i.notifications).map .noticed
    | _ => []
  | _ => []

namespace Session

theorem display_eq {s t : Session} (bridge : t.bridge = s.bridge)
    (observers : t.engine.observers = s.engine.observers) (surface : t.surface = s.surface)
    (journal : t.journal = s.journal) : t.display = s.display := by
  rw [display,bridge,observers,surface,journal,display]

theorem publish_setNotifications (s : Session) (f : Fanout Notification) (p : Wire.Publication) :
    (s.setNotifications f).publish p = (s.publish p).setNotifications f := by
  unfold publish
  cases diagnosed : s.bridge.diagnose p with
  | none => simp only [setNotifications,diagnosed]
  | some update =>
    simp only [setNotifications,diagnosed]
    rfl

theorem handleNotification_setNotifications (s : Session) (f : Fanout Notification)
    (n : Notification) :
    (s.setNotifications f).handleNotification n = (s.handleNotification n).setNotifications f := by
  have engine : (s.setNotifications f).engine = s.engine := rfl
  unfold handleNotification
  rw [engine]
  cases s.engine.observers.lookup n.method with
  | none => rfl
  | some handler =>
    cases handler with
    | observer name react => rfl
    | diagnostics =>
      dsimp only
      split
      · exact s.publish_setNotifications f _
      · rfl

theorem foldl_handleNotification_setNotifications (s : Session) (f : Fanout Notification)
    (items : List Notification) : items.foldl handleNotification (s.setNotifications f) =
      ((items.map .noticed).foldl act s).setNotifications f := by
  induction items generalizing s with
  | nil => rfl
  | cons n items ih =>
    rw [List.foldl_cons,handleNotification_setNotifications,ih]
    rfl

/-- The notifications of a subscriber are acts, one after another. -/
theorem display_takeNotifications (s : Session) (key : Nat) :
    (s.takeNotifications key).1.display =
      (((s.channel.inbound.notifications.buffered key).map .noticed).foldl act s).display := by
  simp only [takeNotifications,Fanout.drain]
  rw [foldl_handleNotification_setNotifications]
  rfl

theorem display_takeListened (s : Session) : s.takeListened.1.display = s.display := by
  simp [takeListened,record,display,Event.update?,setRequests]

theorem display_settleReply (s : Session) (reply : Option DelayedReply) :
    (s.settleReply reply).1.display = s.display := by
  obtain ⟨_,_,settled⟩ | ⟨_,settled,_⟩ := s.settleReply_cases reply
  · rw [settled]
  · rw [settled]
    rfl

theorem display_handleRequest (s : Session) (r : Request) :
    (s.handleRequest r).1.display = s.display := by
  obtain ⟨_,handled,_⟩ | ⟨_,handled,_⟩ := s.handleRequest_cases r
  · rw [handled]
    rfl
  · rw [handled]

end Session

namespace Client

theorem display_startCall (c : Client) (name method : String) (params : Option Json)
    (cancellable : Bool) (task : Call → Task) :
    (c.startCall name method params cancellable task).session.display = c.session.display := by
  have observers := c.session.engine.observers_call c.channel c.session.clock method params
    (if cancellable then some name else none)
  unfold startCall
  dsimp only
  split
  next called =>
    rw [called] at observers
    exact Session.display_eq rfl observers rfl rfl
  next called =>
    rw [called] at observers
    exact Session.display_eq rfl observers rfl rfl

theorem display_release (c : Client) (registration : Option Registration) :
    (c.release registration).session.display = c.session.display := by
  cases registration with
  | none => rfl
  | some registration => cases registration <;> rfl

theorem display_sendResult (c : Client) (result : Except CallError Channel) :
    (c.sendResult result).1.session.display = c.session.display := by
  cases result <;> rfl

theorem display_write (c : Client) (name : String) (m : Message) :
    (c.write name m).session.display = c.session.display := by
  unfold write
  split <;> rfl

/-- Commands other than a start reach the display by their acts. -/
theorem display_perform (c : Client) {command : Command} (other : command.isStart = false) :
    (c.perform command).1.session.display =
      (command.acts.foldl Session.act c.session).display := by
  cases command with
  | request name method params expected cancellable =>
    exact c.display_startCall name method params cancellable _
  | notify method params => exact c.display_sendResult _
  | receive m =>
    cases m with
    | response r => rfl
    | notification n => rfl
    | request r =>
      have handled := c.session.display_handleRequest r
      simp only [perform,receive,Command.acts,List.foldl_nil]
      split
      next same =>
        rw [same] at handled
        exact handled
      next same =>
        rw [same] at handled
        exact handled
  | send m => exact c.display_sendResult _
  | write name m => exact c.display_write name m
  | losePeer =>
    simp only [perform]
    split <;> rfl
  | peerBytes bytes =>
    simp only [perform]
    split <;> rfl
  | addLanguage language =>
    simp only [perform,Session.addLanguage,Bridge.addLanguage]
    by_cases known : c.session.bridge.isRegistered language.id
    · simp only [known,if_true]
      rfl
    · simp [known,Session.display,Session.record,Event.update?,Surface.register,Command.acts]
  | provide name language query cancellable =>
    simp only [perform,provide]
    split
    · exact c.display_startCall _ _ _ _ _
    · rfl
  | start name => cases other
  | listen name react =>
    exact display_release { c with session := { c.session with
      reader := (c.session.reader.listen name react).2 } } (c.registrations.lookup name)
  | readerListen name react =>
    exact display_release { c with reader := (c.reader.listen name react).2 }
      (c.registrations.lookup name)
  | dispose name => exact c.display_release _
  | _ => rfl

theorem display_pollTask (c : Client) {task : Task} (other : task.isSession = false) :
    (c.pollTask task).1.session.display = c.session.display := by
  cases task with
  | request call expected =>
    simp only [pollTask]
    split <;> rfl
  | provide call query =>
    simp only [pollTask]
    split <;> rfl
  | write receipt =>
    simp only [pollTask]
    split <;> rfl
  | reply reply =>
    have settled := c.session.display_settleReply (some reply)
    simp only [pollTask]
    split
    next same =>
      rw [same] at settled
      exact settled
    next same =>
      rw [same] at settled
      exact settled
  | session run => cases other
  | wait target =>
    simp only [pollTask]
    split <;> rfl
  | listening => rfl

theorem display_attend {c : Client} (detached : c.Detached) (place : Nat) :
    (c.attend place).session.display = c.session.display := by
  unfold attend
  split
  · rfl
  next name task found =>
    have same := c.display_pollTask (detached _ (List.mem_of_getElem? found))
    split
    all_goals
      next polled =>
        rw [polled] at same
        exact same

theorem display_pumpIn (c : Client) : c.pumpIn.session.display = c.session.display := by
  unfold pumpIn
  split <;> rfl

theorem display_flush (c : Client) : c.flush.1.session.display = c.session.display := by
  unfold flush
  split <;> rfl

end Client

namespace Attachment

variable {a : Attachment} {i : Inboxes}

theorem display_ask (a : Attachment) (i : Inboxes) :
    (a.ask i).session.display = a.session.display := by
  have observers := a.session.engine.observers_call a.session.channel a.session.clock
    Method.handshake (some (Session.handshakeParams a.session.engine.profile)) none
  unfold ask
  split
  all_goals
    next called =>
      rw [Session.ask] at called
      rw [called] at observers
      exact Session.display_eq rfl observers rfl rfl

theorem display_hear (a : Attachment) (i : Inboxes) (call : Call) :
    (a.hear i call).session.display = a.session.display := by
  unfold hear
  split
  · rfl
  · split <;> rfl

theorem display_announce (a : Attachment) (i : Inboxes) :
    (a.announce i).session.display = a.session.display := by
  unfold announce
  split <;> rfl

theorem display_judge (a : Attachment) (i : Inboxes) (group : HookGroup) :
    (a.judge i group).session.display = a.session.display := by
  unfold judge
  split <;> rfl

theorem display_serve (a : Attachment) (i : Inboxes) (reply : Option DelayedReply) :
    (a.serve i reply).session.display = a.session.display := by
  obtain ⟨_,_,serves,_⟩ := a.session.takeRequests_spec i.requests reply
  exact Session.display_eq serves.alike.bridge (congrArg Engine.observers serves.alike.engine)
    serves.surface serves.journal

theorem display_finish (a : Attachment) (i : Inboxes) (reply : Option DelayedReply) :
    (a.finish i reply).session.display = a.session.display := by
  unfold finish
  split <;> rfl

/-- Of all strides only the notices reach the display. -/
theorem display_advance {stride : Stride} (other : stride ≠ .notices) (a : Attachment) (i : Inboxes)
    (p : Point) : (a.advance i p stride).session.display = a.session.display := by
  unfold advance
  split
  · exact a.display_ask i
  · exact a.display_hear i _
  · exact a.display_announce i
  · exact Session.display_eq rfl (HookGroup.observers_start _ _ _ _) rfl rfl
  · exact Session.display_eq rfl (HookGroup.observers_poll _ _ _ _) rfl rfl
  · exact a.display_judge i _
  · exact absurd rfl other
  · exact a.display_serve i _
  · exact a.session.display_takeListened
  · exact a.display_finish i _
  · rfl

theorem display_notices (a : Attachment) : (a.step (.go .notices)).session.display =
    (((Deed.go .notices).acts a).foldl Session.act a.session).display := by
  cases admitted : a.admitted with
  | none => simp [step,admitted,Deed.acts]
  | some entry =>
    obtain ⟨i,p⟩ := entry
    rw [step_go admitted]
    simp only [Deed.acts,admitted]
    cases p with
    | running reply => exact a.session.display_takeNotifications i.notifications
    | _ => rfl

/-- The display moves by the acts of a deed and by nothing else. -/
theorem display_step {a : Attachment} (detached : a.client.Detached) (d : Deed) :
    (a.step d).session.display = ((d.acts a).foldl Session.act a.session).display := by
  cases d with
  | start =>
    by_cases fresh : a.session.stage = .uninitialized
    · simp only [step,Deed.acts,fresh,if_true]
      rfl
    · simp only [step,Deed.acts,fresh,if_false]
      rfl
  | go stride =>
    by_cases notices : stride = .notices
    · subst notices
      exact a.display_notices
    · have silent : (Deed.go stride).acts a = [] := by
        cases stride with
        | notices => exact absurd rfl notices
        | _ => rfl
      rw [silent]
      cases admitted : a.admitted with
      | none => simp [step,admitted]
      | some entry =>
        rw [step_go admitted]
        exact display_advance notices a entry.1 entry.2
  | perform command =>
    simp only [step]
    split
    next start =>
      cases command with
      | start name => rfl
      | _ => cases start
    next other => exact a.client.display_perform (by simpa using other)
  | attend place => exact Client.display_attend detached place
  | pump => exact a.client.display_pumpIn
  | flush => exact a.client.display_flush

end Attachment

def Act.history (moments : List Moment) : List Act := moments.flatMap fun m => m.deed.acts m.before

structure Displayed (owner : String) (start : Attachment) (deeds : List Deed) : Prop where
  shows : (start.run deeds).session.Shows owner (Act.history (start.chronicle deeds))
  undisturbed : ∀ m ∈ start.chronicle deeds, ∀ uri,
    (∀ act ∈ m.deed.acts m.before, act.subject? ≠ some uri) →
    m.after.session.surface.markers? uri = m.before.session.surface.markers? uri ∧
      m.after.session.bridge.document? uri = m.before.session.bridge.document? uri

namespace Attachment

theorem shows_run (profile : Profile) (link : Option Link) (deeds : List Deed) :
    ((opening profile link).run deeds).session.Shows profile.owner
      (Act.history ((opening profile link).chronicle deeds)) := by
  induction deeds using List.reverseRecOn with
  | nil =>
    have empty : (opening profile link).session.bridge.documents = [] := rfl
    exact ⟨by simp [empty],fun _ => rfl,fun _ => rfl,rfl,rfl,fun _ => rfl⟩
  | append_singleton deeds d ih =>
    have detached := (run_standing profile link deeds).1.detached
    rw [run_snoc,chronicle_snoc,Act.history,List.flatMap_append,List.flatMap_singleton]
    exact (ih.foldl _).congr (display_step detached d)

/-- In every run of a session, the markers of a document show the last publication that found it
open. -/
theorem run_displayed (profile : Profile) (link : Option Link) (deeds : List Deed) :
    Displayed profile.owner (opening profile link) deeds where
  shows := shows_run profile link deeds
  undisturbed m member uri apart := by
    obtain ⟨past,future,split⟩ := List.append_of_mem member
    obtain ⟨early,d,rfl,rfl⟩ := chronicle_split split
    have before := shows_run profile link early
    have after := shows_run profile link (early ++ [d])
    rw [run_snoc,chronicle_snoc,Act.history,List.flatMap_append,List.flatMap_singleton] at after
    obtain ⟨latest,held⟩ := Act.elsewhere (Act.history ((opening profile link).chronicle early)) apart
    constructor
    · rw [after.markers,before.markers]
      exact congrArg _ latest
    · rw [after.documents,before.documents]
      exact held

end Attachment

end LanguageBridge
