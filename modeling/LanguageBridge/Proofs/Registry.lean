import LanguageBridge.Proofs.Standing

/-! The languages of a client. A language counts from its first addition on, the surface is told about it
once, and nothing is asked of the server about a language that was not added. -/
namespace LanguageBridge

def Event.language? : Event → Option Editor.Language
  | .registered language => some language
  | _ => none

def Outcome.unknown? : Outcome → Option String
  | .failed (.unknownLanguage id) => some id
  | _ => none

/-- A call that fails says nothing about languages. -/
theorem Outcome.unknown?_ofCall {α : Type} {success : α → Outcome}
    (fine : ∀ a, (success a).unknown? = none) (result : Except CallError α) :
    (Outcome.ofCall success result).unknown? = none := by
  cases result with
  | ok a => exact fine a
  | error e => rfl

namespace Command

def added? : Command → Option Editor.Language
  | .addLanguage language => some language
  | _ => none

def refusal? (known : List String) : Command → Option (String × String)
  | .provide name language _ _ => if language ∈ known then none else some (name,language)
  | _ => none

end Command

namespace Deed

def added? : Deed → Option Editor.Language
  | .perform command => command.added?
  | _ => none

def refusal? (known : List String) : Deed → Option (String × String)
  | .perform command => command.refusal? known
  | _ => none

def added (deeds : List Deed) : List String := (deeds.filterMap added?).map Editor.Language.id

/-- What is asked about languages that were not added before, after the deeds `past`. -/
def refusals (past : List Deed) : List Deed → List (String × String)
  | [] => []
  | d :: rest => (d.refusal? (added past)).toList ++ refusals (past ++ [d]) rest

theorem added_snoc (deeds : List Deed) (d : Deed) :
    added (deeds ++ [d]) = added deeds ++ (d.added?.map Editor.Language.id).toList := by
  cases found : d.added? <;> simp [added,found]

theorem refusals_snoc (past deeds : List Deed) (d : Deed) :
    refusals past (deeds ++ [d]) =
      refusals past deeds ++ (d.refusal? (added (past ++ deeds))).toList := by
  induction deeds generalizing past with
  | nil => simp [refusals]
  | cons first deeds ih => simp [refusals,ih]

theorem refusal?_eq {known others : List String} (d : Deed) (same : ∀ id, id ∈ known ↔ id ∈ others) :
    d.refusal? known = d.refusal? others := by
  cases d with
  | perform command =>
    cases command with
    | provide name language query cancellable => simp only [refusal?,Command.refusal?,same]
    | _ => rfl
  | _ => rfl

end Deed

structure Roster where
  known : List String
  shown : List String
  told : List Editor.Language

def Roster.enter (r : Roster) (language : Editor.Language) : Roster :=
  if language.id ∈ r.known then r
  else ⟨r.known ++ [language.id],r.shown ++ [language.id],r.told ++ [language]⟩

namespace Roster

/-- All three hold the ids of `added`, each once and in the order in which they came first. -/
structure Lists (r : Roster) (added : List String) : Prop where
  known : r.known = added.eraseDups
  shown : r.shown = added.eraseDups
  told : r.told.map Editor.Language.id = added.eraseDups

theorem eraseDups_snoc (ids : List String) (id : String) :
    (ids ++ [id]).eraseDups = if id ∈ ids then ids.eraseDups else ids.eraseDups ++ [id] := by
  rw [List.eraseDups_append]
  by_cases old : id ∈ ids
  · simp [List.removeAll,old]
  · simp [List.removeAll,old,List.eraseDups_cons]

variable {r : Roster} {added : List String}

theorem Lists.mem_known (lists : r.Lists added) (id : String) : id ∈ r.known ↔ id ∈ added := by
  rw [lists.known,List.mem_eraseDups]

theorem Lists.enter (lists : r.Lists added) (language : Editor.Language) :
    (r.enter language).Lists (added ++ [language.id]) := by
  have old := lists.mem_known language.id
  unfold Roster.enter
  by_cases known : language.id ∈ added
  · rw [if_pos (old.mpr known)]
    have same : (added ++ [language.id]).eraseDups = added.eraseDups := by
      rw [eraseDups_snoc,if_pos known]
    exact ⟨lists.known.trans same.symm,lists.shown.trans same.symm,lists.told.trans same.symm⟩
  · rw [if_neg (mt old.mp known)]
    have longer : (added ++ [language.id]).eraseDups = added.eraseDups ++ [language.id] := by
      rw [eraseDups_snoc,if_neg known]
    refine ⟨?_,?_,?_⟩
    · rw [longer,lists.known]
    · rw [longer,lists.shown]
    · rw [longer,List.map_append,lists.told]
      rfl

end Roster

namespace Session

def roster (s : Session) : Roster :=
  ⟨s.bridge.languages,s.surface.languages,s.journal.filterMap Event.language?⟩

theorem roster_addLanguage (s : Session) (language : Editor.Language) :
    (s.addLanguage language).2.roster = s.roster.enter language := by
  by_cases known : language.id ∈ s.bridge.languages
  · simp [addLanguage,Bridge.addLanguage,Bridge.isRegistered,Roster.enter,roster,known]
  · simp [addLanguage,Bridge.addLanguage,Bridge.isRegistered,Roster.enter,roster,known,record,
      Surface.register,Event.language?]

theorem roster_publish (s : Session) (p : Wire.Publication) : (s.publish p).roster = s.roster := by
  unfold publish
  split
  · rfl
  · simp [roster,record,Surface.apply,Event.language?]

theorem roster_invoke (s : Session) (call : NotificationHandler × Json) :
    (s.invoke call).roster = s.roster := by
  obtain ⟨handler,params⟩ := call
  cases handler with
  | observer name react => simp [invoke,roster,record,Event.language?]
  | diagnostics =>
    simp only [invoke]
    split
    · exact s.roster_publish _
    · rfl

theorem roster_handleNotification (s : Session) (n : Notification) :
    (s.handleNotification n).roster = s.roster := by
  rw [handleNotification_eq]
  cases s.engine.addressee n with
  | none => rfl
  | some call => exact s.roster_invoke call

theorem roster_foldl_handleNotification (items : List Notification) (s : Session) :
    (items.foldl handleNotification s).roster = s.roster := by
  induction items generalizing s with
  | nil => rfl
  | cons n items ih => exact (ih _).trans (s.roster_handleNotification n)

theorem roster_takeNotifications (s : Session) (key : Nat) :
    (s.takeNotifications key).1.roster = s.roster :=
  roster_foldl_handleNotification _ _

theorem roster_takeListened (s : Session) : s.takeListened.1.roster = s.roster := by
  simp [takeListened,record,roster,Event.language?,setRequests]

theorem roster_settleReply (s : Session) (reply : Option DelayedReply) :
    (s.settleReply reply).1.roster = s.roster := by
  obtain ⟨_,_,settled⟩ | ⟨_,settled,_⟩ := s.settleReply_cases reply
  · rw [settled]
  · rw [settled]
    rfl

theorem roster_handleRequest (s : Session) (r : Request) :
    (s.handleRequest r).1.roster = s.roster := by
  obtain ⟨_,handled,_⟩ | ⟨_,handled,_⟩ := s.handleRequest_cases r
  · rw [handled]
    rfl
  · rw [handled]

theorem roster_takeRequests (s : Session) (key : Nat) (reply : Option DelayedReply) :
    (s.takeRequests key reply).1.roster = s.roster := by
  obtain ⟨_,_,serves,_⟩ := s.takeRequests_spec key reply
  rw [roster,serves.alike.bridge,serves.surface,serves.journal,roster]

end Session

namespace Query

theorem readResult_map_ne {α : Type} (capability : String) (read : Reads α) (j : Json)
    (f : Option α → Answer) (id : String) :
    (readResult capability read j).map f ≠ .error (.unknownLanguage id) := by
  unfold readResult
  split
  · exact fun same => by cases same
  · exact fun same => by cases same

/-- No answer to a query says that its language was not added. -/
theorem conclude_ne_unknown (q : Query) (result : Except CallError Json) (id : String) :
    q.conclude result ≠ .error (.unknownLanguage id) := by
  cases result with
  | ok j =>
    cases q with
    | prepareRename d p => exact fun same => by cases same
    | completion d p => exact fun same => by cases same
    | _ => exact readResult_map_ne _ _ _ _ id
  | error e =>
    simp only [conclude]
    split <;> exact fun same => by cases same

end Query

namespace Client

def refusals (c : Client) : List (String × String) :=
  c.finished.filterMap fun f => f.2.unknown?.map (f.1,·)

def ledger (c : Client) : Roster × List (String × String) := (c.session.roster,c.refusals)

theorem ledger_eq {c d : Client} (roster : d.session.roster = c.session.roster)
    (finished : d.finished = c.finished) : d.ledger = c.ledger := by
  rw [ledger,roster,refusals,finished,ledger,refusals]

theorem ledger_finish (c : Client) (name : String) {outcome : Outcome}
    (other : outcome.unknown? = none) : (c.finish name outcome).ledger = c.ledger := by
  simp [ledger,refusals,finish,other]

theorem ledger_startCall (c : Client) (name method : String) (params : Option Json)
    (cancellable : Bool) (task : Call → Task) :
    (c.startCall name method params cancellable task).ledger = c.ledger := by
  unfold startCall
  dsimp only
  split
  · exact ledger_eq rfl rfl
  · exact ledger_finish _ name rfl

theorem ledger_release (c : Client) (registration : Option Registration) :
    (c.release registration).ledger = c.ledger := by
  cases registration with
  | none => rfl
  | some registration => cases registration <;> rfl

theorem ledger_sendResult (c : Client) (result : Except CallError Channel) :
    (c.sendResult result).1.ledger = c.ledger := by
  cases result <;> rfl

theorem ledger_write (c : Client) (name : String) (m : Message) :
    (c.write name m).ledger = c.ledger := by
  unfold write
  split
  · exact ledger_finish _ name rfl
  · exact ledger_finish _ name rfl
  · rfl

theorem ledger_receive (c : Client) (m : Message) : (c.receive m).ledger = c.ledger := by
  cases m with
  | response r => rfl
  | notification n => exact ledger_eq (c.session.roster_handleNotification n) rfl
  | request r =>
    have handled := c.session.roster_handleRequest r
    simp only [receive]
    split
    next same =>
      rw [same] at handled
      exact ledger_eq handled rfl
    next same =>
      rw [same] at handled
      exact ledger_eq handled rfl

/-- Asking about a language that is not known comes to nothing but a failure. -/
theorem perform_provide (c : Client) (name language : String) (query : Query) (cancellable : Bool) :
    (c.perform (.provide name language query cancellable)).1 =
      if language ∈ c.session.bridge.languages then
        c.startCall name query.method (some query.params) cancellable (.provide · query)
      else c.finish name (.failed (.unknownLanguage language)) := by
  simp [perform,provide,Bridge.isRegistered]

/-- Commands that neither start the session nor are about a language. -/
theorem ledger_perform_other (c : Client) {command : Command} (other : command.isStart = false)
    (adds : command.added? = none)
    (asks : ∀ name language query cancellable, command ≠ .provide name language query cancellable) :
    (c.perform command).1.ledger = c.ledger := by
  cases command with
  | request name method params expected cancellable => exact c.ledger_startCall _ _ _ _ _
  | notify method params => exact c.ledger_sendResult _
  | receive m => exact c.ledger_receive m
  | send m => exact c.ledger_sendResult _
  | write name m => exact c.ledger_write name m
  | losePeer =>
    simp only [perform]
    split <;> rfl
  | peerBytes bytes =>
    simp only [perform]
    split <;> rfl
  | addLanguage language => cases adds
  | publish p => exact ledger_eq (c.session.roster_publish p) rfl
  | provide name language query cancellable => exact absurd rfl (asks _ _ _ _)
  | start name => cases other
  | listen name react =>
    exact ledger_release { c with session := { c.session with
      reader := (c.session.reader.listen name react).2 } } (c.registrations.lookup name)
  | readerListen name react =>
    exact ledger_release { c with reader := (c.reader.listen name react).2 }
      (c.registrations.lookup name)
  | dispose name => exact c.ledger_release _
  | _ => rfl

/-- Of all commands only additions and questions about unknown languages count. -/
theorem ledger_perform (c : Client) {command : Command} (other : command.isStart = false) :
    (c.perform command).1.ledger =
      (command.added?.toList.foldl Roster.enter c.session.roster,
        c.refusals ++ (command.refusal? c.session.bridge.languages).toList) := by
  cases command with
  | addLanguage language =>
    have entered := c.session.roster_addLanguage language
    simp only [perform,Command.added?,Command.refusal?,Option.toList_some,Option.toList_none,
      List.foldl_cons,List.foldl_nil,List.append_nil,ledger,entered]
    rfl
  | provide name language query cancellable =>
    rw [perform_provide]
    by_cases known : language ∈ c.session.bridge.languages
    · rw [if_pos known,ledger_startCall]
      simp [Command.added?,Command.refusal?,known,ledger]
    · rw [if_neg known]
      simp [Command.added?,Command.refusal?,known,ledger,finish,refusals,Outcome.unknown?]
  | _ =>
    rw [c.ledger_perform_other other rfl (by simp)]
    simp only [Command.added?,Command.refusal?,Option.toList_none,List.foldl_nil,List.append_nil]
    rfl

/-- No task that was begun fails because of an unknown language. -/
theorem unknown_pollTask (c : Client) {task : Task} (other : task.isSession = false)
    {outcome : Outcome} (ended : (c.pollTask task).2 = .finished outcome) :
    outcome.unknown? = none := by
  cases task with
  | request call expected =>
    simp only [pollTask] at ended
    split at ended <;> cases ended
    exact Outcome.unknown?_ofCall (fun _ => rfl) _
  | provide call query =>
    simp only [pollTask] at ended
    split at ended <;> cases ended
    next result _ =>
      cases concluded : query.conclude result with
      | ok answer => rfl
      | error e =>
        cases e with
        | unknownLanguage id => exact absurd concluded (query.conclude_ne_unknown result id)
        | _ => rfl
  | write receipt =>
    simp only [pollTask] at ended
    split at ended <;> cases ended
    exact Outcome.unknown?_ofCall (fun _ => rfl) _
  | reply reply =>
    simp only [pollTask] at ended
    split at ended <;> cases ended
  | session run => cases other
  | wait target =>
    simp only [pollTask] at ended
    split at ended <;> cases ended
    rfl
  | listening =>
    simp only [pollTask] at ended
    split at ended <;> cases ended
    rfl

theorem ledger_pollTask (c : Client) {task : Task} (other : task.isSession = false) :
    (c.pollTask task).1.ledger = c.ledger := by
  cases task with
  | request call expected =>
    simp only [pollTask]
    split <;> rfl
  | provide call query =>
    simp only [pollTask]
    split <;> rfl
  | write receipt =>
    simp only [pollTask]
    split <;> rfl
  | reply reply =>
    have settled := c.session.roster_settleReply (some reply)
    simp only [pollTask]
    split
    next same =>
      rw [same] at settled
      exact ledger_eq settled rfl
    next same =>
      rw [same] at settled
      exact ledger_eq settled rfl
  | session run => cases other
  | wait target =>
    simp only [pollTask]
    split <;> rfl
  | listening => rfl

theorem ledger_attend {c : Client} (detached : c.Detached) (place : Nat) :
    (c.attend place).ledger = c.ledger := by
  unfold attend
  split
  · rfl
  next name task found =>
    have other := detached _ (List.mem_of_getElem? found)
    have same := c.ledger_pollTask other
    have fine : ∀ outcome, (c.pollTask task).2 = .finished outcome → outcome.unknown? = none :=
      fun _ ended => c.unknown_pollTask other ended
    split
    next polled =>
      rw [polled] at same
      exact same
    next d outcome polled =>
      rw [polled] at same fine
      exact (d.ledger_finish name (fine outcome rfl)).trans same
    next polled =>
      rw [polled] at same
      exact same

theorem ledger_pumpIn (c : Client) : c.pumpIn.ledger = c.ledger := by
  unfold pumpIn
  split <;> rfl

theorem ledger_flush (c : Client) : c.flush.1.ledger = c.ledger := by
  unfold flush
  split <;> rfl

end Client

namespace Attachment

variable {a b : Attachment}

/-- A session under way has nothing to do with languages. -/
theorem Turn.ledger_eq {d : Deed} (turn : a.Turn d b) (own : d.isOwn = true) :
    b.client.ledger = a.client.ledger := by
  cases turn with
  | aside other => simp [other] at own
  | noticed => exact Client.ledger_eq (a.session.roster_takeNotifications _) rfl
  | served => exact Client.ledger_eq (a.session.roster_takeRequests _ _) rfl
  | listened => exact Client.ledger_eq a.session.roster_takeListened rfl
  | _ => rfl

/-- What one deed does to the languages of a client. -/
theorem ledger_step (detached : a.client.Detached) (d : Deed) :
    (a.step d).client.ledger =
      (d.added?.toList.foldl Roster.enter a.session.roster,
        a.client.refusals ++ (d.refusal? a.session.bridge.languages).toList) := by
  have quiet : (a.session.roster,a.client.refusals ++ []) = a.client.ledger := by
    rw [List.append_nil]
    rfl
  cases d with
  | start => exact ((step_turn detached .start).ledger_eq rfl).trans quiet.symm
  | go stride => exact ((step_turn detached (.go stride)).ledger_eq rfl).trans quiet.symm
  | perform command =>
    simp only [step]
    split
    next start =>
      cases command with
      | start name => exact quiet.symm
      | _ => cases start
    next other => exact a.client.ledger_perform (by simpa using other)
  | attend place => exact (Client.ledger_attend detached place).trans quiet.symm
  | pump => exact a.client.ledger_pumpIn.trans quiet.symm
  | flush => exact a.client.ledger_flush.trans quiet.symm

theorem ledger_run (profile : Profile) (link : Option Link) (deeds : List Deed) :
    let a := (opening profile link).run deeds
    a.session.roster.Lists (Deed.added deeds) ∧ a.client.refusals = Deed.refusals [] deeds := by
  induction deeds using List.reverseRecOn with
  | nil => exact ⟨⟨rfl,rfl,rfl⟩,rfl⟩
  | append_singleton deeds d ih =>
    obtain ⟨lists,refused⟩ := ih
    have detached := (run_standing profile link deeds).1.detached
    obtain ⟨roster,more⟩ := Prod.mk.inj (ledger_step detached d)
    rw [run_snoc,Deed.refusals_snoc,List.nil_append,Deed.added_snoc]
    constructor
    · rw [session,roster]
      cases added : d.added? with
      | none => simpa using lists
      | some language => exact lists.enter language
    · rw [more,refused]
      congr 2
      apply d.refusal?_eq
      exact lists.mem_known

end Attachment

theorem Engine.nextId_call (e : Engine) (c : Channel) (now : Nat) (method : String)
    (params : Option Json) (token : Option String) :
    (e.call c now method params token).1.nextId = e.nextId + 1 := by
  unfold call
  dsimp only
  split
  · rfl
  · split <;> rfl

theorem Client.nextId_startCall (c : Client) (name method : String) (params : Option Json)
    (cancellable : Bool) (task : Call → Task) :
    (c.startCall name method params cancellable task).session.engine.nextId =
      c.session.engine.nextId + 1 := by
  have used := c.session.engine.nextId_call c.channel c.session.clock method params
    (if cancellable then some name else none)
  unfold startCall
  dsimp only
  split
  all_goals
    next called =>
      rw [called] at used
      exact used

theorem Client.perform_addLanguage (c : Client) (language : Editor.Language) :
    (c.perform (.addLanguage language)).2 = .language language.id := by
  simp only [perform,Session.addLanguage]
  split <;> rfl

namespace Attachment

/-- In every run, the surface has exactly the languages that were added, each once and in the order of
first additions. What is asked about a language fails as unknown if and only if the language was not added
before, and then no id is used up, nothing is written and nobody waits. -/
theorem run_registered (profile : Profile) (link : Option Link) (deeds : List Deed) :
    let a := (opening profile link).run deeds
    a.session.roster.Lists (Deed.added deeds) ∧
      a.client.refusals = Deed.refusals [] deeds ∧
      (∀ language, (a.client.perform (.addLanguage language)).2 = .language language.id) ∧
      ∀ name language query cancellable,
        let b := (a.client.perform (.provide name language query cancellable)).1
        (language ∉ Deed.added deeds →
          b.session = a.session ∧ b.tasks = a.client.tasks ∧
            b.finished = a.client.finished ++ [(name,.failed (.unknownLanguage language))]) ∧
        (language ∈ Deed.added deeds →
          b.session.engine.nextId = a.session.engine.nextId + 1 ∧
            b.refusals = a.client.refusals) := by
  intro a
  obtain ⟨lists,refused⟩ := ledger_run profile link deeds
  have old : ∀ language, language ∈ a.client.session.bridge.languages ↔ language ∈ Deed.added deeds :=
    lists.mem_known
  refine ⟨lists,refused,a.client.perform_addLanguage,?_⟩
  intro name language query cancellable b
  have performed : b = _ := a.client.perform_provide name language query cancellable
  constructor
  · intro unknown
    rw [performed,if_neg (mt (old language).mp unknown)]
    exact ⟨rfl,rfl,rfl⟩
  · intro known
    rw [performed,if_pos ((old language).mpr known)]
    refine ⟨a.client.nextId_startCall _ _ _ _ _,?_⟩
    exact (Prod.mk.inj (a.client.ledger_startCall _ _ _ _ _)).2

end Attachment

end LanguageBridge
