import LanguageBridge.Proofs.Lookup
import LanguageBridge.Session
import Mathlib.Data.List.Induction

/-! What a session displays. Documents open and close, handlers change, and publications come in; what
is displayed after all that is said on the history of these acts alone. -/
namespace LanguageBridge

inductive Act where
  | opened (d : Editor.Document)
  | closed (uri : String)
  | handled (method : String) (handler : NotificationHandler)
  | noticed (n : Notification)
  | published (p : Wire.Publication)

namespace Act

def holds (uri : String) : Act → Option (Option Editor.Document)
  | .opened d => if d.uri = uri then some (some d) else none
  | .closed other => if other = uri then some none else none
  | _ => none

def handles (method : String) : Act → Option NotificationHandler
  | .handled other handler => if other = method then some handler else none
  | _ => none

/-- The document that is open under a uri: the last act about the uri tells. -/
def held (past : List Act) (uri : String) : Option Editor.Document :=
  (past.reverse.findSome? (holds uri)).join

def handler? (past : List Act) (method : String) : Option NotificationHandler :=
  past.reverse.findSome? (handles method)

/-- The publication that an act brings after its past. A notification brings one if the diagnostics
handler takes it and can read it. -/
def publication? (past : List Act) : Act → Option Wire.Publication
  | .published p => some p
  | .noticed n =>
    match handler? past n.method with
    | some .diagnostics => (Wire.Publication.read (n.params.getD .null)).toOption
    | _ => none
  | _ => none

def applies (past : List Act) (act : Act) : Option (Editor.Document × Wire.Publication) :=
  (act.publication? past).bind fun p => (held past p.uri).map (·,p)

def applied (past : List Act) : List Act → List (Editor.Document × Wire.Publication)
  | [] => []
  | act :: rest => (act.applies past).toList ++ applied (past ++ [act]) rest

def latest (acts : List Act) (uri : String) : Option Wire.Publication :=
  ((applied [] acts).map Prod.snd).reverse.find? (·.uri = uri)

theorem applied_snoc (past acts : List Act) (act : Act) :
    applied past (acts ++ [act]) = applied past acts ++ (act.applies (past ++ acts)).toList := by
  induction acts generalizing past with
  | nil => simp [applied]
  | cons first acts ih => simp [applied,ih]

theorem latest_snoc (acts : List Act) (act : Act) (uri : String) :
    latest (acts ++ [act]) uri =
      (((act.applies acts).map Prod.snd).filter (·.uri = uri)).or (latest acts uri) := by
  cases applies : act.applies acts with
  | none => simp [latest,applied_snoc,applies]
  | some found => by_cases same : found.2.uri = uri <;>
      simp [latest,applied_snoc,applies,same,Option.filter]

theorem held_snoc (past : List Act) (act : Act) (uri : String) :
    held (past ++ [act]) uri = (act.holds uri).elim (held past uri) id := by
  cases told : act.holds uri <;> simp [held,told]

theorem handler?_snoc (past : List Act) (act : Act) (method : String) :
    handler? (past ++ [act]) method = (act.handles method).or (handler? past method) := by
  cases told : act.handles method <;> simp [handler?,told]

def subject? : Act → Option String
  | .opened d => some d.uri
  | .closed uri => some uri
  | .handled _ _ => none
  | .noticed n => (Wire.Publication.read (n.params.getD .null)).toOption.map (·.uri)
  | .published p => some p.uri

theorem subject_of_holds {act : Act} {uri : String} {d : Option Editor.Document}
    (told : act.holds uri = some d) : act.subject? = some uri := by
  cases act with
  | opened d =>
    by_cases same : d.uri = uri
    · rw [subject?,same]
    · simp [holds,same] at told
  | closed other =>
    by_cases same : other = uri
    · rw [subject?,same]
    · simp [holds,same] at told
  | _ => cases told

theorem subject_of_applies {act : Act} {past : List Act} {d : Editor.Document} {p : Wire.Publication}
    (applies : act.applies past = some (d,p)) : act.subject? = some p.uri := by
  obtain ⟨q,brings,found⟩ := Option.bind_eq_some_iff.mp applies
  obtain ⟨_,_,same⟩ := Option.map_eq_some_iff.mp found
  cases same
  cases act with
  | published r =>
    cases brings
    rfl
  | noticed n =>
    simp only [publication?] at brings
    split at brings
    · simp [subject?,brings]
    · cases brings
  | _ => cases brings

/-- Acts about other uris leave a uri alone. -/
theorem elsewhere {uri : String} (acts : List Act) {more : List Act}
    (apart : ∀ act ∈ more, act.subject? ≠ some uri) :
    latest (acts ++ more) uri = latest acts uri ∧ held (acts ++ more) uri = held acts uri := by
  induction more using List.reverseRecOn with
  | nil => simp
  | append_singleton more act ih =>
    obtain ⟨earlier,other⟩ := List.forall_mem_append.mp apart
    obtain ⟨shown,opened⟩ := ih earlier
    have other : act.subject? ≠ some uri := other act (by simp)
    rw [← List.append_assoc,latest_snoc,held_snoc,shown,opened]
    constructor
    · cases applies : act.applies (acts ++ more) with
      | none => rfl
      | some found =>
        have apart : found.2.uri ≠ uri := fun same => other (same ▸ subject_of_applies applies)
        simp [apart,Option.filter]
    · cases told : act.holds uri with
      | none => rfl
      | some d => exact absurd (subject_of_holds told) other

end Act

def Event.update? : Event → Option MarkerUpdate
  | .marked update => some update
  | _ => none

theorem Bridge.document?_openDocument (b : Bridge) (d : Editor.Document) (uri : String) :
    (b.openDocument d).document? uri = if d.uri = uri then some d else b.document? uri := by
  rw [document?,openDocument,Lookup.lookup_cons_eq_ite,Lookup.lookup_filter_ne]
  by_cases same : uri = d.uri
  · simp [same]
  · simp [same,Ne.symm same,document?]

theorem Bridge.document?_closeDocument (b : Bridge) (gone uri : String) :
    (b.closeDocument gone).document? uri = if gone = uri then none else b.document? uri := by
  rw [document?,closeDocument,Lookup.lookup_filter_ne]
  simp [eq_comm,document?]

theorem Engine.lookup_onNotification (e : Engine) (method other : String) (handler : NotificationHandler) :
    (e.onNotification method handler).observers.lookup other =
      if method = other then some handler else e.observers.lookup other := by
  rw [onNotification,Lookup.lookup_cons_eq_ite,Lookup.lookup_filter_ne]
  by_cases same : other = method
  · simp [same]
  · simp [same,Ne.symm same]

theorem Surface.markers?_apply (surface : Surface) (u : MarkerUpdate) (uri : String) :
    (surface.apply u).markers? uri =
      if u.document.uri = uri then some u.markers else surface.markers? uri := by
  rw [markers?,apply,Lookup.lookup_cons_eq_ite,Lookup.lookup_filter_ne]
  by_cases same : uri = u.document.uri
  · simp [same]
  · simp [same,Ne.symm same,markers?]

structure Display where
  documents : List (String × Editor.Document)
  owner : String
  observers : List (String × NotificationHandler)
  shown : List (String × List Editor.Marker)
  updates : List MarkerUpdate

namespace Session

def display (s : Session) : Display :=
  ⟨s.bridge.documents,s.bridge.owner,s.engine.observers,s.surface.shown,
    s.journal.filterMap Event.update?⟩

def act (s : Session) : Act → Session
  | .opened d => { s with bridge := s.bridge.openDocument d }
  | .closed uri => { s with bridge := s.bridge.closeDocument uri }
  | .handled method handler => { s with engine := s.engine.onNotification method handler }
  | .noticed n => s.handleNotification n
  | .published p => s.publish p

/-- What a session displays after a history of acts: each entry of the registry has the uri of its
document as key, the surface was called once for each publication that found its document open, and
shows for each uri what the last of these published. -/
structure Shows (s : Session) (owner : String) (acts : List Act) : Prop where
  keyed : ∀ e ∈ s.bridge.documents, e.1 = e.2.uri
  documents : ∀ uri, s.bridge.document? uri = Act.held acts uri
  handlers : ∀ method, s.engine.observers.lookup method = Act.handler? acts method
  owned : s.bridge.owner = owner
  updates : s.journal.filterMap Event.update? = (Act.applied [] acts).map fun (d,p) =>
    ⟨d,owner,p.diagnostics.map Wire.Diagnostic.toEditor⟩
  markers : ∀ uri, s.surface.markers? uri =
    (Act.latest acts uri).map fun p => p.diagnostics.map Wire.Diagnostic.toEditor

variable {s t : Session} {owner : String} {acts : List Act}

theorem Shows.congr (shows : s.Shows owner acts) (same : t.display = s.display) :
    t.Shows owner acts := by
  simp only [display,Display.mk.injEq] at same
  obtain ⟨documents,owned,observers,shown,updates⟩ := same
  refine ⟨documents ▸ shows.keyed,fun uri => ?_,fun method => ?_,owned.trans shows.owned,
    updates.trans shows.updates,fun uri => ?_⟩
  · rw [Bridge.document?,documents]
    exact shows.documents uri
  · rw [observers]
    exact shows.handlers method
  · rw [Surface.markers?,shown]
    exact shows.markers uri

/-- An act that publishes nothing for an open document. -/
theorem Shows.quiet (shows : s.Shows owner acts) {act : Act} (silent : act.applies acts = none)
    (keyed : ∀ e ∈ t.bridge.documents, e.1 = e.2.uri)
    (documents : ∀ uri, t.bridge.document? uri = (act.holds uri).elim (s.bridge.document? uri) id)
    (handlers : ∀ method, t.engine.observers.lookup method =
      (act.handles method).or (s.engine.observers.lookup method))
    (owned : t.bridge.owner = s.bridge.owner) (surface : t.surface = s.surface)
    (journal : t.journal = s.journal) : t.Shows owner (acts ++ [act]) where
  keyed := keyed
  documents uri := by rw [documents,shows.documents,Act.held_snoc]
  handlers method := by rw [handlers,shows.handlers,Act.handler?_snoc]
  owned := owned.trans shows.owned
  updates := by simp [journal,shows.updates,Act.applied_snoc,silent]
  markers uri := by simp [surface,shows.markers,Act.latest_snoc,silent]

/-- An act that says nothing about documents and handlers either. -/
theorem Shows.idle (shows : s.Shows owner acts) {act : Act} (silent : act.applies acts = none)
    (holds : ∀ uri, act.holds uri = none) (handles : ∀ method, act.handles method = none) :
    s.Shows owner (acts ++ [act]) := by
  refine shows.quiet silent shows.keyed (fun uri => ?_) (fun method => ?_) rfl rfl rfl
  · rw [holds uri]
    rfl
  · rw [handles method]
    rfl

/-- The document found under a uri has it. -/
theorem Shows.uri_eq (shows : s.Shows owner acts) {uri : String} {d : Editor.Document}
    (found : s.bridge.document? uri = some d) : d.uri = uri :=
  (shows.keyed _ (Lookup.mem_of_lookup found)).symm

theorem publish_closed {p : Wire.Publication} (closed : s.bridge.document? p.uri = none) :
    s.publish p = s := by
  simp [publish,Bridge.diagnose,closed]

theorem publish_open {p : Wire.Publication} {d : Editor.Document}
    (found : s.bridge.document? p.uri = some d) :
    s.publish p = { s with surface := s.surface.apply ⟨d,s.bridge.owner,p.markers⟩ }.record
      [.marked ⟨d,s.bridge.owner,p.markers⟩] := by
  simp [publish,Bridge.diagnose,found]

/-- A publication is shown if its document is open. -/
theorem Shows.publish (shows : s.Shows owner acts) {act : Act} {p : Wire.Publication}
    (brings : act.publication? acts = some p) (holds : ∀ uri, act.holds uri = none)
    (handles : ∀ method, act.handles method = none) :
    (s.publish p).Shows owner (acts ++ [act]) := by
  cases found : s.bridge.document? p.uri with
  | none =>
    have silent : act.applies acts = none := by
      simp [Act.applies,brings,← shows.documents,found]
    rw [publish_closed found]
    exact shows.idle silent holds handles
  | some d =>
    have applies : act.applies acts = some (d,p) := by
      simp [Act.applies,brings,← shows.documents,found]
    rw [publish_open found]
    refine ⟨shows.keyed,fun uri => ?_,fun method => ?_,shows.owned,?_,fun uri => ?_⟩
    · rw [Act.held_snoc,holds uri]
      exact shows.documents uri
    · rw [Act.handler?_snoc,handles method]
      exact shows.handlers method
    · simp [record,shows.updates,Act.applied_snoc,applies,Event.update?,shows.owned,
        Wire.Publication.markers]
    · rw [record,Surface.markers?_apply,Act.latest_snoc,applies,shows.uri_eq found]
      by_cases same : p.uri = uri
      · simp [same,Option.filter,Wire.Publication.markers]
      · simp [same,Option.filter,shows.markers]

/-- A notification is read and shown if the diagnostics handler takes it. -/
theorem Shows.notice (shows : s.Shows owner acts) (n : Notification) :
    (s.handleNotification n).Shows owner (acts ++ [.noticed n]) := by
  have brings : (Act.noticed n).publication? acts =
      match s.engine.observers.lookup n.method with
      | some .diagnostics => (Wire.Publication.read (n.params.getD .null)).toOption
      | _ => none := by
    rw [Act.publication?,shows.handlers]
  have idle (unread : (Act.noticed n).publication? acts = none) :
      s.Shows owner (acts ++ [.noticed n]) :=
    shows.idle (by simp [Act.applies,unread]) (fun _ => rfl) fun _ => rfl
  rw [handleNotification]
  cases taken : s.engine.observers.lookup n.method with
  | none => exact idle (by rw [brings,taken])
  | some handler =>
    rw [taken] at brings
    cases handler with
    | observer name react =>
      refine (idle brings).congr ?_
      simp [display,record,Event.update?]
    | diagnostics =>
      dsimp only at brings ⊢
      cases read : Wire.Publication.read (n.params.getD .null) with
      | error e => exact idle (by rw [brings,read]; rfl)
      | ok p => exact shows.publish (by rw [brings,read]; rfl) (fun _ => rfl) fun _ => rfl

/-- Every act has its effect on the display. -/
theorem Shows.act (shows : s.Shows owner acts) (act : Act) : (s.act act).Shows owner (acts ++ [act]) := by
  cases act with
  | opened d =>
    refine shows.quiet rfl (fun e member => ?_) (fun uri => ?_) (fun method => rfl) rfl rfl rfl
    · rcases List.mem_cons.mp member with rfl | old
      · rfl
      · exact shows.keyed e (List.mem_of_mem_filter old)
    · rw [Session.act,Bridge.document?_openDocument]
      by_cases same : d.uri = uri <;> simp [Act.holds,same]
  | closed gone =>
    refine shows.quiet rfl (fun e member => ?_) (fun uri => ?_) (fun method => rfl) rfl rfl rfl
    · exact shows.keyed e (List.mem_of_mem_filter member)
    · rw [Session.act,Bridge.document?_closeDocument]
      by_cases same : gone = uri <;> simp [Act.holds,same]
  | handled method handler =>
    refine shows.quiet rfl shows.keyed (fun uri => rfl) (fun other => ?_) rfl rfl rfl
    rw [Session.act,Engine.lookup_onNotification]
    by_cases same : method = other <;> simp [Act.handles,same]
  | noticed n => exact shows.notice n
  | published p => exact shows.publish rfl (fun _ => rfl) fun _ => rfl

theorem Shows.foldl (shows : s.Shows owner acts) (more : List Act) :
    (more.foldl Session.act s).Shows owner (acts ++ more) := by
  induction more generalizing s acts with
  | nil => simpa using shows
  | cons act more ih => simpa using ih (shows.act act)

end Session

end LanguageBridge
