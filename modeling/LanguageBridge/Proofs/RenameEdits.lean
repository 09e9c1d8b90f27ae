import LanguageBridge.Capability
import LanguageBridge.Proofs.Arrangement
import Mathlib.Data.List.Forall2

/-! What a rename does with listed changes. An entry is an edit of a document if it can be read as one, and
otherwise counts as an operation on files, which is passed over. So one edit that cannot be read takes
all edits of its entry with it, and nobody is told. -/
namespace LanguageBridge

/-- What can be read item by item can be read as a list. -/
theorem Reads.exists_values {α : Type} {read : Reads α} {items : List Json}
    (each : ∀ j ∈ items, ∃ a, read j = .ok a) : ∃ values : List α, items.map read = values.map .ok := by
  induction items with
  | nil => exact ⟨[],rfl⟩
  | cons j items ih =>
    rw [List.forall_mem_cons] at each
    obtain ⟨a,first⟩ := each.1
    obtain ⟨values,rest⟩ := ih each.2
    exact ⟨a :: values,by rw [List.map_cons,List.map_cons,first,rest]⟩

theorem Fields.ofMembers_optional_error {α : Type} {members : List (String × Json)} {name : String}
    {read : Reads α} {e : ReadError}
    (failed : Reads.nullable read ((members.lookup name).getD .null) = .error e) :
    (optional name read).ofMembers members = .error ⟨[(name,e)],[]⟩ := by
  cases found : members.lookup name with
  | none => simp [found,Reads.nullable] at failed
  | some j =>
    rw [found] at failed
    simp only [optional,one,found]
    rw [show Reads.nullable read j = .error e from failed]

namespace Wire

theorem VersionedDocument.part?_uri {j : Json} {d : VersionedDocument} (own : read j = .ok d) :
    j.part? 0 "uri" = some (.str d.uri) := by
  cases j with
  | obj members =>
    simp only [read,Reads.record,Fields.readMembers_ok,fields,Fields.ofMembers_seq,Fields.ofMembers_map,
      Fields.ofMembers_required,Reads.string_ok] at own
    obtain ⟨_,_,⟨uri,⟨_,found,rfl⟩,rfl⟩,_,rfl⟩ := own
    exact found
  | arr items =>
    rw [read,Reads.record_arr] at own
    simp only [fields,Fields.ofItems_seq,Fields.ofItems_map,Fields.ofItems_required,
      Reads.string_ok] at own
    obtain ⟨_,_,⟨uri,⟨_,rfl,rfl⟩,rfl⟩,_,_,rfl⟩ := own
    rfl
  | _ => cases own

namespace DocumentChange

structure Offers (j document : Json) (edits : List Json) : Prop where
  document : j.get? "textDocument" = some document
  edits : j.get? "edits" = some (.arr edits)

structure Legible (document : Json) (edits : List Json) : Prop where
  document : ∃ d, VersionedDocument.read document = .ok d
  edits : ∀ e ∈ edits, ∃ t, TextEdit.read e = .ok t

/-- What should come of an entry: one edit of its document for each edit that it offers. -/
def Honours (j : Json) (added : List Editor.ResourceEdit) : Prop :=
  ∀ document edits, Offers j document edits → List.Forall₂ (fun e r =>
    document.part? 0 "uri" = some (.str r.resource) ∧
      ∃ t, TextEdit.read e = .ok t ∧ r.edit = ⟨t.range.toEditor,t.newText⟩) edits added

inductive Adds (j : Json) : List Editor.ResourceEdit → Prop where
  | edits {e : DocumentEdit} (own : DocumentEdit.read j = .ok e) : Adds j
      (e.edits.map fun t => ⟨e.document.uri,⟨t.range.toEditor,t.newText⟩,e.document.version⟩)
  | nothing (other : Reads.Refuses DocumentEdit.read j) : Adds j []

section Entry

variable {j document : Json} {edits : List Json} {added : List Editor.ResourceEdit}

theorem Offers.read_iff (offers : Offers j document edits) {e : DocumentEdit} :
    DocumentEdit.read j = .ok e ↔
      VersionedDocument.read document = .ok e.document ∧ edits.map TextEdit.read = e.edits.map .ok := by
  obtain ⟨d,texts⟩ := e
  obtain ⟨named,held⟩ := offers
  cases j with
  | obj members =>
    simp only [Json.get?] at named held
    simp [DocumentEdit.read,Reads.record,DocumentEdit.fields,named,held,Reads.list,Reads.mapM_ok]
  | _ => cases named

theorem Offers.legible_iff (offers : Offers j document edits) :
    Legible document edits ↔ ∃ e, DocumentEdit.read j = .ok e := by
  constructor
  · rintro ⟨⟨d,named⟩,each⟩
    obtain ⟨texts,held⟩ := Reads.exists_values each
    exact ⟨⟨d,texts⟩,offers.read_iff.mpr ⟨named,held⟩⟩
  · rintro ⟨e,own⟩
    obtain ⟨named,held⟩ := offers.read_iff.mp own
    refine ⟨⟨_,named⟩,fun item member => ?_⟩
    have among : TextEdit.read item ∈ e.edits.map Except.ok := held ▸ List.mem_map_of_mem member
    obtain ⟨t,_,given⟩ := List.mem_map.mp among
    exact ⟨t,given.symm⟩

/-- An entry is honoured exactly when it offers no edits or all that it offers can be read. -/
theorem honours_iff (adds : Adds j added) : Honours j added ↔
    ∀ document edits, Offers j document edits → edits = [] ∨ Legible document edits := by
  refine forall₃_congr fun document edits offers => ?_
  rw [offers.legible_iff]
  -- an entry that was passed over adds nothing, which is right only if nothing was offered
  cases adds with
  | @edits e own =>
    refine iff_of_true ?_ (.inr ⟨e,own⟩)
    obtain ⟨named,held⟩ := offers.read_iff.mp own
    have same : List.Forall₂ (fun item t => TextEdit.read item = .ok t) edits e.edits := by
      rw [← List.forall₂_map_right_iff (f := Except.ok),← List.forall₂_map_left_iff,held]
      exact List.forall₂_refl _
    rw [List.forall₂_map_right_iff]
    exact same.imp fun item t given => ⟨VersionedDocument.part?_uri named,t,given,rfl⟩
  | nothing other =>
    rw [List.forall₂_nil_right_iff]
    refine (or_iff_left ?_).symm
    exact fun ⟨e,own⟩ => other e own

end Entry

def taken (j : Json) : DocumentChange :=
  match DocumentEdit.read j with
  | .ok e => .edit e
  | .error _ => .operation j

/-- Every entry can be read, whatever it is. -/
theorem read_eq (j : Json) : read j = .ok (taken j) := by
  cases own : DocumentEdit.read j <;> simp [read,taken,own,Reads.choice,Reads.mapTo,Except.map,Reads.any]

def contribution (j : Json) : List Editor.ResourceEdit :=
  (WorkspaceEdit.mk none (some [taken j])).documentChangeEdits

theorem adds_contribution (j : Json) : Adds j (contribution j) := by
  rw [contribution,WorkspaceEdit.documentChangeEdits]
  cases own : DocumentEdit.read j with
  | ok e => simpa [taken,own,resourceEdits,TextEdit.toEditor] using Adds.edits own
  | error e => simpa [taken,own] using Adds.nothing (Reads.refuses_of_error own)

end DocumentChange

namespace WorkspaceEdit

structure Lists (v : Json) (entries : List Json) : Prop where
  shape : v.isRecord 2
  entries : v.part? 1 "documentChanges" = some (.arr entries)

def readChanges (v : Json) : Except ReadError (Option (List (String × List TextEdit))) :=
  Reads.nullable (.dictionary (.list TextEdit.read)) ((v.part? 0 "changes").getD .null)

variable {v : Json} {entries : List Json}

theorem Lists.solid (lists : Lists v entries) : v ≠ .null := by
  rintro rfl
  cases lists.shape

/-- Only the edits by document decide whether the whole can be read. -/
theorem Lists.read_eq (lists : Lists v entries) : read v = (readChanges v).map fun changes =>
    ⟨changes,some (entries.map DocumentChange.taken)⟩ := by
  have each : Reads.list DocumentChange.read (.arr entries) = .ok (entries.map DocumentChange.taken) := by
    rw [Reads.list,Reads.mapM_ok,List.map_map]
    exact List.map_congr_left fun j _ => DocumentChange.read_eq j
  have listed : Reads.nullable (.list DocumentChange.read) (.arr entries) =
      .ok (some (entries.map DocumentChange.taken)) := by
    rw [Reads.nullable_of_ne (by simp),each]
    rfl
  obtain ⟨shape,held⟩ := lists
  cases v with
  | obj members =>
    change members.lookup "documentChanges" = some (.arr entries) at held
    have second : (Fields.optional "documentChanges" (.list DocumentChange.read)).ofMembers members =
        .ok (some (entries.map DocumentChange.taken)) := by
      rw [Fields.ofMembers_optional,held]
      exact listed
    cases first : readChanges (.obj members) with
    | ok changes =>
      refine Fields.readMembers_ok.mpr (Fields.ofMembers_seq_of (Fields.ofMembers_map_of ?_) second)
      exact Fields.ofMembers_optional.mpr first
    | error e =>
      have failed : (Fields.optional "changes" (.dictionary (.list TextEdit.read))).ofMembers members =
          .error ⟨[("changes",e)],[]⟩ := Fields.ofMembers_optional_error first
      simp [read,Reads.record,Fields.readMembers,fields,Functor.map,Seq.seq,Fields.seq,Fields.map,failed,
        second,Except.map,Faults.first,leastKey]
  | arr items =>
    obtain ⟨j,rfl⟩ : ∃ j, items = [j,.arr entries] := by
      rcases items with _ | ⟨_,_ | ⟨_,_ | ⟨_,_⟩⟩⟩ <;> simp_all [Json.isRecord,Json.part?]
    change _ = Except.map _ (Reads.nullable (.dictionary (.list TextEdit.read)) j)
    cases first : Reads.nullable (.dictionary (.list TextEdit.read)) j <;>
      simp [read,Reads.record,fields,Functor.map,Seq.seq,Fields.seq,Fields.map,Fields.optional,Fields.one,
        first,listed,Except.map]
  | _ => cases shape

theorem toEditor_taken (changes : Option (List (String × List TextEdit))) (entries : List Json) :
    (mk changes (some (entries.map DocumentChange.taken))).toEditor =
      ⟨(mk changes none).toEditor.edits ++ (entries.map DocumentChange.contribution).flatten⟩ := by
  have listed : (mk changes (some (entries.map DocumentChange.taken))).documentChangeEdits =
      (entries.map DocumentChange.contribution).flatten := by
    induction entries with
    | nil => rfl
    | cons j entries ih =>
      rw [List.map_cons,List.map_cons,List.flatten_cons,← ih]
      simp [DocumentChange.contribution,documentChangeEdits]
  simp only [toEditor,listed]
  simp [changeEdits,documentChangeEdits]

end WorkspaceEdit

end Wire

open Wire

namespace Query

variable {d : Editor.Document} {p : Editor.Position} {newName : String} {v : Json} {entries : List Json}

theorem rename_unread (lists : WorkspaceEdit.Lists v entries) {e : ReadError}
    (failed : WorkspaceEdit.readChanges v = .error e) :
    conclude (.rename d p newName) (.ok v) = .error (.conversion "rename" e.message) := by
  simp [conclude,answer,readResult,Reads.nullable_of_ne lists.solid,lists.read_eq,failed,Except.map]

theorem rename_read (lists : WorkspaceEdit.Lists v entries)
    {changes : Option (List (String × List TextEdit))} (given : WorkspaceEdit.readChanges v = .ok changes) :
    conclude (.rename d p newName) (.ok v) = .ok (.rename ⟨(WorkspaceEdit.mk changes none).toEditor.edits ++
      (entries.map DocumentChange.contribution).flatten⟩) := by
  rw [← WorkspaceEdit.toEditor_taken]
  simp [conclude,answer,readResult,Reads.nullable_of_ne lists.solid,lists.read_eq,given,Except.map]

/-- No entry of the listed changes makes a rename fail. What an entry offers is kept if all of it can be
read and is lost otherwise. -/
theorem rename_honours_iff (d : Editor.Document) (p : Editor.Position) (newName : String) {v : Json}
    {entries : List Json} (lists : WorkspaceEdit.Lists v entries) :
    (∀ e, WorkspaceEdit.readChanges v = .error e →
      conclude (.rename d p newName) (.ok v) = .error (.conversion "rename" e.message)) ∧
    ∀ changes, WorkspaceEdit.readChanges v = .ok changes → ∃ parts,
      conclude (.rename d p newName) (.ok v) =
        .ok (.rename ⟨(WorkspaceEdit.mk changes none).toEditor.edits ++ parts.flatten⟩) ∧
      List.Forall₂ DocumentChange.Adds entries parts ∧
      (List.Forall₂ DocumentChange.Honours entries parts ↔ ∀ j ∈ entries, ∀ document edits,
        DocumentChange.Offers j document edits → edits = [] ∨ DocumentChange.Legible document edits) := by
  refine ⟨fun e failed => rename_unread lists failed,fun changes given => ?_⟩
  refine ⟨entries.map DocumentChange.contribution,rename_read lists given,?_,?_⟩
  · rw [List.forall₂_map_right_iff,List.forall₂_same]
    exact fun j _ => DocumentChange.adds_contribution j
  · rw [List.forall₂_map_right_iff,List.forall₂_same]
    exact forall₂_congr fun j _ => DocumentChange.honours_iff (DocumentChange.adds_contribution j)

end Query

namespace Wire

def TextEdit.sketch (start : Int) : Json :=
  .obj [("newText",.str "b"),("range",.obj [
    ("end",.obj [("character",.ofNat 2),("line",.ofNat 3)]),
    ("start",.obj [("character",.ofInt start),("line",.ofNat 3)])])]

def DocumentChange.sketch (starts : List Int) : Json :=
  .obj [("edits",.arr (starts.map TextEdit.sketch)),
    ("textDocument",.obj [("uri",.str "file:///a.ttl"),("version",.ofNat 1)])]

end Wire

namespace Query

/-- Edits that can be read are kept in order, beside an operation on files. -/
theorem rename_honours_sketch : ∃ parts,
    conclude (.rename ⟨1,"file:///a.ttl"⟩ ⟨4,1⟩ "b") (.ok (.obj [("documentChanges",
      .arr [.obj [("kind",.str "create")],DocumentChange.sketch [1,0]])])) =
        .ok (.rename ⟨(WorkspaceEdit.mk none none).toEditor.edits ++ parts.flatten⟩) ∧
    List.Forall₂ DocumentChange.Honours
      [.obj [("kind",.str "create")],DocumentChange.sketch [1,0]] parts := by
  let entries : List Json := [.obj [("kind",.str "create")],DocumentChange.sketch [1,0]]
  have lists : WorkspaceEdit.Lists (.obj [("documentChanges",.arr entries)]) entries := ⟨rfl,rfl⟩
  obtain ⟨parts,answered,_,honours⟩ :=
    (rename_honours_iff ⟨1,"file:///a.ttl"⟩ ⟨4,1⟩ "b" lists).2 none rfl
  refine ⟨parts,answered,honours.mpr ?_⟩
  simp only [entries,List.forall_mem_cons,List.not_mem_nil,false_implies,implies_true,and_true]
  refine ⟨fun document edits offers => ?_,fun document edits offers => ?_⟩
  · cases offers.document
  · cases offers.document
    cases offers.edits
    refine .inr ⟨⟨_,rfl⟩,?_⟩
    simp only [List.map,List.forall_mem_cons,List.not_mem_nil,false_implies,implies_true,and_true]
    exact ⟨⟨_,rfl⟩,⟨_,rfl⟩⟩

/-- One edit that starts before its line takes the other edit of its entry with it, and the rename
succeeds without either. -/
theorem rename_edits_lost :
    conclude (.rename ⟨1,"file:///a.ttl"⟩ ⟨4,1⟩ "b")
      (.ok (.obj [("documentChanges",.arr [DocumentChange.sketch [1,-1]])])) = .ok (.rename ⟨[]⟩) ∧
    DocumentChange.Offers (DocumentChange.sketch [1,-1])
      (.obj [("uri",.str "file:///a.ttl"),("version",.ofNat 1)]) [TextEdit.sketch 1,TextEdit.sketch (-1)] ∧
    ¬DocumentChange.Honours (DocumentChange.sketch [1,-1]) [] := by
  have lists : WorkspaceEdit.Lists (.obj [("documentChanges",.arr [DocumentChange.sketch [1,-1]])])
      [DocumentChange.sketch [1,-1]] := ⟨rfl,rfl⟩
  have plain : WorkspaceEdit.readChanges (.obj [("documentChanges",
      .arr [DocumentChange.sketch [1,-1]])]) = .ok none := rfl
  have skipped : DocumentChange.contribution (DocumentChange.sketch [1,-1]) = [] := rfl
  have offers : DocumentChange.Offers (DocumentChange.sketch [1,-1])
      (.obj [("uri",.str "file:///a.ttl"),("version",.ofNat 1)])
      [TextEdit.sketch 1,TextEdit.sketch (-1)] := ⟨rfl,rfl⟩
  refine ⟨?_,offers,fun honours => ?_⟩
  · rw [rename_read lists plain,List.map_singleton,skipped]
    simp [WorkspaceEdit.toEditor,WorkspaceEdit.changeEdits,WorkspaceEdit.documentChangeEdits]
  · cases honours _ _ offers

end Query

end LanguageBridge
