import LanguageBridge.Proofs.HoverTexts
import LanguageBridge.Proofs.Variants
import LanguageBridge.Wire.Diagnostic
import Mathlib.Data.List.Perm.Basic

/-! Reading again what was read. Free JSON, defaults and variants let many values be written that are
read as something else; what a reading yields is never one of these. -/
namespace LanguageBridge

def Reads.Ensures {α : Type} (good : Json → Prop) (read : Reads α) (post : α → Prop) : Prop :=
  ∀ j a, good j → read j = .ok a → post a

/-- Free JSON. -/
theorem Reads.Ensures.free {good : Json → Prop} : any.Ensures good good := by
  rintro j _ clean ⟨⟩
  exact clean

/-- What is read from a value that may be null is read from a value that is not. -/
theorem Reads.Ensures.nullable {α : Type} {good : Json → Prop} {read : Reads α} {post : α → Prop}
    (solid : read.Ensures (fun j => good j ∧ j ≠ .null) post) :
    (nullable read).Ensures good fun value => ∀ a ∈ value, post a := by
  intro j value clean found a own
  obtain rfl : value = some a := own
  obtain ⟨null,given⟩ := nullable_ok_some.mp found
  exact solid j a ⟨clean,null⟩ given

/-- A dictionary is read entry by entry. -/
theorem Reads.dictionary_ok {α : Type} {read : Reads α} {members : List (String × Json)}
    {entries : List (String × α)} : dictionary read (.obj members) = .ok entries ↔
      List.Forall₂ (fun m e => m.1 = e.1 ∧ read m.2 = .ok e.2) members entries := by
  rw [dictionary]
  induction members generalizing entries with
  | nil => cases entries <;> simp [List.mapM_nil,Pure.pure,Except.pure]
  | cons m members ih =>
    rw [List.mapM_cons]
    cases given : read m.2 with
    | error e => cases entries <;> simp [bind,Except.bind,given,Except.map]
    | ok a =>
      rcases entries with _ | ⟨⟨key,b⟩,entries⟩
      · cases members.mapM fun m => (read m.2).map (m.1,·) <;>
          simp [bind,Except.bind,given,Except.map,Pure.pure,Except.pure]
      · rw [List.forall₂_cons,← ih,given]
        cases members.mapM fun m => (read m.2).map (m.1,·) <;>
          simp [bind,Except.bind,given,Except.map,Pure.pure,Except.pure]

namespace Fields

variable {α β : Type} {good : Json → Prop} {pre : α → Prop} {post : β → Prop}

structure Ensures (good : Json → Prop) (x : Fields α) (post : α → Prop) : Prop where
  named : ∀ members a, (∀ m ∈ members, good m.2) → x.ofMembers members = .ok a → post a
  placed : ∀ expected index items a rest, (∀ j ∈ items, good j) →
    x.ofItems expected index items = .ok (a,rest) → post a ∧ ∀ j ∈ rest, good j

namespace Ensures

theorem map {f : α → β} {x : Fields α} (ensured : Ensures good x pre) (step : ∀ a, pre a → post (f a)) :
    Ensures good (f <$> x) post := by
  constructor
  · intro members b clean read
    obtain ⟨a,first,rfl⟩ := ofMembers_map.mp read
    exact step a (ensured.named _ _ clean first)
  · intro expected index items b rest clean read
    obtain ⟨a,first,rfl⟩ := ofItems_map.mp read
    obtain ⟨held,left⟩ := ensured.placed _ _ _ _ _ clean first
    exact ⟨step a held,left⟩

theorem seq {f : Fields (α → β)} {x : Fields α}
    (function : Ensures good f fun g => ∀ a, pre a → post (g a)) (argument : Ensures good x pre) :
    Ensures good (f <*> x) post := by
  constructor
  · intro members b clean read
    obtain ⟨g,a,first,second,rfl⟩ := ofMembers_seq.mp read
    exact function.named _ _ clean first a (argument.named _ _ clean second)
  · intro expected index items b rest clean read
    obtain ⟨g,after,first,a,second,rfl⟩ := ofItems_seq.mp read
    obtain ⟨step,between⟩ := function.placed _ _ _ _ _ clean first
    obtain ⟨held,left⟩ := argument.placed _ _ _ _ _ between second
    exact ⟨step a held,left⟩

/-- A field yields what its value is read as, or what stands for a lacking value. -/
theorem one {name : String} {read : Reads α} {unnamed past : Option α} (value : read.Ensures good pre)
    (lacking : ∀ a ∈ unnamed, pre a) (ended : ∀ a ∈ past, pre a) :
    Ensures good (one name read unnamed past) pre := by
  constructor
  · intro members a clean found
    simp only [Fields.one] at found
    split at found
    next j member =>
      split at found <;> cases found
      next given => exact value j a (clean _ (Lookup.mem_of_lookup member)) given
    next =>
      split at found <;> cases found
      exact lacking a rfl
  · intro expected index items a rest clean found
    cases items with
    | nil =>
      simp only [Fields.one] at found
      split at found <;> cases found
      exact ⟨ended a rfl,clean⟩
    | cons j items =>
      obtain ⟨b,given,same⟩ := Reads.map_ok.mp found
      cases same
      exact ⟨value j a (clean j List.mem_cons_self) given,fun k member => clean k (.tail _ member)⟩

/-- A field of which nothing need be known. -/
theorem plain {name : String} {read : Reads α} {unnamed past : Option α} :
    Ensures good (Fields.one name read unnamed past) fun _ => True :=
  one (fun _ _ _ _ => trivial) (fun _ _ => trivial) fun _ _ => trivial

theorem required {name : String} {read : Reads α} (value : read.Ensures good pre) :
    Ensures good (required name read) pre :=
  one value (fun _ given => nomatch given) fun _ given => nomatch given

theorem optional {name : String} {read : Reads α} {past : Option (Option α)}
    (value : read.Ensures (fun j => good j ∧ j ≠ .null) pre) (ended : past = none ∨ past = some none) :
    Ensures good (Fields.one name (.nullable read) (some none) past) fun value => ∀ a ∈ value, pre a := by
  refine one value.nullable (by simp) ?_
  obtain rfl | rfl := ended <;> simp

end Ensures

end Fields

variable {arrange : Json → Json} {tidy : Json → Prop}

namespace Json.Arranges

variable {α : Type} {read : Reads α} {post : α → Prop}

theorem ensures_record (arranges : Arranges arrange tidy) {name : String} {fields : Fields α}
    (ensured : fields.Ensures tidy post) : (Reads.record name fields).Ensures tidy post := by
  intro j a done found
  cases j with
  | obj members =>
    exact ensured.named members a (fun m member => arranges.member done member)
      (Fields.readMembers_ok.mp found)
  | arr items =>
    exact (ensured.placed _ _ items a _ (fun j member => arranges.item done member)
      (Reads.record_arr.mp found)).1
  | _ => cases found

theorem ensures_list (arranges : Arranges arrange tidy) (each : read.Ensures tidy post) :
    (Reads.list read).Ensures tidy fun values => ∀ a ∈ values, post a := by
  intro j values done found a member
  cases j with
  | arr items =>
    have same : items.map read = values.map .ok := Reads.mapM_ok.mp found
    have among : Except.ok a ∈ items.map read := same ▸ List.mem_map_of_mem member
    obtain ⟨k,inside,given⟩ := List.mem_map.mp among
    exact each k a (arranges.item done inside) given
  | _ => cases found

/-- The keys of a dictionary that was read can be arranged. -/
theorem ensures_dictionary (arranges : Arranges arrange tidy) :
    (Reads.dictionary read).Ensures tidy fun entries => ∀ others : List (String × Json),
      (others.map (·.1)).Perm (entries.map (·.1)) → Arranged arrange others := by
  intro j entries done found others keys
  cases j with
  | obj members =>
    have same : members.map (·.1) = entries.map (·.1) := by
      rw [← List.forall₂_eq_eq_eq,List.forall₂_map_left_iff,List.forall₂_map_right_iff]
      exact (Reads.dictionary_ok.mp found).imp fun _ _ entry => entry.1
    exact arranges.known done (same ▸ keys)
  | _ => cases found

/-- A dictionary is read again, in another order at most. -/
theorem read_dictionary {write : α → Json} {entries : List (String × α)}
    (arranged : Arranged arrange (entries.map fun e => (e.1,write e.2)))
    (each : ∀ e ∈ entries, read (arrange (write e.2)) = .ok e.2) :
    ∃ again, Reads.dictionary read (arrange (.obj (entries.map fun e => (e.1,write e.2)))) = .ok again ∧
      again.Perm entries := by
  obtain ⟨others,shape,moved⟩ := arranged
  have inPlace : List.Forall₂ (fun m e => m.1 = e.1 ∧ read m.2 = .ok e.2)
      ((entries.map fun e => (e.1,write e.2)).map fun m => (m.1,arrange m.2)) entries := by
    rw [List.forall₂_map_left_iff,List.forall₂_map_left_iff,List.forall₂_same]
    exact fun e member => ⟨rfl,each e member⟩
  obtain ⟨again,own,same⟩ := List.perm_comp_forall₂ moved inPlace
  exact ⟨again,by rw [shape,Reads.dictionary_ok]; exact own,same⟩

/-- Free JSON as it was read is found again. -/
theorem present_map (arranges : Arranges arrange tidy) {value : Option Json}
    (free : ∀ j ∈ value, tidy j ∧ j ≠ .null) : present (value.map arrange) = value := by
  cases value with
  | none => rfl
  | some j =>
    obtain ⟨done,solid⟩ := free j rfl
    rw [Option.map_some,arranges.kept done]
    cases j <;> first | rfl | exact absurd rfl solid

end Json.Arranges

theorem Severity.read_arranged (arranges : Json.Arranges arrange tidy) (s : Severity) :
    readWire (arrange s.toWire) = .ok s := by
  cases s <;> exact congrArg readWire (arranges.num _)

theorem DiagnosticTag.read_arranged (arranges : Json.Arranges arrange tidy) (t : DiagnosticTag) :
    read (arrange t.toJson) = .ok t := by
  cases t <;> exact congrArg read (arranges.num _)

namespace Wire

theorem MarkedString.read_arranged (arranges : Json.Arranges arrange tidy) (s : MarkedString) :
    read (arrange s.toJson) = .ok s := by
  cases s with
  | text s => simp [read,toJson,arranges.str]
  | code language value =>
    have object : Reads.Refuses .string (arrange (code language value).toJson) :=
      arranges.refuses_object (fun _ => Reads.refuses_of_error rfl) ["language","value"] (by decide)
        (by simp)
    have own : Reads.named "MarkedString" codeFields (arrange (code language value).toJson) =
        .ok (code language value) := by
      refine arranges.read_record (fun _ => rfl) ["language","value"] (by decide) (by simp)
        fun members found => ?_
      simp [codeFields,found,Part.written,arranges.str]
    simp [read,object,own]

/-- A single item is neither of the other variants. -/
theorem HoverContents.read_single (arranges : Json.Arranges arrange tidy) (s : MarkedString) :
    read (arrange s.toJson) = .ok (.single s) := by
  have own := s.read_arranged arranges
  have unmarked : Reads.Refuses Markup.read (arrange s.toJson) := by
    cases s with
    | text s =>
      rw [MarkedString.toJson,arranges.str]
      exact Reads.refuses_of_error rfl
    | code language value =>
      refine arranges.refuses_record (fun _ => rfl) ["language","value"] (by decide) (by simp)
        fun members found a => ?_
      simp [Markup.fields,found,Part.written]
  have unlisted : Reads.Refuses (.list MarkedString.read) (arrange s.toJson) := by
    cases s with
    | text s =>
      rw [MarkedString.toJson,arranges.str]
      exact Reads.refuses_of_error rfl
    | code language value =>
      exact arranges.refuses_object (fun _ => Reads.refuses_of_error rfl) ["language","value"]
        (by decide) (by simp)
  simp [read,unmarked,unlisted,own]

theorem HoverContents.read_arranged (arranges : Json.Arranges arrange tidy) {c : HoverContents}
    (other : ∀ a b, c ≠ .list [.text a,.text b]) : read (arrange c.toJson) = .ok c := by
  cases c with
  | markup m => simp [read,toJson,m.read_arranged arranges]
  | list items =>
    rw [toJson,Json.list,arranges.arr]
    refine read_items ?_ fun a b pair => other a b (by rw [pair])
    rw [List.map_map,List.map_map]
    exact List.map_congr_left fun s _ => s.read_arranged arranges
  | single s => exact read_single arranges s

/-- Two plain texts are read as a kind and a value, and never as a list. -/
theorem HoverContents.read_other {j : Json} {c : HoverContents} (found : read j = .ok c)
    (a b : String) : c ≠ .list [.text a,.text b] := by
  rintro rfl
  simp only [read,Reads.choice_ok,Reads.mapTo_ok,Reads.refuses_mapTo,reduceCtorEq,and_false,
    exists_false,false_or,list.injEq,exists_eq_right] at found
  obtain ⟨unmarked,listed | ⟨_,never⟩⟩ := found
  · cases j with
    | arr js =>
      obtain rfl := (MarkedString.texts_iff (Reads.mapM_ok.mp listed) a b).mp rfl
      exact unmarked ⟨a,b⟩ (Markup.read_arr.mpr rfl)
    | _ => cases listed
  · simp at never

/-- A hover is read again. -/
theorem Hover.rereads (arranges : Json.Arranges arrange tidy) :
    read.Ensures tidy fun h => read (arrange h.toJson) = .ok h := by
  have contents : HoverContents.read.Ensures tidy fun c =>
      HoverContents.read (arrange c.toJson) = .ok c :=
    fun j c _ found => HoverContents.read_arranged arranges (HoverContents.read_other found)
  refine arranges.ensures_record (.seq (.map (.required contents) fun c own range _ => ?_) .plain)
  refine arranges.read_record (fun _ => rfl) ["contents","range"] (by decide) (by simp)
    fun members found => ?_
  have optional : Reads.nullable Range.read ((range.map (arrange ∘ Range.toJson)).getD .null) = .ok range :=
    Json.Arranges.read_optional (Reads.refuses_of_error rfl) fun r _ => r.read_arranged arranges
  simp [fields,found,Part.written,own,optional]

theorem RelatedInformation.read_arranged (arranges : Json.Arranges arrange tidy) (i : RelatedInformation) :
    read (arrange i.toJson) = .ok i := by
  refine arranges.read_record (fun _ => rfl) ["location","message"] (by decide) (by simp)
    fun members found => ?_
  simp [fields,found,Part.written,arranges.str,Location.read_arranged arranges]

/-- A diagnostic is read again: its code was not null, and is kept as it is. -/
theorem Diagnostic.rereads (arranges : Json.Arranges arrange tidy) :
    read.Ensures tidy fun d => read (arrange d.toJson) = .ok d := by
  -- the code alone is free JSON; every value of the other fields is read again
  refine arranges.ensures_record (.seq (.seq (.seq (.seq (.seq (.seq (.map .plain
    fun range _ severity _ code kept source _ message _ tags _ related _ => ?_) .plain)
    (.optional .free (by simp))) .plain) .plain) .plain) .plain)
  refine arranges.read_record (fun _ => rfl) ["range","severity","code","source","message","tags",
    "relatedInformation"] (by decide) (by simp) fun members found => ?_
  have grave : Reads.nullable Severity.readWire ((severity.map (arrange ∘ Severity.toWire)).getD .null) =
      .ok severity :=
    Json.Arranges.read_optional (Reads.refuses_of_error rfl) fun s _ => s.read_arranged arranges
  have origin : Reads.nullable .string ((source.map (arrange ∘ .str)).getD .null) = .ok source :=
    Json.Arranges.read_optional (Reads.refuses_of_error rfl) fun s _ => arranges.read_string s
  have tagged : (Fields.defaulted "tags" (.list DiagnosticTag.read) []).ofMembers members = .ok tags :=
    arranges.read_listed (by simp [found,Part.written]) fun t _ => t.read_arranged arranges
  have informed : (Fields.defaulted "relatedInformation" (.list RelatedInformation.read) []).ofMembers
      members = .ok related :=
    arranges.read_listed (by simp [found,Part.written]) fun i _ => i.read_arranged arranges
  have coded : present (code.map arrange) = code := arranges.present_map kept
  simp [fields,found,Part.written,arranges.str,Range.read_arranged arranges,grave,origin,
    tagged,informed,coded]

theorem Publication.rereads (arranges : Json.Arranges arrange tidy) :
    read.Ensures tidy fun p => read (arrange p.toJson) = .ok p := by
  have each := arranges.ensures_list (Diagnostic.rereads arranges)
  refine arranges.ensures_record (.seq (.seq (.map .plain fun uri _ version _ diagnostics own => ?_) .plain)
    (.required each))
  refine arranges.read_record (fun _ => rfl) ["uri","version","diagnostics"] (by decide) (by simp)
    fun members found => ?_
  have numbered : Reads.nullable .int32 ((version.map (arrange ∘ .ofInt32)).getD .null) = .ok version :=
    Json.Arranges.read_optional (Reads.refuses_of_error rfl) fun n _ => arranges.read_int32 n
  have listed := arranges.read_list own
  simp [fields,found,Part.written,arranges.str,numbered,listed]

theorem TokenLegend.read_arranged (arranges : Json.Arranges arrange tidy) (l : TokenLegend) :
    read (arrange l.toJson) = .ok l := by
  refine arranges.read_record (fun _ => rfl) ["tokenTypes","tokenModifiers"] (by decide) (by simp)
    fun members found => ?_
  have texts : ∀ items : List String, Reads.list .string (arrange (.list .str items)) = .ok items :=
    fun items => arranges.read_list fun s _ => arranges.read_string s
  simp [fields,found,Part.written,texts]

theorem TokenOptions.read_arranged (arranges : Json.Arranges arrange tidy) (o : TokenOptions) :
    read (arrange o.toJson) = .ok o := by
  refine arranges.read_record (fun _ => rfl) ["legend"] (by decide) (by simp) fun members found => ?_
  have legend : Reads.nullable TokenLegend.read (arrange (.nullable TokenLegend.toJson o.legend)) =
      .ok o.legend :=
    arranges.read_nullable (Reads.refuses_of_error rfl) fun l _ => l.read_arranged arranges
  simp [fields,found,Part.written,legend]

theorem ServerInfo.read_arranged (arranges : Json.Arranges arrange tidy) (s : ServerInfo) :
    read (arrange s.toJson) = .ok s := by
  refine arranges.read_record (fun _ => rfl) ["name","version"] (by decide) (by simp)
    fun members found => ?_
  have version : Reads.nullable .string ((s.version.map (arrange ∘ .str)).getD .null) = .ok s.version :=
    Json.Arranges.read_optional (Reads.refuses_of_error rfl) fun text _ => arranges.read_string text
  simp [fields,found,Part.written,arranges.str,version]

theorem ServerCapabilities.rereads (arranges : Json.Arranges arrange tidy) :
    read.Ensures tidy fun c => read (arrange c.toJson) = .ok c := by
  refine arranges.ensures_record (.seq (.seq (.seq (.map .plain
    fun tokens _ hover first rename second completion third => ?_)
    (.optional .free (by simp))) (.optional .free (by simp))) (.optional .free (by simp)))
  refine arranges.read_record (fun _ => rfl) ["semanticTokensProvider","hoverProvider","renameProvider",
    "completionProvider"] (by decide) (by simp) fun members found => ?_
  have options : Reads.nullable TokenOptions.read (arrange (.nullable TokenOptions.toJson tokens)) =
      .ok tokens :=
    arranges.read_nullable (Reads.refuses_of_error rfl) fun o _ => o.read_arranged arranges
  simp [fields,found,Part.written,options,arranges.present_map first,arranges.present_map second,
    arranges.present_map third]

/-- The answer to a handshake is read again. -/
theorem InitializeResult.rereads (arranges : Json.Arranges arrange tidy) :
    read.Ensures tidy fun r => read (arrange r.toJson) = .ok r := by
  refine arranges.ensures_record (.seq (.map (.required (ServerCapabilities.rereads arranges))
    fun capabilities own server _ => ?_) .plain)
  refine arranges.read_record (fun _ => rfl) ["capabilities","serverInfo"] (by decide) (by simp)
    fun members found => ?_
  have info : Reads.nullable ServerInfo.read ((server.map (arrange ∘ ServerInfo.toJson)).getD .null) =
      .ok server :=
    Json.Arranges.read_optional (Reads.refuses_of_error rfl) fun s _ => s.read_arranged arranges
  simp [fields,found,Part.written,own,info]

theorem VersionedDocument.read_arranged (arranges : Json.Arranges arrange tidy) (d : VersionedDocument) :
    read (arrange d.toJson) = .ok d := by
  refine arranges.read_record (fun _ => rfl) ["uri","version"] (by decide) (by simp)
    fun members found => ?_
  have version : Reads.nullable .int32 (arrange (.nullable .ofInt32 d.version)) = .ok d.version :=
    arranges.read_nullable (Reads.refuses_of_error rfl) fun n _ => arranges.read_int32 n
  simp [fields,found,Part.written,arranges.str,version]

theorem DocumentEdit.read_arranged (arranges : Json.Arranges arrange tidy) (e : DocumentEdit) :
    read (arrange e.toJson) = .ok e := by
  refine arranges.read_record (fun _ => rfl) ["textDocument","edits"] (by decide) (by simp)
    fun members found => ?_
  have edits := arranges.read_list fun t (_ : t ∈ e.edits) => t.read_arranged arranges
  simp [fields,found,Part.written,VersionedDocument.read_arranged arranges,edits]

/-- An operation on files is a value that is no edit, and stays one. -/
theorem DocumentChange.rereads (arranges : Json.Arranges arrange tidy) :
    read.Ensures tidy fun c => read (arrange c.toJson) = .ok c := by
  intro j c done found
  cases c with
  | edit e => simp [read,toJson,e.read_arranged arranges]
  | operation k =>
    simp only [read,Reads.choice_ok,Reads.mapTo_ok,Reads.refuses_mapTo,reduceCtorEq,and_false,
      exists_false,false_or,operation.injEq,exists_eq_right,Reads.choice_none,or_false] at found
    obtain ⟨unedited,free⟩ := found
    obtain rfl : j = k := Except.ok.inj free
    simp [read,toJson,arranges.kept done,unedited,Reads.any]

/-- Edits of a workspace with the same entries in `changes`, in whatever order. -/
structure WorkspaceEdit.Alike (e other : WorkspaceEdit) : Prop where
  changes : Option.Rel List.Perm e.changes other.changes
  documents : e.documentChanges = other.documentChanges

/-- The edit of a workspace is read again, whichever order its entries were written in. -/
theorem WorkspaceEdit.rereads (arranges : Json.Arranges arrange tidy) :
    read.Ensures tidy fun e => ∀ other, e.Alike other →
      ∃ again, read (arrange other.toJson) = .ok again ∧ e.Alike again := by
  have each := arranges.ensures_list (DocumentChange.rereads arranges)
  have keyed : (Reads.dictionary (.list TextEdit.read)).Ensures tidy _ := arranges.ensures_dictionary
  refine arranges.ensures_record (.seq (.map (.optional (fun j a done => keyed j a done.1) (by simp))
    fun changes known documents own other alike => ?_)
    (.optional (fun j a done => each j a done.1) (by simp)))
  obtain ⟨others,_⟩ := other
  obtain ⟨moved,rfl⟩ := alike
  have listed : Reads.nullable (.list DocumentChange.read)
      ((documents.map (arrange ∘ .list DocumentChange.toJson)).getD .null) = .ok documents :=
    Json.Arranges.read_optional (Reads.refuses_of_error rfl) fun cs given => arranges.read_list (own cs given)
  cases moved with
  | none =>
    refine ⟨⟨none,documents⟩,?_,.none,rfl⟩
    refine arranges.read_record (fun _ => rfl) ["changes","documentChanges"] (by decide) (by simp)
      fun members found => ?_
    have absent : Reads.nullable (.dictionary (.list TextEdit.read)) .null = .ok none := rfl
    simp [fields,found,Part.written,absent,listed]
  | @some entries others moved =>
    have arranged : Json.Arranged arrange (others.map fun e => (e.1,.list TextEdit.toJson e.2)) := by
      refine known entries rfl _ ?_
      rw [List.map_map]
      exact (moved.map Prod.fst).symm
    obtain ⟨again,own,same⟩ := Json.Arranges.read_dictionary arranged fun e _ =>
      arranges.read_list fun t _ => t.read_arranged arranges
    have given := Reads.nullable_some (Reads.refuses_of_error rfl) own
    refine ⟨⟨some again,documents⟩,?_,.some (moved.trans same.symm),rfl⟩
    refine arranges.read_record (fun _ => rfl) ["changes","documentChanges"] (by decide) (by simp)
      fun members found => ?_
    simp [fields,found,Part.written,given,listed]

/-- What any value is read as is read again from what it is written as: in writing order, and in key
order if the keys of the value were in order. -/
def Stable {α : Type} (read : Reads α) (write : α → Json) : Prop :=
  ∀ v a, read v = .ok a → read (write a) = .ok a ∧ (v.ordered → read (write a).sorted = .ok a)

theorem Stable.of_rereads {α : Type} {read : Reads α} {write : α → Json}
    (rereads : ∀ {arrange : Json → Json} {tidy : Json → Prop}, Json.Arranges arrange tidy →
      read.Ensures tidy fun a => read (arrange (write a)) = .ok a) : Stable read write := by
  intro v a found
  exact ⟨rereads Json.arranges_id v a trivial found,fun keys => rereads Json.arranges_sorted v a keys found⟩

/-- The readings with free JSON, defaults and variants are stable; of a workspace edit, the entries in
`changes` may come and go in any order. -/
theorem readings_stable :
    Stable Hover.read Hover.toJson ∧
    Stable Publication.read Publication.toJson ∧
    Stable InitializeResult.read InitializeResult.toJson ∧
    ∀ v e, WorkspaceEdit.read v = .ok e → ∀ other, e.Alike other →
      (∃ again, WorkspaceEdit.read other.toJson = .ok again ∧ e.Alike again) ∧
      (v.ordered → ∃ again, WorkspaceEdit.read other.toJson.sorted = .ok again ∧ e.Alike again) := by
  refine ⟨.of_rereads Hover.rereads,.of_rereads Publication.rereads,
    .of_rereads InitializeResult.rereads,fun v e found other alike => ⟨?_,fun keys => ?_⟩⟩
  · exact WorkspaceEdit.rereads Json.arranges_id v e trivial found other alike
  · exact WorkspaceEdit.rereads Json.arranges_sorted v e keys found other alike

end Wire

end LanguageBridge
