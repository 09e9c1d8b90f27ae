import LanguageBridge.Proofs.Arrangement
import LanguageBridge.Wire.Completion
import LanguageBridge.Wire.Symbol

/-! Results that come in variants without a tag. What a variant is written as is refused by every variant
that is tried before it, so that it is read as itself again. -/
namespace LanguageBridge

variable {arrange : Json → Json} {tidy : Json → Prop}

theorem SymbolKind.read_arranged (arranges : Json.Arranges arrange tidy) (k : SymbolKind) :
    readWire (arrange k.toWire) = .ok k := by
  rw [toWire,Json.ofNat,arranges.num]
  cases k <;> rfl

namespace Json

theorem depth_of_lookup {members : List (String × Json)} {key : String} {j : Json}
    (found : members.lookup key = some j) : j.depth < (obj members).depth :=
  Nat.lt_succ_of_le (depthMembers_le_iff.mp (Nat.le_refl _) _ (Lookup.mem_of_lookup found))

theorem depth_of_mem {items : List Json} {j : Json} (member : j ∈ items) :
    j.depth < (arr items).depth :=
  Nat.lt_succ_of_le (depthItems_le_iff.mp (Nat.le_refl _) j member)

end Json

namespace Wire

theorem Position.read_arranged (arranges : Json.Arranges arrange tidy) (p : Position) :
    read (arrange p.toJson) = .ok p := by
  refine arranges.read_record (fun _ => rfl) ["line","character"] (by decide) (by simp) fun members found => ?_
  simp [fields,found,Part.written,arranges.read_word32]

theorem Range.read_arranged (arranges : Json.Arranges arrange tidy) (r : Range) :
    read (arrange r.toJson) = .ok r := by
  refine arranges.read_record (fun _ => rfl) ["start","end"] (by decide) (by simp) fun members found => ?_
  simp [fields,found,Part.written,Position.read_arranged arranges]

theorem Location.read_arranged (arranges : Json.Arranges arrange tidy) (l : Location) :
    read (arrange l.toJson) = .ok l := by
  refine arranges.read_record (fun _ => rfl) ["uri","range"] (by decide) (by simp) fun members found => ?_
  simp [fields,found,Part.written,arranges.str,Range.read_arranged arranges]

theorem SymbolInformation.read_arranged (arranges : Json.Arranges arrange tidy) (s : SymbolInformation) :
    read (arrange s.toJson) = .ok s := by
  refine arranges.read_record (fun _ => rfl) ["name","kind","tags","location","containerName"]
    (by decide) (by simp) fun members found => ?_
  have tags : (Fields.defaulted "tags" (.list .word8) []).ofMembers members = .ok s.tags :=
    arranges.read_listed (by simp [found,Part.written]) fun n _ => arranges.read_word8 n
  have container : Reads.nullable .string ((s.container.map (arrange ∘ .str)).getD .null) =
      .ok s.container :=
    Json.Arranges.read_optional (Reads.refuses_of_error rfl) fun text _ => arranges.read_string text
  simp [fields,found,Part.written,arranges.str,SymbolKind.read_arranged arranges,tags,
    Location.read_arranged arranges,container]

namespace DocumentSymbol

theorem forestToJson_eq_map (symbols : List DocumentSymbol) :
    forestToJson symbols = symbols.map toJson := by
  induction symbols with
  | nil => rw [forestToJson,List.map_nil]
  | cons symbol rest ih => rw [forestToJson,ih,List.map_cons]

def parts (s : DocumentSymbol) : List Part :=
  [.always "name" (.str s.name),.whenSome "detail" .str s.detail,.always "kind" s.kind.toWire,
    .whenAny "tags" .ofWord8 s.tags,.always "range" s.range.toJson,
    .always "selectionRange" s.selection.toJson,.whenSome "children" (.list toJson) s.children]

theorem toJson_eq (s : DocumentSymbol) : s.toJson = .record s.parts := by
  obtain ⟨name,detail,kind,tags,range,selection,children⟩ := s
  cases children with
  | none => rfl
  | some symbols =>
    have forest := forestToJson_eq_map symbols
    simp only [toJson,forest]
    rfl

/-- What holds of a symbol when it holds of its children holds of every symbol. -/
theorem tree_induction {motive : DocumentSymbol → Prop}
    (step : ∀ s : DocumentSymbol, (∀ children ∈ s.children, ∀ c ∈ children, motive c) → motive s)
    (s : DocumentSymbol) : motive s := by
  apply step
  intro children own c member
  exact tree_induction step c
termination_by sizeOf s
decreasing_by
  obtain ⟨name,detail,kind,tags,range,selection,kids⟩ := s
  obtain rfl : kids = some children := own
  have := List.sizeOf_lt_of_mem member
  simp
  omega

/-- A tree needs no more levels than its JSON value is deep. -/
theorem readWithin_arranged (arranges : Json.Arranges arrange tidy) (s : DocumentSymbol) :
    ∀ levels, (arrange s.toJson).depth < levels → readWithin levels (arrange s.toJson) = .ok s := by
  induction s using tree_induction with
  | step s ih =>
    intro levels deep
    obtain ⟨members,shape,found⟩ := arranges.record
      ["name","detail","kind","tags","range","selectionRange","children"] (by decide)
      (show List.Forall₂ Part.Sole s.parts _ by simp [parts])
    rw [toJson_eq,shape] at deep ⊢
    cases levels with
    | zero => exact absurd deep (Nat.not_lt_zero _)
    | succ levels =>
      have tags : (Fields.defaulted "tags" (.list .word8) []).ofMembers members = .ok s.tags :=
        arranges.read_listed (by simp [found,parts,Part.written]) fun n _ => arranges.read_word8 n
      have detail : Reads.nullable .string ((s.detail.map (arrange ∘ .str)).getD .null) = .ok s.detail :=
        Json.Arranges.read_optional (Reads.refuses_of_error rfl) fun text _ => arranges.read_string text
      have children : Reads.nullable (.list (readWithin levels))
          ((s.children.map (arrange ∘ .list toJson)).getD .null) = .ok s.children := by
        refine Json.Arranges.read_optional (Reads.refuses_of_error rfl) fun symbols own => ?_
        refine arranges.read_list fun c member => ih symbols own c member levels ?_
        -- the value of a child lies two containers deeper than the value of its parent
        have outer : members.lookup "children" = some (arrange (.list toJson symbols)) := by
          simp [found,parts,Part.written,Option.mem_def.mp own]
        have inner : arrange c.toJson ∈ (symbols.map toJson).map arrange :=
          List.mem_map_of_mem (List.mem_map_of_mem member)
        have first := Json.depth_of_lookup outer
        rw [Json.list,arranges.arr] at first
        have second := Json.depth_of_mem inner
        omega
      have whole : s = ⟨s.name,s.detail,s.kind,s.tags,s.range,s.selection,s.children⟩ := by
        cases s
        rfl
      simpa [readWithin,Reads.record,fields,found,parts,Part.written,arranges.str,detail,
        SymbolKind.read_arranged arranges,tags,Range.read_arranged arranges,children] using whole

theorem read_arranged (arranges : Json.Arranges arrange tidy) (s : DocumentSymbol) :
    read (arrange s.toJson) = .ok s :=
  readWithin_arranged arranges s _ (Nat.lt_succ_self _)

end DocumentSymbol

/-- A symbol with a location has no range of its own. -/
theorem SymbolInformation.not_nested (arranges : Json.Arranges arrange tidy) (s : SymbolInformation) :
    Reads.Refuses DocumentSymbol.read (arrange s.toJson) := by
  have refused : ∀ levels, Reads.Refuses (DocumentSymbol.readWithin (levels + 1)) (arrange s.toJson) := by
    intro levels
    refine arranges.refuses_record (fun _ => rfl) ["name","kind","tags","location","containerName"]
      (by decide) (by simp) fun members found a => ?_
    simp [DocumentSymbol.fields,found,Part.written]
  exact refused (arrange s.toJson).depth

/-- Only the empty list is written alike by both variants. -/
theorem DocumentSymbols.read_arranged (arranges : Json.Arranges arrange tidy) (s : DocumentSymbols) :
    read (arrange s.toJson) = .ok s ↔ s ≠ .flat [] := by
  cases s with
  | nested symbols =>
    have forest : (nested symbols).toJson = .list DocumentSymbol.toJson symbols :=
      congrArg Json.arr (DocumentSymbol.forestToJson_eq_map symbols)
    have own := arranges.read_list fun s (_ : s ∈ symbols) => DocumentSymbol.read_arranged arranges s
    simp [read,forest,own]
  | flat symbols =>
    have own := arranges.read_list fun s (_ : s ∈ symbols) => SymbolInformation.read_arranged arranges s
    cases symbols with
    | nil =>
      have empty : Reads.list DocumentSymbol.read (arrange (.list SymbolInformation.toJson [])) = .ok [] := by
        rw [Json.list,List.map_nil,arranges.arr]
        rfl
      simp [read,toJson,empty,Reads.Refuses]
    | cons first rest =>
      have other : Reads.Refuses (.list DocumentSymbol.read)
          (arrange (.list SymbolInformation.toJson (first :: rest))) :=
        arranges.refuses_list List.mem_cons_self (first.not_nested arranges)
      simp [read,toJson,own,other]

theorem TextEdit.read_arranged (arranges : Json.Arranges arrange tidy) (e : TextEdit) :
    read (arrange e.toJson) = .ok e := by
  refine arranges.read_record (fun _ => rfl) ["range","newText"] (by decide) (by simp)
    fun members found => ?_
  simp [fields,found,Part.written,arranges.str,Range.read_arranged arranges]

theorem InsertReplaceEdit.read_arranged (arranges : Json.Arranges arrange tidy) (e : InsertReplaceEdit) :
    read (arrange e.toJson) = .ok e := by
  refine arranges.read_record (fun _ => rfl) ["newText","insert","replace"] (by decide) (by simp)
    fun members found => ?_
  simp [fields,found,Part.written,arranges.str,Range.read_arranged arranges]

/-- Two ranges are not one. -/
theorem InsertReplaceEdit.not_edit (arranges : Json.Arranges arrange tidy) (e : InsertReplaceEdit) :
    Reads.Refuses TextEdit.read (arrange e.toJson) := by
  refine arranges.refuses_record (fun _ => rfl) ["newText","insert","replace"] (by decide) (by simp)
    fun members found a => ?_
  simp [TextEdit.fields,found,Part.written]

theorem CompletionEdit.read_arranged (arranges : Json.Arranges arrange tidy) (e : CompletionEdit) :
    read (arrange e.toJson) = .ok e := by
  cases e with
  | edit e => simp [read,toJson,e.read_arranged arranges]
  | insertReplace e => simp [read,toJson,e.read_arranged arranges,e.not_edit arranges]

theorem Markup.read_arranged (arranges : Json.Arranges arrange tidy) (m : Markup) :
    read (arrange m.toJson) = .ok m := by
  refine arranges.read_record (fun _ => rfl) ["kind","value"] (by decide) (by simp)
    fun members found => ?_
  simp [fields,found,Part.written,arranges.str]

theorem Documentation.read_arranged (arranges : Json.Arranges arrange tidy) (d : Documentation) :
    read (arrange d.toJson) = .ok d := by
  cases d with
  | text s => simp [read,toJson,arranges.str]
  | markup m =>
    have object : Reads.Refuses .string (arrange m.toJson) :=
      arranges.refuses_object (fun _ => Reads.refuses_of_error rfl) ["kind","value"] (by decide) (by simp)
    simp [read,toJson,m.read_arranged arranges,object]

theorem CompletionItem.read_arranged (arranges : Json.Arranges arrange tidy) (i : CompletionItem) :
    read (arrange i.toJson) = .ok i := by
  refine arranges.read_record (fun _ => rfl) ["label","kind","detail","documentation","sortText",
    "filterText","insertText","insertTextFormat","textEdit","preselect","tags"] (by decide) (by simp)
    fun members found => ?_
  have text : ∀ name value, members.lookup name = some (arrange (.nullable .str value)) →
      (Fields.omittable name .string).ofMembers members = .ok value := fun _ _ found =>
    arranges.read_omittable found (Reads.refuses_of_error rfl) fun s _ => arranges.read_string s
  have label : (Fields.required "label" .string).ofMembers members = .ok i.label := by
    simp [found,Part.written,arranges.str]
  have kind : (Fields.omittable "kind" .word32).ofMembers members = .ok i.kind :=
    arranges.read_omittable (found _) (Reads.refuses_of_error rfl) fun n _ => arranges.read_word32 n
  have documentation : (Fields.omittable "documentation" Documentation.read).ofMembers members =
      .ok i.documentation :=
    arranges.read_omittable (found _) (Reads.refuses_of_error rfl) fun d _ => d.read_arranged arranges
  have format : (Fields.omittable "insertTextFormat" .word8).ofMembers members = .ok i.insertTextFormat :=
    arranges.read_omittable (found _) (Reads.refuses_of_error rfl) fun n _ => arranges.read_word8 n
  have edit : (Fields.omittable "textEdit" CompletionEdit.read).ofMembers members = .ok i.textEdit :=
    arranges.read_omittable (found _) (Reads.refuses_of_error rfl) fun e _ => e.read_arranged arranges
  have preselect : (Fields.omittable "preselect" .bool).ofMembers members = .ok i.preselect :=
    arranges.read_omittable (found _) (Reads.refuses_of_error rfl) fun b _ => arranges.read_bool b
  have tags : (Fields.defaulted "tags" (.list .word8) []).ofMembers members = .ok i.tags := by
    have listed := arranges.read_list fun n (_ : n ∈ i.tags) => arranges.read_word8 n
    simp [found,Part.written,listed]
  have described := Fields.ofMembers_seq_of (Fields.ofMembers_seq_of (Fields.ofMembers_seq_of
    (Fields.ofMembers_map_of (f := mk) label) kind) (text "detail" i.detail (found _))) documentation
  have worded := Fields.ofMembers_seq_of (Fields.ofMembers_seq_of (Fields.ofMembers_seq_of described
    (text "sortText" i.sortText (found _))) (text "filterText" i.filterText (found _)))
    (text "insertText" i.insertText (found _))
  exact Fields.ofMembers_seq_of (Fields.ofMembers_seq_of (Fields.ofMembers_seq_of
    (Fields.ofMembers_seq_of worded format) edit) preselect) tags

theorem CompletionList.read_arranged (arranges : Json.Arranges arrange tidy) (l : CompletionList) :
    read (arrange l.toJson) = .ok l := by
  refine arranges.read_record (fun _ => rfl) ["isIncomplete","items"] (by decide) (by simp)
    fun members found => ?_
  have items := arranges.read_list fun i (_ : i ∈ l.items) => i.read_arranged arranges
  simp [fields,found,Part.written,arranges.read_bool,items]

theorem Completions.read_arranged (arranges : Json.Arranges arrange tidy) (c : Completions) :
    read (arrange c.toJson) = .ok c := by
  cases c with
  | items items =>
    have own := arranges.read_list fun i (_ : i ∈ items) => CompletionItem.read_arranged arranges i
    simp [read,toJson,own]
  | list l =>
    have object : Reads.Refuses (.list CompletionItem.read) (arrange l.toJson) :=
      arranges.refuses_object (fun _ => Reads.refuses_of_error rfl) ["isIncomplete","items"] (by decide)
        (by simp)
    simp [read,toJson,l.read_arranged arranges,object]

theorem RenamePreparation.read_arranged (arranges : Json.Arranges arrange tidy) (r : RenamePreparation) :
    read (arrange r.toJson) = .ok r := by
  cases r with
  | placeholder range text =>
    have own : Reads.named "PrepareRenameResponse" placeholderFields
        (arrange (placeholder range text).toJson) = .ok (placeholder range text) := by
      refine arranges.read_record (fun _ => rfl) ["range","placeholder"] (by decide) (by simp)
        fun members found => ?_
      simp [placeholderFields,found,Part.written,arranges.str,range.read_arranged arranges]
    simp [read,own]
  | standard allowed =>
    have first : Reads.Refuses (.named "PrepareRenameResponse" placeholderFields)
        (arrange (standard allowed).toJson) := by
      refine arranges.refuses_record (fun _ => rfl) ["defaultBehavior"] (by decide) (by simp)
        fun members found a => ?_
      simp [placeholderFields,found,Part.written]
    have own : Reads.named "PrepareRenameResponse" standardFields
        (arrange (standard allowed).toJson) = .ok (standard allowed) := by
      refine arranges.read_record (fun _ => rfl) ["defaultBehavior"] (by decide) (by simp)
        fun members found => ?_
      simp [standardFields,found,Part.written,arranges.read_bool]
    simp [read,first,own]
  | bare range =>
    have first : Reads.Refuses (.named "PrepareRenameResponse" placeholderFields)
        (arrange range.toJson) := by
      refine arranges.refuses_record (fun _ => rfl) ["start","end"] (by decide) (by simp)
        fun members found a => ?_
      simp [placeholderFields,found,Part.written]
    have second : Reads.Refuses (.named "PrepareRenameResponse" standardFields)
        (arrange range.toJson) := by
      refine arranges.refuses_record (fun _ => rfl) ["start","end"] (by decide) (by simp)
        fun members found a => ?_
      simp [standardFields,found,Part.written]
    simp [read,toJson,first,second,range.read_arranged arranges]

/-- What a value is written as is read as that value, in writing order and in key order. -/
def Restored {α : Type} (read : Reads α) (write : α → Json) (a : α) : Prop :=
  read (write a) = .ok a ∧ read (write a).sorted = .ok a

/-- Results in variants are read as what they were written from; of all of them, only an empty flat list
of symbols cannot be told from an empty forest. -/
theorem variants_restored :
    (∀ s : DocumentSymbols, Restored DocumentSymbols.read DocumentSymbols.toJson s ↔ s ≠ .flat []) ∧
    (∀ c : Completions, Restored Completions.read Completions.toJson c) ∧
    (∀ e : CompletionEdit, Restored CompletionEdit.read CompletionEdit.toJson e) ∧
    ∀ r : RenamePreparation, Restored RenamePreparation.read RenamePreparation.toJson r := by
  have plain := Json.arranges_id
  have sorted := Json.arranges_sorted
  refine ⟨fun s => ?_,fun c => ?_,fun e => ?_,fun r => ?_⟩
  · have first := s.read_arranged plain
    have second := s.read_arranged sorted
    rw [Restored,second]
    exact (and_congr_left' first).trans (and_self_iff)
  · exact ⟨c.read_arranged plain,c.read_arranged sorted⟩
  · exact ⟨e.read_arranged plain,e.read_arranged sorted⟩
  · exact ⟨r.read_arranged plain,r.read_arranged sorted⟩

end Wire

end LanguageBridge
