import LanguageBridge.Conversion.Range
import LanguageBridge.Editor.Completion
import LanguageBridge.Wire.Completion

/-! Completions of the server as suggestions of the editor. -/
namespace LanguageBridge

/-- Kinds in the order in which the server numbers them from 1. -/
def Editor.CompletionKind.wireOrder : List Editor.CompletionKind :=
  [.text, .method, .function, .constructor, .field, .variableKind, .classKind, .interface,
    .moduleKind, .property, .unit, .value, .enum, .keyword, .snippet, .color, .file, .reference,
    .folder, .enumMember, .constant, .struct, .event, .operator, .typeParameter]

/-- No kind and unknown numbers are properties. -/
def Editor.CompletionKind.ofWire : Option UInt32 → Editor.CompletionKind
  | none => .property
  | some n => if n = 0 then .property else (wireOrder[n.toNat - 1]?).getD .property

namespace Wire

def Documentation.toEditor : Documentation → Editor.Markdown
  | .text s => ⟨s⟩
  | .markup m => ⟨m.value⟩

/-- Where an item without an edit of its own goes. -/
def defaultCompletionRange : Editor.Range := ⟨1, 1, 1, 1⟩

namespace CompletionItem

/-- The text to insert and its place; without an edit the text is the insert text or the label. -/
def insertion (i : CompletionItem) : String × Editor.Range :=
  match i.textEdit with
  | some (.edit e) => (e.newText, e.range.toEditor)
  | some (.insertReplace e) => (e.newText, e.replace.toEditor)
  | none => (i.insertText.getD i.label, defaultCompletionRange)

def toEditor (i : CompletionItem) : Editor.Suggestion where
  label := i.label
  kind := .ofWire i.kind
  detail := i.detail
  documentation := i.documentation.map Documentation.toEditor
  insertText := i.insertion.1
  insertTextRules :=
    if i.insertTextFormat = some snippetFormat then some Editor.Suggestion.snippetRule else none
  range := i.insertion.2
  sortText := i.sortText
  filterText := i.filterText
  preselect := i.preselect.getD false
  tags := i.tags

end CompletionItem

/-- A bare list of items is complete. -/
def Completions.toEditor : Completions → Editor.CompletionList
  | .items xs => ⟨false, xs.map CompletionItem.toEditor⟩
  | .list l => ⟨l.incomplete, l.items.map CompletionItem.toEditor⟩

end Wire

end LanguageBridge
