import LanguageBridge.Editor.Hover

/-! Completions as the editor offers them. -/
namespace LanguageBridge.Editor

inductive CompletionKind where
  | method
  | function
  | constructor
  | field
  | variableKind
  | classKind
  | struct
  | interface
  | moduleKind
  | property
  | event
  | operator
  | unit
  | value
  | constant
  | enum
  | enumMember
  | keyword
  | text
  | color
  | file
  | reference
  | customColor
  | folder
  | typeParameter
  | user
  | issue
  | snippet
  deriving DecidableEq, Repr

structure Suggestion where
  label : String
  kind : CompletionKind
  detail : Option String
  documentation : Option Markdown
  insertText : String
  insertTextRules : Option UInt8
  range : Range
  sortText : Option String
  filterText : Option String
  preselect : Bool
  tags : List UInt8
  deriving DecidableEq, Repr

structure CompletionList where
  incomplete : Bool
  suggestions : List Suggestion
  deriving DecidableEq, Repr

namespace CompletionKind

def all : List CompletionKind :=
  [.method, .function, .constructor, .field, .variableKind, .classKind, .struct, .interface,
    .moduleKind, .property, .event, .operator, .unit, .value, .constant, .enum, .enumMember,
    .keyword, .text, .color, .file, .reference, .customColor, .folder, .typeParameter, .user,
    .issue, .snippet]

/-- The editor's number of a kind, from 0. -/
def ordinal (k : CompletionKind) : Nat := all.idxOf k

def read : Reads CompletionKind := .coded (all.map fun k => (k.ordinal, k))

def toJson (k : CompletionKind) : Json := .ofNat k.ordinal

end CompletionKind

namespace Suggestion

/-- The rule that has an insert text treated as a snippet. -/
def snippetRule : UInt8 := 4

def fields : Fields Suggestion :=
  mk <$> .required "label" .string <*> .required "kind" CompletionKind.read <*>
    .omittable "detail" .string <*> .omittable "documentation" Markdown.read <*>
    .required "insertText" .string <*> .omittable "insertTextRules" .word8 <*>
    .required "range" Range.read <*> .omittable "sortText" .string <*>
    .omittable "filterText" .string <*> .defaulted "preselect" .bool false <*>
    .defaulted "tags" (.list .word8) []

def read : Reads Suggestion := .record "CompletionSuggestion" fields

def toJson (s : Suggestion) : Json :=
  .record [.always "label" (.str s.label), .always "kind" s.kind.toJson,
    .whenSome "detail" .str s.detail, .whenSome "documentation" Markdown.toJson s.documentation,
    .always "insertText" (.str s.insertText),
    .whenSome "insertTextRules" .ofWord8 s.insertTextRules, .always "range" s.range.toJson,
    .whenSome "sortText" .str s.sortText, .whenSome "filterText" .str s.filterText,
    .always "preselect" (.bool s.preselect), .whenAny "tags" .ofWord8 s.tags]

end Suggestion

namespace CompletionList

def empty : CompletionList := ⟨false, []⟩

def fields : Fields CompletionList :=
  mk <$> .required "incomplete" .bool <*> .required "suggestions" (.list Suggestion.read)

def read : Reads CompletionList := .record "CompletionList" fields

def toJson (l : CompletionList) : Json :=
  .record [.always "incomplete" (.bool l.incomplete),
    .always "suggestions" (.list Suggestion.toJson l.suggestions)]

end CompletionList

end LanguageBridge.Editor
