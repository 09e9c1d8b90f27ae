import LanguageBridge.Wire.Edit
import LanguageBridge.Wire.Hover

/-! Completions that a server offers. -/
namespace LanguageBridge.Wire

inductive Documentation where
  | text (s : String)
  | markup (m : Markup)
  deriving DecidableEq, Repr

/-- One text with a range to insert it at and a range to replace by it. -/
structure InsertReplaceEdit where
  newText : String
  insert : Range
  replace : Range
  deriving DecidableEq, Repr

inductive CompletionEdit where
  | edit (e : TextEdit)
  | insertReplace (e : InsertReplaceEdit)
  deriving DecidableEq, Repr

structure CompletionItem where
  label : String
  kind : Option UInt32
  detail : Option String
  documentation : Option Documentation
  sortText : Option String
  filterText : Option String
  insertText : Option String
  insertTextFormat : Option UInt8
  textEdit : Option CompletionEdit
  preselect : Option Bool
  tags : List UInt8
  deriving DecidableEq, Repr

structure CompletionList where
  incomplete : Bool
  items : List CompletionItem
  deriving DecidableEq, Repr

inductive Completions where
  | items (items : List CompletionItem)
  | list (list : CompletionList)
  deriving DecidableEq, Repr

namespace Documentation

def read : Reads Documentation :=
  .choice "Documentation" [.mapTo .text .string, .mapTo .markup Markup.read]

def toJson : Documentation → Json
  | .text s => .str s
  | .markup m => m.toJson

end Documentation

namespace InsertReplaceEdit

def fields : Fields InsertReplaceEdit :=
  mk <$> .required "newText" .string <*> .required "insert" Range.read <*>
    .required "replace" Range.read

def read : Reads InsertReplaceEdit := .record "InsertReplaceEdit" fields

def toJson (e : InsertReplaceEdit) : Json :=
  .record [.always "newText" (.str e.newText), .always "insert" e.insert.toJson,
    .always "replace" e.replace.toJson]

end InsertReplaceEdit

namespace CompletionEdit

def read : Reads CompletionEdit :=
  .choice "CompletionTextEdit" [.mapTo .edit TextEdit.read,
    .mapTo .insertReplace InsertReplaceEdit.read]

def toJson : CompletionEdit → Json
  | .edit e => e.toJson
  | .insertReplace e => e.toJson

end CompletionEdit

namespace CompletionItem

/-- The format that marks an insert text as a snippet. -/
def snippetFormat : UInt8 := 2

def fields : Fields CompletionItem :=
  mk <$> .required "label" .string <*> .omittable "kind" .word32 <*>
    .omittable "detail" .string <*> .omittable "documentation" Documentation.read <*>
    .omittable "sortText" .string <*> .omittable "filterText" .string <*>
    .omittable "insertText" .string <*> .omittable "insertTextFormat" .word8 <*>
    .omittable "textEdit" CompletionEdit.read <*> .omittable "preselect" .bool <*>
    .defaulted "tags" (.list .word8) []

def read : Reads CompletionItem := .record "CompletionItem" fields

def toJson (i : CompletionItem) : Json :=
  .record [.always "label" (.str i.label), .always "kind" (.nullable .ofWord32 i.kind),
    .always "detail" (.nullable .str i.detail),
    .always "documentation" (.nullable Documentation.toJson i.documentation),
    .always "sortText" (.nullable .str i.sortText),
    .always "filterText" (.nullable .str i.filterText),
    .always "insertText" (.nullable .str i.insertText),
    .always "insertTextFormat" (.nullable .ofWord8 i.insertTextFormat),
    .always "textEdit" (.nullable CompletionEdit.toJson i.textEdit),
    .always "preselect" (.nullable .bool i.preselect),
    .always "tags" (.list .ofWord8 i.tags)]

end CompletionItem

namespace CompletionList

def fields : Fields CompletionList :=
  mk <$> .required "isIncomplete" .bool <*> .required "items" (.list CompletionItem.read)

def read : Reads CompletionList := .record "CompletionList" fields

def toJson (l : CompletionList) : Json :=
  .record [.always "isIncomplete" (.bool l.incomplete),
    .always "items" (.list CompletionItem.toJson l.items)]

end CompletionList

namespace Completions

def read : Reads Completions :=
  .choice "CompletionResponse" [.mapTo .items (.list CompletionItem.read),
    .mapTo .list CompletionList.read]

def toJson : Completions → Json
  | .items xs => .list CompletionItem.toJson xs
  | .list l => l.toJson

end Completions

end LanguageBridge.Wire
