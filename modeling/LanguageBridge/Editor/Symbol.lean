import LanguageBridge.Editor.Range
import LanguageBridge.SymbolKind

/-! Symbols of a document as the editor shows them. -/
namespace LanguageBridge.Editor

structure DocumentSymbol where
  name : String
  detail : String
  kind : SymbolKind
  tags : List UInt8
  container : Option String
  range : Range
  selection : Range
  children : List DocumentSymbol

namespace DocumentSymbol

def fields (child : Reads DocumentSymbol) : Fields DocumentSymbol :=
  mk <$> .required "name" .string <*> .required "detail" .string <*>
    .required "kind" SymbolKind.readEditor <*> .defaulted "tags" (.list .word8) [] <*>
    .omittable "containerName" .string <*> .required "range" Range.read <*>
    .required "selectionRange" Range.read <*> .defaulted "children" (.list child) []

/-- A symbol whose tree has fewer levels than the given number. -/
def readWithin : Nat → Reads DocumentSymbol
  | 0 => fun _ => .error .shapeless
  | levels + 1 => .record "EditorDocumentSymbol" (fields (readWithin levels))

/-- A child lies deeper in the JSON value than its parent, so its depth bounds the levels. -/
def read : Reads DocumentSymbol := fun j => readWithin (j.depth + 1) j

mutual

def toJson : DocumentSymbol → Json
  | ⟨name, detail, kind, tags, container, range, selection, children⟩ =>
    .record [.always "name" (.str name), .always "detail" (.str detail),
      .always "kind" kind.toEditor, .whenAny "tags" .ofWord8 tags,
      .whenSome "containerName" .str container, .always "range" range.toJson,
      .always "selectionRange" selection.toJson, .whenAny "children" (fun j => j)
        (forestToJson children)]

def forestToJson : List DocumentSymbol → List Json
  | [] => []
  | symbol :: rest => symbol.toJson :: forestToJson rest

end

mutual

/-- Nodes of a tree. -/
def size : DocumentSymbol → Nat
  | ⟨_, _, _, _, _, _, _, children⟩ => forestSize children + 1

def forestSize : List DocumentSymbol → Nat
  | [] => 0
  | symbol :: rest => symbol.size + forestSize rest

end

/-- The symbol without what is below it. -/
def leaf (s : DocumentSymbol) : DocumentSymbol := { s with children := [] }

end DocumentSymbol

end LanguageBridge.Editor
