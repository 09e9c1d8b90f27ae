import LanguageBridge.SymbolKind
import LanguageBridge.Wire.Position

/-! Symbols of a document: a forest, or a flat list with locations. -/
namespace LanguageBridge.Wire

structure DocumentSymbol where
  name : String
  detail : Option String
  kind : SymbolKind
  tags : List UInt8
  range : Range
  selection : Range
  children : Option (List DocumentSymbol)

structure SymbolInformation where
  name : String
  kind : SymbolKind
  tags : List UInt8
  location : Location
  container : Option String
  deriving DecidableEq, Repr

inductive DocumentSymbols where
  | nested (symbols : List DocumentSymbol)
  | flat (symbols : List SymbolInformation)

namespace DocumentSymbol

def fields (child : Reads DocumentSymbol) : Fields DocumentSymbol :=
  mk <$> .required "name" .string <*> .optional "detail" .string <*>
    .required "kind" SymbolKind.readWire <*> .defaulted "tags" (.list .word8) [] <*>
    .required "range" Range.read <*> .required "selectionRange" Range.read <*>
    .optional "children" (.list child)

/-- A symbol whose tree has fewer levels than the given number. -/
def readWithin : Nat → Reads DocumentSymbol
  | 0 => fun _ => .error .shapeless
  | levels + 1 => .record "DocumentSymbol" (fields (readWithin levels))

/-- A child lies deeper in the JSON value than its parent, so its depth bounds the levels. -/
def read : Reads DocumentSymbol := fun j => readWithin (j.depth + 1) j

mutual

def toJson : DocumentSymbol → Json
  | ⟨name, detail, kind, tags, range, selection, children⟩ =>
    .record [.always "name" (.str name), .whenSome "detail" .str detail,
      .always "kind" kind.toWire, .whenAny "tags" .ofWord8 tags, .always "range" range.toJson,
      .always "selectionRange" selection.toJson,
      match children with
      | some symbols => .always "children" (.arr (forestToJson symbols))
      | none => ⟨[]⟩]

def forestToJson : List DocumentSymbol → List Json
  | [] => []
  | symbol :: rest => symbol.toJson :: forestToJson rest

end

end DocumentSymbol

namespace SymbolInformation

def fields : Fields SymbolInformation :=
  mk <$> .required "name" .string <*> .required "kind" SymbolKind.readWire <*>
    .defaulted "tags" (.list .word8) [] <*> .required "location" Location.read <*>
    .optional "containerName" .string

def read : Reads SymbolInformation := .record "SymbolInformation" fields

def toJson (s : SymbolInformation) : Json :=
  .record [.always "name" (.str s.name), .always "kind" s.kind.toWire,
    .whenAny "tags" .ofWord8 s.tags, .always "location" s.location.toJson,
    .whenSome "containerName" .str s.container]

end SymbolInformation

namespace DocumentSymbols

def read : Reads DocumentSymbols :=
  .choice "DocumentSymbolResponse" [.mapTo .nested (.list DocumentSymbol.read),
    .mapTo .flat (.list SymbolInformation.read)]

def toJson : DocumentSymbols → Json
  | .nested symbols => .arr (DocumentSymbol.forestToJson symbols)
  | .flat symbols => .list SymbolInformation.toJson symbols

end DocumentSymbols

end LanguageBridge.Wire
