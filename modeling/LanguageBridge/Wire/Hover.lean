import LanguageBridge.Wire.Position

/-! Hover texts. -/
namespace LanguageBridge.Wire

structure Markup where
  kind : String
  value : String
  deriving DecidableEq, Repr

/-- A plain text, or code in a language. -/
inductive MarkedString where
  | text (s : String)
  | code (language value : String)
  deriving DecidableEq, Repr

inductive HoverContents where
  | markup (m : Markup)
  | list (items : List MarkedString)
  | single (item : MarkedString)
  deriving DecidableEq, Repr

structure Hover where
  contents : HoverContents
  range : Option Range
  deriving DecidableEq, Repr

namespace Markup

def fields : Fields Markup := mk <$> .required "kind" .string <*> .required "value" .string

def read : Reads Markup := .record "MarkupContent" fields

def toJson (m : Markup) : Json :=
  .record [.always "kind" (.str m.kind), .always "value" (.str m.value)]

end Markup

namespace MarkedString

def codeFields : Fields MarkedString :=
  code <$> .required "language" .string <*> .required "value" .string

def read : Reads MarkedString :=
  .choice "MarkedString" [.mapTo .text .string, .named "MarkedString" codeFields]

def toJson : MarkedString → Json
  | .text s => .str s
  | .code language value =>
    .record [.always "language" (.str language), .always "value" (.str value)]

end MarkedString

namespace HoverContents

def read : Reads HoverContents :=
  .choice "HoverContents" [.mapTo .markup Markup.read, .mapTo .list (.list MarkedString.read),
    .mapTo .single MarkedString.read]

def toJson : HoverContents → Json
  | .markup m => m.toJson
  | .list items => .list MarkedString.toJson items
  | .single item => item.toJson

end HoverContents

namespace Hover

def fields : Fields Hover :=
  mk <$> .required "contents" HoverContents.read <*> .optional "range" Range.read

def read : Reads Hover := .record "Hover" fields

def toJson (h : Hover) : Json :=
  .record [.always "contents" h.contents.toJson, .whenSome "range" Range.toJson h.range]

end Hover

end LanguageBridge.Wire
