import LanguageBridge.Editor.Range

/-! Hover texts as the editor shows them. -/
namespace LanguageBridge.Editor

structure Markdown where
  value : String
  deriving DecidableEq, Repr

structure Hover where
  contents : List Markdown
  range : Option Range
  deriving DecidableEq, Repr

namespace Markdown

def fields : Fields Markdown := mk <$> .required "value" .string

def read : Reads Markdown := .record "MarkdownString" fields

def toJson (m : Markdown) : Json := .record [.always "value" (.str m.value)]

end Markdown

namespace Hover

def fields : Fields Hover :=
  mk <$> .required "contents" (.list Markdown.read) <*> .omittable "range" Range.read

def read : Reads Hover := .record "EditorHover" fields

def toJson (h : Hover) : Json :=
  .record [.always "contents" (.list Markdown.toJson h.contents),
    .whenSome "range" Range.toJson h.range]

end Hover

end LanguageBridge.Editor
