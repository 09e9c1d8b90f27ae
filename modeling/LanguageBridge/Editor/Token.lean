import LanguageBridge.Json.Reading

/-! Semantic tokens as the editor takes them. -/
namespace LanguageBridge.Editor

structure Tokens where
  resultId : Option String
  data : List UInt32
  deriving DecidableEq, Repr

namespace Tokens

def fields : Fields Tokens :=
  mk <$> .omittable "resultId" .string <*> .required "data" (.list .word32)

def read : Reads Tokens := .record "EditorSemanticTokens" fields

def toJson (t : Tokens) : Json :=
  .record [.whenSome "resultId" .str t.resultId, .always "data" (.list .ofWord32 t.data)]

end Tokens

end LanguageBridge.Editor
