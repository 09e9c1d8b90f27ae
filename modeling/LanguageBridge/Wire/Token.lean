import LanguageBridge.Json.Reading

/-! Semantic tokens and the legend that names their types and modifiers. -/
namespace LanguageBridge.Wire

structure TokenLegend where
  types : List String
  modifiers : List String
  deriving DecidableEq, Repr

structure Tokens where
  resultId : Option String
  data : List UInt32
  deriving DecidableEq, Repr

namespace TokenLegend

def fields : Fields TokenLegend :=
  mk <$> .required "tokenTypes" (.list .string) <*> .required "tokenModifiers" (.list .string)

def read : Reads TokenLegend := .record "SemanticTokensLegend" fields

def toJson (l : TokenLegend) : Json :=
  .record [.always "tokenTypes" (.list .str l.types),
    .always "tokenModifiers" (.list .str l.modifiers)]

end TokenLegend

namespace Tokens

def fields : Fields Tokens :=
  mk <$> .omittable "resultId" .string <*> .required "data" (.list .word32)

def read : Reads Tokens := .record "SemanticTokens" fields

def toJson (t : Tokens) : Json :=
  .record [.whenSome "resultId" .str t.resultId, .always "data" (.list .ofWord32 t.data)]

end Tokens

end LanguageBridge.Wire
