import LanguageBridge.Editor.Token
import LanguageBridge.Wire.Token

/-! Semantic tokens pass unchanged. -/
namespace LanguageBridge.Wire

def Tokens.toEditor (t : Tokens) : Editor.Tokens := ⟨t.resultId, t.data⟩

end LanguageBridge.Wire
