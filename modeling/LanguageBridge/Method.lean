/-! Names of the methods that the bridge sends or answers. -/
namespace LanguageBridge.Method

def handshake : String := "initialize"

def handshakeDone : String := "initialized"

def cancelRequest : String := "$/cancelRequest"

def didOpen : String := "textDocument/didOpen"

def documentSymbol : String := "textDocument/documentSymbol"

def formatting : String := "textDocument/formatting"

def rename : String := "textDocument/rename"

def prepareRename : String := "textDocument/prepareRename"

def hover : String := "textDocument/hover"

def completion : String := "textDocument/completion"

def semanticTokens : String := "textDocument/semanticTokens/full"

def publishDiagnostics : String := "textDocument/publishDiagnostics"

def readFile : String := "custom/readFile"

end LanguageBridge.Method
