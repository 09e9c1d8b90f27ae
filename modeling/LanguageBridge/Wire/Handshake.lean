import LanguageBridge.Wire.Token

/-! What the two sides tell each other when a session starts. -/
namespace LanguageBridge.Wire

structure ClientInfo where
  name : String
  version : Option String
  deriving DecidableEq, Repr

structure InitializeParams where
  processId : Option UInt32
  client : ClientInfo
  capabilities : Json
  rootUri : Option String
  deriving DecidableEq

structure TokenOptions where
  legend : Option TokenLegend
  deriving DecidableEq, Repr

structure ServerCapabilities where
  tokens : Option TokenOptions
  hover : Option Json
  rename : Option Json
  completion : Option Json
  deriving DecidableEq

structure ServerInfo where
  name : String
  version : Option String
  deriving DecidableEq, Repr

structure InitializeResult where
  capabilities : ServerCapabilities
  server : Option ServerInfo
  deriving DecidableEq

namespace ClientInfo

def fields : Fields ClientInfo := mk <$> .required "name" .string <*> .optional "version" .string

def read : Reads ClientInfo := .record "ClientInfo" fields

def toJson (c : ClientInfo) : Json :=
  .record [.always "name" (.str c.name), .whenSome "version" .str c.version]

end ClientInfo

namespace InitializeParams

def fields : Fields InitializeParams :=
  mk <$> .optional "processId" .word32 <*> .required "clientInfo" ClientInfo.read <*>
    .required "capabilities" .any <*> .optional "rootUri" .string

def read : Reads InitializeParams := .record "InitializeParams" fields

/-- The process and the root are written as null when there are none. -/
def toJson (p : InitializeParams) : Json :=
  .record [.always "processId" (.nullable .ofWord32 p.processId),
    .always "clientInfo" p.client.toJson, .always "capabilities" p.capabilities,
    .always "rootUri" (.nullable .str p.rootUri)]

end InitializeParams

namespace TokenOptions

def fields : Fields TokenOptions := mk <$> .omittable "legend" TokenLegend.read

def read : Reads TokenOptions := .record "SemanticTokensOptions" fields

def toJson (o : TokenOptions) : Json :=
  .record [.always "legend" (.nullable TokenLegend.toJson o.legend)]

end TokenOptions

namespace ServerCapabilities

def fields : Fields ServerCapabilities :=
  mk <$> .omittable "semanticTokensProvider" TokenOptions.read <*>
    .omittable "hoverProvider" .any <*> .omittable "renameProvider" .any <*>
    .omittable "completionProvider" .any

def read : Reads ServerCapabilities := .record "ServerCapabilities" fields

def toJson (c : ServerCapabilities) : Json :=
  .record [.always "semanticTokensProvider" (.nullable TokenOptions.toJson c.tokens),
    .verbatim "hoverProvider" c.hover, .verbatim "renameProvider" c.rename,
    .verbatim "completionProvider" c.completion]

end ServerCapabilities

namespace ServerInfo

def fields : Fields ServerInfo := mk <$> .required "name" .string <*> .optional "version" .string

def read : Reads ServerInfo := .record "ServerInfo" fields

def toJson (s : ServerInfo) : Json :=
  .record [.always "name" (.str s.name), .whenSome "version" .str s.version]

end ServerInfo

namespace InitializeResult

def fields : Fields InitializeResult :=
  mk <$> .required "capabilities" ServerCapabilities.read <*>
    .omittable "serverInfo" ServerInfo.read

def read : Reads InitializeResult := .record "InitializeResult" fields

def toJson (r : InitializeResult) : Json :=
  .record [.always "capabilities" r.capabilities.toJson,
    .whenSome "serverInfo" ServerInfo.toJson r.server]

/-- The legend, if the server has one. -/
def legend? (r : InitializeResult) : Option TokenLegend :=
  r.capabilities.tokens.bind (·.legend)

end InitializeResult

end LanguageBridge.Wire
