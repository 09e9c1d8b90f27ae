import LanguageBridge.Json.Reading

/-! Settings of the bridge, each with a default. -/
namespace LanguageBridge

/-- How the bridge names itself to a server. -/
structure ClientSettings where
  name : String
  version : Option String
  deriving DecidableEq, Repr

/-- The base deadline of a request, in seconds. -/
structure DeadlineSettings where
  seconds : UInt64
  deriving DecidableEq, Repr

/-- The name under which markers are set. -/
structure DiagnosticSettings where
  owner : String
  deriving DecidableEq, Repr

/-- Host and port of a running server. -/
structure ConnectionSettings where
  address : String
  deriving DecidableEq, Repr

structure Settings where
  client : ClientSettings
  deadline : DeadlineSettings
  diagnostics : DiagnosticSettings
  connection : ConnectionSettings
  deriving DecidableEq, Repr

namespace ClientSettings

def standard : ClientSettings := ⟨"lsp-bridge", none⟩

def fields : Fields ClientSettings :=
  mk <$> .defaulted "name" .string standard.name <*> .omittable "version" .string

def read : Reads ClientSettings := .record "ClientConfig" fields

def toJson (c : ClientSettings) : Json :=
  .record [.always "name" (.str c.name), .always "version" (.nullable .str c.version)]

end ClientSettings

namespace DeadlineSettings

def standard : DeadlineSettings := ⟨30⟩

def fields : Fields DeadlineSettings := mk <$> .defaulted "timeout_secs" .word64 standard.seconds

def read : Reads DeadlineSettings := .record "RpcConfig" fields

def toJson (d : DeadlineSettings) : Json :=
  .record [.always "timeout_secs" (.ofWord64 d.seconds)]

end DeadlineSettings

namespace DiagnosticSettings

def standard : DiagnosticSettings := ⟨"lsp-bridge"⟩

def fields : Fields DiagnosticSettings := mk <$> .defaulted "owner" .string standard.owner

def read : Reads DiagnosticSettings := .record "DiagnosticsConfig" fields

def toJson (d : DiagnosticSettings) : Json := .record [.always "owner" (.str d.owner)]

end DiagnosticSettings

namespace ConnectionSettings

def standard : ConnectionSettings := ⟨"127.0.0.1:9257"⟩

def fields : Fields ConnectionSettings := mk <$> .defaulted "address" .string standard.address

def read : Reads ConnectionSettings := .record "ConnectionConfig" fields

def toJson (c : ConnectionSettings) : Json := .record [.always "address" (.str c.address)]

end ConnectionSettings

namespace Settings

def standard : Settings := ⟨.standard, .standard, .standard, .standard⟩

def fields : Fields Settings :=
  mk <$> .defaulted "client" ClientSettings.read .standard <*>
    .defaulted "rpc" DeadlineSettings.read .standard <*>
    .defaulted "diagnostics" DiagnosticSettings.read .standard <*>
    .defaulted "connection" ConnectionSettings.read .standard

def read : Reads Settings := .record "BridgeConfig" fields

def toJson (s : Settings) : Json :=
  .record [.always "client" s.client.toJson, .always "rpc" s.deadline.toJson,
    .always "diagnostics" s.diagnostics.toJson, .always "connection" s.connection.toJson]

end Settings

end LanguageBridge
