import LanguageBridge.Settings.Basic
import LanguageBridge.Toml.Document

/-! Settings out of the text of a settings file. -/
namespace LanguageBridge

namespace Toml

mutual

/-- The JSON value of the same shape. No setting is a float, a date or a time, so any double stands
for a float, and an object without members for a date or a time. -/
def Value.toJson : Value → Json
  | .text s => .str s
  | .integer n => .ofInt n
  | .float _ => .num (.double ⟨false, 0⟩)
  | .boolean b => .bool b
  | .moment _ => .obj []
  | .array items => .arr (itemsToJson items)
  | .table members => .obj (membersToJson members)

def itemsToJson : List Value → List Json
  | [] => []
  | v :: rest => v.toJson :: itemsToJson rest

def membersToJson : List (String × Value) → List (String × Json)
  | [] => []
  | (key, v) :: rest => (key, v.toJson) :: membersToJson rest

end

end Toml

/-- A record from an object, or from an array that starts with its fields. -/
def Reads.leading {α : Type} (name : String) (fields : Fields α) : Reads α
  | .arr items => (fields.ofItems ("struct " ++ name) 0 items).map (·.1)
  | other => Reads.named name fields other

namespace Settings

/-- Sections of a file may be written as tables or as lists. -/
def fileFields : Fields Settings :=
  mk <$> .defaulted "client" (.leading "ClientConfig" ClientSettings.fields) .standard <*>
    .defaulted "rpc" (.leading "RpcConfig" DeadlineSettings.fields) .standard <*>
    .defaulted "diagnostics" (.leading "DiagnosticsConfig" DiagnosticSettings.fields) .standard <*>
    .defaulted "connection" (.leading "ConnectionConfig" ConnectionSettings.fields) .standard

/-- The settings in the text of a file. -/
def ofText? (text : String) : Option Settings :=
  (Toml.parse text).bind fun v => (Reads.named "BridgeConfig" fileFields v.toJson).toOption

end Settings

end LanguageBridge
