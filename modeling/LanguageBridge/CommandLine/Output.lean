import LanguageBridge.Json.Printer

/-! What a command prints: one JSON document with a `success` member. -/
namespace LanguageBridge.Output

/-- The members of an object next to `success`; any other value goes under `data`. -/
def success : Json → Json
  | .obj members => .obj (Json.insertMember "success" (.bool true) (Json.sortMembers members))
  | other => .obj [("data", other), ("success", .bool true)]

def failure (message : String) : Json := .obj [("error", .str message), ("success", .bool false)]

/-- Keys in order, two spaces per level, and a line feed at the end. -/
def text (document : Json) : String := document.sorted.pretty ++ "\n"

end LanguageBridge.Output
