import LanguageBridge.Proofs.Recognition
import LanguageBridge.Wire.Handshake
import Mathlib.Tactic.MkIffOfInductiveProp

/-! Which values are answers to a handshake, and which legends they declare. A record may come as an
object or as an array; the shapes are said on the values alone, and the readers accept exactly these. -/
namespace LanguageBridge

namespace Json

/-- Whether a value can be a record of `size` fields: an object, or an array without further items. -/
def isRecord (size : Nat) : Json → Bool
  | .obj _ => true
  | .arr items => decide (items.length ≤ size)
  | _ => false

def part? (place : Nat) (name : String) : Json → Option Json
  | .obj members => members.lookup name
  | .arr items => items[place]?
  | _ => none

end Json

namespace Wire

@[mk_iff] structure TokenLegend.Spelled (j : Json) (l : TokenLegend) : Prop where
  shape : j.isRecord 2
  types : j.part? 0 "tokenTypes" = some (.arr (l.types.map .str))
  modifiers : j.part? 1 "tokenModifiers" = some (.arr (l.modifiers.map .str))

@[mk_iff] structure TokenOptions.Spelled (j : Json) (o : TokenOptions) : Prop where
  shape : j.isRecord 1
  legend : Reads.Optionally TokenLegend.Spelled (j.part? 0 "legend") o.legend

@[mk_iff] structure ServerCapabilities.Spelled (j : Json) (c : ServerCapabilities) : Prop where
  shape : j.isRecord 4
  tokens : Reads.Optionally TokenOptions.Spelled (j.part? 0 "semanticTokensProvider") c.tokens
  hover : c.hover = present (j.part? 1 "hoverProvider")
  rename : c.rename = present (j.part? 2 "renameProvider")
  completion : c.completion = present (j.part? 3 "completionProvider")

/-- An object may lack the version, an array may not. -/
@[mk_iff] structure ServerInfo.Spelled (j : Json) (s : ServerInfo) : Prop where
  shape : j.isRecord 2
  name : j.part? 0 "name" = some (.str s.name)
  version : Reads.Optionally (fun v text => v = .str text) (j.part? 1 "version") s.version
  full : ∀ items, j = .arr items → items.length = 2

@[mk_iff] structure InitializeResult.Spelled (j : Json) (r : InitializeResult) : Prop where
  shape : j.isRecord 2
  capabilities : ∃ v, j.part? 0 "capabilities" = some v ∧ ServerCapabilities.Spelled v r.capabilities
  server : Reads.Optionally ServerInfo.Spelled (j.part? 1 "serverInfo") r.server

end Wire

namespace Fields

variable {α : Type}

@[simp] theorem ofMembers_omittable {members : List (String × Json)} {name : String} {read : Reads α}
    {a : Option α} : (omittable name read).ofMembers members = .ok a ↔
      Reads.nullable read ((members.lookup name).getD .null) = .ok a :=
  ofMembers_optional

/-- An array that is at its end holds null for every field that can be left out. -/
@[simp] theorem ofItems_omittable {expected : String} {index : Nat} {items rest : List Json}
    {name : String} {read : Reads α} {a : Option α} :
    (omittable name read).ofItems expected index items = .ok (a,rest) ↔
      Reads.nullable read (items.head?.getD .null) = .ok a ∧ rest = items.tail := by
  cases items with
  | nil => simp [omittable,one,Reads.nullable,eq_comm]
  | cons j items =>
    cases given : Reads.nullable read j <;> simp [omittable,one,given,Except.map,eq_comm]

end Fields

/-- A list is read item by item. -/
theorem Reads.mapM_ok {α : Type} {read : Reads α} {items : List Json} {values : List α} :
    items.mapM read = .ok values ↔ items.map read = values.map .ok := by
  induction items generalizing values with
  | nil => cases values <;> simp [List.mapM_nil,Pure.pure,Except.pure]
  | cons j items ih =>
    rw [List.mapM_cons]
    cases given : read j with
    | error e => cases values <;> simp [bind,Except.bind,given]
    | ok a =>
      cases values with
      | nil => cases items.mapM read <;> simp [bind,Except.bind,Pure.pure,Except.pure]
      | cons b values =>
        rw [List.map_cons,List.map_cons,List.cons.injEq,← ih,given]
        cases items.mapM read <;> simp [bind,Except.bind,Pure.pure,Except.pure]

theorem Reads.list_string_ok {j : Json} {texts : List String} :
    list string j = .ok texts ↔ j = .arr (texts.map .str) := by
  cases j with
  | arr items =>
    simp only [list,mapM_ok,Json.arr.injEq]
    induction items generalizing texts with
    | nil => cases texts <;> simp
    | cons j items ih => cases texts <;> simp [ih]
  | _ => simp [list]

namespace Wire

theorem TokenLegend.read_iff (j : Json) (l : TokenLegend) : read j = .ok l ↔ Spelled j l := by
  obtain ⟨types,modifiers⟩ := l
  rw [spelled_iff]
  cases j with
  | obj members => simp [read,Reads.record,fields,Reads.list_string_ok,Json.isRecord,Json.part?]
  | arr items =>
    rw [read,Reads.record_arr]
    rcases items with _ | ⟨_,_ | ⟨_,_ | ⟨_,rest⟩⟩⟩ <;>
      simp [fields,Reads.list_string_ok,Json.isRecord,Json.part?]
  | _ => simp [read,Reads.record,Json.isRecord]

theorem TokenOptions.read_iff (j : Json) (o : TokenOptions) : read j = .ok o ↔ Spelled j o := by
  have legends := Reads.optionally_iff TokenLegend.read_iff fun l spelled => by cases spelled.shape
  obtain ⟨legend⟩ := o
  rw [spelled_iff]
  cases j with
  | obj members => simp [read,Reads.record,fields,← legends,Json.isRecord,Json.part?]
  | arr items =>
    rw [read,Reads.record_arr]
    rcases items with _ | ⟨_,_ | ⟨_,rest⟩⟩ <;> simp [fields,← legends,Json.isRecord,Json.part?]
  | _ => simp [read,Reads.record,Json.isRecord]

theorem ServerCapabilities.read_iff (j : Json) (c : ServerCapabilities) :
    read j = .ok c ↔ Spelled j c := by
  have options := Reads.optionally_iff TokenOptions.read_iff fun o spelled => by cases spelled.shape
  obtain ⟨tokens,hover,rename,completion⟩ := c
  rw [spelled_iff]
  cases j with
  | obj members => simp [read,Reads.record,fields,← options,Json.isRecord,Json.part?]
  | arr items =>
    rw [read,Reads.record_arr]
    rcases items with _ | ⟨_,_ | ⟨_,_ | ⟨_,_ | ⟨_,_ | ⟨_,rest⟩⟩⟩⟩⟩ <;>
      simp [fields,← options,Json.isRecord,Json.part?]
  | _ => simp [read,Reads.record,Json.isRecord]

theorem ServerInfo.read_iff (j : Json) (s : ServerInfo) : read j = .ok s ↔ Spelled j s := by
  have versions := Reads.optionally_iff (fun j s => Reads.string_ok (j := j) (s := s))
    fun s same => by cases same
  obtain ⟨name,version⟩ := s
  rw [spelled_iff]
  cases j with
  | obj members => simp [read,Reads.record,fields,← versions,Json.isRecord,Json.part?]
  | arr items =>
    rw [read,Reads.record_arr]
    rcases items with _ | ⟨_,_ | ⟨_,_ | ⟨_,rest⟩⟩⟩ <;>
      simp [fields,← versions,Json.isRecord,Json.part?]
  | _ => simp [read,Reads.record,Json.isRecord]

/-- A value is an answer to a handshake exactly when it has the shape of one. -/
theorem InitializeResult.read_iff (j : Json) (r : InitializeResult) : read j = .ok r ↔ Spelled j r := by
  have servers := Reads.optionally_iff ServerInfo.read_iff fun s spelled => by cases spelled.shape
  obtain ⟨capabilities,server⟩ := r
  rw [spelled_iff]
  cases j with
  | obj members =>
    simp [read,Reads.record,fields,← servers,ServerCapabilities.read_iff,Json.isRecord,Json.part?]
  | arr items =>
    rw [read,Reads.record_arr]
    rcases items with _ | ⟨_,_ | ⟨_,_ | ⟨_,rest⟩⟩⟩ <;>
      simp [fields,← servers,ServerCapabilities.read_iff,Json.isRecord,Json.part?]
  | _ => simp [read,Reads.record,Json.isRecord]

end Wire

end LanguageBridge
