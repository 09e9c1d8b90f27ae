import LanguageBridge.Message.Basic
import LanguageBridge.Proofs.Json.Order

/-! When a reading succeeds and with what. A record is read from an object exactly when each of its
fields is, and a field looks at its own key alone. -/
namespace LanguageBridge

/-- Free JSON as a record keeps it: null counts as absent. -/
def present : Option Json → Option Json
  | some .null => none
  | value => value

namespace Reads

@[simp] theorem string_ok {j : Json} {s : String} : string j = .ok s ↔ j = .str s := by
  cases j <;> simp [string]

theorem nullable_of_ne {α : Type} {read : Reads α} {j : Json} (value : j ≠ .null) :
    nullable read j = (read j).map some := by
  cases j <;> simp_all [nullable]

@[simp] theorem nullable_any {found value : Option Json} :
    nullable any (found.getD .null) = .ok value ↔ value = present found := by
  cases found with
  | none => simp [nullable,present,eq_comm]
  | some j => cases j <;> simp [nullable,any,present,Except.map,eq_comm]

end Reads

namespace Fields

variable {α β : Type} {members : List (String × Json)}

@[simp] theorem ofMembers_map {f : α → β} {x : Fields α} {b : β} :
    (f <$> x).ofMembers members = .ok b ↔ ∃ a, x.ofMembers members = .ok a ∧ b = f a := by
  change (x.ofMembers members).map f = .ok b ↔ _
  cases x.ofMembers members <;> simp [Except.map,eq_comm]

@[simp] theorem ofMembers_seq {f : Fields (α → β)} {x : Fields α} {b : β} :
    (f <*> x).ofMembers members = .ok b ↔
      ∃ g a, f.ofMembers members = .ok g ∧ x.ofMembers members = .ok a ∧ b = g a := by
  change (seq f x).ofMembers members = .ok b ↔ _
  cases left : f.ofMembers members <;> cases right : x.ofMembers members <;>
    simp [seq,left,right,eq_comm]

@[simp] theorem ofMembers_required {name : String} {read : Reads α} {a : α} :
    (required name read).ofMembers members = .ok a ↔
      ∃ j, members.lookup name = some j ∧ read j = .ok a := by
  cases found : members.lookup name with
  | none => simp [required,one,found]
  | some j => cases given : read j <;> simp [required,one,found,given]

@[simp] theorem ofMembers_optional {name : String} {read : Reads α} {a : Option α} :
    (optional name read).ofMembers members = .ok a ↔
      Reads.nullable read ((members.lookup name).getD .null) = .ok a := by
  cases found : members.lookup name with
  | none => simp [optional,one,found,Reads.nullable]
  | some j => cases given : Reads.nullable read j <;> simp [optional,one,found,given]

@[simp] theorem readMembers_ok {fields : Fields α} {a : α} :
    fields.readMembers members = .ok a ↔ fields.ofMembers members = .ok a := by
  unfold readMembers
  cases fields.ofMembers members <;> simp

section Positional

variable {expected : String} {index : Nat} {items rest : List Json}

@[simp] theorem ofItems_map {f : α → β} {x : Fields α} {b : β} :
    (f <$> x).ofItems expected index items = .ok (b,rest) ↔
      ∃ a, x.ofItems expected index items = .ok (a,rest) ∧ b = f a := by
  change (map f x).ofItems expected index items = .ok (b,rest) ↔ _
  simp only [map]
  rcases x.ofItems expected index items with e | ⟨a,after⟩
  · simp [Except.map]
  · simp [Except.map,and_comm,eq_comm]

@[simp] theorem ofItems_seq {f : Fields (α → β)} {x : Fields α} {b : β} :
    (f <*> x).ofItems expected index items = .ok (b,rest) ↔
      ∃ g after, f.ofItems expected index items = .ok (g,after) ∧
        ∃ a, x.ofItems expected (index + f.count) after = .ok (a,rest) ∧ b = g a := by
  change (seq f x).ofItems expected index items = .ok (b,rest) ↔ _
  simp only [seq]
  rcases f.ofItems expected index items with e | ⟨g,after⟩
  · simp
  · dsimp only
    rcases later : x.ofItems expected (index + f.count) after with e | ⟨a,final⟩
    · simp [later]
    · simp [later,and_comm,eq_comm]

@[simp] theorem ofItems_required {name : String} {read : Reads α} {a : α} :
    (required name read).ofItems expected index items = .ok (a,rest) ↔
      ∃ j, items = j :: rest ∧ read j = .ok a := by
  cases items with
  | nil => simp [required,one]
  | cons j items => cases given : read j <;> simp [required,one,given,Except.map,and_comm]

@[simp] theorem ofItems_optional {name : String} {read : Reads α} {a : Option α} :
    (optional name read).ofItems expected index items = .ok (a,rest) ↔
      ∃ j, items = j :: rest ∧ Reads.nullable read j = .ok a := by
  cases items with
  | nil => simp [optional,one]
  | cons j items =>
    cases given : Reads.nullable read j <;> simp [optional,one,given,Except.map,and_comm]

end Positional

end Fields

/-- An array is a record when its items are the fields in order, with nothing behind them. -/
theorem Reads.record_arr {α : Type} {name : String} {fields : Fields α} {items : List Json} {a : α} :
    record name fields (.arr items) = .ok a ↔
      fields.ofItems ("struct " ++ name ++ " with " ++ elements fields.count) 0 items = .ok (a,[]) := by
  simp only [record]
  rcases fields.ofItems _ 0 items with e | ⟨b,rest⟩
  · simp
  · cases rest <;> simp

theorem RequestId.read_toJson (id : RequestId) : read id.toJson = .ok id := by
  cases id with
  | number n =>
    have fits : (n.toNat : Int) ≤ 0xFFFFFFFFFFFFFFFF := by
      have := n.toNat_lt
      omega
    simp [read,toJson,Json.ofWord64,Json.ofNat,Reads.choice,Reads.mapTo,Reads.word64,Reads.integer,
      fits,Except.map]
  | text s =>
    simp [read,toJson,Reads.choice,Reads.mapTo,Reads.word64,Reads.integer,Reads.string,Except.map]

theorem Reads.int32_ofInt32 (n : Int32) : int32 (.ofInt32 n) = .ok n := by
  have fits : -0x80000000 ≤ n.toInt ∧ n.toInt ≤ 0x7FFFFFFF := ⟨n.minValue_le_toInt,n.toInt_le⟩
  simp [int32,Json.ofInt32,Json.ofInt,integer,fits,Except.map]

theorem Request.read_ok {members : List (String × Json)} {r : Request} :
    read (.obj members) = .ok r ↔
      members.lookup "jsonrpc" = some (.str r.version) ∧
        (∃ j, members.lookup "id" = some j ∧ RequestId.read j = .ok r.id) ∧
        members.lookup "method" = some (.str r.method) ∧
        r.params = present (members.lookup "params") := by
  obtain ⟨version,id,method,params⟩ := r
  simp [read,Reads.record,fields,and_assoc]

theorem Notification.read_ok {members : List (String × Json)} {n : Notification} :
    read (.obj members) = .ok n ↔
      members.lookup "jsonrpc" = some (.str n.version) ∧
        members.lookup "method" = some (.str n.method) ∧
        n.params = present (members.lookup "params") := by
  obtain ⟨version,method,params⟩ := n
  simp [read,Reads.record,fields,and_assoc]

theorem ResponseError.read_ok {members : List (String × Json)} {e : ResponseError} :
    read (.obj members) = .ok e ↔
      (∃ j, members.lookup "code" = some j ∧ Reads.int32 j = .ok e.code) ∧
        members.lookup "message" = some (.str e.message) ∧
        e.data = present (members.lookup "data") := by
  obtain ⟨code,message,data⟩ := e
  simp [read,Reads.record,fields,and_assoc]

theorem Response.read_ok {members : List (String × Json)} {r : Response} :
    read (.obj members) = .ok r ↔
      members.lookup "jsonrpc" = some (.str r.version) ∧
        Reads.nullable RequestId.read ((members.lookup "id").getD .null) = .ok r.id ∧
        Reads.nullable ResponseError.read ((members.lookup "error").getD .null) = .ok r.error ∧
        r.result = present (members.lookup "result") := by
  obtain ⟨version,id,result,error⟩ := r
  simp [read,Reads.record,fields,and_assoc]

end LanguageBridge
