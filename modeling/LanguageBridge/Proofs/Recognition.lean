import LanguageBridge.Message.Codec
import LanguageBridge.Proofs.Reading

/-! Which texts are messages, and which messages they are. The shapes are said on the members of an
object alone; the reader accepts exactly these. -/
namespace LanguageBridge

/-- The values that are ids: texts, and integers that a word of 64 bits holds. -/
inductive RequestId.Spelled : Json → RequestId → Prop where
  | number {n : Int} (low : 0 ≤ n) (high : n ≤ 0xFFFFFFFFFFFFFFFF) :
      Spelled (.num (.int n)) (.number (.ofNat n.toNat))
  | text (s : String) : Spelled (.str s) (.text s)

/-- The values that are errors: an object with a code and a message, or an array of a code, a message
and data. -/
inductive ResponseError.Spelled : Json → ResponseError → Prop where
  | object {members : List (String × Json)} {code : Int} {message : String}
      (low : -0x80000000 ≤ code) (high : code ≤ 0x7FFFFFFF)
      (coded : members.lookup "code" = some (.num (.int code)))
      (told : members.lookup "message" = some (.str message)) :
      Spelled (.obj members) ⟨.ofInt code,message,present (members.lookup "data")⟩
  | array {code : Int} (low : -0x80000000 ≤ code) (high : code ≤ 0x7FFFFFFF) (message : String)
      (data : Json) :
      Spelled (.arr [.num (.int code),.str message,data]) ⟨.ofInt code,message,present (some data)⟩

inductive Reads.Optionally {α : Type} (spelled : Json → α → Prop) : Option Json → Option α → Prop where
  | absent : Optionally spelled none none
  | null : Optionally spelled (some .null) none
  | given {j : Json} {a : α} (value : spelled j a) : Optionally spelled (some j) (some a)

/-- The objects that are messages. The keys `id` and `method` tell the kind; no other key counts but
those looked up here. -/
inductive Message.Spelled (members : List (String × Json)) : Message → Prop where
  | request {version method : String} {key : Json} {id : RequestId}
      (versioned : members.lookup "jsonrpc" = some (.str version))
      (identified : members.lookup "id" = some key) (spelled : RequestId.Spelled key id)
      (named : members.lookup "method" = some (.str method)) :
      Spelled members (.request ⟨version,id,method,present (members.lookup "params")⟩)
  | response {version : String} {key : Json} {id : Option RequestId} {error : Option ResponseError}
      (versioned : members.lookup "jsonrpc" = some (.str version))
      (identified : members.lookup "id" = some key)
      (spelled : Reads.Optionally RequestId.Spelled (some key) id)
      (unnamed : members.lookup "method" = none)
      (failed : Reads.Optionally ResponseError.Spelled (members.lookup "error") error) :
      Spelled members (.response ⟨version,id,present (members.lookup "result"),error⟩)
  | notification {version method : String}
      (versioned : members.lookup "jsonrpc" = some (.str version))
      (unidentified : members.lookup "id" = none)
      (named : members.lookup "method" = some (.str method)) :
      Spelled members (.notification ⟨version,method,present (members.lookup "params")⟩)

namespace Reads

@[simp] theorem integer_ok {low high n : Int} {expected : String} {j : Json} :
    integer low high expected j = .ok n ↔ j = .num (.int n) ∧ low ≤ n ∧ n ≤ high := by
  unfold integer
  split
  next m =>
    by_cases fits : low ≤ m ∧ m ≤ high
    · simp only [fits,and_self,if_true,Except.ok.injEq,Json.num.injEq,Number.int.injEq]
      constructor
      · rintro rfl
        exact ⟨rfl,fits⟩
      · exact fun same => same.1
    · simp only [fits,if_false,reduceCtorEq,Json.num.injEq,Number.int.injEq,false_iff]
      rintro ⟨rfl,inside⟩
      exact fits inside
  next other =>
    simp only [reduceCtorEq,false_iff]
    rintro ⟨same,_⟩
    exact other n same

theorem map_ok {ε α β : Type} {f : α → β} {x : Except ε α} {b : β} :
    x.map f = .ok b ↔ ∃ a, x = .ok a ∧ f a = b := by
  cases x <;> simp [Except.map]

/-- A field that may be null or lacking is read exactly when its value is. -/
theorem optionally_iff {α : Type} {read : Reads α} {spelled : Json → α → Prop}
    (exact : ∀ j a, read j = .ok a ↔ spelled j a) (refuses : ∀ a, ¬spelled .null a)
    (found : Option Json) (a : Option α) :
    nullable read (found.getD .null) = .ok a ↔ Optionally spelled found a := by
  cases found with
  | none =>
    constructor
    · rintro ⟨⟩
      exact .absent
    · rintro ⟨⟩
      rfl
  | some j =>
    by_cases null : j = .null
    · subst null
      constructor
      · rintro ⟨⟩
        exact .null
      · intro optionally
        cases optionally with
        | null => rfl
        | given value => exact absurd value (refuses _)
    · rw [Option.getD_some,nullable_of_ne null,map_ok]
      constructor
      · rintro ⟨b,read,rfl⟩
        exact .given ((exact j b).mp read)
      · intro optionally
        cases optionally with
        | null => exact absurd rfl null
        | given value => exact ⟨_,(exact j _).mpr value,rfl⟩

end Reads

theorem RequestId.read_iff (j : Json) (id : RequestId) : read j = .ok id ↔ Spelled j id := by
  simp only [read,Reads.choice,Reads.mapTo]
  constructor
  · intro found
    split at found
    next counted =>
      cases found
      obtain ⟨n,word,rfl⟩ := Reads.map_ok.mp counted
      obtain ⟨m,integer,rfl⟩ := Reads.map_ok.mp word
      obtain ⟨rfl,low,high⟩ := Reads.integer_ok.mp integer
      exact .number low high
    next =>
      split at found
      next texted =>
        cases found
        obtain ⟨s,string,rfl⟩ := Reads.map_ok.mp texted
        obtain rfl := Reads.string_ok.mp string
        exact .text s
      next => cases found
  · intro spelled
    cases spelled with
    | number low high => simp [Reads.word64,Reads.integer,low,high,Except.map]
    | text s => simp [Reads.word64,Reads.integer,Reads.string,Except.map]

theorem Reads.int32_ok {j : Json} {n : Int32} : int32 j = .ok n ↔
    ∃ code : Int, j = .num (.int code) ∧ -0x80000000 ≤ code ∧ code ≤ 0x7FFFFFFF ∧ .ofInt code = n := by
  simp only [int32,map_ok,integer_ok,and_assoc]

/-- An error as an array has all its fields. -/
theorem ResponseError.read_arr {items : List Json} {e : ResponseError} :
    read (.arr items) = .ok e ↔ ∃ code data, items = [code,.str e.message,data] ∧
      Reads.int32 code = .ok e.code ∧ e.data = present (some data) := by
  obtain ⟨number,message,data⟩ := e
  rw [read,Reads.record_arr]
  simp only [fields,Fields.ofItems_seq,Fields.ofItems_map,Fields.ofItems_required,
    Fields.ofItems_optional,Reads.string_ok]
  constructor
  · rintro ⟨_,_,⟨_,_,⟨_,⟨code,rfl,coded⟩,rfl⟩,_,⟨_,rfl,rfl⟩,rfl⟩,kept,⟨given,rfl,free⟩,same⟩
    cases same
    exact ⟨code,given,rfl,coded,Reads.nullable_any.mp free⟩
  · rintro ⟨code,given,rfl,coded,kept⟩
    have free : Reads.nullable Reads.any ((some given).getD .null) = .ok data :=
      Reads.nullable_any.mpr kept
    exact ⟨_,_,⟨_,_,⟨_,⟨_,rfl,coded⟩,rfl⟩,_,⟨_,rfl,rfl⟩,rfl⟩,_,⟨_,rfl,free⟩,rfl⟩

theorem ResponseError.read_iff (j : Json) (e : ResponseError) : read j = .ok e ↔ Spelled j e := by
  constructor
  · intro found
    obtain ⟨number,message,data⟩ := e
    cases j with
    | obj members =>
      obtain ⟨⟨_,coded,word⟩,told,free⟩ := read_ok.mp found
      obtain ⟨code,rfl,low,high,same⟩ := Reads.int32_ok.mp word
      obtain rfl : _ = number := same
      obtain rfl : data = _ := free
      exact .object low high coded told
    | arr items =>
      obtain ⟨_,given,rfl,word,free⟩ := read_arr.mp found
      obtain ⟨code,rfl,low,high,same⟩ := Reads.int32_ok.mp word
      obtain rfl : _ = number := same
      obtain rfl : data = _ := free
      exact .array low high message given
    | _ => cases found
  · intro spelled
    cases spelled with
    | object low high coded told =>
      exact read_ok.mpr ⟨⟨_,coded,Reads.int32_ok.mpr ⟨_,rfl,low,high,rfl⟩⟩,told,rfl⟩
    | array low high message data =>
      exact read_arr.mpr ⟨_,data,rfl,Reads.int32_ok.mpr ⟨_,rfl,low,high,rfl⟩,rfl⟩

theorem RequestId.null_unspelled (id : RequestId) : ¬Spelled .null id := by
  intro spelled
  cases spelled

theorem ResponseError.null_unspelled (e : ResponseError) : ¬Spelled .null e := by
  intro spelled
  cases spelled

namespace Message

variable {members : List (String × Json)}

theorem request_iff {key name : Json} (identified : members.lookup "id" = some key)
    (called : members.lookup "method" = some name) (m : Message) :
    (Request.read (.obj members)).map .request = .ok m ↔ Spelled members m := by
  rw [Reads.map_ok]
  constructor
  · rintro ⟨⟨version,id,method,params⟩,read,rfl⟩
    obtain ⟨versioned,⟨j,found,id⟩,named,free⟩ := Request.read_ok.mp read
    obtain rfl : params = _ := free
    exact .request versioned found ((RequestId.read_iff _ _).mp id) named
  · intro shape
    cases shape with
    | request versioned found spelled named =>
      have id := (RequestId.read_iff _ _).mpr spelled
      exact ⟨_,Request.read_ok.mpr ⟨versioned,⟨_,found,id⟩,named,rfl⟩,rfl⟩
    | response _ _ _ unnamed => simp [called] at unnamed
    | notification _ unidentified => simp [identified] at unidentified

theorem response_iff {key : Json} (identified : members.lookup "id" = some key)
    (uncalled : members.lookup "method" = none) (m : Message) :
    (Response.read (.obj members)).map .response = .ok m ↔ Spelled members m := by
  have ids := Reads.optionally_iff RequestId.read_iff RequestId.null_unspelled
  have errors := Reads.optionally_iff ResponseError.read_iff ResponseError.null_unspelled
  rw [Reads.map_ok]
  constructor
  · rintro ⟨⟨version,id,result,error⟩,read,rfl⟩
    obtain ⟨versioned,id,error,free⟩ := Response.read_ok.mp read
    obtain rfl : result = _ := free
    rw [identified] at id
    exact .response versioned identified ((ids _ _).mp id) uncalled ((errors _ _).mp error)
  · intro shape
    cases shape with
    | request _ _ _ named => simp [uncalled] at named
    | response versioned found spelled _ failed =>
      rw [← found] at spelled
      have id := (ids _ _).mpr spelled
      have error := (errors _ _).mpr failed
      exact ⟨_,Response.read_ok.mpr ⟨versioned,id,error,rfl⟩,rfl⟩
    | notification _ unidentified => simp [identified] at unidentified

theorem notification_iff (unidentified : members.lookup "id" = none) (m : Message) :
    (Notification.read (.obj members)).map .notification = .ok m ↔ Spelled members m := by
  rw [Reads.map_ok]
  constructor
  · rintro ⟨⟨version,method,params⟩,read,rfl⟩
    obtain ⟨versioned,named,free⟩ := Notification.read_ok.mp read
    obtain rfl : params = _ := free
    exact .notification versioned unidentified named
  · intro shape
    cases shape with
    | request _ identified => simp [unidentified] at identified
    | response _ identified => simp [unidentified] at identified
    | notification versioned _ named =>
      exact ⟨_,Notification.read_ok.mpr ⟨versioned,named,rfl⟩,rfl⟩

/-- A value is read as a message exactly when it is an object of one of the three shapes. -/
theorem ofJson_iff (j : Json) (m : Message) :
    ofJson j = .ok m ↔ ∃ members, j = .obj members ∧ Spelled members m := by
  cases j with
  | obj members =>
    simp only [Json.obj.injEq,exists_eq_left',ofJson,Json.get?]
    cases identified : members.lookup "id" with
    | some key =>
      cases called : members.lookup "method" with
      | some name => exact request_iff identified called m
      | none => exact response_iff identified called m
    | none =>
      cases called : members.lookup "method" with
      | some name => exact notification_iff identified m
      | none =>
        simp only [reduceCtorEq,false_iff]
        rintro (_ | _ | _) <;> simp_all
  | _ => simp [ofJson,Json.get?]

def keys : List String := ["jsonrpc","id","method","params","result","error"]

end Message

namespace Fields

variable {α β : Type} {keys : List String}

def Within (keys : List String) (x : Fields α) : Prop :=
  ∀ members others : List (String × Json), (∀ key ∈ keys, members.lookup key = others.lookup key) →
    x.ofMembers members = x.ofMembers others

theorem Within.map {x : Fields α} {f : α → β} (within : x.Within keys) : (f <$> x).Within keys :=
  fun _ _ agree => congrArg (Except.map f) (within _ _ agree)

theorem Within.seq {f : Fields (α → β)} {x : Fields α} (first : f.Within keys)
    (second : x.Within keys) : (f <*> x).Within keys := by
  intro members others agree
  change (Fields.seq f x).ofMembers members = (Fields.seq f x).ofMembers others
  simp only [Fields.seq,first _ _ agree,second _ _ agree]

theorem Within.one {name : String} {read : Reads α} {unnamed past : Option α}
    (known : name ∈ keys) : (Fields.one name read unnamed past).Within keys := by
  intro members others agree
  simp only [Fields.one,agree name known]

theorem Within.read {x : Fields α} (within : x.Within keys) (name : String)
    {members others : List (String × Json)}
    (agree : ∀ key ∈ keys, members.lookup key = others.lookup key) :
    Reads.record name x (.obj members) = Reads.record name x (.obj others) := by
  simp only [Reads.record,readMembers,within _ _ agree]

end Fields

namespace Message

/-- No other key makes a difference. -/
theorem ofJson_congr {members others : List (String × Json)}
    (agree : ∀ key ∈ keys, members.lookup key = others.lookup key) :
    ofJson (.obj members) = ofJson (.obj others) := by
  have requests : Request.fields.Within keys :=
    .seq (.seq (.seq (.map (.one (by decide))) (.one (by decide))) (.one (by decide))) (.one (by decide))
  have responses : Response.fields.Within keys :=
    .seq (.seq (.seq (.map (.one (by decide))) (.one (by decide))) (.one (by decide))) (.one (by decide))
  have notifications : Notification.fields.Within keys :=
    .seq (.seq (.map (.one (by decide))) (.one (by decide))) (.one (by decide))
  simp only [ofJson,Json.get?,agree "id" (by decide),agree "method" (by decide),Request.read,
    Response.read,Notification.read,requests.read _ agree,responses.read _ agree,
    notifications.read _ agree]

structure Classified (text : String) : Prop where
  accepted : ∀ m, decode text = .ok m ↔
    ∃ members, Json.parse text = .ok (.obj members) ∧ Spelled members m
  rejected : (¬∃ members m, Json.parse text = .ok (.obj members) ∧ Spelled members m) →
    ∃ e, decode text = .error e
  unparsed : ∀ e, Json.parse text = .error e → decode text = .error (.text e)
  unaffected : ∀ members other others, Json.parse text = .ok (.obj members) →
    Json.parse other = .ok (.obj others) →
    (∀ key ∈ keys, members.lookup key = others.lookup key) → decode text = decode other

theorem decode_iff (text : String) (m : Message) : decode text = .ok m ↔
    ∃ members, Json.parse text = .ok (.obj members) ∧ Spelled members m := by
  unfold decode
  cases parsed : Json.parse text with
  | error e => simp
  | ok j =>
    have value := ofJson_iff j m
    cases read : ofJson j with
    | error e => simpa [read] using value
    | ok found => simpa [read] using value

/-- Every text is a message exactly when it has the shape of one. -/
theorem decode_classified (text : String) : Classified text where
  accepted := decode_iff text
  rejected := by
    intro shapeless
    cases read : decode text with
    | error e => exact ⟨e,rfl⟩
    | ok m =>
      obtain ⟨members,shape⟩ := (decode_iff text m).mp read
      exact absurd ⟨members,m,shape⟩ shapeless
  unparsed e failed := by simp [decode,failed]
  unaffected members other others parsed reparsed agree := by
    simp only [decode,parsed,reparsed,ofJson_congr agree]

end Message

end LanguageBridge
