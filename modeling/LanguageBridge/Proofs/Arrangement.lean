import LanguageBridge.Proofs.Declaration

/-! What is written as a record can be read again, however the members of its objects are arranged:
in the order in which they were written, or in key order as a reader of text leaves them. -/
namespace LanguageBridge

theorem Lookup.lookup_perm {α β : Type} [BEq α] [LawfulBEq α] {l m : List (α × β)} (same : l.Perm m)
    (keys : (m.map Prod.fst).Nodup) (k : α) : l.lookup k = m.lookup k := by
  have others : (l.map Prod.fst).Nodup := (same.map Prod.fst).nodup_iff.mpr keys
  cases found : m.lookup k with
  | none =>
    rw [List.lookup_eq_none_iff] at found ⊢
    intro p member
    exact found p (same.mem_iff.mp member)
  | some v => exact lookup_of_mem others (same.mem_iff.mpr (mem_of_lookup found))

namespace Json

def Arranged (arrange : Json → Json) (members : List (String × Json)) : Prop :=
  ∃ others, arrange (.obj members) = .obj others ∧
    others.Perm (members.map fun m => (m.1,arrange m.2))

/-- A way to arrange the members of all objects in a value. It leaves alone what is `tidy`. -/
structure Arranges (arrange : Json → Json) (tidy : Json → Prop) : Prop where
  null : arrange .null = .null
  bool (b : Bool) : arrange (.bool b) = .bool b
  num (n : Number) : arrange (.num n) = .num n
  str (s : String) : arrange (.str s) = .str s
  arr (items : List Json) : arrange (.arr items) = .arr (items.map arrange)
  obj {members : List (String × Json)} (keys : (members.map (·.1)).Nodup) : Arranged arrange members
  kept {j : Json} (done : tidy j) : arrange j = j
  item {items : List Json} {j : Json} (done : tidy (.arr items)) (member : j ∈ items) : tidy j
  member {members : List (String × Json)} {m : String × Json} (done : tidy (.obj members))
    (member : m ∈ members) : tidy m.2
  known {members others : List (String × Json)} (done : tidy (.obj members))
    (keys : (others.map (·.1)).Perm (members.map (·.1))) : Arranged arrange others

theorem arranges_id : Arranges id fun _ => True := by
  have same : ∀ members, Arranged id members := fun members => ⟨members,rfl,by simp⟩
  constructor <;> simp [same]

theorem sortedItems_eq_map (items : List Json) : sortedItems items = items.map sorted := by
  induction items with
  | nil => rfl
  | cons j rest ih => rw [sortedItems,ih,List.map_cons]

theorem insertMember_perm {key : String} {value : Json} {members : List (String × Json)}
    (new : key ∉ members.map (·.1)) : (insertMember key value members).Perm ((key,value) :: members) := by
  induction members with
  | nil => exact .refl _
  | cons m rest ih =>
    simp only [List.map_cons,List.mem_cons,not_or] at new
    unfold insertMember
    split
    · exact .refl _
    · rw [if_neg new.1]
      exact ((ih new.2).cons m).trans (.swap _ _ _)

theorem sortMembers_perm {members : List (String × Json)} (keys : (members.map (·.1)).Nodup) :
    (sortMembers members).Perm members := by
  have general : ∀ (members sorted : List (String × Json)),
      ((members ++ sorted).map (·.1)).Nodup →
      (members.foldl (fun sorted m => insertMember m.1 m.2 sorted) sorted).Perm
        (members ++ sorted) := by
    intro members
    induction members with
    | nil => exact fun sorted _ => .refl _
    | cons m rest ih =>
      intro sorted keys
      have moved : (rest ++ m :: sorted).Perm (m :: rest ++ sorted) := List.perm_middle
      have new : m.1 ∉ sorted.map (·.1) := by
        simp only [List.cons_append,List.map_cons,List.map_append,List.nodup_cons] at keys
        exact fun old => keys.1 (List.mem_append_right _ old)
      have inserted : (rest ++ insertMember m.1 m.2 sorted).Perm (rest ++ m :: sorted) :=
        (insertMember_perm new).append_left rest
      rw [List.foldl_cons]
      refine (ih _ ?_).trans (inserted.trans moved)
      exact ((inserted.trans moved).map _).nodup_iff.mpr keys
  simpa [sortMembers] using general members [] (by simpa using keys)

theorem arranges_sorted : Arranges sorted fun j => j.ordered := by
  have sorts : ∀ {members : List (String × Json)}, (members.map (·.1)).Nodup →
      Arranged sorted members := by
    intro members keys
    refine ⟨_,rfl,?_⟩
    rw [sortedValues_eq_map]
    exact sortMembers_perm (by simpa [Function.comp_def] using keys)
  refine ⟨rfl,fun _ => rfl,fun _ => rfl,fun _ => rfl,?_,sorts,fun {j} => sorted_of_ordered j,
    ?_,?_,?_⟩
  · intro items
    rw [sorted,sortedItems_eq_map]
  · intro items j done member
    exact everyItem_iff.mp done j member
  · intro members m done member
    simp only [ordered,every,Bool.and_eq_true] at done
    exact everyMember_iff.mp done.2 m member
  · intro members others done keys
    simp only [ordered,every,Bool.and_eq_true,decide_eq_true_eq] at done
    exact sorts (keys.nodup_iff.mpr (done.1.imp fun less => (String.ne_of_lt less)))

end Json

namespace Reads

variable {α β : Type} {read : Reads α} {others : List (Reads α)} {name : String} {j : Json}

def Refuses (read : Reads α) (j : Json) : Prop := ∀ a, read j ≠ .ok a

theorem refuses_of_error {e : ReadError} (failed : read j = .error e) : Refuses read j := by
  simp [Refuses,failed]

theorem nullable_ok_some {a : α} : nullable read j = .ok (some a) ↔ j ≠ .null ∧ read j = .ok a := by
  by_cases null : j = .null
  · simp [null,nullable]
  · simp [nullable_of_ne null,map_ok,null]

theorem nullable_some {a : α} (refuses : Refuses read .null) (given : read j = .ok a) :
    nullable read j = .ok (some a) :=
  nullable_ok_some.mpr ⟨fun null => refuses a (null ▸ given),given⟩

@[simp] theorem mapTo_ok {f : α → β} {b : β} : mapTo f read j = .ok b ↔ ∃ a, read j = .ok a ∧ f a = b :=
  map_ok

@[simp] theorem refuses_mapTo {f : α → β} : Refuses (mapTo f read) j ↔ Refuses read j := by
  simp [Refuses]

/-- A choice takes what the first reading makes of a value, and the others only when it refuses. -/
@[simp] theorem choice_ok {a : α} : choice name (read :: others) j = .ok a ↔
    read j = .ok a ∨ Refuses read j ∧ choice name others j = .ok a := by
  rw [choice,Refuses]
  cases read j <;> simp

@[simp] theorem choice_none {a : α} : choice name [] j ≠ .ok a := by
  simp [choice]

@[simp] theorem refuses_choice : Refuses (choice name (read :: others)) j ↔
    Refuses read j ∧ Refuses (choice name others) j := by
  constructor
  · intro refused
    have first : Refuses read j := fun a given => refused a (choice_ok.mpr (.inl given))
    exact ⟨first,fun a given => refused a (choice_ok.mpr (.inr ⟨first,given⟩))⟩
  · rintro ⟨first,later⟩ a given
    rcases choice_ok.mp given with own | ⟨_,own⟩
    · exact first a own
    · exact later a own

@[simp] theorem refuses_choice_none : Refuses (choice name ([] : List (Reads α))) j :=
  fun _ => choice_none

end Reads

namespace Fields

variable {α β : Type} {members : List (String × Json)}

theorem ofMembers_map_of {f : α → β} {x : Fields α} {a : α} (given : x.ofMembers members = .ok a) :
    (f <$> x).ofMembers members = .ok (f a) :=
  ofMembers_map.mpr ⟨a,given,rfl⟩

theorem ofMembers_seq_of {f : Fields (α → β)} {x : Fields α} {g : α → β} {a : α}
    (function : f.ofMembers members = .ok g) (argument : x.ofMembers members = .ok a) :
    (f <*> x).ofMembers members = .ok (g a) :=
  ofMembers_seq.mpr ⟨g,a,function,argument,rfl⟩

end Fields

@[simp] theorem Fields.ofMembers_defaulted {α : Type} {members : List (String × Json)} {name : String}
    {read : Reads α} {value a : α} : (defaulted name read value).ofMembers members = .ok a ↔
      (∃ j, members.lookup name = some j ∧ read j = .ok a) ∨
        members.lookup name = none ∧ value = a := by
  cases found : members.lookup name with
  | none => simp [defaulted,one,found]
  | some j => cases given : read j <;> simp [defaulted,one,found,given]

def Part.Sole (p : Part) (name : String) : Prop := (p.members.map (·.1)).Sublist [name]

namespace Part

variable {α : Type} {name : String}

@[simp] theorem sole_always {value : Json} : (always name value).Sole name := .refl _

@[simp] theorem sole_whenSome {write : α → Json} {value : Option α} :
    (whenSome name write value).Sole name := by
  cases value <;> simp [Sole,whenSome]

@[simp] theorem sole_verbatim {value : Option Json} : (verbatim name value).Sole name :=
  sole_whenSome

@[simp] theorem sole_whenAny {write : α → Json} {items : List α} :
    (whenAny name write items).Sole name := by
  cases items <;> simp [Sole,whenAny]

@[simp] theorem lookup_always {value : Json} (key : String) :
    (always name value).members.lookup key = if key = name then some value else none := by
  simp [always,Lookup.lookup_cons_eq_ite]

@[simp] theorem lookup_whenSome {write : α → Json} {value : Option α} (key : String) :
    (whenSome name write value).members.lookup key = if key = name then value.map write else none := by
  cases value <;> simp [whenSome,Lookup.lookup_cons_eq_ite]

@[simp] theorem lookup_verbatim {value : Option Json} (key : String) :
    (verbatim name value).members.lookup key = if key = name then value else none := by
  simp [verbatim]

@[simp] theorem lookup_whenAny {write : α → Json} {items : List α} (key : String) :
    (whenAny name write items).members.lookup key =
      if key = name then if items = [] then none else some (.list write items) else none := by
  cases items <;> simp [whenAny,Lookup.lookup_cons_eq_ite,Json.list]

def written (parts : List Part) (key : String) : Option Json :=
  parts.foldr (fun p rest => (p.members.lookup key).or rest) none

theorem lookup_flatMap (parts : List Part) (key : String) :
    (parts.flatMap members).lookup key = written parts key := by
  induction parts with
  | nil => rfl
  | cons p rest ih => rw [List.flatMap_cons,List.lookup_append,ih,written,written,List.foldr_cons]

theorem keys_flatMap {parts : List Part} {names : List String} (own : List.Forall₂ Sole parts names) :
    ((parts.flatMap members).map (·.1)).Sublist names := by
  induction own with
  | nil => exact .refl _
  | cons first _ ih =>
    rw [List.flatMap_cons,List.map_append]
    exact first.append ih

end Part

namespace Json.Arranges

variable {arrange : Json → Json} {tidy : Json → Prop} {α : Type} {read : Reads α} {write : α → Json}

/-- A record that was arranged is an object with the same members. -/
theorem record (arranges : Arranges arrange tidy) {parts : List Part} (names : List String)
    (distinct : names.Nodup) (own : List.Forall₂ Part.Sole parts names) :
    ∃ members, arrange (.record parts) = .obj members ∧
      ∀ key, members.lookup key = (Part.written parts key).map arrange := by
  have keys : ((parts.flatMap Part.members).map (·.1)).Nodup := (Part.keys_flatMap own).nodup distinct
  obtain ⟨members,shape,same⟩ := arranges.obj keys
  refine ⟨members,shape,fun key => ?_⟩
  have mapped : (((parts.flatMap Part.members).map fun m => (m.1,arrange m.2)).map Prod.fst).Nodup := by
    simpa [Function.comp_def] using keys
  rw [Lookup.lookup_perm same mapped,Lookup.lookup_map,Part.lookup_flatMap]

/-- A record is read again when each of its fields is. -/
theorem read_record (arranges : Arranges arrange tidy) {fields : Fields α} {parts : List Part} {a : α}
    (object : ∀ members, read (.obj members) = fields.readMembers members) (names : List String)
    (distinct : names.Nodup) (own : List.Forall₂ Part.Sole parts names)
    (fit : ∀ members, (∀ key, members.lookup key = (Part.written parts key).map arrange) →
      fields.ofMembers members = .ok a) : read (arrange (.record parts)) = .ok a := by
  obtain ⟨members,shape,found⟩ := arranges.record names distinct own
  rw [shape,object,Fields.readMembers_ok]
  exact fit members found

/-- A record is refused when one of the fields is not written as it should be. -/
theorem refuses_record (arranges : Arranges arrange tidy) {fields : Fields α} {parts : List Part}
    (object : ∀ members, read (.obj members) = fields.readMembers members) (names : List String)
    (distinct : names.Nodup) (own : List.Forall₂ Part.Sole parts names)
    (unfit : ∀ members, (∀ key, members.lookup key = (Part.written parts key).map arrange) →
      ∀ a, fields.ofMembers members ≠ .ok a) : Reads.Refuses read (arrange (.record parts)) := by
  obtain ⟨members,shape,found⟩ := arranges.record names distinct own
  intro a
  rw [shape,object,ne_eq,Fields.readMembers_ok]
  exact unfit members found a

/-- A record is refused where an object is. -/
theorem refuses_object (arranges : Arranges arrange tidy) {parts : List Part}
    (object : ∀ members, Reads.Refuses read (.obj members)) (names : List String)
    (distinct : names.Nodup) (own : List.Forall₂ Part.Sole parts names) :
    Reads.Refuses read (arrange (.record parts)) := by
  obtain ⟨members,shape,_⟩ := arranges.record names distinct own
  rw [shape]
  exact object members

theorem read_string (arranges : Arranges arrange tidy) (s : String) :
    Reads.string (arrange (.str s)) = .ok s := by
  rw [arranges.str,Reads.string]

theorem read_bool (arranges : Arranges arrange tidy) (b : Bool) :
    Reads.bool (arrange (.bool b)) = .ok b := by
  rw [arranges.bool,Reads.bool]

theorem read_word8 (arranges : Arranges arrange tidy) (n : UInt8) :
    Reads.word8 (arrange (.ofWord8 n)) = .ok n := by
  have fits : (n.toNat : Int) ≤ 0xFF := by
    have := n.toNat_lt
    omega
  rw [ofWord8,ofNat,arranges.num]
  simp [Reads.word8,Reads.integer,fits,Except.map]

theorem read_word32 (arranges : Arranges arrange tidy) (n : UInt32) :
    Reads.word32 (arrange (.ofWord32 n)) = .ok n := by
  have fits : (n.toNat : Int) ≤ 0xFFFFFFFF := by
    have := n.toNat_lt
    omega
  rw [ofWord32,ofNat,arranges.num]
  simp [Reads.word32,Reads.integer,fits,Except.map]

theorem read_int32 (arranges : Arranges arrange tidy) (n : Int32) :
    Reads.int32 (arrange (.ofInt32 n)) = .ok n := by
  have plain : arrange (.ofInt32 n) = .ofInt32 n := arranges.num _
  rw [plain,Reads.int32_ofInt32]

theorem read_list (arranges : Arranges arrange tidy) {items : List α}
    (each : ∀ a ∈ items, read (arrange (write a)) = .ok a) :
    Reads.list read (arrange (.list write items)) = .ok items := by
  rw [list,arranges.arr,Reads.list,Reads.mapM_ok,List.map_map,List.map_map]
  exact List.map_congr_left each

theorem refuses_list {β : Type} (arranges : Arranges arrange tidy) {other : β → Json} {items : List β}
    {b : β} (member : b ∈ items) (refused : Reads.Refuses read (arrange (other b))) :
    Reads.Refuses (.list read) (arrange (.list other items)) := by
  intro values
  rw [list,arranges.arr,Reads.list,ne_eq,Reads.mapM_ok,List.map_map,List.map_map]
  intro same
  have among : read (arrange (other b)) ∈ values.map Except.ok :=
    same ▸ List.mem_map_of_mem member
  obtain ⟨a,_,given⟩ := List.mem_map.mp among
  exact refused a given.symm

/-- A field that is left out when there is no value. -/
theorem read_optional {value : Option α} (refuses : Reads.Refuses read .null)
    (each : ∀ a ∈ value, read (arrange (write a)) = .ok a) :
    Reads.nullable read ((value.map (arrange ∘ write)).getD .null) = .ok value := by
  cases value with
  | none => rfl
  | some a => exact Reads.nullable_some refuses (each a rfl)

/-- A field that is null when there is no value. -/
theorem read_nullable (arranges : Arranges arrange tidy) {value : Option α}
    (refuses : Reads.Refuses read .null) (each : ∀ a ∈ value, read (arrange (write a)) = .ok a) :
    Reads.nullable read (arrange (.nullable write value)) = .ok value := by
  cases value with
  | none =>
    rw [nullable,arranges.null]
    rfl
  | some a => exact read_optional refuses each

/-- A field that is written in any case. -/
theorem read_omittable (arranges : Arranges arrange tidy) {members : List (String × Json)} {name : String}
    {value : Option α} (found : members.lookup name = some (arrange (.nullable write value)))
    (refuses : Reads.Refuses read .null) (each : ∀ a ∈ value, read (arrange (write a)) = .ok a) :
    (Fields.omittable name read).ofMembers members = .ok value := by
  rw [Fields.ofMembers_omittable,found]
  exact arranges.read_nullable refuses each

/-- A field that is left out when its list is empty. -/
theorem read_listed (arranges : Arranges arrange tidy) {members : List (String × Json)} {name : String}
    {items : List α} (found : members.lookup name =
      (if items = [] then none else some (.list write items)).map arrange)
    (each : ∀ a ∈ items, read (arrange (write a)) = .ok a) :
    (Fields.defaulted name (.list read) []).ofMembers members = .ok items := by
  by_cases empty : items = []
  · simp [found,empty]
  · simp [found,empty,arranges.read_list each]

end Json.Arranges

end LanguageBridge
