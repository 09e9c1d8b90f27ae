import LanguageBridge.Json.Parser
import LanguageBridge.Json.Printer
import LanguageBridge.Proofs.Json.Order
import LanguageBridge.Proofs.Numeral

/-! Compact JSON text reads back as the value it was written from, with every object in key order,
as long as all numbers are whole and no more containers are open at once than the reader admits. -/
namespace LanguageBridge.Json

theorem hexWord_control : ∀ n < 32,
    hexWord? '0' '0' (hexDigit (n / 16)) (hexDigit (n % 16)) = some n := by
  decide

theorem stringBody_quote (rest : List Char) : stringBody ('"' :: rest) = .ok ([],rest) := by
  rw [stringBody.eq_def]
  simp

theorem stringBody_plain {c : Char} (quote : c ≠ '"') (backslash : c ≠ '\\') (printable : 32 ≤ c.toNat)
    (rest : List Char) : stringBody (c :: rest) = push c (stringBody rest) := by
  rw [stringBody.eq_def]
  simp [quote,backslash,Nat.not_lt.mpr printable]

theorem stringBody_simple {e c : Char} (escape : simpleEscape? e = some c) (rest : List Char) :
    stringBody ('\\' :: e :: rest) = push c (stringBody rest) := by
  have simple : e ≠ 'u' := by
    rintro rfl
    simp [simpleEscape?] at escape
  rw [stringBody.eq_def]
  simp [simple,escape]

theorem stringBody_control {c : Char} (control : c.toNat < 32) (rest : List Char) :
    stringBody ('\\' :: 'u' :: '0' :: '0' :: hexDigit (c.toNat / 16) :: hexDigit (c.toNat % 16) :: rest) =
      push c (stringBody rest) := by
  have high : isHighSurrogate c.toNat = false := by simp [isHighSurrogate]; omega
  have low : isLowSurrogate c.toNat = false := by simp [isLowSurrogate]; omega
  rw [stringBody.eq_def]
  simp [hexWord_control _ control,high,low,Char.ofNat_toNat]

/-- One written character is read as itself. -/
theorem stringBody_escapeChar (c : Char) (rest : List Char) :
    stringBody (escapeChar c ++ rest) = push c (stringBody rest) := by
  unfold escapeChar
  iterate 7
    split
    · subst c
      exact stringBody_simple (by decide) rest
  split
  next control => exact stringBody_control control rest
  next quote backslash _ _ _ _ _ printable =>
    exact stringBody_plain quote backslash (Nat.not_lt.mp printable) rest

theorem stringBody_escaped (cs rest : List Char) :
    stringBody (cs.flatMap escapeChar ++ '"' :: rest) = .ok (cs,rest) := by
  induction cs with
  | nil => exact stringBody_quote rest
  | cons c cs ih => rw [List.flatMap_cons,List.append_assoc,stringBody_escapeChar,ih,push]

theorem string_quote (s : String) (rest : List Char) :
    ∃ cs, quote s ++ rest = '"' :: cs ∧ string cs = .ok (s,rest) := by
  refine ⟨s.toList.flatMap escapeChar ++ '"' :: rest,by simp [quote],?_⟩
  simp [string,stringBody_escaped]

def Detached (rest : List Char) : Prop :=
  ∀ c ∈ rest.head?, c.isDigit = false ∧ c ≠ '.' ∧ c ≠ 'e' ∧ c ≠ 'E'

theorem literalTail_detached {rest : List Char} (detached : Detached rest) (negative : Bool)
    (whole : List Char) : literalTail negative whole rest = .ok (⟨negative,whole,[],none⟩,rest) := by
  cases rest with
  | nil => rfl
  | cons c rest =>
    obtain ⟨_,point,lower,upper⟩ := detached c (by simp)
    simp [literalTail,optionalFraction,optionalPower,point,lower,upper]

theorem takeWhile_detached {digits rest : List Char} (all : ∀ c ∈ digits, c.isDigit = true)
    (detached : Detached rest) :
    (digits ++ rest).takeWhile Char.isDigit = digits ∧
      (digits ++ rest).dropWhile Char.isDigit = rest := by
  rw [List.takeWhile_append_of_pos all,List.dropWhile_append_of_pos all]
  cases rest with
  | nil => simp
  | cons c rest => simp [(detached c (by simp)).1]

/-- No numeral but zero starts with a zero. -/
theorem decimal_head (n : Nat) (positive : 0 < n) : (Text.decimal n).head? ≠ some '0' := by
  induction n using Nat.strongRecOn with
  | ind n ih =>
    unfold Text.decimal at ih ⊢
    by_cases small : n < 10
    · rw [Nat.toDigits_of_lt_base small]
      revert positive
      exact (by decide : ∀ n < 10, 0 < n → [n.digitChar].head? ≠ some '0') n small
    · rw [Nat.toDigits_of_base_le (by decide) (by omega),
        List.head?_append_of_ne_nil _ Nat.toDigits_ne_nil]
      exact ih (n / 10) (by omega) (by omega)

theorem literal_decimal {rest : List Char} (detached : Detached rest) (negative : Bool) (n : Nat) :
    literal negative (Text.decimal n ++ rest) = .ok (⟨negative,Text.decimal n,[],none⟩,rest) := by
  by_cases zero : n = 0
  · subst zero
    have digits : Text.decimal 0 = ['0'] := by decide
    cases rest with
    | nil => simp [digits,literal,literalTail_detached detached]
    | cons c rest =>
      simp [digits,literal,(detached c (by simp)).1,literalTail_detached detached]
  · have head := decimal_head n (by omega)
    have all : ∀ c ∈ Text.decimal n, c.isDigit = true := fun _ => Text.isDigit_of_mem_decimal
    obtain ⟨taken,dropped⟩ := takeWhile_detached all detached
    cases shape : Text.decimal n with
    | nil => exact absurd shape (Text.decimal_ne_nil n)
    | cons c digits =>
      have first : c.isDigit = true := all c (by simp [shape])
      have nonzero : c ≠ '0' := by simpa [shape] using head
      rw [shape] at taken dropped
      unfold literal
      split
      · contradiction
      next same => exact absurd (List.cons.inj same).1 nonzero
      next same =>
        obtain ⟨rfl,rfl⟩ := List.cons.inj same
        rw [if_pos first,taken,dropped,literalTail_detached detached]

theorem number_decimal {rest : List Char} (detached : Detached rest) (negative : Bool) {n : Nat}
    (fits : if negative then 0 < n ∧ n ≤ UInt64.size / 2 else n < UInt64.size) :
    number negative (Text.decimal n ++ rest) =
      .ok (.num (.int (if negative then -(n : Int) else n)),rest) := by
  have whole : (⟨negative,Text.decimal n,[],none⟩ : Literal).number? =
      some (.int (if negative then -(n : Int) else n)) := by
    simp only [Literal.number?,Text.ofDigitChars_decimal]
    exact if_pos ⟨rfl,rfl,fits⟩
  simp only [number,literal_decimal detached,whole]

theorem showInt_negative {n : Int} (negative : n < 0) :
    (Text.showInt n).toList = '-' :: Text.decimal n.natAbs := by
  simp [Text.showInt,negative]

theorem showInt_nonnegative {n : Int} (nonnegative : 0 ≤ n) :
    ∃ c digits, (Text.showInt n).toList = c :: digits ∧ Text.decimal n.natAbs = c :: digits ∧
      c.isDigit = true := by
  cases shape : Text.decimal n.natAbs with
  | nil => exact absurd shape (Text.decimal_ne_nil _)
  | cons c digits =>
    refine ⟨c,digits,?_,rfl,Text.isDigit_of_mem_decimal (n := n.natAbs) (by simp [shape])⟩
    simp [Text.showInt,Int.not_lt.mpr nonnegative,shape]

theorem ne_of_isDigit {c d : Char} (digit : c.isDigit = true) (other : d.isDigit = false) :
    c ≠ d := by
  rintro rfl
  simp [other] at digit

theorem isSpace_of_isDigit {c : Char} (digit : c.isDigit = true) : isSpace c = false := by
  have other := fun d => ne_of_isDigit (d := d) digit
  simp [isSpace,other ' ' rfl,other '\n' rfl,other '\t' rfl,other '\r' rfl]

theorem skipSpace_cons {c : Char} (solid : isSpace c = false) (rest : List Char) :
    skipSpace (c :: rest) = c :: rest := by
  simp [skipSpace,solid]

section Steps

variable {fuel depth : Nat} {cs rest : List Char} {j : Json}

theorem items_last (first : value fuel depth cs = .ok (j,']' :: rest)) :
    items (fuel + 1) depth cs = .ok ([j],rest) := by
  simp [items,first,skipSpace,isSpace]

theorem items_more {d : Char} {more : List Char} {js : List Json}
    (first : value fuel depth cs = .ok (j,',' :: d :: more)) (solid : isSpace d = false)
    (item : d ≠ ']') (others : items fuel depth (d :: more) = .ok (js,rest)) :
    items (fuel + 1) depth cs = .ok (j :: js,rest) := by
  simp [items,first,skipSpace_cons,show isSpace ',' = false by decide,solid,item,others]

theorem members_last {key : String} {after : List Char}
    (named : string cs = .ok (key,':' :: after))
    (first : value fuel depth after = .ok (j,'\x7d' :: rest)) :
    members (fuel + 1) depth ('"' :: cs) = .ok ([(key,j)],rest) := by
  simp [members,named,first,skipSpace,isSpace]

theorem members_more {key : String} {after more : List Char} {ms : List (String × Json)}
    (named : string cs = .ok (key,':' :: after))
    (first : value fuel depth after = .ok (j,',' :: '"' :: more))
    (others : members fuel depth ('"' :: more) = .ok (ms,rest)) :
    members (fuel + 1) depth ('"' :: cs) = .ok ((key,j) :: ms,rest) := by
  simp [members,named,first,skipSpace,isSpace,others]

theorem value_array {d : Char} {js : List Json} (solid : isSpace d = false) (item : d ≠ ']')
    (all : items fuel depth (d :: cs) = .ok (js,rest)) :
    value (fuel + 1) (depth + 1) ('[' :: d :: cs) = .ok (.arr js,rest) := by
  simp [value,skipSpace_cons,show isSpace '[' = false by decide,solid,item,all]

theorem value_object {ms : List (String × Json)}
    (all : members fuel depth ('"' :: cs) = .ok (ms,rest)) :
    value (fuel + 1) (depth + 1) ('\x7b' :: '"' :: cs) = .ok (.obj (sortMembers ms),rest) := by
  simp [value,skipSpace,isSpace,all]

theorem value_string {s : String} (all : string cs = .ok (s,rest)) :
    value (fuel + 1) depth ('"' :: cs) = .ok (.str s,rest) := by
  simp [value,skipSpace,isSpace,all]

theorem value_minus : value (fuel + 1) depth ('-' :: cs) = number true cs := by
  simp [value,skipSpace,isSpace]

theorem value_digit {c : Char} (digit : c.isDigit = true) :
    value (fuel + 1) depth (c :: cs) = number false (c :: cs) := by
  have other := fun d => ne_of_isDigit (d := d) digit
  simp [value,skipSpace_cons (isSpace_of_isDigit digit),other 'n' rfl,other 't' rfl,other 'f' rfl,
    other '"' rfl,other '-' rfl,digit]

theorem value_int {n : Int} (word : Number.isWord (.int n)) (detached : Detached rest) :
    value (fuel + 1) depth ((Text.showInt n).toList ++ rest) = .ok (.num (.int n),rest) := by
  simp only [Number.isWord,Bool.and_eq_true,decide_eq_true_eq] at word
  by_cases negative : n < 0
  · have magnitude : -(n.natAbs : Int) = n := by omega
    have read := number_decimal detached true (n := n.natAbs) (by simp [UInt64.size]; omega)
    rw [showInt_negative negative,List.cons_append,value_minus,read,if_pos rfl,magnitude]
  · have magnitude : (n.natAbs : Int) = n := by omega
    have read := number_decimal detached false (n := n.natAbs) (by simp [UInt64.size]; omega)
    obtain ⟨c,digits,shown,shape,digit⟩ := showInt_nonnegative (Int.not_lt.mp negative)
    rw [shown,List.cons_append,value_digit digit,← List.cons_append,← shape,read,
      if_neg Bool.false_ne_true,magnitude]

end Steps

/-- A written value starts with a character that is neither blank nor closes an array. -/
theorem chars_start (j : Json) (whole : j.integral) :
    ∃ c cs, j.chars = c :: cs ∧ isSpace c = false ∧ c ≠ ']' := by
  have opens : ∀ (c : Char) (cs : List Char), isSpace c = false ∧ c ≠ ']' →
      ∃ d ds, c :: cs = d :: ds ∧ isSpace d = false ∧ d ≠ ']' :=
    fun c cs fine => ⟨c,cs,rfl,fine⟩
  cases j with
  | null => exact opens _ _ (by decide)
  | bool b => cases b <;> exact opens _ _ (by decide)
  | str s => exact opens _ _ (by decide)
  | num n =>
    cases n with
    | double x => simp [integral,every,Number.isWord] at whole
    | int n =>
      by_cases negative : n < 0
      · exact ⟨_,_,showInt_negative negative,by decide,by decide⟩
      · obtain ⟨c,digits,shown,_,digit⟩ := showInt_nonnegative (Int.not_lt.mp negative)
        exact ⟨c,digits,shown,isSpace_of_isDigit digit,ne_of_isDigit digit rfl⟩
  | arr items => cases items <;> exact opens _ _ (by decide)
  | obj members =>
    cases members with
    | nil => exact opens _ _ (by decide)
    | cons m rest => exact opens _ _ (by decide)

theorem detached_cons {c : Char} (apart : c.isDigit = false ∧ c ≠ '.' ∧ c ≠ 'e' ∧ c ≠ 'E')
    (rest : List Char) : Detached (c :: rest) := by
  simpa [Detached] using apart

theorem detached_itemChars (items : List Json) (rest : List Char) :
    Detached (itemChars items ++ rest) := by
  cases items <;> exact detached_cons (by decide) _

theorem detached_memberChars (members : List (String × Json)) (rest : List Char) :
    Detached (memberChars members ++ rest) := by
  cases members <;> exact detached_cons (by decide) _

mutual

theorem value_chars : (j : Json) → (fuel : Nat) → ∀ (depth : Nat) (rest : List Char),
    j.integral → j.depth ≤ depth → 2 * j.chars.length ≤ fuel → Detached rest →
      value fuel depth (j.chars ++ rest) = .ok (j.sorted,rest)
  | j, 0 => by
    intro depth rest whole _ enough _
    obtain ⟨c,cs,shape,_⟩ := chars_start j whole
    simp [shape] at enough
  | .null, fuel + 1 => by
    intros
    simp [chars,value,skipSpace,isSpace,keyword,sorted]
  | .bool true, fuel + 1 => by
    intros
    simp [chars,value,skipSpace,isSpace,keyword,sorted]
  | .bool false, fuel + 1 => by
    intros
    simp [chars,value,skipSpace,isSpace,keyword,sorted]
  | .num (.int n), fuel + 1 => by
    intro depth rest whole _ _ detached
    exact value_int whole detached
  | .num (.double x), fuel + 1 => by
    intro depth rest whole
    simp [integral,every,Number.isWord] at whole
  | .str s, fuel + 1 => by
    intro depth rest _ _ _ _
    obtain ⟨cs,shape,read⟩ := string_quote s rest
    simp [chars,shape,value_string read,sorted]
  | .arr [], fuel + 1 => by
    intro depth rest _ shallow _ _
    simp only [Json.depth,depthItems] at shallow
    obtain ⟨depth,rfl⟩ : ∃ d, depth = d + 1 := ⟨depth - 1,by omega⟩
    simp [chars,value,skipSpace,isSpace,sorted,sortedItems]
  | .arr (j :: others), fuel + 1 => by
    intro depth rest whole shallow enough _
    simp only [integral,every,everyItem,Bool.and_eq_true] at whole
    simp only [Json.depth,depthItems] at shallow
    simp only [chars,List.length_cons,List.length_append] at enough
    obtain ⟨depth,rfl⟩ : ∃ d, depth = d + 1 := ⟨depth - 1,by omega⟩
    obtain ⟨fuel,rfl⟩ : ∃ n, fuel = n + 1 := ⟨fuel - 1,by omega⟩
    obtain ⟨c,cs,shape,solid,item⟩ := chars_start j whole.1
    have first := value_chars j fuel depth _ whole.1 (by omega) (by omega)
      (detached_itemChars others rest)
    have all := items_chars others fuel depth _ _ _ whole.2 (by omega) (by omega) first
    rw [chars,List.cons_append,List.append_assoc,sorted,sortedItems]
    rw [shape,List.cons_append] at all ⊢
    exact value_array solid item all
  | .obj [], fuel + 1 => by
    intro depth rest _ shallow _ _
    simp only [Json.depth,depthMembers] at shallow
    obtain ⟨depth,rfl⟩ : ∃ d, depth = d + 1 := ⟨depth - 1,by omega⟩
    simp [chars,value,skipSpace,isSpace,sorted,sortedValues,sortMembers]
  | .obj ((key, j) :: others), fuel + 1 => by
    intro depth rest whole shallow enough _
    simp only [integral,every,everyMember,Bool.and_eq_true] at whole
    simp only [Json.depth,depthMembers] at shallow
    simp only [chars,List.length_cons,List.length_append] at enough
    obtain ⟨depth,rfl⟩ : ∃ d, depth = d + 1 := ⟨depth - 1,by omega⟩
    obtain ⟨fuel,rfl⟩ : ∃ n, fuel = n + 1 := ⟨fuel - 1,by omega⟩
    have first := value_chars j fuel depth _ whole.2.1 (by omega) (by omega)
      (detached_memberChars others rest)
    obtain ⟨cs,shape,named⟩ := string_quote key (':' :: (j.chars ++ (memberChars others ++ rest)))
    have all := members_chars others fuel depth _ _ _ _ _ whole.2.2 (by omega) (by omega) named first
    rw [chars,List.cons_append,List.append_assoc,List.cons_append,List.append_assoc,shape,sorted,
      sortedValues]
    exact value_object all

/-- The items after the first, which has been read already. -/
theorem items_chars : (others : List Json) → (fuel : Nat) →
    ∀ (depth : Nat) (cs rest : List Char) (j : Json), everyItem Number.isWord (fun _ => true) others →
      depthItems others ≤ depth → 2 * (itemChars others).length ≤ fuel →
        value fuel depth cs = .ok (j,itemChars others ++ rest) →
          items (fuel + 1) depth cs = .ok (j :: sortedItems others,rest)
  | [], fuel => by
    intro depth cs rest j _ _ _ first
    exact items_last first
  | k :: others, fuel => by
    intro depth cs rest j whole shallow enough first
    simp only [everyItem,Bool.and_eq_true] at whole
    simp only [depthItems] at shallow
    simp only [itemChars,List.length_cons,List.length_append] at enough
    obtain ⟨fuel,rfl⟩ : ∃ n, fuel = n + 1 := ⟨fuel - 1,by omega⟩
    obtain ⟨c,ds,shape,solid,item⟩ := chars_start k whole.1
    have second := value_chars k fuel depth _ whole.1 (by omega) (by omega)
      (detached_itemChars others rest)
    have more := items_chars others fuel depth _ _ _ whole.2 (by omega) (by omega) second
    rw [itemChars,List.cons_append,List.append_assoc] at first
    rw [shape,List.cons_append] at first more
    exact items_more first solid item more

theorem members_chars : (others : List (String × Json)) → (fuel : Nat) →
    ∀ (depth : Nat) (cs after rest : List Char) (key : String) (j : Json),
      everyMember Number.isWord (fun _ => true) others → depthMembers others ≤ depth →
        2 * (memberChars others).length ≤ fuel → string cs = .ok (key,':' :: after) →
          value fuel depth after = .ok (j,memberChars others ++ rest) →
            members (fuel + 1) depth ('"' :: cs) = .ok ((key,j) :: sortedValues others,rest)
  | [], fuel => by
    intro depth cs after rest key j _ _ _ named first
    exact members_last named first
  | (next, k) :: others, fuel => by
    intro depth cs after rest key j whole shallow enough named first
    simp only [everyMember,Bool.and_eq_true] at whole
    simp only [depthMembers] at shallow
    simp only [memberChars,List.length_cons,List.length_append] at enough
    obtain ⟨fuel,rfl⟩ : ∃ n, fuel = n + 1 := ⟨fuel - 1,by omega⟩
    have second := value_chars k fuel depth _ whole.1 (by omega) (by omega)
      (detached_memberChars others rest)
    obtain ⟨ds,shape,renamed⟩ := string_quote next (':' :: (k.chars ++ (memberChars others ++ rest)))
    have more := members_chars others fuel depth _ _ _ _ _ whole.2 (by omega) (by omega) renamed second
    rw [memberChars,List.cons_append,List.append_assoc,List.cons_append,List.append_assoc,shape]
      at first
    exact members_more named first more

end

theorem parse_compact {j : Json} (whole : j.integral) (shallow : j.depth ≤ 127) :
    parse j.compact = .ok j.sorted := by
  have read := value_chars j (2 * j.chars.length + 2) 127 [] whole shallow (by omega)
    (show Detached [] by simp [Detached])
  simp only [List.append_nil] at read
  simp [parse,parseChars,compact,read,skipSpace]

end LanguageBridge.Json
