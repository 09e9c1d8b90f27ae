import LanguageBridge.Proofs.Json.Grammar
import LanguageBridge.Proofs.Json.Text

/-! The numbers that stand in a text. Where all of them are integers of a word, so are all numbers of
the value that is read from the text, whatever else the text holds. -/
namespace LanguageBridge.Json

def isNumeric (c : Char) : Bool :=
  c.isDigit || c = '-' || c = '+' || c = '.' || c = 'e' || c = 'E'

def skipString : List Char → List Char
  | [] => []
  | c :: rest =>
    if c = '"' then rest
    else if c = '\\' then
      match rest with
      | [] => []
      | _ :: rest => skipString rest
    else skipString rest

theorem length_skipString_le (cs : List Char) : (skipString cs).length ≤ cs.length := by
  fun_induction skipString cs with
  | case1 => exact Nat.le_refl _
  | case2 => exact Nat.le_succ _
  | case3 => exact Nat.zero_le _
  | case4 _ _ _ ih => exact Nat.le_succ_of_le (Nat.le_succ_of_le ih)
  | case5 _ _ _ _ ih => exact Nat.le_succ_of_le ih

/-- The numbers in a text, as they are written: outside of strings, what begins with a digit or a minus
sign, as far as its characters can stand in a number. -/
def numerals : List Char → List (List Char)
  | [] => []
  | c :: rest =>
    if c = '"' then numerals (skipString rest)
    else if c.isDigit || c = '-' then
      (c :: rest.takeWhile isNumeric) :: numerals (rest.dropWhile isNumeric)
    else numerals rest
termination_by cs => cs.length
decreasing_by
  · exact Nat.lt_succ_of_le (length_skipString_le rest)
  · exact Nat.lt_succ_of_le (List.dropWhile_suffix _).length_le
  · exact Nat.lt_succ_self _

/-- All numbers in a text are integers from -2⁶³ to 2⁶⁴ - 1. A minus sign before a zero, a fraction and
an exponent are in none of them. -/
def Whole (cs : List Char) : Prop :=
  ∀ run ∈ numerals cs, ∃ n : Int,
    -0x8000000000000000 ≤ n ∧ n ≤ 0xFFFFFFFFFFFFFFFF ∧ run = (Text.showInt n).toList

theorem skipString_plain {c : Char} (quote : c ≠ '"') (backslash : c ≠ '\\') (rest : List Char) :
    skipString (c :: rest) = skipString rest := by
  rw [skipString.eq_def]
  simp [quote,backslash]

theorem skipString_escape (c : Char) (rest : List Char) :
    skipString ('\\' :: c :: rest) = skipString rest := by
  rw [skipString.eq_def]
  simp

theorem hexValue_plain {c : Char} {v : Nat} (value : hexValue? c = some v) : c ≠ '"' ∧ c ≠ '\\' := by
  constructor <;> rintro rfl <;> simp [hexValue?] at value

/-- No quote and no backslash stands among hexadecimal digits. -/
theorem skipString_hexWord {a b c d : Char} {n : Nat} (word : hexWord? a b c d = some n)
    (rest : List Char) : skipString (a :: b :: c :: d :: rest) = skipString rest := by
  simp only [hexWord?,Option.bind_eq_bind,Option.bind_eq_some_iff] at word
  obtain ⟨_,first,_,second,_,third,_,fourth,_⟩ := word
  rw [skipString_plain (hexValue_plain first).1 (hexValue_plain first).2,
    skipString_plain (hexValue_plain second).1 (hexValue_plain second).2,
    skipString_plain (hexValue_plain third).1 (hexValue_plain third).2,
    skipString_plain (hexValue_plain fourth).1 (hexValue_plain fourth).2]

theorem push_ok {c : Char} {parsed : Parsed (List Char)} {body rest : List Char}
    (read : push c parsed = .ok (body,rest)) : ∃ more, parsed = .ok (more,rest) := by
  unfold push at read
  split at read
  · cases read
    exact ⟨_,rfl⟩
  · cases read

/-- A string ends at the first quote that is not escaped. -/
theorem skipString_of_stringBody {cs body rest : List Char} (read : stringBody cs = .ok (body,rest)) :
    skipString cs = rest := by
  fun_induction stringBody cs generalizing body rest with
  | case2 =>
    cases read
    rw [skipString.eq_def]
    simp
  | case9 _ _ _ _ _ first _ _ _ _ _ _ _ _ second _ _ ih =>
    obtain ⟨_,read⟩ := push_ok read
    rw [skipString_escape,skipString_hexWord first,skipString_escape,skipString_hexWord second,ih read]
  | case14 _ _ _ _ _ _ word _ _ _ ih =>
    obtain ⟨_,read⟩ := push_ok read
    rw [skipString_escape,skipString_hexWord word,ih read]
  | case16 _ _ _ _ _ _ ih =>
    obtain ⟨_,read⟩ := push_ok read
    rw [skipString_escape,ih read]
  | case19 _ _ quote backslash _ ih =>
    obtain ⟨_,read⟩ := push_ok read
    rw [skipString_plain quote backslash,ih read]
  | _ => cases read

theorem skipString_of_string {cs rest : List Char} {s : String} (read : string cs = .ok (s,rest)) :
    skipString cs = rest := by
  unfold string at read
  split at read
  next body =>
    cases read
    exact skipString_of_stringBody body
  next => cases read

theorem numerals_quote (cs : List Char) : numerals ('"' :: cs) = numerals (skipString cs) := by
  rw [numerals]
  simp

def Inert (c : Char) : Prop := c ≠ '"' ∧ c.isDigit = false ∧ c ≠ '-'

instance (c : Char) : Decidable (Inert c) := inferInstanceAs (Decidable (_ ∧ _))

theorem numerals_inert {c : Char} (inert : Inert c) (cs : List Char) :
    numerals (c :: cs) = numerals cs := by
  obtain ⟨quote,digit,minus⟩ := inert
  rw [numerals]
  simp [quote,digit,minus]

theorem numerals_word {word : List Char} (letters : word.all fun c => decide (Inert c))
    (cs : List Char) : numerals (word ++ cs) = numerals cs := by
  induction word with
  | nil => rfl
  | cons c word ih =>
    obtain ⟨inert,others⟩ := (Bool.and_eq_true _ _).mp letters
    rw [List.cons_append,numerals_inert (of_decide_eq_true inert)]
    exact ih others

theorem numerals_run {c : Char} (opens : c.isDigit = true ∨ c = '-') (cs : List Char) :
    numerals (c :: cs) = (c :: cs.takeWhile isNumeric) :: numerals (cs.dropWhile isNumeric) := by
  have quote : c ≠ '"' := by
    rintro rfl
    simp at opens
  rw [numerals]
  simp [quote,opens]

@[simp] theorem numerals_skipSpace (cs : List Char) : numerals (skipSpace cs) = numerals cs := by
  induction cs with
  | nil => rfl
  | cons c cs ih =>
    cases blank : isSpace c with
    | false => rw [skipSpace_cons blank]
    | true =>
      have skipped : skipSpace (c :: cs) = skipSpace cs := by simp [skipSpace,blank]
      have inert : Inert c := by
        simp only [isSpace,Bool.or_eq_true,decide_eq_true_eq] at blank
        rcases blank with ((rfl | rfl) | rfl) | rfl <;> decide
      rw [skipped,ih,numerals_inert inert]

/-- Blanks and one more character that belongs to no number and no string. -/
theorem numerals_start {c : Char} {cs body : List Char} (start : skipSpace cs = c :: body)
    (inert : Inert c) : numerals cs = numerals body := by
  rw [← numerals_skipSpace,start,numerals_inert inert]

theorem detached_dropWhile (cs : List Char) : Detached (cs.dropWhile isNumeric) := by
  intro c first
  have stops := List.head?_dropWhile_not isNumeric cs
  rw [Option.mem_def.mp first] at stops
  simp only [isNumeric,Bool.or_eq_false_iff,decide_eq_false_iff_not] at stops
  obtain ⟨⟨⟨⟨⟨digit,_⟩,_⟩,point⟩,lower⟩,upper⟩ := stops
  exact ⟨digit,point,lower,upper⟩

/-- A number that is written as an integer of a word is read as that. -/
theorem integral_run {c : Char} {cs rest : List Char} {x : Number} (whole : Whole (c :: cs))
    (opens : c.isDigit = true ∨ c = '-') (read : value 1 0 (c :: cs) = .ok (.num x,rest)) :
    (num x).integral ∧ Whole rest := by
  rw [Whole,numerals_run opens,List.forall_mem_cons] at whole
  obtain ⟨⟨n,low,high,shown⟩,others⟩ := whole
  have word : Number.isWord (.int n) := by
    simp only [Number.isWord,Bool.and_eq_true,decide_eq_true_eq]
    omega
  have text : c :: cs = (Text.showInt n).toList ++ cs.dropWhile isNumeric := by
    rw [← shown,List.cons_append,List.takeWhile_append_dropWhile]
  rw [text,value_int word (detached_dropWhile cs)] at read
  cases read
  exact ⟨word,others⟩

/-- From a text without other numbers than integers of a word, no other numbers are read. -/
theorem Spells.integral {depth : Nat} {piece : Piece} {cs rest : List Char}
    (spells : Spells depth piece cs rest) (whole : Whole cs) :
    piece.Forall (fun j => j.integral) ∧ Whole rest := by
  induction spells with
  | null start | yes start | no start =>
    rw [Whole,numerals_start start (by decide),numerals_word (by decide)] at whole
    exact ⟨rfl,whole⟩
  | text start read =>
    rw [Whole,← numerals_skipSpace,start,numerals_quote,skipString_of_string read] at whole
    exact ⟨rfl,whole⟩
  | negative start read =>
    rw [Whole,← numerals_skipSpace,start] at whole
    exact integral_run whole (.inr rfl) (value_minus.trans read)
  | nonnegative start digit read =>
    rw [Whole,← numerals_skipSpace,start] at whole
    exact integral_run whole (.inl digit) ((value_digit digit).trans read)
  | emptyArray start close | emptyObject start close =>
    rw [Whole,numerals_start start (by decide),numerals_start close (by decide)] at whole
    exact ⟨rfl,whole⟩
  | array start _ ih =>
    rw [Whole,numerals_start start (by decide),← numerals_skipSpace] at whole
    obtain ⟨items,rest⟩ := ih whole
    exact ⟨everyItem_iff.mpr items,rest⟩
  | @object _ _ _ _ ms start _ ih =>
    rw [Whole,numerals_start start (by decide),← numerals_skipSpace] at whole
    obtain ⟨members,rest⟩ := ih whole
    have sorted : everyMember Number.isWord (fun _ => true) (sortMembers ms) :=
      everyMember_iff.mpr fun m member => members m (sortMembers_subset ms member)
    exact ⟨(Bool.true_and _).trans sorted,rest⟩
  | lastItem _ close item =>
    obtain ⟨value,rest⟩ := item whole
    rw [Whole,numerals_start close (by decide)] at rest
    exact ⟨List.forall_mem_singleton.mpr value,rest⟩
  | item _ comma _ item others =>
    obtain ⟨value,rest⟩ := item whole
    rw [Whole,numerals_start comma (by decide),← numerals_skipSpace] at rest
    obtain ⟨values,rest⟩ := others rest
    exact ⟨List.forall_mem_cons.mpr ⟨value,values⟩,rest⟩
  | lastMember named colon _ close item =>
    rw [Whole,numerals_quote,skipString_of_string named,numerals_start colon (by decide)] at whole
    obtain ⟨value,rest⟩ := item whole
    rw [Whole,numerals_start close (by decide)] at rest
    exact ⟨List.forall_mem_singleton.mpr value,rest⟩
  | member named colon _ comma _ item others =>
    rw [Whole,numerals_quote,skipString_of_string named,numerals_start colon (by decide)] at whole
    obtain ⟨value,rest⟩ := item whole
    rw [Whole,numerals_start comma (by decide),← numerals_skipSpace] at rest
    obtain ⟨values,rest⟩ := others rest
    exact ⟨List.forall_mem_cons.mpr ⟨value,values⟩,rest⟩

end LanguageBridge.Json
