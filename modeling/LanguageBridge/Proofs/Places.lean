import LanguageBridge.Location
import LanguageBridge.Proofs.Blank
import LanguageBridge.Proofs.Numeral

/-! Which texts are locations, and what is read again from a location that is shown. -/
namespace LanguageBridge

namespace Text

variable {c : Char} {text before after : List Char}

theorem splitLast_of_not_mem (absent : c ∉ text) : splitLast c text = none := by
  induction text with
  | nil => rfl
  | cons d rest ih =>
    obtain ⟨other,absent⟩ : c ≠ d ∧ c ∉ rest := by simpa using absent
    simp [splitLast,ih absent,Ne.symm other]

theorem splitLast_append (absent : c ∉ after) (before : List Char) :
    splitLast c (before ++ c :: after) = some (before,after) := by
  induction before with
  | nil => simp [splitLast,splitLast_of_not_mem absent]
  | cons d before ih => simp [splitLast,ih]

/-- A text that holds a character can be cut at the last one. -/
theorem exists_last (present : c ∈ text) :
    ∃ before after, text = before ++ c :: after ∧ c ∉ after := by
  obtain ⟨behind,front,shape,absent⟩ := List.eq_append_cons_of_mem (List.mem_reverse.mpr present)
  refine ⟨front.reverse,behind.reverse,?_,by simpa using absent⟩
  simpa using congrArg List.reverse shape

end Text

namespace Location

structure Numeric (cs : List Char) : Prop where
  filled : cs ≠ []
  digits : ∀ c ∈ cs, c.isDigit = true

structure Counts (cs : List Char) (n : UInt32) : Prop extends Numeric cs where
  value : Nat.ofDigitChars 10 cs 0 = n.toNat

def Letter (cs : List Char) : Prop := ∃ c : Char, c.isAlpha = true ∧ cs = [c]

/-- A text without a number to take off its end: what follows its last colon, if it has one, is
neither negative nor digits, unless the digits follow the letter of a drive. -/
def Closed (cs : List Char) : Prop :=
  ':' ∉ cs ∨ ∃ before after, cs = before ++ ':' :: after ∧ ':' ∉ after ∧ after.head? ≠ some '-' ∧
    (¬Numeric after ∨ Letter before)

inductive Form (l : Location) : List Char → Prop where
  | full {line column : List Char} (row : Counts line l.line) (place : Counts column l.column) :
      Form l (l.file.toList ++ ':' :: line ++ ':' :: column)
  | short {line : List Char} (row : Counts line l.line) (first : l.column = 1)
      (closed : Closed l.file.toList) : Form l (l.file.toList ++ ':' :: line)

structure WrittenAs (l : Location) (text : List Char) : Prop where
  named : l.file ≠ ""
  nodrive : ¬Letter l.file.toList
  line : 1 ≤ l.line
  column : 1 ≤ l.column
  form : Form l text

theorem isNumeric_iff {cs : List Char} : isNumeric cs = true ↔ Numeric cs := by
  constructor
  · intro numeric
    obtain ⟨filled,digits⟩ : cs ≠ [] ∧ ∀ c ∈ cs, c.isDigit = true := by
      simpa [isNumeric] using numeric
    exact ⟨filled,digits⟩
  · intro numeric
    simpa [isNumeric] using And.intro numeric.filled numeric.digits

theorem isDrive_iff {cs : List Char} : isDrive cs = true ↔ Letter cs := by
  constructor
  · intro drive
    match cs with
    | [c] => exact ⟨c,drive,rfl⟩
  · rintro ⟨c,alpha,rfl⟩
    exact alpha

theorem stops_iff {before after : List Char} :
    (!isNumeric after || isDrive before) = true ↔ ¬Numeric after ∨ Letter before := by
  rw [← isNumeric_iff,← isDrive_iff]
  simp

namespace Numeric

variable {cs : List Char}

theorem no_colon (numeric : Numeric cs) : ':' ∉ cs := fun colon =>
  absurd (numeric.digits _ colon) (by decide)

theorem no_minus (numeric : Numeric cs) : cs.head? ≠ some '-' := fun minus =>
  absurd (numeric.digits _ (List.mem_of_head? minus)) (by decide)

end Numeric

/-- What comes of taking a number off the end of a text, by what follows its last colon. -/
inductive Takes : List Char → Except LocationError (Option (List Char × UInt32)) → Prop where
  | nothing {text : List Char} (closed : Closed text) : Takes text (.ok none)
  | number {before digits : List Char} {n : UInt32} (counts : Counts digits n)
      (nodrive : ¬Letter before) : Takes (before ++ ':' :: digits) (.ok (some (before,n)))
  | negative {before after : List Char} (last : ':' ∉ after) (minus : after.head? = some '-') :
      Takes (before ++ ':' :: after) (.error (.negative (String.ofList after)))
  | beyond {before digits : List Char} (numeric : Numeric digits) (nodrive : ¬Letter before)
      (large : UInt32.size ≤ Nat.ofDigitChars 10 digits 0) :
      Takes (before ++ ':' :: digits) (.error (.badNumber (String.ofList digits) .tooLarge))

section TakeNumber

variable {text before after : List Char} {n : UInt32}
variable {out : Except LocationError (Option (List Char × UInt32))}

theorem takes_none_iff : Takes text (.ok none) ↔ Closed text := by
  constructor
  · rintro ⟨closed⟩
    exact closed
  · exact .nothing

theorem takes_some_iff :
    Takes text (.ok (some (before,n))) ↔
      ∃ digits, text = before ++ ':' :: digits ∧ Counts digits n ∧ ¬Letter before := by
  constructor
  · rintro ⟨⟩
    exact ⟨_,rfl,‹_›,‹_›⟩
  · rintro ⟨digits,rfl,counts,nodrive⟩
    exact .number counts nodrive

theorem Takes.filled (takes : Takes text (.ok (some (before,n)))) : text ≠ [] := by
  obtain ⟨digits,rfl,_⟩ := takes_some_iff.mp takes
  simp

theorem exists_takes (text : List Char) : ∃ out, Takes text out := by
  by_cases present : ':' ∈ text
  case neg => exact ⟨_,.nothing (.inl present)⟩
  obtain ⟨before,after,rfl,last⟩ := Text.exists_last present
  by_cases minus : after.head? = some '-'
  · exact ⟨_,.negative last minus⟩
  by_cases numeric : Numeric after
  case neg => exact ⟨_,.nothing (.inr ⟨before,after,rfl,last,minus,.inl numeric⟩)⟩
  by_cases letter : Letter before
  · exact ⟨_,.nothing (.inr ⟨before,after,rfl,last,minus,.inr letter⟩)⟩
  by_cases large : UInt32.size ≤ Nat.ofDigitChars 10 after 0
  · exact ⟨_,.beyond numeric letter large⟩
  · have fits : Nat.ofDigitChars 10 after 0 < UInt32.size := Nat.lt_of_not_le large
    exact ⟨_,.number ⟨numeric,(UInt32.toNat_ofNat_of_lt' fits).symm⟩ letter⟩

theorem takeNumber_eq_none (closed : Closed text) : takeNumber text = .ok none := by
  rcases closed with absent | ⟨before,after,rfl,last,minus,stops⟩
  · rw [takeNumber,Text.splitLast_of_not_mem absent]
  · simp only [takeNumber,Text.splitLast_append last,if_neg minus,if_pos (stops_iff.mpr stops)]

theorem not_stops (numeric : Numeric after) (nodrive : ¬Letter before) :
    ¬(!isNumeric after || isDrive before) = true := by
  rw [stops_iff]
  rintro (other | letter)
  · exact other numeric
  · exact nodrive letter

theorem Takes.eq (takes : Takes text out) : takeNumber text = out := by
  cases takes with
  | nothing closed => exact takeNumber_eq_none closed
  | @number before digits n counts nodrive =>
    have fits : Nat.ofDigitChars 10 digits 0 < UInt32.size := counts.value ▸ n.toNat_lt
    have read := Text.readNumeral_digits counts.filled counts.digits fits
    simp only [takeNumber,Text.splitLast_append counts.no_colon,if_neg counts.no_minus,
      if_neg (not_stops counts.toNumeric nodrive),read,counts.value,UInt32.ofNat_toNat]
  | negative last minus => simp only [takeNumber,Text.splitLast_append last,if_pos minus]
  | beyond numeric nodrive large =>
    have refused := Text.readNumeral_beyond numeric.filled numeric.digits (by decide) large
    simp only [takeNumber,Text.splitLast_append numeric.no_colon,if_neg numeric.no_minus,
      if_neg (not_stops numeric nodrive),refused]

/-- Taking a number off does exactly what stands behind the last colon allows. -/
theorem takeNumber_eq_iff : takeNumber text = out ↔ Takes text out := by
  constructor
  · rintro rfl
    obtain ⟨out,takes⟩ := exists_takes text
    rwa [takes.eq]
  · exact Takes.eq

end TakeNumber

theorem one_le_iff {n : UInt32} : 1 ≤ n ↔ n ≠ 0 := by
  rw [UInt32.le_iff_toNat_le,Ne,← UInt32.toNat_inj]
  exact Nat.one_le_iff_ne_zero

theorem check_eq_ok_iff {file : List Char} {line column : UInt32} {l : Location} :
    check file line column = .ok l ↔
      ⟨String.ofList file,line,column⟩ = l ∧ file ≠ [] ∧ 1 ≤ line ∧ 1 ≤ column := by
  simp only [check,one_le_iff]
  by_cases empty : file = []
  · simp [empty]
  by_cases first : line = 0
  · simp [empty,first]
  by_cases second : column = 0
  · simp [empty,first,second]
  simp [empty,first,second]

/-- A number and a colon before it leave more than a letter. -/
theorem Counts.not_letter {digits : List Char} {n : UInt32} (counts : Counts digits n)
    (before : List Char) : ¬Letter (before ++ ':' :: digits) := by
  rintro ⟨c,_,shape⟩
  have short := congrArg List.length shape
  have filled : 0 < digits.length := List.length_pos_iff.mpr counts.filled
  simp only [List.length_append,List.length_cons,List.length_nil] at short
  omega

section Parse

variable {input : String} {rest file : List Char} {line last : UInt32} {l : Location}

theorem parse_one (takes : Takes (Text.trim input.toList) (.ok (some (rest,last))))
    (stops : Takes rest (.ok none)) : parse input = check rest last 1 := by
  simp [parse,takes.filled,takes.eq,stops.eq]

theorem parse_two (takes : Takes (Text.trim input.toList) (.ok (some (rest,last))))
    (more : Takes rest (.ok (some (file,line)))) : parse input = check file line last := by
  simp [parse,takes.filled,takes.eq,more.eq]

/-- A location is read by taking off one number or two. -/
theorem takes_of_parse (ok : parse input = .ok l) :
    ∃ rest last, Takes (Text.trim input.toList) (.ok (some (rest,last))) ∧
      (Takes rest (.ok none) ∧ check rest last 1 = .ok l ∨
        ∃ file line, Takes rest (.ok (some (file,line))) ∧ check file line last = .ok l) := by
  unfold parse at ok
  have filled : Text.trim input.toList ≠ [] := by
    intro empty
    simp [empty] at ok
  rcases first : takeNumber (Text.trim input.toList) with e | _ | ⟨rest,last⟩
  · simp [filled,first] at ok
  · simp [filled,first] at ok
  refine ⟨rest,last,takeNumber_eq_iff.mp first,?_⟩
  rcases second : takeNumber rest with e | _ | ⟨file,line⟩
  · simp [filled,first,second] at ok
  · exact .inl ⟨takeNumber_eq_iff.mp second,by simpa [filled,first,second] using ok⟩
  · exact .inr ⟨file,line,takeNumber_eq_iff.mp second,by simpa [filled,first,second] using ok⟩

/-- Whatever is read is in the grammar. -/
theorem writtenAs_of_parse (ok : parse input = .ok l) : l.WrittenAs (Text.trim input.toList) := by
  obtain ⟨rest,last,taken,checked⟩ := takes_of_parse ok
  obtain ⟨digits,shape,counts,nodrive⟩ := takes_some_iff.mp taken
  rw [shape]
  rcases checked with ⟨stops,checked⟩ | ⟨file,line,more,checked⟩
  · obtain ⟨rfl,named,row,place⟩ := check_eq_ok_iff.mp checked
    have closed : Closed rest := takes_none_iff.mp stops
    have form : Form ⟨String.ofList rest,last,1⟩ ((String.ofList rest).toList ++ ':' :: digits) :=
      .short counts rfl (by rwa [String.toList_ofList])
    rw [String.toList_ofList] at form
    exact ⟨by simpa using named,by rwa [String.toList_ofList],row,place,form⟩
  · obtain ⟨rfl,named,row,place⟩ := check_eq_ok_iff.mp checked
    obtain ⟨lineDigits,rfl,lineCounts,nodrive⟩ := takes_some_iff.mp more
    have form : Form ⟨String.ofList file,line,last⟩
        ((String.ofList file).toList ++ ':' :: lineDigits ++ ':' :: digits) := .full lineCounts counts
    rw [String.toList_ofList] at form
    exact ⟨by simpa using named,by rwa [String.toList_ofList],row,place,form⟩

/-- Whatever is in the grammar is read. -/
theorem parse_of_writtenAs (written : l.WrittenAs (Text.trim input.toList)) : parse input = .ok l := by
  obtain ⟨named,nodrive,row,place,form⟩ := written
  have filled : l.file.toList ≠ [] := by simpa using named
  generalize trimmed : Text.trim input.toList = text at form
  cases form with
  | @full lineDigits columnDigits lineCounts columnCounts =>
    have first := Takes.number columnCounts (lineCounts.not_letter l.file.toList)
    rw [← trimmed] at first
    rw [parse_two first (.number lineCounts nodrive)]
    exact check_eq_ok_iff.mpr ⟨by simp,filled,row,place⟩
  | @short lineDigits lineCounts one closed =>
    have first := Takes.number lineCounts nodrive
    rw [← trimmed] at first
    rw [parse_one first (.nothing closed)]
    rw [one] at place
    exact check_eq_ok_iff.mpr ⟨by simp [← one],filled,row,place⟩

/-- Exactly the texts in the grammar are read as locations, and every other text is an error. -/
theorem parse_grammatical (input : String) :
    (∀ l, parse input = .ok l ↔ l.WrittenAs (Text.trim input.toList)) ∧
      ((∃ e, parse input = .error e) ↔ ∀ l : Location, ¬l.WrittenAs (Text.trim input.toList)) := by
  refine ⟨fun l => ⟨writtenAs_of_parse,parse_of_writtenAs⟩,?_,?_⟩
  · rintro ⟨e,error⟩ l written
    simp [parse_of_writtenAs written] at error
  · intro foreign
    cases out : parse input with
    | error e => exact ⟨e,rfl⟩
    | ok l => exact absurd (writtenAs_of_parse out) (foreign l)

end Parse

section Shown

variable {input : String} {l : Location}

theorem toList_toString (l : Location) :
    l.toString.toList =
      l.file.toList ++ ':' :: Text.decimal l.line.toNat ++ ':' :: Text.decimal l.column.toNat := by
  simp [toString,Text.decimal,Nat.toList_repr]

theorem counts_decimal (n : UInt32) : Counts (Text.decimal n.toNat) n where
  filled := Text.decimal_ne_nil _
  digits _ := Text.isDigit_of_mem_decimal
  value := Text.ofDigitChars_decimal _

/-- What is shown ends in a digit, so it is only trimmed if its file starts with a blank. -/
theorem trim_toString (named : l.file ≠ "") (solid : ∀ c ∈ l.file.toList.head?, Text.isBlank c = false) :
    Text.trim l.toString.toList = l.toString.toList := by
  apply Text.trim_eq_self
  · intro c first
    obtain ⟨d,rest,shape⟩ := List.exists_cons_of_ne_nil (mt String.toList_eq_nil_iff.mp named)
    rw [shape] at solid
    rw [toList_toString,shape] at first
    exact solid c (by simpa using first)
  · intro c last
    have digits := counts_decimal l.column
    have ends := List.getLast?_eq_some_getLast digits.filled
    have last : (Text.decimal l.column.toNat).getLast digits.filled = c := by
      simpa [toList_toString,List.getLast?_append,List.getLast?_cons,ends] using last
    exact Text.isBlank_of_isDigit (digits.digits c (last ▸ List.getLast_mem _))

/-- What is read has no blank in front. -/
theorem solid_of_writtenAs (written : l.WrittenAs (Text.trim input.toList)) :
    ∀ c ∈ l.file.toList.head?, Text.isBlank c = false := by
  intro c first
  apply Text.not_blank_of_head_trim input.toList
  have first : l.file.toList.head? = some c := first
  generalize Text.trim input.toList = text at written
  cases written.form with
  | full => simp [List.head?_append,first]
  | short => simp [List.head?_append,first]

theorem parse_toString (named : l.file ≠ "")
    (solid : ∀ c ∈ l.file.toList.head?, Text.isBlank c = false) (row : 1 ≤ l.line)
    (place : 1 ≤ l.column) (nodrive : ¬Letter l.file.toList) : parse l.toString = .ok l := by
  apply parse_of_writtenAs
  rw [trim_toString named solid,toList_toString]
  exact ⟨named,nodrive,row,place,.full (counts_decimal _) (counts_decimal _)⟩

/-- Behind a letter the line is taken for a part of the file. -/
theorem parse_toString_drive (solid : ∀ c ∈ l.file.toList.head?, Text.isBlank c = false)
    (place : 1 ≤ l.column) (drive : Letter l.file.toList) :
    parse l.toString = .ok ⟨l.file ++ ":" ++ l.line.toNat.repr,l.column,1⟩ := by
  have named : l.file ≠ "" := by
    obtain ⟨c,_,shape⟩ := drive
    intro empty
    simp [empty] at shape
  have longer : (l.file ++ ":" ++ l.line.toNat.repr).toList =
      l.file.toList ++ ':' :: Text.decimal l.line.toNat := by
    simp [Text.decimal,Nat.toList_repr]
  have digits := counts_decimal l.line
  have closed : Closed (l.file.toList ++ ':' :: Text.decimal l.line.toNat) :=
    .inr ⟨_,_,rfl,digits.no_colon,digits.no_minus,.inr drive⟩
  apply parse_of_writtenAs
  rw [trim_toString named solid,toList_toString,← longer]
  refine ⟨?_,?_,place,UInt32.le_refl 1,.short (counts_decimal _) rfl ?_⟩
  · exact mt (congrArg String.toList) (by simp [longer])
  · rw [longer]
    exact digits.not_letter _
  · rwa [longer]

/-- What is shown of a location is read again as the same location, but for a file that is taken for a
drive: there the line goes to the file. -/
theorem parse_shown :
    (∀ input l, parse input = .ok l → parse l.toString = .ok l) ∧
      ∀ l : Location, l.file ≠ "" → (∀ c ∈ l.file.toList.head?, Text.isBlank c = false) →
        1 ≤ l.line → 1 ≤ l.column →
        (¬Letter l.file.toList → parse l.toString = .ok l) ∧
        (Letter l.file.toList →
          parse l.toString = .ok ⟨l.file ++ ":" ++ l.line.toNat.repr,l.column,1⟩) := by
  refine ⟨fun input l ok => ?_,fun l named solid row place => ⟨?_,?_⟩⟩
  · have written := writtenAs_of_parse ok
    exact parse_toString written.named (solid_of_writtenAs written) written.line written.column written.nodrive
  · exact parse_toString named solid row place
  · exact parse_toString_drive solid place

theorem odd_files_shown :
    parse " a:b :007\n" = .ok ⟨"a:b ",7,1⟩ ∧ parse "a:b :7:1" = .ok ⟨"a:b ",7,1⟩ ∧
      parse "-1:2:3:4" = .ok ⟨"-1:2",3,4⟩ ∧ parse "C:3:4" = .ok ⟨"C:3",4,1⟩ := by
  obtain ⟨again,shown⟩ := parse_shown
  refine ⟨rfl,again " a:b :007\n" ⟨"a:b ",7,1⟩ rfl,?_,?_⟩
  · have solid : ∀ c ∈ "-1:2".toList.head?, Text.isBlank c = false := by
      intro c first
      obtain rfl : '-' = c := Option.some.inj first
      rfl
    refine (shown ⟨"-1:2",3,4⟩ (by decide) solid (by decide) (by decide)).1 ?_
    rintro ⟨c,_,shape⟩
    simp at shape
  · have solid : ∀ c ∈ "C".toList.head?, Text.isBlank c = false := by
      intro c first
      obtain rfl : 'C' = c := Option.some.inj first
      rfl
    exact (shown ⟨"C",3,4⟩ (by decide) solid (by decide) (by decide)).2 ⟨'C',by decide,rfl⟩

end Shown

end Location

end LanguageBridge
