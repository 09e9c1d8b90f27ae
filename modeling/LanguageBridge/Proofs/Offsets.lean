import LanguageBridge.Proofs.Places

/-! The lines of a text by the offsets at which they start, and which places lie in a text. -/
namespace LanguageBridge

namespace Text

/-- Line `k` of a text, the first one being 0, starts at an offset: at 0, or just after the `k`-th line
feed. -/
structure StartsAt (text : List Char) (k start : Nat) : Prop where
  feeds : (text.take start).count '\n' = k
  edge : start = 0 ∨ ∃ i, start = i + 1 ∧ text[i]? = some '\n'

def stretch (text : List Char) (start : Nat) : List Char := (text.drop start).takeWhile (· ≠ '\n')

/-- How many characters the line from an offset on has; a carriage return just before the line feed does
not count. -/
def width (text : List Char) (start : Nat) : Nat :=
  if '\n' ∈ text.drop start ∧ (stretch text start).getLast? = some '\r' then
    (stretch text start).length - 1
  else (stretch text start).length

def chomp (body : List Char) : List Char := if body.getLast? = some '\r' then body.dropLast else body

section Cut

variable {text body rest : List Char} {k start : Nat}

theorem linesFrom_append (clean : '\n' ∉ body) (line : List Char) :
    linesFrom line (body ++ rest) = linesFrom (body.reverse ++ line) rest := by
  induction body generalizing line with
  | nil => rfl
  | cons c body ih =>
    obtain ⟨other,clean⟩ : '\n' ≠ c ∧ '\n' ∉ body := by simpa using clean
    rw [List.cons_append,linesFrom.eq_4 _ _ _ (Ne.symm other),ih clean]
    simp

theorem linesFrom_feed (line rest : List Char) :
    linesFrom line ('\n' :: rest) = chomp line.reverse :: lines rest := by
  cases line with
  | nil => rfl
  | cons c line =>
    by_cases ret : c = '\r'
    · rw [ret,linesFrom]
      simp [chomp,lines]
    · rw [linesFrom.eq_3 _ _ (by simp [ret])]
      simp [chomp,ret,lines]

theorem lines_feed (clean : '\n' ∉ body) (rest : List Char) :
    lines (body ++ '\n' :: rest) = chomp body :: lines rest := by
  rw [lines,linesFrom_append clean,linesFrom_feed]
  simp

theorem lines_last (clean : '\n' ∉ body) : lines body = if body = [] then [] else [body] := by
  have whole : linesFrom [] (body ++ []) = linesFrom (body.reverse ++ []) [] := linesFrom_append clean []
  simpa [lines,linesFrom] using whole

theorem takeWhile_clean (clean : '\n' ∉ body) (rest : List Char) :
    (body ++ rest).takeWhile (· ≠ '\n') = body ++ rest.takeWhile (· ≠ '\n') := by
  apply List.takeWhile_append_of_pos
  intro c member
  simpa using fun same : c = '\n' => clean (same ▸ member)

theorem stretch_feed (clean : '\n' ∉ body) (rest : List Char) : stretch (body ++ '\n' :: rest) 0 = body := by
  rw [stretch,List.drop_zero,takeWhile_clean clean]
  simp

theorem stretch_last (clean : '\n' ∉ body) : stretch body 0 = body := by
  simpa [stretch] using takeWhile_clean clean []

theorem width_feed (clean : '\n' ∉ body) (rest : List Char) :
    width (body ++ '\n' :: rest) 0 = (chomp body).length := by
  rw [width,stretch_feed clean,chomp]
  by_cases ret : body.getLast? = some '\r' <;> simp [ret]

theorem width_last (clean : '\n' ∉ body) : width body 0 = body.length := by
  simp [width,stretch_last clean,clean]

theorem startsAt_zero : StartsAt text 0 start ↔ start = 0 := by
  constructor
  · rintro ⟨feeds,rfl | ⟨i,rfl,feed⟩⟩
    · rfl
    · have member : '\n' ∈ text.take (i + 1) := by
        apply List.mem_of_getElem? (i := i)
        rwa [List.getElem?_take_of_lt (Nat.lt_succ_self i)]
      exact absurd member (List.count_eq_zero.mp feeds)
  · rintro rfl
    exact ⟨by simp,.inl rfl⟩

theorem count_take_clean (clean : '\n' ∉ text) (start : Nat) : (text.take start).count '\n' = 0 :=
  List.count_eq_zero.mpr fun member => clean (List.mem_of_mem_take member)

theorem not_startsAt_succ (clean : '\n' ∉ text) : ¬StartsAt text (k + 1) start := by
  rintro ⟨feeds,_⟩
  rw [count_take_clean clean] at feeds
  omega

/-- Behind a line feed the lines are counted anew. -/
theorem startsAt_skip (clean : '\n' ∉ body) :
    StartsAt (body ++ '\n' :: rest) (k + 1) (body.length + 1 + start) ↔ StartsAt rest k start := by
  have taken : ((body ++ '\n' :: rest).take (body.length + 1 + start)).count '\n' =
      (rest.take start).count '\n' + 1 := by
    rw [Nat.add_assoc,Nat.add_comm 1,List.take_length_add_append,List.take_succ_cons,
      List.count_append,List.count_cons_self,List.count_eq_zero.mpr clean]
    omega
  have behind : ∀ i, (body ++ '\n' :: rest)[body.length + 1 + i]? = rest[i]? := by
    intro i
    rw [List.getElem?_append_right (by omega),Nat.add_assoc,Nat.add_sub_cancel_left,Nat.add_comm 1,
      List.getElem?_cons_succ]
  constructor
  · rintro ⟨feeds,edge⟩
    refine ⟨by omega,?_⟩
    cases start with
    | zero => exact .inl rfl
    | succ i =>
      obtain zero | ⟨j,place,feed⟩ := edge
      · omega
      · obtain rfl : j = body.length + 1 + i := by omega
        exact .inr ⟨i,rfl,behind i ▸ feed⟩
  · rintro ⟨feeds,edge⟩
    refine ⟨by omega,.inr ?_⟩
    rcases edge with rfl | ⟨i,rfl,feed⟩
    · exact ⟨body.length,rfl,by simp⟩
    · exact ⟨body.length + 1 + i,rfl,(behind i).trans feed⟩

theorem startsAt_succ (clean : '\n' ∉ body) :
    StartsAt (body ++ '\n' :: rest) (k + 1) start ↔
      ∃ s, start = body.length + 1 + s ∧ StartsAt rest k s := by
  constructor
  · intro starts
    have beyond : body.length + 1 ≤ start := by
      apply Nat.le_of_not_lt
      intro short
      have feeds := starts.feeds
      rw [List.take_append_of_le_length (Nat.le_of_lt_succ short),count_take_clean clean] at feeds
      omega
    obtain ⟨s,rfl⟩ := Nat.exists_eq_add_of_le beyond
    exact ⟨s,rfl,(startsAt_skip clean).mp starts⟩
  · rintro ⟨s,rfl,starts⟩
    exact (startsAt_skip clean).mpr starts

theorem width_skip (body rest : List Char) (start : Nat) :
    width (body ++ '\n' :: rest) (body.length + 1 + start) = width rest start := by
  have behind : (body ++ '\n' :: rest).drop (body.length + 1 + start) = rest.drop start := by
    rw [Nat.add_assoc,Nat.add_comm 1,List.drop_length_add_append,List.drop_succ_cons]
  rw [width,width,stretch,stretch,behind]

/-- The lines that there are start before the end of the text and are as long as they are wide. -/
theorem length_getElem?_lines {n : Nat} :
    (lines text)[k]?.map List.length = some n ↔
      ∃ start, StartsAt text k start ∧ start < text.length ∧ width text start = n := by
  induction k generalizing text with
  | zero =>
    simp only [startsAt_zero,exists_eq_left]
    by_cases feed : '\n' ∈ text
    · obtain ⟨body,rest,rfl,clean⟩ := List.eq_append_cons_of_mem feed
      have filled : 0 < (body ++ '\n' :: rest).length := List.length_pos_iff.mpr (by simp)
      simp only [lines_feed clean,width_feed clean,List.getElem?_cons_zero,Option.map_some,
        Option.some.injEq,filled,true_and]
    · rw [lines_last feed,width_last feed]
      cases text <;> simp
  | succ k ih =>
    by_cases feed : '\n' ∈ text
    · obtain ⟨body,rest,rfl,clean⟩ := List.eq_append_cons_of_mem feed
      rw [lines_feed clean,List.getElem?_cons_succ,ih]
      constructor
      · rintro ⟨start,starts,inside,wide⟩
        refine ⟨body.length + 1 + start,(startsAt_skip clean).mpr starts,?_,?_⟩
        · simp only [List.length_append,List.length_cons]
          omega
        · rw [width_skip,wide]
      · rintro ⟨start,starts,inside,wide⟩
        obtain ⟨s,rfl,later⟩ := (startsAt_succ clean).mp starts
        simp only [List.length_append,List.length_cons] at inside
        exact ⟨s,later,by omega,by rw [← wide,width_skip]⟩
    · have short : (lines text)[k + 1]? = none := by
        rw [lines_last feed]
        cases text <;> simp
      simp [short,not_startsAt_succ feed]

theorem lines_eq_nil_iff : lines text = [] ↔ text = [] := by
  by_cases feed : '\n' ∈ text
  · obtain ⟨body,rest,rfl,clean⟩ := List.eq_append_cons_of_mem feed
    simp [lines_feed clean]
  · rw [lines_last feed]
    simp

theorem StartsAt.le_count (starts : StartsAt text k start) : k ≤ text.count '\n' := by
  rw [← starts.feeds]
  exact (List.take_sublist _ _).count_le _

end Cut

end Text

namespace Location

/-- A place, counted from 0, lies in a text: the text has its line, which starts before the end unless it
is the first, and its column is at most the width of the line. -/
def LiesIn (text : List Char) (line column : Nat) : Prop :=
  line ≤ text.count '\n' ∧ ∃ start, Text.StartsAt text line start ∧
    (start < text.length ∨ line = 0) ∧ column ≤ Text.width text start

section Validate

variable {l : Location} {text : List Char} {line column : Nat}

/-- The empty text has a first line, which is empty; any other text has the lines that it is cut into. -/
theorem liesIn_iff :
    LiesIn text line column ↔
      line < max (Text.lines text).length 1 ∧
        column ≤ ((Text.lines text)[line]?.map List.length).getD 0 := by
  constructor
  · rintro ⟨_,start,starts,inside,place⟩
    by_cases within : start < text.length
    · have width := Text.length_getElem?_lines.mpr ⟨start,starts,within,rfl⟩
      obtain ⟨row,there,_⟩ := Option.map_eq_some_iff.mp width
      have bound := (List.getElem?_eq_some_iff.mp there).1
      exact ⟨by omega,by simpa [width] using place⟩
    · obtain rfl : line = 0 := inside.resolve_left within
      obtain rfl := Text.startsAt_zero.mp starts
      obtain rfl : text = [] := by simpa using within
      rw [Text.width_last (by simp)] at place
      exact ⟨by omega,by simpa [Text.lines,Text.linesFrom] using place⟩
  · rintro ⟨bound,place⟩
    cases there : (Text.lines text)[line]? with
    | some row =>
      obtain ⟨start,starts,within,width⟩ := Text.length_getElem?_lines.mp (congrArg (·.map List.length) there)
      exact ⟨starts.le_count,start,starts,.inl within,by simpa [there,width] using place⟩
    | none =>
      have none := List.getElem?_eq_none_iff.mp there
      obtain rfl : line = 0 := by omega
      obtain rfl : text = [] := Text.lines_eq_nil_iff.mp (List.length_eq_zero_iff.mp (by omega))
      refine ⟨by simp,0,Text.startsAt_zero.mpr rfl,.inr rfl,?_⟩
      rw [Text.width_last (by simp)]
      simpa [there] using place

theorem validate_eq_ok_iff {content : String} (row : (l.line - 1).toNat + 1 = l.line.toNat)
    (place : (l.column - 1).toNat + 1 = l.column.toNat) :
    l.validate content = .ok () ↔
      (l.line - 1).toNat < max (Text.lines content.toList).length 1 ∧
        (l.column - 1).toNat ≤
          ((Text.lines content.toList)[(l.line - 1).toNat]?.map List.length).getD 0 := by
  simp only [validate]
  by_cases beyond : max (Text.lines content.toList).length 1 < l.line.toNat
  · rw [if_pos beyond]
    refine ⟨fun ok => by simp at ok,?_⟩
    rintro ⟨bound,_⟩
    omega
  rw [if_neg beyond]
  by_cases far : ((Text.lines content.toList)[(l.line - 1).toNat]?.map List.length).getD 0 + 1 <
      l.column.toNat
  · rw [if_pos far]
    refine ⟨fun ok => by simp at ok,?_⟩
    rintro ⟨_,bound⟩
    omega
  · rw [if_neg far]
    exact ⟨fun _ => ⟨by omega,by omega⟩,fun _ => rfl⟩

theorem toNat_sub_one_add_one {n : UInt32} (positive : 1 ≤ n) : (n - 1).toNat + 1 = n.toNat := by
  rw [UInt32.toNat_sub_of_le _ _ positive]
  exact Nat.sub_add_cancel positive

/-- A location that was read is valid in exactly the texts that its place lies in, and the numbers that it
counts from 1 can be counted from 0. -/
theorem validate_exact {input : String} (parsed : parse input = .ok l) (content : String) :
    (l.line - 1).toNat + 1 = l.line.toNat ∧ (l.column - 1).toNat + 1 = l.column.toNat ∧
      (l.validate content = .ok () ↔
        LiesIn content.toList (l.line - 1).toNat (l.column - 1).toNat) := by
  have written := writtenAs_of_parse parsed
  have row := toNat_sub_one_add_one written.line
  have place := toNat_sub_one_add_one written.column
  exact ⟨row,place,(validate_eq_ok_iff row place).trans liesIn_iff.symm⟩

/-- The end of a line lies before its carriage return, and before the end of the text. -/
theorem line_end_valid :
    parse "a.ttl:2:3" = .ok ⟨"a.ttl",2,3⟩ ∧ LiesIn "é\r\nab\r\n".toList 1 2 ∧
      validate ⟨"a.ttl",2,3⟩ "é\r\nab\r\n" = .ok () := by
  have parsed : parse "a.ttl:2:3" = .ok ⟨"a.ttl",2,3⟩ := rfl
  have lies : LiesIn "é\r\nab\r\n".toList 1 2 :=
    ⟨by decide,3,⟨by decide,.inr ⟨2,rfl,rfl⟩⟩,.inl (by decide),by decide⟩
  exact ⟨parsed,lies,(validate_exact parsed _).2.2.mpr lies⟩

end Validate

end Location

end LanguageBridge
