import LanguageBridge.Text.Blank

/-! Trimming: blanks at the ends do not matter, and a text that starts and ends otherwise is kept. -/
namespace LanguageBridge.Text

theorem isBlank_of_isDigit {c : Char} (digit : c.isDigit = true) : isBlank c = false := by
  have range : 48 ≤ c.toNat ∧ c.toNat ≤ 57 := by
    simpa [Char.isDigit,UInt32.le_iff_toNat_le] using digit
  simp only [isBlank,Bool.or_eq_false_iff,Bool.and_eq_false_iff,decide_eq_false_iff_not,
    beq_eq_false_iff_ne]
  omega

theorem dropWhile_blank_append {blanks : List Char} (blank : ∀ c ∈ blanks, isBlank c)
    (cs : List Char) : (blanks ++ cs).dropWhile isBlank = cs.dropWhile isBlank :=
  List.dropWhile_append_of_pos blank

theorem trim_blank_append {blanks : List Char} (blank : ∀ c ∈ blanks, isBlank c) (cs : List Char) :
    trim (blanks ++ cs) = trim cs := by
  rw [trim,dropWhile_blank_append blank,trim]

theorem trim_append_blank {blanks : List Char} (blank : ∀ c ∈ blanks, isBlank c) (cs : List Char) :
    trim (cs ++ blanks) = trim cs := by
  have reversed : ∀ c ∈ blanks.reverse, isBlank c := by simpa using blank
  have gone : blanks.dropWhile isBlank = [] := by
    simpa using dropWhile_blank_append blank []
  by_cases empty : cs.dropWhile isBlank = []
  · simp [trim,List.dropWhile_append,empty,gone]
  · have kept : (cs ++ blanks).dropWhile isBlank = cs.dropWhile isBlank ++ blanks := by
      simp [List.dropWhile_append,empty]
    rw [trim,kept,List.reverse_append,dropWhile_blank_append reversed,trim]

theorem trim_eq_self {cs : List Char} (first : ∀ c ∈ cs.head?, isBlank c = false)
    (last : ∀ c ∈ cs.getLast?, isBlank c = false) : trim cs = cs := by
  have front : ∀ ds : List Char, (∀ c ∈ ds.head?, isBlank c = false) →
      ds.dropWhile isBlank = ds := by
    intro ds solid
    cases ds with
    | nil => rfl
    | cons c ds => simp [solid c (by simp)]
  rw [trim,front cs first,front _ (by simpa using last),List.reverse_reverse]

theorem not_blank_of_head_trim (cs : List Char) {c : Char} (first : c ∈ (trim cs).head?) :
    isBlank c = false := by
  have front : trim cs <+: cs.dropWhile isBlank := by
    rw [← List.reverse_suffix,trim,List.reverse_reverse]
    exact List.dropWhile_suffix _
  obtain ⟨rest,shape⟩ := front
  have kept : (cs.dropWhile isBlank).head? = some c := by
    rw [← shape,List.head?_append,Option.mem_def.mp first]
    rfl
  simpa [kept] using List.head?_dropWhile_not isBlank cs

end LanguageBridge.Text
