import LanguageBridge.Conversion.Range

/-! Ranges counted from 1 instead of 0. Every number is moved by one on its own and the greatest stays, so
the last two lines become one. Between these two the columns alone decide which end comes first; all other
ranges keep their direction. -/
namespace LanguageBridge

instance : LE Wire.Position where
  le p q := p.line < q.line ∨ p.line = q.line ∧ p.character ≤ q.character

instance (p q : Wire.Position) : Decidable (p ≤ q) :=
  inferInstanceAs (Decidable (p.line < q.line ∨ p.line = q.line ∧ p.character ≤ q.character))

namespace Editor

instance : LE Position where
  le p q := p.lineNumber < q.lineNumber ∨ p.lineNumber = q.lineNumber ∧ p.column ≤ q.column

instance (p q : Position) : Decidable (p ≤ q) :=
  inferInstanceAs (Decidable
    (p.lineNumber < q.lineNumber ∨ p.lineNumber = q.lineNumber ∧ p.column ≤ q.column))

namespace Range

def start (r : Range) : Position := ⟨r.startLine,r.startColumn⟩

def finish (r : Range) : Position := ⟨r.endLine,r.endColumn⟩

def Counted (r : Range) : Prop :=
  1 ≤ r.startLine ∧ 1 ≤ r.startColumn ∧ 1 ≤ r.endLine ∧ 1 ≤ r.endColumn

end Range

theorem Position.le_iff {p q : Position} :
    p ≤ q ↔ p.lineNumber.toNat < q.lineNumber.toNat ∨
      p.lineNumber.toNat = q.lineNumber.toNat ∧ p.column.toNat ≤ q.column.toNat := by
  have order : p ≤ q ↔
      p.lineNumber < q.lineNumber ∨ p.lineNumber = q.lineNumber ∧ p.column ≤ q.column := Iff.rfl
  rw [order,UInt32.lt_iff_toNat_lt,← UInt32.toNat_inj,UInt32.le_iff_toNat_le]

end Editor

namespace Wire

theorem Position.le_iff {p q : Position} :
    p ≤ q ↔ p.line.toNat < q.line.toNat ∨
      p.line.toNat = q.line.toNat ∧ p.character.toNat ≤ q.character.toNat := by
  have order : p ≤ q ↔ p.line < q.line ∨ p.line = q.line ∧ p.character ≤ q.character := Iff.rfl
  rw [order,UInt32.lt_iff_toNat_lt,← UInt32.toNat_inj,UInt32.le_iff_toNat_le]

theorem toNat_toEditorNumber (n : UInt32) :
    (toEditorNumber n).toNat = min (n.toNat + 1) 4294967295 := by
  have small : n.toNat < 4294967296 := n.toNat_lt
  rw [toEditorNumber]
  by_cases greatest : n = 0xFFFFFFFF
  · rw [if_pos greatest,greatest]
    rfl
  · have below : n.toNat ≠ 4294967295 := fun same => greatest (UInt32.toNat_inj.mp same)
    have one : (1 : UInt32).toNat = 1 := rfl
    rw [if_neg greatest,UInt32.toNat_add,one]
    omega

theorem one_le_toEditorNumber (n : UInt32) : 1 ≤ toEditorNumber n := by
  rw [UInt32.le_iff_toNat_le,toNat_toEditorNumber]
  change 1 ≤ _
  omega

namespace Range

theorem toEditor_counted (r : Range) : r.toEditor.Counted :=
  ⟨one_le_toEditorNumber _,one_le_toEditorNumber _,one_le_toEditorNumber _,one_le_toEditorNumber _⟩

/-- The ends lie on the two lines that become one, and the columns run backwards without becoming one
as well. -/
def Collapses (r : Range) : Prop :=
  r.start.line = 0xFFFFFFFE ∧ r.finish.line = 0xFFFFFFFF ∧
    r.finish.character < r.start.character ∧ r.finish.character ≠ 0xFFFFFFFE

theorem collapses_iff {r : Range} :
    r.Collapses ↔ r.start.line.toNat = 4294967294 ∧ r.finish.line.toNat = 4294967295 ∧
      r.finish.character.toNat < r.start.character.toNat ∧
        r.finish.character.toNat ≠ 4294967294 := by
  rw [Collapses,← UInt32.toNat_inj,← UInt32.toNat_inj,UInt32.lt_iff_toNat_lt,ne_eq,← UInt32.toNat_inj]
  rfl

/-- A range from its start to its end is one for the editor too, with lines and columns from 1, unless it
collapses; then its start lies behind its end. -/
theorem toEditor_directed (r : Range) (forward : r.start ≤ r.finish) :
    r.toEditor.Counted ∧ (r.toEditor.start ≤ r.toEditor.finish ↔ ¬r.Collapses) := by
  refine ⟨r.toEditor_counted,?_⟩
  rw [Position.le_iff] at forward
  rw [Editor.Position.le_iff,collapses_iff]
  change (toEditorNumber _).toNat < (toEditorNumber _).toNat ∨
    (toEditorNumber _).toNat = (toEditorNumber _).toNat ∧
      (toEditorNumber _).toNat ≤ (toEditorNumber _).toNat ↔ _
  simp only [toNat_toEditorNumber]
  have start := r.start.character.toNat_lt
  have finish := r.finish.character.toNat_lt
  have line := r.finish.line.toNat_lt
  omega

/-- Both pairs of columns run backwards; those of the second become one. -/
def lastLines : Range := ⟨⟨0xFFFFFFFE,5⟩,⟨0xFFFFFFFF,0⟩⟩

def lastColumns : Range := ⟨⟨0xFFFFFFFE,0xFFFFFFFF⟩,⟨0xFFFFFFFF,0xFFFFFFFE⟩⟩

theorem lastColumns_directed :
    lastColumns.start ≤ lastColumns.finish ∧ lastColumns.toEditor.Counted ∧
      lastColumns.toEditor.start ≤ lastColumns.toEditor.finish := by
  have forward : lastColumns.start ≤ lastColumns.finish := by decide
  have kept : ¬lastColumns.Collapses := fun collapses => collapses.2.2.2 rfl
  obtain ⟨counted,directed⟩ := toEditor_directed lastColumns forward
  exact ⟨forward,counted,directed.mpr kept⟩

/-- The start on the last line but one comes to lie behind the end on the last. -/
theorem lastLines_inverted :
    lastLines.start ≤ lastLines.finish ∧ ¬lastLines.toEditor.start ≤ lastLines.toEditor.finish := by
  decide

end Range

end Wire

end LanguageBridge
