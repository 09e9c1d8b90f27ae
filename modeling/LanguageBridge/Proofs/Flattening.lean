import LanguageBridge.Conversion.Edit
import LanguageBridge.Proofs.ByteOrder

/-! A workspace edit as one list of edits: documents by the bytes of their names, then the listed changes
in their order. In which order the documents were given makes no difference. -/
namespace LanguageBridge.Wire

inductive Flattens :
    List (String × List TextEdit) → List DocumentChange → List Editor.ResourceEdit → Prop where
  | done : Flattens [] [] []
  | edit {uri : String} {t : TextEdit} {edits : List TextEdit} {documents : List (String × List TextEdit)}
      {listed : List DocumentChange} {out : List Editor.ResourceEdit}
      (rest : Flattens ((uri,edits) :: documents) listed out) :
      Flattens ((uri,t :: edits) :: documents) listed
        (⟨uri,⟨t.range.toEditor,t.newText⟩,none⟩ :: out)
  | document {uri : String} {documents : List (String × List TextEdit)} {listed : List DocumentChange}
      {out : List Editor.ResourceEdit} (rest : Flattens documents listed out) :
      Flattens ((uri,[]) :: documents) listed out
  | listedEdit {d : VersionedDocument} {t : TextEdit} {edits : List TextEdit}
      {listed : List DocumentChange} {out : List Editor.ResourceEdit}
      (rest : Flattens [] (.edit ⟨d,edits⟩ :: listed) out) :
      Flattens [] (.edit ⟨d,t :: edits⟩ :: listed)
        (⟨d.uri,⟨t.range.toEditor,t.newText⟩,d.version⟩ :: out)
  | listedDocument {d : VersionedDocument} {listed : List DocumentChange}
      {out : List Editor.ResourceEdit} (rest : Flattens [] listed out) :
      Flattens [] (.edit ⟨d,[]⟩ :: listed) out
  | operation {j : Json} {listed : List DocumentChange} {out : List Editor.ResourceEdit}
      (rest : Flattens [] listed out) : Flattens [] (.operation j :: listed) out

def DocumentChange.size : DocumentChange → Nat
  | .edit d => d.edits.length
  | .operation _ => 0

section Flattens

variable {documents : List (String × List TextEdit)} {listed : List DocumentChange}
variable {out : List Editor.ResourceEdit}

theorem flattens_listed (listed : List DocumentChange) :
    Flattens [] listed (WorkspaceEdit.mk none (some listed)).documentChangeEdits := by
  induction listed with
  | nil => exact .done
  | cons change listed ih =>
    cases change with
    | operation j => exact .operation ih
    | edit e =>
      obtain ⟨d,edits⟩ := e
      induction edits with
      | nil => exact .listedDocument ih
      | cons t edits next => exact .listedEdit next

theorem flattens_documents (documents : List (String × List TextEdit)) (rest : Flattens [] listed out) :
    Flattens documents listed (documents.flatMap (fun d => resourceEdits d.1 none d.2) ++ out) := by
  induction documents with
  | nil => exact rest
  | cons d documents ih =>
    obtain ⟨uri,edits⟩ := d
    induction edits with
    | nil => exact .document ih
    | cons t edits next => exact .edit next

theorem Flattens.eq (flattens : Flattens documents listed out) :
    out = documents.flatMap (fun d => resourceEdits d.1 none d.2) ++
      (WorkspaceEdit.mk none (some listed)).documentChangeEdits := by
  induction flattens with
  | done => rfl
  | edit _ ih => exact congrArg _ ih
  | document _ ih => exact ih
  | listedEdit _ ih => exact congrArg _ ih
  | listedDocument _ ih => exact ih
  | operation _ ih => exact ih

/-- No edit is lost and none comes twice. -/
theorem Flattens.length (flattens : Flattens documents listed out) :
    out.length = (documents.map (·.2.length) ++ listed.map DocumentChange.size).foldr (· + ·) 0 := by
  induction flattens with
  | done => rfl
  | edit _ ih => simp_all [Nat.add_right_comm]
  | document _ ih => simp_all
  | listedEdit _ ih => simp_all [DocumentChange.size,Nat.add_right_comm]
  | listedDocument _ ih => simp_all [DocumentChange.size]
  | operation _ ih => simp_all [DocumentChange.size]

end Flattens

/-- Documents that are told apart by their names, once sorted, ascend strictly. -/
theorem mergeSort_ascends {documents : List (String × List TextEdit)}
    (distinct : (documents.map Prod.fst).Nodup) :
    (documents.mergeSort fun a b => decide (a.1 ≤ b.1)).Pairwise fun a b => a.1 < b.1 := by
  have ascends : (documents.mergeSort fun a b => decide (a.1 ≤ b.1)).Pairwise
      fun a b => decide (a.1 ≤ b.1) = true := by
    apply List.pairwise_mergeSort
    · simpa using fun a b c => String.le_trans
    · simpa using String.le_total
  have apart : (documents.mergeSort fun a b => decide (a.1 ≤ b.1)).Pairwise fun a b => a.1 ≠ b.1 := by
    rw [← List.pairwise_map (f := Prod.fst)]
    exact ((List.mergeSort_perm _ _).map Prod.fst).nodup_iff.mpr distinct
  refine (ascends.and apart).imp fun {a b} both => ?_
  have le : a.1 ≤ b.1 := by simpa using both.1
  exact String.not_le.mp fun back => both.2 (String.le_antisymm le back)

namespace WorkspaceEdit

/-- What a workspace edit should come to: the edits of its documents, ascending by the bytes of their names,
and then the edits of its listed changes. -/
def Orders (e : WorkspaceEdit) (out : List Editor.ResourceEdit) : Prop :=
  ∃ documents, documents.Perm (e.changes.getD []) ∧
    documents.Pairwise (fun a b => List.Lex (· < ·) (Text.encodeUtf8 a.1) (Text.encodeUtf8 b.1)) ∧
    Flattens documents (e.documentChanges.getD []) out

def lengths (e : WorkspaceEdit) : List Nat :=
  (e.changes.getD []).map (·.2.length) ++ (e.documentChanges.getD []).map DocumentChange.size

variable {e : WorkspaceEdit}

theorem orders_toEditor (distinct : ((e.changes.getD []).map Prod.fst).Nodup) :
    e.Orders e.toEditor.edits := by
  refine ⟨_,List.mergeSort_perm _ _,?_,flattens_documents _ (flattens_listed _)⟩
  simp only [Text.encodeUtf8_lt_iff]
  exact mergeSort_ascends distinct

/-- Only one list of documents ascends. -/
theorem Orders.unique {out other : List Editor.ResourceEdit} (first : e.Orders out)
    (second : e.Orders other) : out = other := by
  obtain ⟨documents,perm,ascends,flattens⟩ := first
  obtain ⟨others,perm',ascends',flattens'⟩ := second
  simp only [Text.encodeUtf8_lt_iff] at ascends ascends'
  have same : documents = others := by
    refine List.Perm.eq_of_pairwise ?_ ascends ascends' (perm.trans perm'.symm)
    exact fun a b _ _ less back => absurd back (String.lt_asymm less)
  rw [flattens.eq,flattens'.eq,same]

theorem Orders.of_perm {changes : List (String × List TextEdit)} {out : List Editor.ResourceEdit}
    (perm : changes.Perm (e.changes.getD [])) (orders : (mk (some changes) e.documentChanges).Orders out) :
    e.Orders out := by
  obtain ⟨documents,same,rest⟩ := orders
  exact ⟨documents,same.trans perm,rest⟩

theorem Orders.length {out : List Editor.ResourceEdit} (orders : e.Orders out) :
    out.length = e.lengths.foldr (· + ·) 0 := by
  obtain ⟨documents,perm,_,flattens⟩ := orders
  have same : (documents.map (·.2.length) ++ (e.documentChanges.getD []).map DocumentChange.size).Perm
      e.lengths := (perm.map _).append_right _
  rw [flattens.length]
  exact same.foldr_eq' (fun a _ b _ n => Nat.add_left_comm b a n) 0

/-- A workspace edit comes to exactly the edits that it holds, in one order that does not depend on how its
documents were given. -/
theorem toEditor_ordered (e : WorkspaceEdit) (distinct : ((e.changes.getD []).map Prod.fst).Nodup) :
    (∀ out, e.Orders out ↔ out = e.toEditor.edits) ∧
    e.toEditor.edits.length = e.lengths.foldr (· + ·) 0 ∧
    ∀ changes, changes.Perm (e.changes.getD []) →
      (mk (some changes) e.documentChanges).toEditor = e.toEditor := by
  have own := orders_toEditor distinct
  refine ⟨fun out => ⟨fun orders => orders.unique own,?_⟩,own.length,fun changes perm => ?_⟩
  · rintro rfl
    exact own
  · have given : (changes.map Prod.fst).Nodup := (perm.map Prod.fst).nodup_iff.mpr distinct
    have other := orders_toEditor (e := mk (some changes) e.documentChanges) given
    exact congrArg Editor.WorkspaceEdit.mk ((other.of_perm perm).unique own)

def inserted (n : UInt32) (text : String) : TextEdit := ⟨⟨⟨n,0⟩,⟨n,0⟩⟩,text⟩

/-- Two documents against the order of their names, a listed change and an operation on files. -/
def mixed : WorkspaceEdit :=
  ⟨some [("file:///ä",[inserted 1 "x",inserted 0 "y"]),("file:///z",[inserted 0 "x"])],
    some [.operation (.str "create"),.edit ⟨⟨"file:///a",some 4⟩,[inserted 0xFFFFFFFF "x"]⟩]⟩

theorem mixed_ordered :
    ((mixed.changes.getD []).map Prod.fst).Nodup ∧
    mixed.toEditor.edits =
      [⟨"file:///z",⟨⟨1,1,1,1⟩,"x"⟩,none⟩,⟨"file:///ä",⟨⟨2,1,2,1⟩,"x"⟩,none⟩,
        ⟨"file:///ä",⟨⟨1,1,1,1⟩,"y"⟩,none⟩,
        ⟨"file:///a",⟨⟨0xFFFFFFFF,1,0xFFFFFFFF,1⟩,"x"⟩,some 4⟩] ∧
    (mk (mixed.changes.map List.reverse) mixed.documentChanges).toEditor = mixed.toEditor := by
  have distinct : ((mixed.changes.getD []).map Prod.fst).Nodup := by decide
  obtain ⟨orders,_,anyhow⟩ := toEditor_ordered mixed distinct
  refine ⟨distinct,?_,anyhow _ (List.reverse_perm _)⟩
  refine ((orders _).mp ⟨(mixed.changes.getD []).reverse,List.reverse_perm _,by decide,?_⟩).symm
  exact .edit (.document (.edit (.edit (.document (.operation (.listedEdit (.listedDocument .done)))))))

end WorkspaceEdit

end LanguageBridge.Wire
