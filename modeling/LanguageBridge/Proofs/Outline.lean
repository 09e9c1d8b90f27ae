import LanguageBridge.CommandLine.Visit
import Mathlib.Data.List.Nodup

/-! The outline of a document. A node of a forest stands at a place: the index of a root and a path of
indices from there down. The editor shows the forest of the server place by place, and counts as many
symbols as there are places. -/
namespace LanguageBridge

namespace Forest

variable {σ : Type} (below : σ → List σ)

def descend? : σ → List Nat → Option σ
  | s,[] => some s
  | s,i :: path => (below s)[i]?.bind fun t => descend? t path

def find? (forest : List σ) (place : Nat × List Nat) : Option σ :=
  forest[place.1]?.bind fun s => descend? below s place.2

variable {below}

@[simp] theorem find?_root (s : σ) (rest : List σ) : find? below (s :: rest) (0,[]) = some s := rfl

@[simp] theorem find?_inner (s : σ) (rest : List σ) (i : Nat) (path : List Nat) :
    find? below (s :: rest) (0,i :: path) = find? below (below s) (i,path) := rfl

@[simp] theorem find?_other (s : σ) (rest : List σ) (i : Nat) (path : List Nat) :
    find? below (s :: rest) (i + 1,path) = find? below rest (i,path) := rfl

theorem descend?_snoc (s : σ) (path : List Nat) (i : Nat) :
    descend? below s (path ++ [i]) = (descend? below s path).bind fun t => (below t)[i]? := by
  induction path generalizing s with
  | nil => simp [descend?]
  | cons j path ih =>
    rw [List.cons_append,descend?,descend?,Option.bind_assoc]
    simp only [ih]

/-- The children of a node are found behind its place. -/
theorem find?_snoc (forest : List σ) (root : Nat) (path : List Nat) (i : Nat) :
    find? below forest (root,path ++ [i]) =
      (find? below forest (root,path)).bind fun t => (below t)[i]? := by
  rw [find?,find?,Option.bind_assoc]
  simp only [descend?_snoc]

end Forest

namespace Editor.DocumentSymbol

/-- What holds of a forest when it holds of what is below its first root and of its other roots holds of
every forest. -/
theorem forest_induction {motive : List DocumentSymbol → Prop} (nil : motive [])
    (cons : ∀ s rest, motive s.children → motive rest → motive (s :: rest)) :
    ∀ forest, motive forest
  | [] => nil
  | s :: rest => cons s rest (forest_induction nil cons s.children) (forest_induction nil cons rest)
termination_by forest => sizeOf forest
decreasing_by
  · obtain ⟨name,detail,kind,tags,container,range,selection,children⟩ := s
    simp only [List.cons.sizeOf_spec,mk.sizeOf_spec]
    omega
  · simp only [List.cons.sizeOf_spec]
    omega

theorem forestSize_cons (s : DocumentSymbol) (rest : List DocumentSymbol) :
    forestSize (s :: rest) = forestSize s.children + 1 + forestSize rest := by
  obtain ⟨name,detail,kind,tags,container,range,selection,children⟩ := s
  rw [forestSize,size]

theorem forestSize_leaves (forest : List DocumentSymbol) :
    forestSize (forest.map leaf) = forest.length := by
  induction forest with
  | nil => rfl
  | cons s rest ih =>
    rw [List.map_cons,forestSize_cons,ih,List.length_cons]
    simp only [leaf,forestSize]
    omega

/-- The first root, what is below it and the other roots with what is below them. -/
def places (inner others : List (Nat × List Nat)) : List (Nat × List Nat) :=
  (0,[]) :: (inner.map (fun p => (0,p.1 :: p.2)) ++ others.map fun p => (p.1 + 1,p.2))

theorem places_nodup {inner others : List (Nat × List Nat)} (once : inner.Nodup)
    (once' : others.Nodup) : (places inner others).Nodup := by
  have deeper : (inner.map fun p => (0,p.1 :: p.2)).Nodup := by
    apply once.map
    rintro ⟨i,p⟩ ⟨j,q⟩ same
    simpa using same
  have further : (others.map fun p => (p.1 + 1,p.2)).Nodup := by
    apply once'.map
    rintro ⟨i,p⟩ ⟨j,q⟩ same
    simpa using same
  have apart : (inner.map fun p => (0,p.1 :: p.2)).Disjoint (others.map fun p => (p.1 + 1,p.2)) := by
    intro place first second
    obtain ⟨p,_,rfl⟩ := List.mem_map.mp first
    obtain ⟨q,_,same⟩ := List.mem_map.mp second
    cases congrArg Prod.fst same
  rw [places,List.nodup_cons]
  exact ⟨by simp,deeper.append further apart⟩

/-- Symbols are counted by their places. -/
theorem exists_places (forest : List DocumentSymbol) :
    ∃ places : List (Nat × List Nat), places.Nodup ∧
      (∀ place, place ∈ places ↔ (Forest.find? children forest place).isSome) ∧
      forestSize forest = places.length := by
  induction forest using forest_induction with
  | nil => exact ⟨[],List.nodup_nil,fun place => by simp [Forest.find?],rfl⟩
  | cons s rest below beside =>
    obtain ⟨inner,once,found,count⟩ := below
    obtain ⟨others,once',found',count'⟩ := beside
    refine ⟨places inner others,places_nodup once once',?_,?_⟩
    · rintro ⟨i,path⟩
      cases i with
      | zero =>
        cases path with
        | nil => simp [places]
        | cons j path =>
          have deeper := found (j,path)
          simpa [places] using deeper
      | succ i =>
        have further := found' (i,path)
        simpa [places] using further
    · rw [forestSize_cons,count,count']
      simp only [places,List.length_cons,List.length_append,List.length_map]
      omega

/-- A forest is known by what stands at its places. -/
theorem forest_ext {forest other : List DocumentSymbol}
    (same : ∀ place, (Forest.find? children forest place).map leaf =
      (Forest.find? children other place).map leaf) : forest = other := by
  induction forest using forest_induction generalizing other with
  | nil =>
    cases other with
    | nil => rfl
    | cons t others => cases same (0,[])
  | cons s rest below beside =>
    cases other with
    | nil => cases same (0,[])
    | cons t others =>
      have root : s.leaf = t.leaf := Option.some.inj (same (0,[]))
      have inner : s.children = t.children := below fun place => same (0,place.1 :: place.2)
      have others : rest = others := beside fun place => same (place.1 + 1,place.2)
      obtain ⟨name,detail,kind,tags,container,range,selection,children⟩ := s
      obtain ⟨name',detail',kind',tags',container',range',selection',children'⟩ := t
      simp only [leaf,mk.injEq] at root
      simp_all

end Editor.DocumentSymbol

namespace Wire

namespace DocumentSymbol

def offspring (s : DocumentSymbol) : List DocumentSymbol := s.children.getD []

structure ShownAs (s : DocumentSymbol) (t : Editor.DocumentSymbol) : Prop where
  name : t.name = s.name
  detail : t.detail = s.detail.getD ""
  kind : t.kind = s.kind
  tags : t.tags = s.tags
  range : t.range = s.range.toEditor
  selection : t.selection = s.selection.toEditor

/-- A forest of the editor that is that of the server: nodes at the same places, each shown as it is, and
each child contained in its parent. -/
structure Outlines (forest : List DocumentSymbol) (shown : List Editor.DocumentSymbol) : Prop where
  shape : ∀ place, (Forest.find? Editor.DocumentSymbol.children shown place).isSome =
    (Forest.find? offspring forest place).isSome
  nodes : ∀ place s t, Forest.find? offspring forest place = some s →
    Forest.find? Editor.DocumentSymbol.children shown place = some t → s.ShownAs t
  roots : ∀ i t, Forest.find? Editor.DocumentSymbol.children shown (i,[]) = some t → t.container = none
  inner : ∀ i path j t u, Forest.find? Editor.DocumentSymbol.children shown (i,path) = some t →
    Forest.find? Editor.DocumentSymbol.children shown (i,path ++ [j]) = some u →
    u.container = some t.name

theorem forestToEditor_eq_map (container : Option String) (forest : List DocumentSymbol) :
    forestToEditor container forest = forest.map (toEditor container) := by
  induction forest with
  | nil => rw [forestToEditor,List.map_nil]
  | cons s rest ih => rw [forestToEditor,ih,List.map_cons]

theorem toEditor_eq (container : Option String) (s : DocumentSymbol) :
    s.toEditor container =
      ⟨s.name,s.detail.getD "",s.kind,s.tags,container,s.range.toEditor,s.selection.toEditor,
        s.offspring.map (toEditor (some s.name))⟩ := by
  obtain ⟨name,detail,kind,tags,range,selection,children⟩ := s
  cases children with
  | none => simp [toEditor,offspring]
  | some symbols => simp [toEditor,offspring,forestToEditor_eq_map]

theorem container_toEditor (container : Option String) (s : DocumentSymbol) :
    (s.toEditor container).container = container := by
  rw [toEditor_eq]

theorem shownAs_toEditor (container : Option String) (s : DocumentSymbol) :
    s.ShownAs (s.toEditor container) := by
  rw [toEditor_eq]
  exact ⟨rfl,rfl,rfl,rfl,rfl,rfl⟩

theorem getElem?_children_toEditor (container : Option String) (s : DocumentSymbol) (i : Nat) :
    (s.toEditor container).children[i]? = s.offspring[i]?.map (toEditor (some s.name)) := by
  rw [toEditor_eq,List.getElem?_map]

/-- The same path leads from a symbol and from what it is shown as to nodes of which one is shown as the
other. -/
theorem descend?_toEditor (container : Option String) (s : DocumentSymbol) (path : List Nat) :
    (Forest.descend? offspring s path = none ∧
      Forest.descend? Editor.DocumentSymbol.children (s.toEditor container) path = none) ∨
    ∃ t holder, Forest.descend? offspring s path = some t ∧
      Forest.descend? Editor.DocumentSymbol.children (s.toEditor container) path =
        some (t.toEditor holder) := by
  induction path generalizing s container with
  | nil => exact .inr ⟨s,container,rfl,rfl⟩
  | cons i path ih =>
    rw [Forest.descend?,Forest.descend?,getElem?_children_toEditor]
    cases s.offspring[i]? with
    | none => exact .inl ⟨rfl,rfl⟩
    | some child => exact ih (some s.name) child

theorem find?_toEditor (container : Option String) (forest : List DocumentSymbol)
    (place : Nat × List Nat) :
    (Forest.find? offspring forest place = none ∧
      Forest.find? Editor.DocumentSymbol.children (forest.map (toEditor container)) place = none) ∨
    ∃ s holder, Forest.find? offspring forest place = some s ∧
      Forest.find? Editor.DocumentSymbol.children (forest.map (toEditor container)) place =
        some (s.toEditor holder) := by
  rw [Forest.find?,Forest.find?,List.getElem?_map]
  cases forest[place.1]? with
  | none => exact .inl ⟨rfl,rfl⟩
  | some s => exact descend?_toEditor container s place.2

theorem outlines_toEditor (forest : List DocumentSymbol) :
    Outlines forest (forest.map (toEditor none)) where
  shape place := by
    rcases find?_toEditor none forest place with ⟨absent,absent'⟩ | ⟨s,holder,found,found'⟩
    · rw [absent,absent']
      rfl
    · rw [found,found']
      rfl
  nodes place s t found shown := by
    rcases find?_toEditor none forest place with ⟨absent,_⟩ | ⟨s',holder,found',shown'⟩
    · rw [absent] at found
      cases found
    · obtain rfl : s' = s := Option.some.inj (found'.symm.trans found)
      obtain rfl : s'.toEditor holder = t := Option.some.inj (shown'.symm.trans shown)
      exact shownAs_toEditor holder s'
  roots i t shown := by
    rw [Forest.find?,List.getElem?_map] at shown
    cases root : forest[i]? with
    | none =>
      rw [root] at shown
      cases shown
    | some s =>
      rw [root] at shown
      obtain rfl : s.toEditor none = t := Option.some.inj shown
      exact container_toEditor none s
  inner i path j t u parent child := by
    rcases find?_toEditor none forest (i,path) with ⟨_,absent⟩ | ⟨s,holder,_,found⟩
    · rw [absent] at parent
      cases parent
    · obtain rfl : s.toEditor holder = t := Option.some.inj (found.symm.trans parent)
      rw [Forest.find?_snoc,found,Option.bind_some,getElem?_children_toEditor] at child
      obtain ⟨c,_,rfl⟩ := Option.map_eq_some_iff.mp child
      rw [container_toEditor,(shownAs_toEditor holder s).name]

variable {forest : List DocumentSymbol} {shown other : List Editor.DocumentSymbol}

/-- What contains a child is told by the server's forest. -/
theorem Outlines.container_eq (outlines : Outlines forest shown) {i : Nat} {path : List Nat} {j : Nat}
    {u : Editor.DocumentSymbol}
    (child : Forest.find? Editor.DocumentSymbol.children shown (i,path ++ [j]) = some u) :
    u.container = (Forest.find? offspring forest (i,path)).map (·.name) := by
  have behind := child
  rw [Forest.find?_snoc] at behind
  obtain ⟨t,parent,_⟩ := Option.bind_eq_some_iff.mp behind
  have present := outlines.shape (i,path)
  rw [parent,Option.isSome_some] at present
  obtain ⟨s,found⟩ := Option.isSome_iff_exists.mp present.symm
  rw [outlines.inner i path j t u parent child,(outlines.nodes _ s t found parent).name,found]
  rfl

/-- No other forest of the editor will do. -/
theorem Outlines.unique (first : Outlines forest shown) (second : Outlines forest other) :
    shown = other := by
  apply Editor.DocumentSymbol.forest_ext
  rintro ⟨i,path⟩
  have present := (first.shape (i,path)).trans (second.shape (i,path)).symm
  cases found : Forest.find? Editor.DocumentSymbol.children shown (i,path) with
  | none =>
    rw [found] at present
    have absent : Forest.find? Editor.DocumentSymbol.children other (i,path) = none := by
      simpa using present.symm
    rw [absent]
  | some t =>
    rw [found] at present
    obtain ⟨u,found'⟩ := Option.isSome_iff_exists.mp present.symm
    obtain ⟨s,source⟩ := Option.isSome_iff_exists.mp
      ((first.shape (i,path)).symm.trans (by rw [found]; rfl))
    have as := first.nodes _ s t source found
    have as' := second.nodes _ s u source found'
    have container : t.container = u.container := by
      rcases List.eq_nil_or_concat path with rfl | ⟨up,j,rfl⟩
      · rw [first.roots i t found,second.roots i u found']
      · rw [List.concat_eq_append] at found found'
        rw [first.container_eq found,second.container_eq found']
    rw [found']
    simp only [Option.map_some,Editor.DocumentSymbol.leaf,as.name,as'.name,as.detail,as'.detail,as.kind,
      as'.kind,as.tags,as'.tags,as.range,as'.range,as.selection,as'.selection,container]

end DocumentSymbol

/-- The editor's outline of a nested response is that of the server and nothing else. It counts the symbols
at all places, or only the roots where that is asked for, and prints that count. -/
theorem DocumentSymbols.toEditor_outlines (symbols : List DocumentSymbol) :
    (∀ shown, DocumentSymbol.Outlines symbols shown ↔ shown = (nested symbols).toEditor) ∧
    Editor.DocumentSymbol.forestSize ((nested symbols).toEditor.map Editor.DocumentSymbol.leaf) =
      symbols.length ∧
    ∃ places : List (Nat × List Nat), places.Nodup ∧
      (∀ place, place ∈ places ↔ (Forest.find? DocumentSymbol.offspring symbols place).isSome) ∧
      Editor.DocumentSymbol.forestSize (nested symbols).toEditor = places.length ∧
      ∀ (e : Errand) (flat : Bool), e.symbolsEnding flat (nested symbols).toEditor =
        .printed (.record [.always "file" (.str e.shownFile),
          .always "count" (.ofNat (if flat then symbols.length else places.length)),
          .always "symbols" (.arr (Editor.DocumentSymbol.forestToJson (if flat then
            (nested symbols).toEditor.map Editor.DocumentSymbol.leaf
            else (nested symbols).toEditor)))]) := by
  have converted : (nested symbols).toEditor = symbols.map (DocumentSymbol.toEditor none) :=
    DocumentSymbol.forestToEditor_eq_map none symbols
  have outlines := DocumentSymbol.outlines_toEditor symbols
  rw [← converted] at outlines
  have roots : Editor.DocumentSymbol.forestSize
      ((nested symbols).toEditor.map Editor.DocumentSymbol.leaf) = symbols.length := by
    rw [Editor.DocumentSymbol.forestSize_leaves,converted,List.length_map]
  obtain ⟨places,once,found,count⟩ :=
    Editor.DocumentSymbol.exists_places (nested symbols).toEditor
  refine ⟨fun shown => ⟨fun own => own.unique outlines,?_⟩,roots,places,once,fun place => ?_,count,
    fun e flat => ?_⟩
  · rintro rfl
    exact outlines
  · rw [found,outlines.shape]
  · cases flat with
    | false => simp only [Errand.symbolsEnding,Bool.false_eq_true,if_false,count]
    | true => simp only [Errand.symbolsEnding,if_true,roots]

end Wire

end LanguageBridge
