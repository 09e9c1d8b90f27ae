import LanguageBridge.Proofs.Utf8
import LanguageBridge.Storage

/-! Where paths lead after something was added. A path that led somewhere still leads there as long as
directories stay directories and nothing goes; so it does when directories are made where nothing stood,
and when a file is written, which is then read at the path it was written to. -/
namespace LanguageBridge

/-- A chain succeeds where each of its parts does. -/
theorem bind_eq_ok_iff {ε α β : Type} {x : Except ε α} {f : α → Except ε β} {b : β} :
    (x >>= f) = .ok b ↔ ∃ a, x = .ok a ∧ f a = .ok b := by
  cases x <;> simp [bind,Except.bind]

theorem ite_error_eq_ok_iff {ε α : Type} {fails : Prop} [Decidable fails] {e : ε} {x : Except ε α} {a : α} :
    (if fails then .error e else x) = .ok a ↔ ¬fails ∧ x = .ok a := by
  by_cases fails <;> simp_all

namespace Storage

variable {s t u : Storage}

theorem get?_root (s : Storage) : s.get? .root = some .directory := if_pos rfl

theorem find?_others (entries : List (Place × Node)) (place other : Place) :
    ((entries.filter fun e => e.1 ≠ place).find? fun e => e.1 = other) =
      if other = place then none else entries.find? fun e => e.1 = other := by
  rw [List.find?_filter]
  split
  next same => simp [same]
  next apart =>
    congr 1
    funext e
    by_cases here : e.1 = other <;> simp [here,apart]

theorem get?_set {place : Place} (inner : place ≠ .root) (node : Node) (other : Place) :
    (s.set place node).get? other = if other = place then some node else s.get? other := by
  by_cases root : other = .root
  · rw [root,get?_root,get?_root,if_neg inner.symm]
  · rw [get?,get?,if_neg root,if_neg root,set,List.find?_append,find?_others]
    by_cases same : other = place
    · simp [same]
    · have apart : place ≠ other := fun eq => same eq.symm
      simp [same,apart]

/-- What was a directory is one, and nothing is gone. -/
structure Preserves (s t : Storage) : Prop where
  current : t.current = s.current
  directory : ∀ {place}, s.get? place = some .directory → t.get? place = some .directory
  present : ∀ {place}, s.get? place ≠ none → t.get? place ≠ none

structure Grows (s t : Storage) : Prop where
  current : t.current = s.current
  kept : ∀ {place node}, s.get? place = some node → t.get? place = some node

theorem Grows.refl (s : Storage) : s.Grows s := ⟨rfl,id⟩

theorem Grows.trans (first : s.Grows t) (second : t.Grows u) : s.Grows u :=
  ⟨second.current.trans first.current,fun there => second.kept (first.kept there)⟩

theorem Grows.preserves (grows : s.Grows t) : s.Preserves t := by
  refine ⟨grows.current,grows.kept,fun {place} there => ?_⟩
  obtain ⟨node,stands⟩ := Option.ne_none_iff_exists'.mp there
  rw [grows.kept stands]
  exact Option.some_ne_none node

theorem grows_set {place : Place} (vacant : s.get? place = none) (node : Node) :
    s.Grows (s.set place node) := by
  have inner : place ≠ .root := by
    rintro rfl
    simp [get?_root] at vacant
  refine ⟨rfl,fun {other} _ there => ?_⟩
  rw [get?_set inner,if_neg,there]
  rintro rfl
  simp [vacant] at there

/-- A file may take the place of a file or of nothing. -/
theorem preserves_set {place : Place} (other : s.get? place ≠ some .directory) (bytes : List UInt8) :
    s.Preserves (s.set place (.file bytes)) := by
  have inner : place ≠ .root := fun root => other (root ▸ s.get?_root)
  refine ⟨rfl,fun {here} there => ?_,fun {here} there => ?_⟩
  · rw [get?_set inner,if_neg,there]
    exact fun same => other (same ▸ there)
  · rw [get?_set inner]
    split
    · exact Option.some_ne_none _
    · exact there

theorem makeWay_grows (s : Storage) (here : Place) (names : List (List Char)) :
    s.Grows (s.makeWay here names).1 := by
  fun_induction makeWay s here names with
  | case1 s => exact .refl s
  | case2 _ _ _ ih => exact ih
  | case3 s => exact .refl s
  | case4 _ _ _ _ _ _ _ _ ih => exact ih
  | case5 s => exact .refl s
  | case6 s _ _ _ _ _ place vacant ih => exact (grows_set vacant .directory).trans ih

theorem createDirectories_grows (s : Storage) (path : String) :
    s.Grows (s.createDirectories path).1 := by
  unfold createDirectories
  split
  · exact .refl s
  · exact s.makeWay_grows _ _

theorem createParents_grows (s : Storage) (path : String) : s.Grows (s.createParents path).1 := by
  unfold createParents
  split
  · exact s.createDirectories_grows _
  · exact .refl s

theorem startWhole_congr (same : t.current = s.current) (path : String) :
    t.startWhole path = s.startWhole path := by
  unfold startWhole start
  rw [same]

/-- One more piece of a path that leads on. -/
theorem walk_cons {here : Place} (directory : s.get? here = some .directory) (piece : List Char)
    (rest : List (List Char)) :
    s.walk here (piece :: rest) =
      if !Path.isNamed piece then s.walk here rest
      else if piece = ['.','.'] then s.walk here.parent rest
      else if isLong piece then .error .nameTooLong
      else if (s.get? (here.child piece)).isNone then .error .notFound
      else s.walk (here.child piece) rest := by
  rw [walk,directory]

/-- A path that led to a place leads on from there, whatever follows. -/
theorem walk_append (preserves : s.Preserves t) {here middle : Place} {front : List (List Char)}
    (leads : s.walk here front = .ok middle) (rest : List (List Char)) :
    t.walk here (front ++ rest) = t.walk middle rest := by
  fun_induction walk s here front with
  | case1 =>
    obtain rfl := Except.ok.inj leads
    rfl
  | case2 => simp at leads
  | case3 => simp at leads
  | case4 here piece front directory unnamed ih =>
    rw [List.cons_append,walk_cons (preserves.directory directory),if_pos unnamed]
    exact ih leads
  | case5 here front directory named ih =>
    rw [List.cons_append,walk_cons (preserves.directory directory),if_neg named,if_pos rfl]
    exact ih leads
  | case6 => simp at leads
  | case7 => simp at leads
  | case8 here piece front directory named down short there ih =>
    have still : ¬(t.get? (here.child piece)).isNone = true := by
      rw [Option.isNone_iff_eq_none] at there ⊢
      exact preserves.present there
    rw [List.cons_append,walk_cons (preserves.directory directory),if_neg named,if_neg down,
      if_neg short,if_neg still]
    exact ih leads

theorem walk_preserved (preserves : s.Preserves t) {here place : Place} {pieces : List (List Char)}
    (leads : s.walk here pieces = .ok place) : t.walk here pieces = .ok place := by
  simpa [walk] using walk_append preserves leads []

theorem resolve_eq_ok_iff {path : String} {place : Place} :
    s.resolve path = .ok place ↔
      ∃ start, s.startWhole path = .ok start ∧ s.walk start.1 start.2 = .ok place :=
  bind_eq_ok_iff

theorem resolve_preserved (preserves : s.Preserves t) {path : String} {place : Place}
    (leads : s.resolve path = .ok place) : t.resolve path = .ok place := by
  obtain ⟨start,starts,walks⟩ := resolve_eq_ok_iff.mp leads
  apply resolve_eq_ok_iff.mpr
  exact ⟨start,(startWhole_congr preserves.current path).trans starts,walk_preserved preserves walks⟩

theorem read_eq_ok_iff {path : String} {bytes : List UInt8} :
    s.read path = .ok bytes ↔
      ∃ place, s.resolve path = .ok place ∧ s.get? place = some (.file bytes) := by
  rw [read,bind_eq_ok_iff]
  refine exists_congr fun place => and_congr_right fun _ => ?_
  split <;> simp_all

theorem readText_eq_ok_iff {path text : String} :
    s.readText path = .ok text ↔ s.read path = .ok (Text.encodeUtf8 text) := by
  rw [readText,bind_eq_ok_iff]
  constructor
  · rintro ⟨bytes,held,decoded⟩
    split at decoded
    next text' ok =>
      obtain rfl := Except.ok.inj decoded
      rw [held,Text.decodeUtf8_eq_ok_iff.mp ok]
    · cases decoded
  · intro held
    exact ⟨_,held,by rw [Text.decodeUtf8_eq_ok_iff.mpr rfl]⟩

theorem reaches_iff {path : String} : s.reaches path = true ↔ ∃ place, s.resolve path = .ok place := by
  unfold reaches
  cases s.resolve path <;> simp [Except.toBool]

theorem reaches_of_readText {path text : String} (held : s.readText path = .ok text) :
    s.reaches path = true := by
  obtain ⟨place,leads,_⟩ := read_eq_ok_iff.mp (readText_eq_ok_iff.mp held)
  exact reaches_iff.mpr ⟨place,leads⟩

theorem Grows.read (grows : s.Grows t) {path : String} {bytes : List UInt8}
    (held : s.read path = .ok bytes) : t.read path = .ok bytes := by
  obtain ⟨place,leads,file⟩ := read_eq_ok_iff.mp held
  exact read_eq_ok_iff.mpr ⟨place,resolve_preserved grows.preserves leads,grows.kept file⟩

/-- Pieces after which no empty ones were dropped. -/
theorem last_of_dropped {pieces : List (List Char)} {last : List Char}
    (found : (pieces.reverse.dropWhile List.isEmpty).reverse.getLast? = some last)
    (whole : ¬(pieces.reverse.dropWhile List.isEmpty).reverse.length < pieces.length) :
    (pieces.reverse.dropWhile List.isEmpty).reverse = pieces ∧ last ≠ [] := by
  have suffix := List.dropWhile_suffix (l := pieces.reverse) List.isEmpty
  constructor
  · rw [List.length_reverse] at whole
    have long : pieces.reverse.length ≤ (pieces.reverse.dropWhile List.isEmpty).length := by
      rw [List.length_reverse]
      omega
    rw [suffix.eq_of_length_le long,List.reverse_reverse]
  · rintro rfl
    rw [List.getLast?_reverse] at found
    have first := List.head?_dropWhile_not List.isEmpty pieces.reverse
    rw [found] at first
    simp at first

/-- A file is written to a name in a directory that the rest of the path leads to. -/
theorem target_cases {path : String} {place : Place} (aims : s.target path = .ok place) :
    ∃ here front last directory, s.startWhole path = .ok (here,front ++ [last]) ∧
      s.walk here front = .ok directory ∧ s.get? directory = some .directory ∧
      Path.isNamed last = true ∧ last ≠ ['.','.'] ∧ isLong last = false ∧
      place = directory.child last ∧ s.get? place ≠ some .directory := by
  rw [target,bind_eq_ok_iff] at aims
  obtain ⟨⟨here,pieces⟩,starts,aims⟩ := aims
  dsimp only at aims
  split at aims
  · cases aims
  next last found =>
    rw [bind_eq_ok_iff] at aims
    obtain ⟨directory,leads,aims⟩ := aims
    split at aims
    · cases aims
    · cases aims
    next stands =>
      simp only [ite_error_eq_ok_iff,not_or] at aims
      obtain ⟨⟨whole,dot,dots⟩,short,free,same⟩ := aims
      obtain rfl := Except.ok.inj same
      obtain ⟨undropped,filled⟩ := last_of_dropped found whole
      rw [undropped] at leads found
      obtain ⟨front,rfl⟩ := List.getLast?_eq_some_iff.mp found
      rw [List.dropLast_concat] at leads
      refine ⟨here,front,last,directory,starts,leads,stands,?_,dots,by simpa using short,rfl,free⟩
      simp [Path.isNamed,filled,dot]

/-- What is written to a path is read there. -/
theorem read_written {path : String} {bytes : List UInt8} (written : s.write path bytes = .ok t) :
    t.read path = .ok bytes := by
  rw [write,bind_eq_ok_iff] at written
  obtain ⟨place,aims,set⟩ := written
  obtain rfl := Except.ok.inj set
  obtain ⟨here,front,last,directory,starts,leads,stands,named,down,short,rfl,free⟩ := target_cases aims
  have preserves := preserves_set free bytes
  have inner : directory.child last ≠ .root := fun root => free (by rw [root,get?_root])
  have file : (s.set (directory.child last) (.file bytes)).get? (directory.child last) =
      some (.file bytes) := by
    rw [get?_set inner,if_pos rfl]
  apply read_eq_ok_iff.mpr
  refine ⟨_,resolve_eq_ok_iff.mpr ⟨_,(startWhole_congr rfl path).trans starts,?_⟩,file⟩
  rw [walk_append preserves leads,walk_cons (preserves.directory stands),file]
  simp [named,down,short,walk]

end Storage

end LanguageBridge
