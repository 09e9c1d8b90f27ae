import Mathlib.Data.List.Nodup

/-! Association lists read by key: what a lookup finds, and what filters by key leave of it. -/
namespace LanguageBridge.Lookup

variable {α β : Type} [BEq α] [LawfulBEq α]

theorem lookup_cons_ne {l : List (α × β)} {k other : α} {v : β} (h : k ≠ other) :
    ((other,v) :: l).lookup k = l.lookup k := by
  have apart : (k == other) = false := by simpa using h
  rw [List.lookup_cons,apart]

theorem lookup_cons_eq_ite [DecidableEq α] (l : List (α × β)) (k other : α) (v : β) :
    ((other,v) :: l).lookup k = if k = other then some v else l.lookup k := by
  by_cases same : k = other
  · simp [same]
  · rw [lookup_cons_ne same,if_neg same]

theorem mem_of_lookup {l : List (α × β)} {k : α} {v : β} (found : l.lookup k = some v) :
    (k,v) ∈ l := by
  obtain ⟨before,after,rfl,_⟩ := List.lookup_eq_some_iff.mp found
  simp

theorem lookup_of_mem {l : List (α × β)} {k : α} {v : β} (keys : (l.map Prod.fst).Nodup)
    (member : (k,v) ∈ l) : l.lookup k = some v := by
  induction l with
  | nil => simp at member
  | cons p l ih =>
    obtain ⟨other,w⟩ := p
    simp only [List.map_cons,List.nodup_cons] at keys
    rcases List.mem_cons.mp member with same | later
    · cases same
      simp
    · have apart : k ≠ other := by
        rintro rfl
        exact keys.1 (List.mem_map.mpr ⟨_,later,rfl⟩)
      rw [lookup_cons_ne apart]
      exact ih keys.2 later

/-- Where no key occurs twice the order does not matter. -/
theorem lookup_reverse {l : List (α × β)} (keys : (l.map Prod.fst).Nodup) (k : α) :
    l.reverse.lookup k = l.lookup k := by
  have reversed : (l.reverse.map Prod.fst).Nodup := by simpa using keys
  cases found : l.lookup k with
  | none =>
    rw [List.lookup_eq_none_iff] at found ⊢
    simpa using found
  | some v => exact lookup_of_mem reversed (by simpa using mem_of_lookup found)

theorem lookup_map {γ : Type} (f : β → γ) (l : List (α × β)) (k : α) :
    (l.map fun p => (p.1,f p.2)).lookup k = (l.lookup k).map f := by
  induction l with
  | nil => rfl
  | cons p l ih =>
    by_cases same : k = p.1
    · obtain ⟨other,v⟩ := p
      obtain rfl : k = other := same
      simp
    · rw [List.map_cons,lookup_cons_ne same,ih,lookup_cons_ne same]

theorem isSome_lookup_iff {l : List (α × β)} {k : α} :
    (l.lookup k).isSome ↔ ∃ v, (k,v) ∈ l := by
  constructor
  · intro found
    obtain ⟨v,found⟩ := Option.isSome_iff_exists.mp found
    exact ⟨v,mem_of_lookup found⟩
  · rintro ⟨v,member⟩
    exact List.lookup_isSome_iff.mpr ⟨_,member,by simp⟩

/-- A filter that looks at keys only hides the keys it refuses and nothing else. -/
theorem lookup_filter (keep : α → Bool) (l : List (α × β)) (k : α) :
    (l.filter fun p => keep p.1).lookup k = if keep k then l.lookup k else none := by
  induction l with
  | nil => simp
  | cons p l ih =>
    obtain ⟨other,v⟩ := p
    by_cases same : k = other
    · subst same
      by_cases kept : keep k <;> simp [kept,ih]
    · by_cases kept : keep other <;> simp [kept,lookup_cons_ne same,ih]

/-- To filter out one key is to look up all others. -/
theorem lookup_filter_ne [DecidableEq α] (l : List (α × β)) (gone k : α) :
    (l.filter (·.1 ≠ gone)).lookup k = if k = gone then none else l.lookup k := by
  have kept := lookup_filter (fun key => decide (key ≠ gone)) l k
  by_cases same : k = gone
  · simpa [same] using kept
  · simpa [same] using kept

theorem filter_ne_of_lookup [DecidableEq α] {l : List (α × β)} {gone : α}
    (absent : l.lookup gone = none) : l.filter (·.1 ≠ gone) = l := by
  rw [List.lookup_eq_none_iff] at absent
  rw [List.filter_eq_self]
  intro p member
  have apart : gone ≠ p.1 := by simpa using absent p member
  exact decide_eq_true apart.symm

omit [BEq α] [LawfulBEq α] in
/-- Where no key occurs twice, to filter out a key is to cut out its one entry. -/
theorem filter_ne_of_mem [DecidableEq α] {l : List (α × β)} {k : α} {v : β}
    (keys : (l.map Prod.fst).Nodup) (member : (k,v) ∈ l) :
    ∃ before after, l = before ++ (k,v) :: after ∧ (∀ p ∈ before ++ after, p.1 ≠ k) ∧
      l.filter (·.1 ≠ k) = before ++ after := by
  obtain ⟨before,after,rfl⟩ := List.append_of_mem member
  have sole : ∀ p ∈ before ++ after, p.1 ≠ k := by
    intro p other same
    rw [List.map_append,List.map_cons,List.nodup_middle,List.nodup_cons,← List.map_append] at keys
    exact keys.1 (List.mem_map.mpr ⟨p,other,same⟩)
  refine ⟨before,after,rfl,sole,?_⟩
  rw [List.filter_append,List.filter_cons_of_neg (by simp),← List.filter_append,List.filter_eq_self]
  exact fun p other => decide_eq_true (sole p other)

/-- Where neither keys nor values occur twice, to give up a key is to give up its value. -/
theorem values_filter_ne [DecidableEq α] [DecidableEq β] {l : List (α × β)} {k : α} {v : β}
    (keys : (l.map Prod.fst).Nodup) (values : (l.map Prod.snd).Nodup) (found : l.lookup k = some v) :
    (l.filter (·.1 ≠ k)).map Prod.snd = (l.map Prod.snd).erase v := by
  induction l with
  | nil => rfl
  | cons p l ih =>
    obtain ⟨other,w⟩ := p
    simp only [List.map_cons,List.nodup_cons] at keys values
    by_cases same : k = other
    · subst same
      obtain rfl : w = v := by simpa using found
      have absent : l.lookup k = none := by
        rw [List.lookup_eq_none_iff]
        rintro ⟨key,value⟩ member
        have apart : k ≠ key := by
          rintro rfl
          exact keys.1 (List.mem_map.mpr ⟨_,member,rfl⟩)
        simpa using apart
      rw [List.filter_cons_of_neg (by simp),filter_ne_of_lookup absent,List.map_cons,
        List.erase_cons_head]
    · rw [lookup_cons_ne same] at found
      have apart : w ≠ v := by
        rintro rfl
        exact values.1 (List.mem_map.mpr ⟨_,mem_of_lookup found,rfl⟩)
      rw [List.filter_cons_of_pos (by simpa using Ne.symm same),List.map_cons,List.map_cons,
        ih keys.2 values.2 found,List.erase_cons_tail (by simpa using apart)]

end LanguageBridge.Lookup
