import LanguageBridge.Json.Basic
import LanguageBridge.Proofs.Lookup

/-! Key order in JSON objects. Putting members in order keeps the last member of every key, and
changes nothing where the keys ascend already. -/
namespace LanguageBridge

def Number.isWord : Number → Bool
  | .int n => -0x8000000000000000 ≤ n && n < 0x10000000000000000
  | .double _ => false

namespace Json

open Lookup

mutual

def every (number : Number → Bool) (keys : List String → Bool) : Json → Bool
  | .num n => number n
  | .arr items => everyItem number keys items
  | .obj members => keys (members.map (·.1)) && everyMember number keys members
  | _ => true

def everyItem (number : Number → Bool) (keys : List String → Bool) : List Json → Bool
  | [] => true
  | j :: rest => j.every number keys && everyItem number keys rest

def everyMember (number : Number → Bool) (keys : List String → Bool) : List (String × Json) → Bool
  | [] => true
  | (_, j) :: rest => j.every number keys && everyMember number keys rest

end

def integral : Json → Bool := every Number.isWord fun _ => true

def ordered : Json → Bool := every (fun _ => true) fun keys => keys.Pairwise (· < ·)

theorem lookup_insertMember (key name : String) (value : Json) (members : List (String × Json)) :
    (insertMember key value members).lookup name =
      if name = key then some value else members.lookup name := by
  induction members with
  | nil => simp [insertMember,lookup_cons_eq_ite]
  | cons m rest ih =>
    obtain ⟨k,v⟩ := m
    unfold insertMember
    split
    · rw [lookup_cons_eq_ite]
    · split
      next equal =>
        subst equal
        by_cases same : name = key <;> simp [lookup_cons_eq_ite,same]
      next differ =>
        rw [lookup_cons_eq_ite,lookup_cons_eq_ite,ih]
        by_cases same : name = key
        · simp [same,differ]
        · simp [same]

theorem lookup_sortMembers (name : String) (members : List (String × Json)) :
    (sortMembers members).lookup name = members.reverse.lookup name := by
  have general : ∀ (members sorted : List (String × Json)),
      (members.foldl (fun sorted m => insertMember m.1 m.2 sorted) sorted).lookup name =
        (members.reverse ++ sorted).lookup name := by
    intro members
    induction members with
    | nil => simp
    | cons m rest ih =>
      intro sorted
      rw [List.foldl_cons,ih,List.reverse_cons,List.append_assoc,List.lookup_append,
        List.lookup_append,lookup_insertMember]
      rw [List.singleton_append,← lookup_cons_eq_ite]
  simpa [sortMembers] using general members []

theorem sortedValues_eq_map (members : List (String × Json)) :
    sortedValues members = members.map fun m => (m.1,m.2.sorted) := by
  induction members with
  | nil => rfl
  | cons m rest ih => simp [sortedValues,ih]

theorem lookup_sorted {members : List (String × Json)} (keys : (members.map (·.1)).Nodup)
    (name : String) :
    (sortMembers (sortedValues members)).lookup name = (members.lookup name).map sorted := by
  have sorted_keys : ((sortedValues members).map (·.1)).Nodup := by
    simpa [sortedValues_eq_map,Function.comp_def] using keys
  rw [lookup_sortMembers,lookup_reverse sorted_keys,sortedValues_eq_map,lookup_map]

theorem insertMember_last {key : String} {value : Json} {members : List (String × Json)}
    (above : ∀ m ∈ members, m.1 < key) :
    insertMember key value members = members ++ [(key,value)] := by
  induction members with
  | nil => rfl
  | cons m rest ih =>
    have below : m.1 < key := above m (by simp)
    have last := ih fun n member => above n (by simp [member])
    simp [insertMember,String.lt_asymm below,(String.ne_of_lt below).symm,last]

theorem sortMembers_ascending {members : List (String × Json)}
    (ascending : (members.map (·.1)).Pairwise (· < ·)) : sortMembers members = members := by
  have general : ∀ (members sorted : List (String × Json)),
      ((sorted ++ members).map (·.1)).Pairwise (· < ·) →
      members.foldl (fun sorted m => insertMember m.1 m.2 sorted) sorted = sorted ++ members := by
    intro members
    induction members with
    | nil => simp
    | cons m rest ih =>
      intro sorted ascending
      have above : ∀ n ∈ sorted, n.1 < m.1 := by
        intro n member
        rw [List.map_append,List.pairwise_append] at ascending
        exact ascending.2.2 _ (List.mem_map_of_mem member) _ (by simp)
      rw [List.foldl_cons,insertMember_last above,ih _ (by simpa using ascending),List.append_assoc]
      rfl
  simpa [sortMembers] using general members [] (by simpa using ascending)

section Contents

variable {number : Number → Bool} {keys : List String → Bool}

theorem everyItem_iff {items : List Json} :
    everyItem number keys items ↔ ∀ j ∈ items, j.every number keys := by
  induction items with
  | nil => simp [everyItem]
  | cons j rest ih => simp [everyItem,ih]

theorem everyMember_iff {members : List (String × Json)} :
    everyMember number keys members ↔ ∀ m ∈ members, m.2.every number keys := by
  induction members with
  | nil => simp [everyMember]
  | cons m rest ih => simp [everyMember,ih]

theorem depthItems_le_iff {items : List Json} {n : Nat} :
    depthItems items ≤ n ↔ ∀ j ∈ items, j.depth ≤ n := by
  induction items with
  | nil => simp [depthItems]
  | cons j rest ih => rw [depthItems,Nat.max_le,ih,List.forall_mem_cons]

theorem depthMembers_le_iff {members : List (String × Json)} {n : Nat} :
    depthMembers members ≤ n ↔ ∀ m ∈ members, m.2.depth ≤ n := by
  induction members with
  | nil => simp [depthMembers]
  | cons m rest ih => rw [depthMembers,Nat.max_le,ih,List.forall_mem_cons]

theorem mem_insertMember {key : String} {value : Json} {members : List (String × Json)}
    {m : String × Json} (member : m ∈ insertMember key value members) :
    m = (key,value) ∨ m ∈ members := by
  induction members with
  | nil => simpa [insertMember] using member
  | cons first rest ih =>
    unfold insertMember at member
    split at member
    · simpa using member
    · split at member
      · rcases List.mem_cons.mp member with same | old
        · exact .inl same
        · exact .inr (List.mem_cons_of_mem _ old)
      · rcases List.mem_cons.mp member with same | later
        · exact .inr (by simp [same])
        · exact (ih later).imp_right (List.mem_cons_of_mem _)

/-- Putting members in order adds none. -/
theorem sortMembers_subset (members : List (String × Json)) : sortMembers members ⊆ members := by
  have general : ∀ (members sorted : List (String × Json)),
      members.foldl (fun sorted m => insertMember m.1 m.2 sorted) sorted ⊆ members ++ sorted := by
    intro members
    induction members with
    | nil => simp
    | cons first rest ih =>
      intro sorted m member
      rcases List.mem_append.mp (ih _ member) with later | old
      · simp [later]
      · rcases mem_insertMember old with rfl | old
        · simp
        · simp [old]
  simpa [sortMembers] using general members []

theorem ascending_insertMember (key : String) (value : Json) {members : List (String × Json)}
    (ascending : (members.map (·.1)).Pairwise (· < ·)) :
    ((insertMember key value members).map (·.1)).Pairwise (· < ·) := by
  induction members with
  | nil => simp [insertMember]
  | cons first rest ih =>
    simp only [List.map_cons,List.pairwise_cons,List.forall_mem_map] at ascending
    unfold insertMember
    split
    next below =>
      simp only [List.map_cons,List.pairwise_cons,List.forall_mem_cons,List.forall_mem_map]
      exact ⟨⟨below,fun m member => String.lt_trans below (ascending.1 m member)⟩,ascending⟩
    next =>
      split
      next same =>
        simp only [List.map_cons,List.pairwise_cons,List.forall_mem_map]
        exact same ▸ ascending
      next above differ =>
        simp only [List.map_cons,List.pairwise_cons,List.forall_mem_map]
        refine ⟨fun m member => ?_,ih ascending.2⟩
        rcases mem_insertMember member with rfl | old
        · exact String.not_le.mp fun least => differ (String.le_antisymm least (String.not_lt.mp above))
        · exact ascending.1 m old

theorem ascending_sortMembers (members : List (String × Json)) :
    ((sortMembers members).map (·.1)).Pairwise (· < ·) := by
  have general : ∀ (members sorted : List (String × Json)), (sorted.map (·.1)).Pairwise (· < ·) →
      ((members.foldl (fun sorted m => insertMember m.1 m.2 sorted) sorted).map (·.1)).Pairwise
        (· < ·) := by
    intro members
    induction members with
    | nil => simp
    | cons first rest ih => exact fun sorted ascending => ih _ (ascending_insertMember _ _ ascending)
  exact general members [] (by simp)

end Contents

mutual

theorem sorted_of_ordered : (j : Json) → j.ordered → j.sorted = j
  | .null, _ | .bool _, _ | .num _, _ | .str _, _ => rfl
  | .arr items, ordered => by
    simp only [Json.ordered,every] at ordered
    rw [sorted,sortedItems_of_ordered items ordered]
  | .obj members, ordered => by
    simp only [Json.ordered,every,Bool.and_eq_true,decide_eq_true_eq] at ordered
    rw [sorted,sortedValues_of_ordered members ordered.2,sortMembers_ascending ordered.1]

theorem sortedItems_of_ordered : (items : List Json) →
    everyItem (fun _ => true) (fun keys => keys.Pairwise (· < ·)) items → sortedItems items = items
  | [], _ => rfl
  | j :: rest, ordered => by
    simp only [everyItem,Bool.and_eq_true] at ordered
    rw [sortedItems,sorted_of_ordered j ordered.1,sortedItems_of_ordered rest ordered.2]

theorem sortedValues_of_ordered : (members : List (String × Json)) →
    everyMember (fun _ => true) (fun keys => keys.Pairwise (· < ·)) members →
      sortedValues members = members
  | [], _ => rfl
  | (k, j) :: rest, ordered => by
    simp only [everyMember,Bool.and_eq_true] at ordered
    rw [sortedValues,sorted_of_ordered j ordered.1,sortedValues_of_ordered rest ordered.2]

end

end Json

end LanguageBridge
