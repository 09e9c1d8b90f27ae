import LanguageBridge.Proofs.History
import Mathlib.Data.List.Nodup

/-! The books of a run: which ids have been given out, which calls are under way and which are over. -/
namespace LanguageBridge.Exchange

variable {α : Type}

structure Numbering (events : List (Event α)) (next : UInt64) (issued : List (Nat × UInt64)) :
    Prop where
  next : next = UInt64.ofNat (calls events + 1)
  starts : ∀ place, (∃ number, (place,number) ∈ issued) ↔
    ∃ event, events[place]? = some event ∧ event.isStart = true
  bounded : ∀ i ∈ issued, i.2.toNat ≤ calls events
  places : (issued.map Prod.fst).Nodup
  numbers : (issued.map Prod.snd).Nodup

/-- A call is entered once, as under way or as over. -/
structure Books (issued : List (Nat × UInt64)) (underway : List (Underway α))
    (endings : List (Ending α)) : Prop where
  known : ∀ u ∈ underway, (u.since,u.call.number) ∈ issued
  single : (underway.map (·.call.number)).Nodup
  entered : ∀ e ∈ endings, (e.since,e.number) ∈ issued
  once : (endings.map Ending.number).Nodup
  apart : ∀ e ∈ endings, ∀ u ∈ underway, e.number ≠ u.call.number

variable {events : List (Event α)} {event : Event α} {next : UInt64} {issued : List (Nat × UInt64)}
variable {underway : List (Underway α)} {endings : List (Ending α)}

theorem Numbering.quiet (numbering : Numbering events next issued)
    (other : event.isStart = false) : Numbering (events ++ [event]) next issued := by
  have same : calls (events ++ [event]) = calls events := by simp [calls_snoc,other]
  refine ⟨same ▸ numbering.next,?_,same ▸ numbering.bounded,numbering.places,numbering.numbers⟩
  intro place
  rw [numbering.starts place]
  constructor
  · rintro ⟨x,found,start⟩
    exact ⟨x,at_snoc found,start⟩
  · rintro ⟨x,found,start⟩
    rcases of_at_snoc found with found | ⟨_,rfl⟩
    · exact ⟨x,found,start⟩
    · simp [other] at start

theorem Numbering.next_toNat (numbering : Numbering events next issued)
    (few : calls events + 1 < UInt64.size) : next.toNat = calls events + 1 := by
  rw [numbering.next,UInt64.toNat_ofNat_of_lt' few]

theorem Numbering.fresh (numbering : Numbering events next issued)
    (few : calls events + 1 < UInt64.size) : ∀ i ∈ issued, i.2 ≠ next := by
  rintro i member rfl
  have bound := numbering.bounded i member
  have value := numbering.next_toNat few
  omega

theorem Numbering.issue (numbering : Numbering events next issued) (start : event.isStart = true)
    (few : calls events + 1 < UInt64.size) :
    Numbering (events ++ [event]) (next + 1) ((events.length,next) :: issued) := by
  have more : calls (events ++ [event]) = calls events + 1 := by simp [calls_snoc,start]
  refine ⟨?_,?_,?_,?_,?_⟩
  · rw [more,numbering.next]
    simp
  · intro place
    constructor
    · rintro ⟨number,member⟩
      rcases List.mem_cons.mp member with new | old
      · obtain ⟨rfl,rfl⟩ := Prod.mk.inj new
        exact ⟨event,by simp,start⟩
      · obtain ⟨x,found,start⟩ := (numbering.starts place).mp ⟨number,old⟩
        exact ⟨x,at_snoc found,start⟩
    · rintro ⟨x,found,start⟩
      rcases of_at_snoc found with found | ⟨rfl,_⟩
      · obtain ⟨number,old⟩ := (numbering.starts place).mpr ⟨x,found,start⟩
        exact ⟨number,List.mem_cons_of_mem _ old⟩
      · exact ⟨next,List.mem_cons_self⟩
  · intro i member
    rw [more]
    rcases List.mem_cons.mp member with rfl | old
    · exact (numbering.next_toNat few).le
    · exact Nat.le_succ_of_le (numbering.bounded i old)
  · refine List.nodup_cons.mpr ⟨fun member => ?_,numbering.places⟩
    obtain ⟨⟨place,number⟩,old,rfl⟩ := List.mem_map.mp member
    obtain ⟨x,found,_⟩ := (numbering.starts _).mp ⟨number,old⟩
    exact absurd (place_lt found) (lt_irrefl _)
  · refine List.nodup_cons.mpr ⟨fun member => ?_,numbering.numbers⟩
    obtain ⟨i,old,same⟩ := List.mem_map.mp member
    exact numbering.fresh few i old same

theorem Books.start (books : Books issued underway endings) {u : Underway α}
    (fresh : ∀ i ∈ issued, i.2 ≠ u.call.number) :
    Books ((u.since,u.call.number) :: issued) (u :: underway) endings := by
  refine ⟨?_,?_,?_,books.once,?_⟩
  · intro v member
    rcases List.mem_cons.mp member with rfl | old
    · exact List.mem_cons_self
    · exact List.mem_cons_of_mem _ (books.known v old)
  · refine List.nodup_cons.mpr ⟨fun member => ?_,books.single⟩
    obtain ⟨v,old,same⟩ := List.mem_map.mp member
    exact fresh _ (books.known v old) same
  · exact fun e member => List.mem_cons_of_mem _ (books.entered e member)
  · intro e ended v member
    rcases List.mem_cons.mp member with rfl | old
    · exact fresh _ (books.entered e ended)
    · exact books.apart e ended v old

theorem Books.refuse (books : Books issued underway endings) {e : Ending α}
    (fresh : ∀ i ∈ issued, i.2 ≠ e.number) :
    Books ((e.since,e.number) :: issued) underway (e :: endings) := by
  refine ⟨?_,books.single,?_,?_,?_⟩
  · exact fun u member => List.mem_cons_of_mem _ (books.known u member)
  · intro d member
    rcases List.mem_cons.mp member with rfl | old
    · exact List.mem_cons_self
    · exact List.mem_cons_of_mem _ (books.entered d old)
  · refine List.nodup_cons.mpr ⟨fun member => ?_,books.once⟩
    obtain ⟨d,old,same⟩ := List.mem_map.mp member
    exact fresh _ (books.entered d old) same
  · intro d member u running
    rcases List.mem_cons.mp member with rfl | old
    · exact fun same => fresh _ (books.known u running) same.symm
    · exact books.apart d old u running

theorem Books.leave (books : Books issued underway endings) {rest : List (Underway α)}
    (fewer : rest.Sublist underway) : Books issued rest endings where
  known u member := books.known u (fewer.subset member)
  single := books.single.sublist (fewer.map _)
  entered := books.entered
  once := books.once
  apart e ended u member := books.apart e ended u (fewer.subset member)

theorem Books.finish (books : Books issued underway endings) {u : Underway α} {e : Ending α}
    (running : u ∈ underway) (since : e.since = u.since) (number : e.number = u.call.number) :
    Books issued (underway.filter fun v => v.call.number ≠ e.number) (e :: endings) := by
  have left := books.leave (List.filter_sublist (p := fun v => decide (v.call.number ≠ e.number)))
  refine ⟨left.known,left.single,?_,?_,?_⟩
  · intro d member
    rcases List.mem_cons.mp member with rfl | old
    · rw [since,number]
      exact books.known u running
    · exact books.entered d old
  · refine List.nodup_cons.mpr ⟨fun member => ?_,books.once⟩
    obtain ⟨d,old,same⟩ := List.mem_map.mp member
    exact books.apart d old u running (same.trans number)
  · intro d member v stays
    rcases List.mem_cons.mp member with rfl | old
    · have other : v.call.number ≠ d.number := by simpa using (List.mem_filter.mp stays).2
      exact other.symm
    · exact left.apart d old v stays

end LanguageBridge.Exchange
