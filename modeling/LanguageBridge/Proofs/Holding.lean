import LanguageBridge.Proofs.Pending
import Mathlib.Data.List.Induction

/-! Runs of the pending table together with the handles that are held. Ids may be used again as soon
as nothing waits for them, so several held handles may carry one id. -/
namespace LanguageBridge

structure Holding where
  table : Pending
  held : List Handle

namespace Holding

inductive Act where
  | register (id : RequestId)
  | resolve (r : Response)
  | look (h : Handle)
  | drop (h : Handle)
  | close

def start : Holding := ⟨.empty,[]⟩

/-- A refused registration changes nothing, a look uses a handle up once it is settled, and only held
handles can be looked at or dropped. -/
def act (s : Holding) : Act → Holding
  | .register id =>
    match s.table.register id with
    | .ok (h,table) => ⟨table,h :: s.held⟩
    | .error _ => s
  | .resolve r => { s with table := (s.table.resolve r).2 }
  | .look h =>
    if h ∈ s.held ∧ s.table.poll h ≠ .waiting then ⟨s.table.collect h,s.held.erase h⟩ else s
  | .drop h => if h ∈ s.held then ⟨s.table.drop h,s.held.erase h⟩ else s
  | .close => { s with table := s.table.close }

def run (acts : List Act) : Holding := acts.foldl act start

@[simp] theorem run_snoc (acts : List Act) (a : Act) : run (acts ++ [a]) = (run acts).act a := by
  simp [run]

def live (s : Holding) : Set Handle := { h | h ∈ s.held }

structure Sound (s : Holding) : Prop where
  table : s.table.Sound s.live
  once : s.held.Nodup

theorem start_sound : start.Sound := by
  refine ⟨?_,List.nodup_nil⟩
  simp [live,start]

theorem live_erase {s : Holding} (sound : s.Sound) (table : Pending) (h : Handle) :
    live ⟨table,s.held.erase h⟩ = s.live \ {h} := by
  ext g
  simp [live,sound.once.mem_erase_iff,and_comm]

theorem act_sound {s : Holding} (sound : s.Sound) (a : Act) : (s.act a).Sound := by
  cases a with
  | register id =>
    simp only [act]
    split
    next h table ok =>
      have grown : live ⟨table,h :: s.held⟩ = insert h s.live := by
        ext g
        simp [live]
      refine ⟨?_,?_⟩
      · rw [grown]
        exact sound.table.register ok
      · exact List.nodup_cons.mpr ⟨sound.table.register_fresh ok,sound.once⟩
    next => exact sound
  | resolve r => exact ⟨sound.table.resolve r,sound.once⟩
  | look h =>
    simp only [act]
    split
    next settled =>
      refine ⟨?_,sound.once.erase h⟩
      rw [live_erase sound]
      exact sound.table.collect settled.1 settled.2
    next => exact sound
  | drop h =>
    simp only [act]
    split
    next held =>
      refine ⟨?_,sound.once.erase h⟩
      rw [live_erase sound]
      exact sound.table.drop held
    next => exact sound
  | close => exact ⟨sound.table.close,sound.once⟩

theorem acts_sound {s : Holding} (sound : s.Sound) (acts : List Act) : (acts.foldl act s).Sound := by
  induction acts generalizing s with
  | nil => exact sound
  | cons a acts ih => exact ih (act_sound sound a)

/-- Every run keeps the table sound for the handles that are held. -/
theorem run_sound (acts : List Act) : (run acts).Sound := acts_sound start_sound acts

/-- What a held handle sees changes in three ways only: its response comes, the table is closed, or a
handle with its id is dropped. -/
theorem act_poll {s : Holding} (sound : s.Sound) (a : Act) {g : Handle} (before : g ∈ s.held)
    (after : g ∈ (s.act a).held) :
    (s.act a).table.poll g = s.table.poll g ∨
    s.table.poll g = .waiting ∧
      ((∃ r, a = .resolve r ∧ r.id.bind s.table.target? = some g.id ∧
          (s.act a).table.poll g = .ready r) ∨
        (a = .close ∧ (s.act a).table.poll g = .closed) ∨
        ∃ h, a = .drop h ∧ h ∈ s.held ∧ h ≠ g ∧ h.id = g.id ∧
          (s.act a).table.poll g = .closed) := by
  cases a with
  | register id =>
    left
    simp only [act]
    split
    next ok => exact sound.table.poll_register ok before
    next => rfl
  | resolve r =>
    have view := sound.table.poll_resolve r before
    split at view
    next mine => exact .inr ⟨mine.1,.inl ⟨r,rfl,mine.2,view⟩⟩
    next => exact .inl view
  | look h =>
    left
    simp only [act] at after ⊢
    split
    next settled =>
      rw [if_pos settled] at after
      have other : g ≠ h := (sound.once.mem_erase_iff.mp after).1
      exact sound.table.poll_collect before settled.1 other
    next => rfl
  | drop h =>
    simp only [act] at after ⊢
    split
    next held =>
      rw [if_pos held] at after
      have other : g ≠ h := (sound.once.mem_erase_iff.mp after).1
      have view := sound.table.poll_drop before held other
      split at view
      next cut => exact .inr ⟨cut.1,.inr (.inr ⟨h,rfl,held,other.symm,cut.2.symm,view⟩)⟩
      next => exact .inl view
    next => exact .inl rfl
  | close =>
    have view := s.table.poll_close g
    split at view
    next waiting => exact .inr ⟨waiting,.inr (.inl ⟨rfl,view⟩)⟩
    next => exact .inl view

/-- A handle that was not held before an act is a new one, and waits. -/
theorem act_poll_new {s : Holding} (sound : s.Sound) (a : Act) {g : Handle}
    (before : g ∉ s.held) (after : g ∈ (s.act a).held) : (s.act a).table.poll g = .waiting := by
  cases a with
  | register id =>
    simp only [act] at after ⊢
    split at after
    next h table ok =>
      rcases List.mem_cons.mp after with rfl | old
      · exact sound.table.poll_register_self ok
      · exact absurd old before
    next => exact absurd after before
  | resolve r => exact absurd after before
  | look h =>
    simp only [act] at after
    split at after
    · exact absurd (List.mem_of_mem_erase after) before
    · exact absurd after before
  | drop h =>
    simp only [act] at after
    split at after
    · exact absurd (List.mem_of_mem_erase after) before
    · exact absurd after before
  | close => exact absurd after before

end Holding

end LanguageBridge
