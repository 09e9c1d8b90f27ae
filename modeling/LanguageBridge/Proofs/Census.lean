import LanguageBridge.Proofs.Resolution
import Mathlib.Data.List.Perm.Basic

/-! The table and the handles that wait are two lists of the same thing: no entry outlives its handle,
and no waiting handle is without its entry. -/
namespace LanguageBridge.Holding

def waiting (s : Holding) : List Handle := s.held.filter fun h => s.table.poll h = .waiting

def entry (h : Handle) : RequestId × Nat := (h.id,h.ticket)

theorem entry_injective : Function.Injective entry := by
  rintro ⟨ticket,id⟩ ⟨ticket',id'⟩ same
  obtain ⟨rfl,rfl⟩ := Prod.mk.inj same
  rfl

theorem mem_waiting {s : Holding} {h : Handle} :
    h ∈ s.waiting ↔ h ∈ s.held ∧ s.table.poll h = .waiting := by
  simp [waiting]

theorem mem_waiters_iff {s : Holding} (sound : s.Sound) {w : RequestId × Nat} :
    w ∈ s.table.waiters ↔ ∃ h ∈ s.waiting, entry h = w := by
  constructor
  · intro member
    have held := sound.table.owned w member
    exact ⟨_,mem_waiting.mpr ⟨held,(sound.table.poll_waiting_iff held).mpr member⟩,rfl⟩
  · rintro ⟨h,member,rfl⟩
    obtain ⟨held,waits⟩ := mem_waiting.mp member
    exact (sound.table.poll_waiting_iff held).mp waits

theorem waiters_perm {s : Holding} (sound : s.Sound) :
    s.table.waiters.Perm (s.waiting.map entry) := by
  have distinct : (s.waiting.map entry).Nodup := (sound.once.filter _).map entry_injective
  rw [List.perm_ext_iff_of_nodup sound.table.keys.of_map distinct]
  intro w
  rw [mem_waiters_iff sound,List.mem_map]

/-- A response is taken exactly when it settles a held handle that waited, and then it settles no
other. -/
theorem resolve_iff {s : Holding} (sound : s.Sound) (r : Response) :
    (s.table.resolve r).1 = true ↔ ∃ h ∈ s.waiting, (s.table.resolve r).2.poll h = .ready r ∧
      ∀ g ∈ s.held, g ≠ h → (s.table.resolve r).2.poll g = s.table.poll g := by
  obtain ⟨_,unmatched⟩ | ⟨id,ticket,target,member,matched⟩ := s.table.resolve_cases r
  · rw [unmatched]
    refine iff_of_false (by simp) ?_
    rintro ⟨h,waits,ready,_⟩
    rw [(mem_waiting.mp waits).2] at ready
    cases ready
  · obtain ⟨h,waits,same⟩ := (mem_waiters_iff sound).mp member
    obtain ⟨rfl,rfl⟩ := Prod.mk.inj same
    obtain ⟨held,waiting⟩ := mem_waiting.mp waits
    refine iff_of_true (by rw [matched]) ⟨h,waits,?_,fun g gHeld other => ?_⟩
    · rw [sound.table.poll_resolve r held,if_pos ⟨waiting,target⟩]
    · rw [sound.table.poll_resolve r gHeld,if_neg]
      rintro ⟨gWaits,mine⟩
      have id : g.id = h.id := Option.some.inj (mine.symm.trans target)
      exact other (sound.table.waiting_unique gHeld held gWaits waiting id)

/-- A waiting handle is settled by the responses that designate it. -/
theorem ready_iff {s : Holding} (sound : s.Sound) (r : Response) {h : Handle} (waits : h ∈ s.waiting) :
    (s.table.resolve r).2.poll h = .ready r ↔ s.table.Designates r.id (some h.id) := by
  obtain ⟨held,waiting⟩ := mem_waiting.mp waits
  rw [sound.table.poll_resolve r held,waiting,Pending.designates_iff,@eq_comm _ (some h.id)]
  simp

/-- A response is taken exactly when it designates a handle that waits. -/
theorem met_iff {s : Holding} (sound : s.Sound) (r : Response) :
    (s.table.resolve r).1 = true ↔ ∃ h ∈ s.waiting, s.table.Designates r.id (some h.id) := by
  constructor
  · intro taken
    obtain ⟨h,waits,ready,_⟩ := (resolve_iff sound r).mp taken
    exact ⟨h,waits,(ready_iff sound r waits).mp ready⟩
  · rintro ⟨h,_,designates⟩
    rw [Pending.resolve_fst,Pending.taker?,← Pending.designates_iff.mp designates,Option.isSome_some]

/-- The books of the table are balanced. Its keys differ, its entries are those of the waiting handles,
a response that designates one of these is taken and settles it, any other response changes nothing, and
nothing is left once no handle is. -/
structure Balanced (s : Holding) : Prop where
  keys : (s.table.waiters.map Prod.fst).Nodup
  entries : s.table.waiters.Perm (s.waiting.map entry)
  count : s.table.count = s.waiting.length
  taken : ∀ r, (s.table.resolve r).1 = true ↔
    ∃ h ∈ s.waiting, (s.table.resolve r).2.poll h = .ready r ∧
      ∀ g ∈ s.held, g ≠ h → (s.table.resolve r).2.poll g = s.table.poll g
  met : ∀ r, (s.table.resolve r).1 = true ↔ ∃ h ∈ s.waiting, s.table.Designates r.id (some h.id)
  settled : ∀ r, ∀ h ∈ s.waiting,
    (s.table.resolve r).2.poll h = .ready r ↔ s.table.Designates r.id (some h.id)
  refused : ∀ r, (s.table.resolve r).1 = false → (s.table.resolve r).2 = s.table
  emptied : s.held = [] → s.table.waiters = [] ∧ s.table.mail = []

/-- Whatever is registered, answered, looked at, dropped or closed, in whatever order and with whatever
ids, the table stays balanced. -/
theorem run_balanced (acts : List Act) : Balanced (run acts) := by
  have sound := run_sound acts
  have perm := waiters_perm sound
  refine ⟨sound.table.keys,perm,?_,resolve_iff sound,met_iff sound,fun r h => ready_iff sound r,
    fun r refused => ?_,fun none => ⟨?_,?_⟩⟩
  · rw [Pending.count,perm.length_eq,List.length_map]
  · obtain ⟨_,unmatched⟩ | ⟨_,_,_,_,matched⟩ := (run acts).table.resolve_cases r
    · rw [unmatched]
    · simp [matched] at refused
  · simpa [waiting,none] using perm
  · refine List.eq_nil_iff_forall_not_mem.mpr fun m letter => ?_
    obtain ⟨h,held,_⟩ := sound.table.addressed m letter
    simp [live,none] at held

end LanguageBridge.Holding
