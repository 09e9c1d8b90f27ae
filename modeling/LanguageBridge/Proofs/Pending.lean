import LanguageBridge.Channel.Pending
import LanguageBridge.Proofs.Lookup
import Mathlib.Order.BooleanAlgebra.Set

/-! The pending table beside the handles that are still held. `Sound` ties the two together, every
operation keeps it, and what an operation does is said once for `poll`, the view of a holder. -/
namespace LanguageBridge.Pending

/-- The table is kept for the handles `live`: tickets tell them apart, and whatever waits or was
answered belongs to one of them. -/
structure Sound (p : Pending) (live : Set Handle) : Prop where
  distinct : ∀ g ∈ live, ∀ h ∈ live, g.ticket = h.ticket → g = h
  issued : ∀ h ∈ live, h.ticket < p.next
  keys : (p.waiters.map Prod.fst).Nodup
  owned : ∀ w ∈ p.waiters, (⟨w.2,w.1⟩ : Handle) ∈ live
  addressed : ∀ m ∈ p.mail, ∃ h ∈ live, h.ticket = m.1
  apart : ∀ m ∈ p.mail, ∀ w ∈ p.waiters, m.1 ≠ w.2
  shut : p.closed = true → p.waiters = []

@[simp] theorem sound_empty : Sound empty ∅ := by
  constructor <;> simp [empty]

theorem isPending_iff {p : Pending} {id : RequestId} :
    p.isPending id = true ↔ ∃ ticket, (id,ticket) ∈ p.waiters :=
  Lookup.isSome_lookup_iff

@[simp] theorem mem_waiters_forget {p : Pending} {id : RequestId} {w : RequestId × Nat} :
    w ∈ (p.forget id).waiters ↔ w ∈ p.waiters ∧ w.1 ≠ id := by
  simp [forget]

theorem lookup_mail_collect (p : Pending) (h g : Handle) (other : g.ticket ≠ h.ticket) :
    (p.collect h).mail.lookup g.ticket = p.mail.lookup g.ticket :=
  (Lookup.lookup_filter_ne p.mail h.ticket g.ticket).trans (if_neg other)

namespace Sound

variable {p : Pending} {live : Set Handle}

/-- A waiting holder is exactly one whose own entry stands in the table. -/
theorem poll_waiting_iff (sound : p.Sound live) {h : Handle} (held : h ∈ live) :
    p.poll h = .waiting ↔ (h.id,h.ticket) ∈ p.waiters := by
  constructor
  · intro waiting
    unfold poll at waiting
    split at waiting
    · simp at waiting
    · split at waiting
      next found =>
        obtain ⟨w,member,ticket⟩ := List.any_eq_true.mp found
        have ticket : w.2 = h.ticket := by simpa using ticket
        have same := sound.distinct _ (sound.owned w member) h held ticket
        rw [← same]
        exact member
      next => simp at waiting
  · intro member
    have noMail : p.mail.lookup h.ticket = none := by
      rw [List.lookup_eq_none_iff]
      intro m letter
      have other : h.ticket ≠ m.1 := (sound.apart m letter _ member).symm
      simpa using other
    have found : p.waiters.any (fun w => decide (w.2 = h.ticket)) = true :=
      List.any_eq_true.mpr ⟨_,member,by simp⟩
    simp [poll,noMail,found]

theorem poll_closed_iff (sound : p.Sound live) {h : Handle} (held : h ∈ live) :
    p.poll h = .closed ↔ p.mail.lookup h.ticket = none ∧ (h.id,h.ticket) ∉ p.waiters := by
  rw [← sound.poll_waiting_iff held]
  cases mail : p.mail.lookup h.ticket with
  | some r => simp [poll,mail]
  | none =>
    simp only [poll,mail]
    split <;> simp

theorem poll_ready_iff {h : Handle} {r : Response} :
    p.poll h = .ready r ↔ p.mail.lookup h.ticket = some r := by
  cases mail : p.mail.lookup h.ticket with
  | some s => simp [poll,mail]
  | none =>
    simp only [poll,mail]
    split <;> simp

theorem isPending_of_waiting (sound : p.Sound live) {h : Handle} (held : h ∈ live)
    (waiting : p.poll h = .waiting) : p.isPending h.id = true :=
  isPending_iff.mpr ⟨_,(sound.poll_waiting_iff held).mp waiting⟩

theorem open_of_waiting (sound : p.Sound live) {h : Handle} (held : h ∈ live)
    (waiting : p.poll h = .waiting) : p.closed = false := by
  have member := (sound.poll_waiting_iff held).mp waiting
  cases shut : p.closed with
  | false => rfl
  | true => simp [sound.shut shut] at member

/-- Among the holders of one id at most one waits. -/
theorem waiting_unique (sound : p.Sound live) {g h : Handle} (gHeld : g ∈ live) (hHeld : h ∈ live)
    (gWaits : p.poll g = .waiting) (hWaits : p.poll h = .waiting) (id : g.id = h.id) : g = h := by
  have gEntry := Lookup.lookup_of_mem sound.keys ((sound.poll_waiting_iff gHeld).mp gWaits)
  have hEntry := Lookup.lookup_of_mem sound.keys ((sound.poll_waiting_iff hHeld).mp hWaits)
  rw [id,hEntry] at gEntry
  exact (sound.distinct h hHeld g gHeld (by simpa using gEntry)).symm

end Sound

/-- A holder sees only its own mail and whether its ticket is in the table. -/
theorem poll_congr {p q : Pending} {g : Handle}
    (mail : q.mail.lookup g.ticket = p.mail.lookup g.ticket)
    (waits : (∃ id, (id,g.ticket) ∈ q.waiters) ↔ ∃ id, (id,g.ticket) ∈ p.waiters) :
    q.poll g = p.poll g := by
  have same : q.waiters.any (fun w => decide (w.2 = g.ticket)) =
      p.waiters.any (fun w => decide (w.2 = g.ticket)) := by
    rw [Bool.eq_iff_iff]
    simpa using waits
  simp only [poll,mail,same]

theorem register_cases {p q : Pending} {id : RequestId} {h : Handle}
    (ok : p.register id = .ok (h,q)) :
    p.closed = false ∧ p.isPending id = false ∧ h = ⟨p.next,id⟩ ∧
      q = { p with next := p.next + 1, waiters := (id,p.next) :: p.waiters } := by
  unfold register at ok
  split at ok
  · simp at ok
  · split at ok <;> simp_all

theorem resolve_cases (p : Pending) (r : Response) :
    (r.id.bind p.target? = none ∧ p.resolve r = (false,p)) ∨
    ∃ id ticket, r.id.bind p.target? = some id ∧ (id,ticket) ∈ p.waiters ∧
      p.resolve r = (true,{ p.forget id with mail := (ticket,r) :: p.mail }) := by
  cases target : r.id.bind p.target? with
  | none => exact .inl ⟨rfl,by simp [resolve,target]⟩
  | some id =>
    have pending : p.isPending id = true := by
      obtain ⟨key,_,target⟩ := Option.bind_eq_some_iff.mp target
      unfold target? at target
      split at target
      next direct => exact Option.some.inj target ▸ direct
      next =>
        split at target
        · simp at target
        · split at target
          · split at target <;> simp_all
          · simp at target
    obtain ⟨ticket,found⟩ := Option.isSome_iff_exists.mp pending
    exact .inr ⟨id,ticket,rfl,Lookup.mem_of_lookup found,by simp [resolve,target,found]⟩

namespace Sound

variable {p : Pending} {live : Set Handle}

theorem register (sound : p.Sound live) {id : RequestId} {h : Handle} {q : Pending}
    (ok : p.register id = .ok (h,q)) : q.Sound (insert h live) := by
  obtain ⟨isOpen,free,rfl,rfl⟩ := register_cases ok
  have fresh : ∀ g ∈ live, g.ticket ≠ p.next := fun g held => (sound.issued g held).ne
  refine ⟨?_,?_,?_,?_,?_,?_,?_⟩
  · rintro g (rfl | gHeld) h (rfl | hHeld) ticket
    · rfl
    · exact absurd ticket.symm (fresh h hHeld)
    · exact absurd ticket (fresh g gHeld)
    · exact sound.distinct g gHeld h hHeld ticket
  · rintro g (rfl | held)
    · exact Nat.lt_succ_self _
    · exact Nat.lt_succ_of_lt (sound.issued g held)
  · simp only [List.map_cons,List.nodup_cons,sound.keys,and_true]
    intro key
    obtain ⟨⟨_,ticket⟩,member,rfl⟩ := List.mem_map.mp key
    simp [isPending_iff.mpr ⟨ticket,member⟩] at free
  · intro w member
    rcases List.mem_cons.mp member with rfl | member
    · exact Set.mem_insert _ _
    · exact Set.mem_insert_of_mem _ (sound.owned w member)
  · intro m letter
    obtain ⟨h,held,ticket⟩ := sound.addressed m letter
    exact ⟨h,Set.mem_insert_of_mem _ held,ticket⟩
  · intro m letter w member
    rcases List.mem_cons.mp member with rfl | member
    · obtain ⟨h,held,ticket⟩ := sound.addressed m letter
      rw [← ticket]
      exact fresh h held
    · exact sound.apart m letter w member
  · intro shut
    simp [isOpen] at shut

theorem register_fresh (sound : p.Sound live) {id : RequestId} {h : Handle} {q : Pending}
    (ok : p.register id = .ok (h,q)) : h ∉ live := by
  obtain ⟨_,_,rfl,rfl⟩ := register_cases ok
  exact fun held => (sound.issued _ held).ne rfl

/-- A new handle waits at once. -/
theorem poll_register_self (sound : p.Sound live) {id : RequestId} {h : Handle} {q : Pending}
    (ok : p.register id = .ok (h,q)) : q.poll h = .waiting := by
  rw [(sound.register ok).poll_waiting_iff (Set.mem_insert _ _)]
  obtain ⟨_,_,rfl,rfl⟩ := register_cases ok
  simp

theorem poll_register (sound : p.Sound live) {id : RequestId} {h : Handle} {q : Pending}
    (ok : p.register id = .ok (h,q)) {g : Handle} (held : g ∈ live) : q.poll g = p.poll g := by
  obtain ⟨_,_,rfl,rfl⟩ := register_cases ok
  have other : g.ticket ≠ p.next := (sound.issued g held).ne
  exact poll_congr rfl (by simp [other])

/-- Entries, mail and handles may go as long as what stays keeps its holder. -/
theorem shrink (sound : p.Sound live) {q : Pending} {rest : Set Handle} (next : q.next = p.next)
    (fewer : rest ⊆ live) (waiters : q.waiters.Sublist p.waiters) (mail : q.mail ⊆ p.mail)
    (owned : ∀ w ∈ q.waiters, (⟨w.2,w.1⟩ : Handle) ∈ rest)
    (addressed : ∀ m ∈ q.mail, ∃ h ∈ rest, h.ticket = m.1)
    (shut : q.closed = true → q.waiters = []) : q.Sound rest where
  distinct g gHeld h hHeld := sound.distinct g (fewer gHeld) h (fewer hHeld)
  issued h held := next ▸ sound.issued h (fewer held)
  keys := sound.keys.sublist (waiters.map _)
  owned := owned
  addressed := addressed
  apart m letter w member := sound.apart m (mail letter) w (waiters.subset member)
  shut := shut

theorem forget (sound : p.Sound live) (id : RequestId) : (p.forget id).Sound live := by
  have sublist : (p.forget id).waiters.Sublist p.waiters := List.filter_sublist
  refine sound.shrink rfl subset_rfl sublist (List.Subset.refl _) ?_ sound.addressed ?_
  · exact fun w member => sound.owned w (sublist.subset member)
  · intro shut
    have none : p.waiters = [] := sound.shut shut
    simp [Pending.forget,none]

/-- Whoever waited for a forgotten id finds the table closed to it. -/
theorem poll_forget (sound : p.Sound live) (id : RequestId) {g : Handle} (held : g ∈ live) :
    (p.forget id).poll g = if p.poll g = .waiting ∧ g.id = id then .closed else p.poll g := by
  split
  next lost =>
    obtain ⟨waiting,same⟩ := lost
    have member := (sound.poll_waiting_iff held).mp waiting
    rw [(sound.forget id).poll_closed_iff held]
    refine ⟨?_,by simp [same]⟩
    cases mail : p.mail.lookup g.ticket with
    | none => exact mail
    | some r => simp [poll,mail] at waiting
  next kept =>
    refine poll_congr (p := p) rfl ?_
    constructor
    · rintro ⟨key,member⟩
      exact ⟨key,(mem_waiters_forget.mp member).1⟩
    · rintro ⟨key,member⟩
      have own : (⟨g.ticket,key⟩ : Handle) = g := sound.distinct _ (sound.owned _ member) g held rfl
      have key_eq : key = g.id := by rw [← own]
      subst key_eq
      have waiting := (sound.poll_waiting_iff held).mpr member
      exact ⟨g.id,mem_waiters_forget.mpr ⟨member,fun same => kept ⟨waiting,same⟩⟩⟩

theorem ticket_inj (sound : p.Sound live) {v w : RequestId × Nat} (first : v ∈ p.waiters)
    (second : w ∈ p.waiters) (ticket : v.2 = w.2) : v.1 = w.1 :=
  congrArg Handle.id (sound.distinct _ (sound.owned v first) _ (sound.owned w second) ticket)

theorem resolve (sound : p.Sound live) (r : Response) : (p.resolve r).2.Sound live := by
  obtain ⟨_,unmatched⟩ | ⟨id,ticket,_,member,matched⟩ := resolve_cases p r
  · rw [unmatched]
    exact sound
  · rw [matched]
    have forgotten := sound.forget id
    refine ⟨sound.distinct,sound.issued,forgotten.keys,forgotten.owned,?_,?_,forgotten.shut⟩
    · intro m letter
      rcases List.mem_cons.mp letter with rfl | letter
      · exact ⟨_,sound.owned _ member,rfl⟩
      · exact sound.addressed m letter
    · intro m letter w stays
      obtain ⟨entry,other⟩ := mem_waiters_forget.mp stays
      rcases List.mem_cons.mp letter with rfl | letter
      · exact fun same => other (sound.ticket_inj member entry same).symm
      · exact sound.apart m letter w entry

/-- A response reaches the one holder that waits for the id it is meant for. -/
theorem poll_resolve (sound : p.Sound live) (r : Response) {g : Handle} (held : g ∈ live) :
    (p.resolve r).2.poll g =
      if p.poll g = .waiting ∧ r.id.bind p.target? = some g.id then .ready r else p.poll g := by
  obtain ⟨target,unmatched⟩ | ⟨id,ticket,target,member,matched⟩ := resolve_cases p r
  · simp [unmatched,target]
  rw [matched,target]
  by_cases mine : ticket = g.ticket
  · subst mine
    have own : (⟨g.ticket,id⟩ : Handle) = g := sound.distinct _ (sound.owned _ member) g held rfl
    have same : id = g.id := by rw [← own]
    have waiting := (sound.poll_waiting_iff held).mpr (same ▸ member)
    simp [poll_ready_iff,waiting,same]
  · have view : ({ p.forget id with mail := (ticket,r) :: p.mail } : Pending).poll g =
        (p.forget id).poll g :=
      poll_congr (Lookup.lookup_cons_ne (Ne.symm mine)) Iff.rfl
    have other : ¬ (p.poll g = .waiting ∧ g.id = id) := by
      rintro ⟨waiting,rfl⟩
      have entry := Lookup.lookup_of_mem sound.keys ((sound.poll_waiting_iff held).mp waiting)
      rw [Lookup.lookup_of_mem sound.keys member] at entry
      exact mine (Option.some.inj entry)
    rw [view,sound.poll_forget id held,if_neg other,if_neg]
    rintro ⟨waiting,same⟩
    exact other ⟨waiting,(Option.some.inj same).symm⟩

/-- A response with the very id of a waiting holder is taken for it. -/
theorem resolve_own (sound : p.Sound live) {g : Handle} (held : g ∈ live)
    (waiting : p.poll g = .waiting) {r : Response} (id : r.id = some g.id) :
    (p.resolve r).1 = true ∧ (p.resolve r).2.poll g = .ready r := by
  have target : r.id.bind p.target? = some g.id := by
    simp [id,target?,sound.isPending_of_waiting held waiting]
  refine ⟨?_,?_⟩
  · obtain ⟨none,_⟩ | ⟨_,_,_,_,matched⟩ := resolve_cases p r
    · simp [none] at target
    · rw [matched]
  · rw [sound.poll_resolve r held,if_pos ⟨waiting,target⟩]

theorem collect (sound : p.Sound live) {h : Handle} (held : h ∈ live)
    (settled : p.poll h ≠ .waiting) : (p.collect h).Sound (live \ {h}) := by
  have stays {g : Handle} (member : g ∈ live) (other : g.ticket ≠ h.ticket) : g ∈ live \ {h} :=
    ⟨member,fun same => other (congrArg Handle.ticket same)⟩
  refine sound.shrink rfl Set.sdiff_subset (List.Sublist.refl _) (List.filter_subset_self _) ?_ ?_
    sound.shut
  · intro w member
    refine stays (sound.owned w member) fun ticket => settled ?_
    have own := sound.distinct _ (sound.owned w member) h held ticket
    rw [sound.poll_waiting_iff held,← own]
    exact member
  · intro m letter
    obtain ⟨letter,other⟩ : m ∈ p.mail ∧ m.1 ≠ h.ticket := by simpa [Pending.collect] using letter
    obtain ⟨g,member,ticket⟩ := sound.addressed m letter
    exact ⟨g,stays member (ticket ▸ other),ticket⟩

theorem poll_collect (sound : p.Sound live) {g h : Handle} (gHeld : g ∈ live) (hHeld : h ∈ live)
    (other : g ≠ h) : (p.collect h).poll g = p.poll g := by
  have ticket : g.ticket ≠ h.ticket := fun same => other (sound.distinct g gHeld h hHeld same)
  exact poll_congr (lookup_mail_collect p h g ticket) Iff.rfl

theorem drop (sound : p.Sound live) {h : Handle} (held : h ∈ live) :
    (p.drop h).Sound (live \ {h}) := by
  apply (sound.forget h.id).collect held
  rw [ne_eq,(sound.forget h.id).poll_waiting_iff held]
  simp

/-- To drop a handle is to forget its id, whoever waits for it. -/
theorem poll_drop (sound : p.Sound live) {g h : Handle} (gHeld : g ∈ live) (hHeld : h ∈ live)
    (other : g ≠ h) :
    (p.drop h).poll g = if p.poll g = .waiting ∧ g.id = h.id then .closed else p.poll g := by
  rw [Pending.drop,(sound.forget h.id).poll_collect gHeld hHeld other,sound.poll_forget h.id gHeld]

theorem close (sound : p.Sound live) : p.close.Sound live := by
  refine sound.shrink rfl subset_rfl (List.nil_sublist _) (List.Subset.refl _) ?_
    sound.addressed (fun _ => rfl)
  simp [Pending.close]

end Sound

theorem poll_close (p : Pending) (g : Handle) :
    p.close.poll g = if p.poll g = .waiting then .closed else p.poll g := by
  cases mail : p.mail.lookup g.ticket with
  | some r => simp [poll,close,mail]
  | none =>
    cases waits : p.waiters.any fun w => decide (w.2 = g.ticket) <;> simp [poll,close,mail,waits]

end LanguageBridge.Pending
