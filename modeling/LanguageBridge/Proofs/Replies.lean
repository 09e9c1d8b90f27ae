import LanguageBridge.Proofs.Holding
import LanguageBridge.Proofs.Inbound

/-! Batches of responses whose ids are pairwise apart. Every response is judged by the table before the
batch, so the order within the batch makes no difference. -/
namespace LanguageBridge

namespace RequestId

/-- The number that an id stands for; text stands for the number it spells. -/
def denotes? : RequestId → Option UInt64
  | .number n => some n
  | .text s => (Text.numeral? UInt64.size s).map UInt64.ofNat

/-- Two ids may stand for the same request. -/
def Equivalent (a b : RequestId) : Prop :=
  a = b ∨ a.denotes?.isSome = true ∧ a.denotes? = b.denotes?

instance (a b : RequestId) : Decidable (a.Equivalent b) := inferInstanceAs (Decidable (_ ∨ _))

variable {a b c : RequestId}

theorem Equivalent.symm (same : a.Equivalent b) : b.Equivalent a := by
  rcases same with rfl | ⟨some,same⟩
  · exact .inl rfl
  · exact .inr ⟨same ▸ some,same.symm⟩

theorem Equivalent.trans (first : a.Equivalent b) (second : b.Equivalent c) : a.Equivalent c := by
  rcases first with rfl | ⟨some,first⟩
  · exact second
  · rcases second with rfl | ⟨_,second⟩
    · exact .inr ⟨some,first⟩
    · exact .inr ⟨some,first.trans second⟩

theorem equivalent_number {n : UInt64} (denotes : a.denotes? = some n) : a.Equivalent (.number n) :=
  .inr ⟨by rw [denotes,Option.isSome_some],denotes⟩

end RequestId

def Response.Apart (r s : Response) : Prop := ∀ a ∈ r.id, ∀ b ∈ s.id, ¬ a.Equivalent b

instance (r s : Response) : Decidable (r.Apart s) :=
  inferInstanceAs (Decidable (∀ a ∈ r.id, ∀ b ∈ s.id, ¬ a.Equivalent b))

theorem Response.Apart.symm {r s : Response} (apart : r.Apart s) : s.Apart r :=
  fun b hb a ha same => apart a ha b hb same.symm

namespace Pending

def taker? (p : Pending) (r : Response) : Option RequestId := r.id.bind p.target?

theorem target?_eq (p : Pending) (id : RequestId) :
    p.target? id =
      if p.isPending id then some id else (id.denotes?.map .number).filter p.isPending := by
  unfold target?
  split
  · rfl
  next absent =>
    cases id with
    | number n => simp [RequestId.denotes?,Option.filter,absent]
    | text s =>
      cases value : Text.numeral? UInt64.size s with
      | none => simp [RequestId.denotes?,value]
      | some n => simp [RequestId.denotes?,value,Option.filter]

theorem equivalent_of_target? {p : Pending} {id k : RequestId} (target : p.target? id = some k) :
    id.Equivalent k := by
  rw [target?_eq] at target
  split at target
  · exact .inl (Option.some.inj target)
  · obtain ⟨found,_⟩ := Option.filter_eq_some_iff.mp target
    obtain ⟨n,denotes,rfl⟩ := Option.map_eq_some_iff.mp found
    exact RequestId.equivalent_number denotes

theorem isPending_forget (p : Pending) (gone id : RequestId) :
    (p.forget gone).isPending id = if id = gone then false else p.isPending id := by
  simp only [isPending,forget,Lookup.lookup_filter_ne]
  split <;> rfl

/-- To forget an id matters only to ids that may stand for the same request. -/
theorem target?_forget {p : Pending} {gone id : RequestId} (apart : ¬ id.Equivalent gone) :
    (p.forget gone).target? id = p.target? id := by
  have own : id ≠ gone := fun same => apart (.inl same)
  rw [target?_eq,target?_eq,isPending_forget,if_neg own]
  cases denotes : id.denotes? with
  | none => rfl
  | some n =>
    have other : RequestId.number n ≠ gone := by
      rintro rfl
      exact apart (RequestId.equivalent_number denotes)
    have same : (p.forget gone).isPending (.number n) = p.isPending (.number n) := by
      rw [isPending_forget,if_neg other]
    simp only [Option.map_some,Option.filter_some,same]

theorem target?_congr {p q : Pending} (waiters : q.waiters = p.waiters) (id : RequestId) :
    q.target? id = p.target? id := by
  have same : q.isPending = p.isPending := by
    funext id
    rw [isPending,waiters,isPending]
  rw [target?_eq,target?_eq,same]

section Single

variable (p : Pending) (r : Response)

theorem resolve_fst : (p.resolve r).1 = (p.taker? r).isSome := by
  obtain ⟨target,unmatched⟩ | ⟨id,ticket,target,_,matched⟩ := resolve_cases p r
  · rw [unmatched,taker?,target,Option.isSome_none]
  · rw [matched,taker?,target,Option.isSome_some]

@[simp] theorem next_resolve : (p.resolve r).2.next = p.next := by
  obtain ⟨_,unmatched⟩ | ⟨_,_,_,_,matched⟩ := resolve_cases p r
  · rw [unmatched]
  · rw [matched]
    rfl

/-- A response takes the entry it is taken for out of the table, and no other. -/
theorem waiters_resolve :
    (p.resolve r).2.waiters = p.waiters.filter fun w => p.taker? r ≠ some w.1 := by
  obtain ⟨target,unmatched⟩ | ⟨id,ticket,target,_,matched⟩ := resolve_cases p r
  · simp [unmatched,taker?,target]
  · rw [matched,taker?,target]
    apply List.filter_congr
    intro w _
    rw [decide_eq_decide,ne_eq,ne_eq,Option.some.injEq,eq_comm]

end Single

section Apart

variable {p : Pending} {r s : Response}

/-- One response makes no difference to what another one is taken for. -/
theorem taker?_resolve (apart : r.Apart s) : (p.resolve r).2.taker? s = p.taker? s := by
  obtain ⟨_,unmatched⟩ | ⟨id,ticket,target,_,matched⟩ := resolve_cases p r
  · rw [unmatched]
  · obtain ⟨a,ha,first⟩ := Option.bind_eq_some_iff.mp target
    rw [matched]
    apply Option.bind_congr
    intro b hb
    have other : ¬ b.Equivalent id := fun same =>
      apart a ha b hb ((equivalent_of_target? first).trans same.symm)
    exact (target?_congr rfl b).trans (target?_forget other)

end Apart

section Batch

variable {p : Pending} {rs : List Response}

@[simp] theorem resolveAll_cons (p : Pending) (r : Response) (rs : List Response) :
    p.resolveAll (r :: rs) = (p.resolve r).2.resolveAll rs := rfl

theorem resolveAll_append (p : Pending) (rs ss : List Response) :
    p.resolveAll (rs ++ ss) = (p.resolveAll rs).resolveAll ss :=
  List.foldl_append

@[simp] theorem next_resolveAll (p : Pending) (rs : List Response) :
    (p.resolveAll rs).next = p.next := by
  induction rs generalizing p with
  | nil => rfl
  | cons r rs ih => rw [resolveAll_cons,ih,next_resolve]

theorem taker?_resolveAll {s : Response} (apart : ∀ r ∈ rs, r.Apart s) :
    (p.resolveAll rs).taker? s = p.taker? s := by
  induction rs generalizing p with
  | nil => rfl
  | cons r rs ih =>
    rw [List.forall_mem_cons] at apart
    rw [resolveAll_cons,ih apart.2,taker?_resolve apart.1]

theorem waiters_resolveAll (apart : rs.Pairwise Response.Apart) :
    (p.resolveAll rs).waiters = p.waiters.filter fun w => ∀ r ∈ rs, p.taker? r ≠ some w.1 := by
  induction rs generalizing p with
  | nil => simp [resolveAll]
  | cons r rs ih =>
    rw [List.pairwise_cons] at apart
    rw [resolveAll_cons,ih apart.2,waiters_resolve,List.filter_filter]
    apply List.filter_congr
    intro w _
    have rest : (∀ s ∈ rs, (p.resolve r).2.taker? s ≠ some w.1) ↔ ∀ s ∈ rs, p.taker? s ≠ some w.1 :=
      forall₂_congr fun s member => by rw [taker?_resolve (apart.1 s member)]
    rw [← Bool.decide_and,decide_eq_decide,rest,List.forall_mem_cons,and_comm]

end Batch

namespace Sound

variable {p : Pending} {live : Set Handle} {rs : List Response} {g : Handle}

theorem resolveAll (sound : p.Sound live) (rs : List Response) : (p.resolveAll rs).Sound live := by
  induction rs generalizing p with
  | nil => exact sound
  | cons r rs ih => exact ih (sound.resolve r)

/-- A settled handle sees nothing of a batch, however its responses are related. -/
theorem poll_settled (sound : p.Sound live) (held : g ∈ live) (settled : p.poll g ≠ .waiting) :
    (p.resolveAll rs).poll g = p.poll g := by
  induction rs generalizing p with
  | nil => rfl
  | cons r rs ih =>
    have view : (p.resolve r).2.poll g = p.poll g := by
      rw [sound.poll_resolve r held,if_neg fun mine => settled mine.1]
    rw [resolveAll_cons,ih (sound.resolve r) (view ▸ settled),view]

theorem poll_passed (sound : p.Sound live) (held : g ∈ live) (apart : rs.Pairwise Response.Apart)
    (other : ∀ r ∈ rs, p.taker? r ≠ some g.id) : (p.resolveAll rs).poll g = p.poll g := by
  induction rs generalizing p with
  | nil => rfl
  | cons r rs ih =>
    rw [List.pairwise_cons] at apart
    rw [List.forall_mem_cons] at other
    have later : ∀ s ∈ rs, (p.resolve r).2.taker? s ≠ some g.id := by
      intro s member
      rw [taker?_resolve (apart.1 s member)]
      exact other.2 s member
    rw [resolveAll_cons,ih (sound.resolve r) apart.2 later,sound.poll_resolve r held,
      if_neg fun mine => other.1 mine.2]

/-- A handle sees nothing of responses none of which may stand for its request. -/
theorem poll_unmeant (sound : p.Sound live) (held : g ∈ live)
    (other : ∀ r ∈ rs, ∀ id ∈ r.id, ¬ id.Equivalent g.id) : (p.resolveAll rs).poll g = p.poll g := by
  induction rs generalizing p with
  | nil => rfl
  | cons r rs ih =>
    rw [List.forall_mem_cons] at other
    rw [resolveAll_cons,ih (sound.resolve r) other.2,sound.poll_resolve r held,if_neg]
    rintro ⟨_,mine⟩
    obtain ⟨id,given,target⟩ := Option.bind_eq_some_iff.mp mine
    exact other.1 id given (equivalent_of_target? target)

/-- A waiting handle gets the first response that is taken for its id. -/
theorem poll_first (sound : p.Sound live) (held : g ∈ live) (waiting : p.poll g = .waiting)
    {before after : List Response} {r : Response} (apart : ∀ s ∈ before, s.Apart r)
    (own : p.taker? r = some g.id) : (p.resolveAll (before ++ r :: after)).poll g = .ready r := by
  have unmeant : (p.resolveAll before).poll g = p.poll g := by
    obtain ⟨a,given,target⟩ := Option.bind_eq_some_iff.mp own
    refine sound.poll_unmeant held fun s member id spelled same => ?_
    exact apart s member id spelled a given (same.trans (equivalent_of_target? target).symm)
  have earlier := sound.resolveAll before
  have now : ((p.resolveAll before).resolve r).2.poll g = .ready r := by
    rw [earlier.poll_resolve r held,if_pos]
    exact ⟨unmeant.trans waiting,(taker?_resolveAll apart).trans own⟩
  rw [resolveAll_append,resolveAll_cons,(earlier.resolve r).poll_settled held (by simp [now]),now]

/-- A waiting handle gets the response of the batch that is taken for its id. -/
theorem poll_handed (sound : p.Sound live) (held : g ∈ live) (apart : rs.Pairwise Response.Apart)
    (waiting : p.poll g = .waiting) {r : Response} (member : r ∈ rs) (own : p.taker? r = some g.id) :
    (p.resolveAll rs).poll g = .ready r := by
  obtain ⟨before,after,rfl⟩ := List.append_of_mem member
  refine sound.poll_first held waiting (fun s earlier => ?_) own
  exact (List.pairwise_append.mp apart).2.2 s earlier r (by simp)

end Sound

end Pending

namespace Holding

/-- The responses `rs` and the same ones in the order `ss` leave the same table and show every held
handle the same; each is accepted, and handed to a handle, by what the table was before them all. -/
structure Interchangeable (s : Holding) (rs ss : List Response) : Prop where
  waiters : (s.table.resolveAll ss).waiters = (s.table.resolveAll rs).waiters
  closed : (s.table.resolveAll ss).closed = (s.table.resolveAll rs).closed
  next : (s.table.resolveAll ss).next = (s.table.resolveAll rs).next
  seen : ∀ h ∈ s.held, (s.table.resolveAll ss).poll h = (s.table.resolveAll rs).poll h
  accepted : ∀ before r after, ss = before ++ r :: after →
    ((s.table.resolveAll before).resolve r).1 = (s.table.taker? r).isSome
  handed : ∀ h ∈ s.held, s.table.poll h = .waiting → ∀ r ∈ ss, s.table.taker? r = some h.id →
    (s.table.resolveAll ss).poll h = .ready r
  passed : ∀ h ∈ s.held, (∀ r ∈ ss, s.table.taker? r ≠ some h.id) →
    (s.table.resolveAll ss).poll h = s.table.poll h
  settled : ∀ h ∈ s.held, s.table.poll h ≠ .waiting →
    (s.table.resolveAll ss).poll h = s.table.poll h

/-- The order in which the responses of a batch come does not matter. -/
theorem replies_interchangeable (acts : List Act) (rs ss : List Response)
    (apart : rs.Pairwise Response.Apart) (perm : rs.Perm ss) :
    Interchangeable (run acts) rs ss := by
  have sound := (run_sound acts).table
  have reordered : ss.Pairwise Response.Apart :=
    (perm.pairwise_iff fun apart => apart.symm).mp apart
  have handed : ∀ h ∈ (run acts).held, (run acts).table.poll h = .waiting → ∀ r ∈ ss,
      (run acts).table.taker? r = some h.id → ((run acts).table.resolveAll ss).poll h = .ready r :=
    fun h held waiting r member own => sound.poll_handed held reordered waiting member own
  have passed : ∀ h ∈ (run acts).held, (∀ r ∈ ss, (run acts).table.taker? r ≠ some h.id) →
      ((run acts).table.resolveAll ss).poll h = (run acts).table.poll h :=
    fun h held other => sound.poll_passed held reordered other
  refine ⟨?_,?_,?_,?_,?_,handed,passed,fun h held settled => sound.poll_settled held settled⟩
  · rw [Pending.waiters_resolveAll apart,Pending.waiters_resolveAll reordered]
    apply List.filter_congr
    intro w _
    simp only [perm.mem_iff]
  · rw [Pending.closed_resolveAll,Pending.closed_resolveAll]
  · rw [Pending.next_resolveAll,Pending.next_resolveAll]
  · intro h held
    by_cases waiting : (run acts).table.poll h = .waiting
    · by_cases taken : ∃ r ∈ ss, (run acts).table.taker? r = some h.id
      · obtain ⟨r,member,own⟩ := taken
        rw [handed h held waiting r member own,
          sound.poll_handed held apart waiting (perm.mem_iff.mpr member) own]
      · push Not at taken
        rw [passed h held taken,
          sound.poll_passed held apart fun r member => taken r (perm.mem_iff.mp member)]
    · rw [sound.poll_settled held waiting,sound.poll_settled held waiting]
  · rintro before r after rfl
    rw [Pending.resolve_fst,Pending.taker?_resolveAll]
    intro s member
    exact (List.pairwise_append.mp reordered).2.2 s member r (by simp)

def spellings : List Act :=
  [.register (.number 1),.register (.text "2"),.register (.number 2)]

/-- One response by another spelling, one by the very id, one without an id and one for nobody. -/
def batch : List Response :=
  [⟨"2.0",some (.text "01"),some (.str "a"),none⟩,⟨"2.0",some (.text "2"),some (.str "b"),none⟩,
    ⟨"2.0",none,none,none⟩,⟨"2.0",some (.number 7),some (.str "c"),none⟩]

theorem batch_reversed :
    (batch.Pairwise Response.Apart ∧ batch.Perm batch.reverse ∧
      (run spellings).held.map ((run spellings).table.resolveAll batch.reverse).poll =
        [.waiting,.ready ⟨"2.0",some (.text "2"),some (.str "b"),none⟩,
          .ready ⟨"2.0",some (.text "01"),some (.str "a"),none⟩]) ∧
    Interchangeable (run spellings) batch batch.reverse :=
  ⟨⟨by decide,by decide,by decide⟩,
    replies_interchangeable spellings batch batch.reverse (by decide) (by decide)⟩

end Holding

end LanguageBridge
