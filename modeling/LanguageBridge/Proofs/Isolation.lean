import LanguageBridge.Proofs.Holding

/-! What dropping one handle does to the others. A drop forgets by id and not by ticket, so it reaches
beyond its own handle exactly where the id has been taken again before the old handle was looked at. -/
namespace LanguageBridge.Holding

/-- `a` takes the entry of `g` out of the table without a response. -/
def Severs (s : Holding) (g : Handle) : Act → Prop
  | .close => True
  | .drop h => h ∈ s.held ∧ h ≠ g ∧ h.id = g.id
  | _ => False

theorem held_drop_other {s : Holding} {g h : Handle} (gHeld : g ∈ s.held) (hHeld : h ∈ s.held)
    (other : g ≠ h) : g ∈ (s.act (.drop h)).held := by
  simp only [act,if_pos hHeld]
  exact (List.mem_erase_of_ne other).mpr gHeld

theorem poll_act_drop {s : Holding} (sound : s.Sound) {g h : Handle} (gHeld : g ∈ s.held)
    (hHeld : h ∈ s.held) (other : g ≠ h) :
    (s.act (.drop h)).table.poll g =
      if s.table.poll g = .waiting ∧ g.id = h.id then .closed else s.table.poll g := by
  simp only [act,if_pos hHeld]
  exact sound.table.poll_drop gHeld hHeld other

/-- A handle that finds the table closed was severed while it waited. -/
theorem severed_of_closed (acts : List Act) {g : Handle} (held : g ∈ (run acts).held)
    (closed : (run acts).table.poll g = .closed) :
    ∃ before a later, acts = before ++ a :: later ∧ g ∈ (run before).held ∧
      (run before).table.poll g = .waiting ∧ Severs (run before) g a := by
  induction acts using List.reverseRecOn with
  | nil => simp [run,start] at held
  | append_singleton acts a ih =>
    rw [run_snoc] at held closed
    by_cases earlier : g ∈ (run acts).held
    · rcases act_poll (run_sound acts) a earlier held with same | ⟨waiting,change⟩
      · obtain ⟨before,b,later,rfl,rest⟩ := ih earlier (same ▸ closed)
        exact ⟨before,b,later ++ [a],by simp,rest⟩
      · refine ⟨acts,a,[],rfl,earlier,waiting,?_⟩
        rcases change with ⟨r,_,_,ready⟩ | ⟨rfl,_⟩ | ⟨h,rfl,hHeld,other,id,_⟩
        · rw [ready] at closed
          cases closed
        · trivial
        · exact ⟨hHeld,other,id⟩
    · rw [act_poll_new (run_sound acts) a earlier held] at closed
      cases closed

theorem isPending_drop_self {s : Holding} {h : Handle} (held : h ∈ s.held) :
    (s.act (.drop h)).table.isPending h.id = false := by
  rw [Bool.eq_false_iff,ne_eq,Pending.isPending_iff]
  rintro ⟨ticket,entry⟩
  simp [act,held,Pending.drop,Pending.collect] at entry

/-- A drop changes what another handle sees exactly when that one waits for the id of the dropped
handle; then the dropped handle had been settled without being looked at. In all other cases the other
handle goes on as before, and nothing but a close or such a drop ends a wait unanswered. -/
theorem drop_disturbs_iff (acts : List Act) (g h : Handle) (gHeld : g ∈ (run acts).held)
    (hHeld : h ∈ (run acts).held) (other : g ≠ h) :
    (((run acts).act (.drop h)).table.poll g ≠ (run acts).table.poll g ↔
      (run acts).table.poll g = .waiting ∧ g.id = h.id) ∧
    ((run acts).table.poll g = .waiting → g.id = h.id →
      (run acts).table.poll h ≠ .waiting ∧ (run acts).table.closed = false ∧
      ((run acts).act (.drop h)).table.poll g = .closed ∧
      ((run acts).act (.drop h)).table.isPending g.id = false) ∧
    ((run acts).table.poll g = .waiting → g.id ≠ h.id →
      ((run acts).act (.drop h)).table.poll g = .waiting ∧
      ((run acts).act (.drop h)).table.isPending g.id = true ∧
      ∀ r : Response, r.id = some g.id →
        (((run acts).act (.drop h)).table.resolve r).1 = true ∧
        (((run acts).act (.drop h)).table.resolve r).2.poll g = .ready r) ∧
    (∀ f ∈ (run acts).held, (run acts).table.poll f = .closed →
      ∃ before a later, acts = before ++ a :: later ∧ f ∈ (run before).held ∧
        (run before).table.poll f = .waiting ∧ Severs (run before) f a) := by
  have sound := run_sound acts
  have view := poll_act_drop sound gHeld hHeld other
  refine ⟨?_,?_,?_,fun f held => severed_of_closed acts held⟩
  · rw [view]
    split
    next cut => simp [cut]
    next kept => simp [kept]
  · intro waiting id
    refine ⟨?_,sound.table.open_of_waiting gHeld waiting,?_,?_⟩
    · intro both
      exact other (sound.table.waiting_unique gHeld hHeld waiting both id)
    · rw [view,if_pos ⟨waiting,id⟩]
    · rw [id]
      exact isPending_drop_self hHeld
  · intro waiting id
    have stays : ((run acts).act (.drop h)).table.poll g = .waiting := by
      rw [view,if_neg (fun cut => id cut.2),waiting]
    have after := (act_sound sound (.drop h)).table
    have held := held_drop_other gHeld hHeld other
    exact ⟨stays,after.isPending_of_waiting held stays,fun r own => after.resolve_own held stays own⟩

/-- The id 1 is answered and taken again before the first handle is looked at. -/
def reuse : List Act :=
  [.register (.number 1),.resolve ⟨"2.0",some (.number 1),none,none⟩,.register (.number 1)]

theorem drop_disturbs_reused :
    ((⟨1,.number 1⟩ : Handle) ∈ (run reuse).held ∧ (⟨0,.number 1⟩ : Handle) ∈ (run reuse).held) ∧
    (((run reuse).act (.drop ⟨0,.number 1⟩)).table.poll ⟨1,.number 1⟩ ≠
      (run reuse).table.poll ⟨1,.number 1⟩) :=
  ⟨by decide,(drop_disturbs_iff reuse ⟨1,.number 1⟩ ⟨0,.number 1⟩ (by decide) (by decide)
    (by decide)).1.mpr (by decide)⟩

/-- Handles are not isolated: a waiting handle fails although the table was never closed. -/
theorem reused_handle_severed :
    ∃ (acts : List Act) (g h : Handle), g ∈ (run acts).held ∧ h ∈ (run acts).held ∧ g ≠ h ∧
      (run acts).table.poll g = .waiting ∧
      ((run acts).act (.drop h)).table.closed = false ∧
      ((run acts).act (.drop h)).table.poll g = .closed :=
  ⟨reuse,⟨1,.number 1⟩,⟨0,.number 1⟩,by decide⟩

end LanguageBridge.Holding
