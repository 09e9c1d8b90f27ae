import LanguageBridge.Hook
import Mathlib.Data.List.TakeWhile

/-! A group of hooks passes when all of them have finished, however they were looked after. -/
namespace LanguageBridge

namespace HookRule

/-- A group passes only when every member has finished. -/
theorem finished_of_verdict {rule : HookRule} {members : List HookProgress}
    (passed : rule.verdict members = some (.ok ())) : ∀ p ∈ members, p = .finished := by
  have named : ∀ p : HookProgress, p.isFinished = true → p = .finished := by
    intro p done
    cases p <;> simp_all [HookProgress.isFinished]
  intro p member
  apply named
  cases rule with
  | first =>
    simp only [verdict] at passed
    split at passed
    · cases passed
    · split at passed
      next all => exact List.all_eq_true.mp all p member
      next => cases passed
  | inOrder =>
    simp only [verdict] at passed
    split at passed
    next all => exact List.dropWhile_eq_nil_iff.mp all p member
    next => cases passed
    next => cases passed

theorem goesOn_of_verdict {rule : HookRule} {members : List HookProgress}
    (passed : rule.verdict members = some (.ok ())) : rule.goesOn members = true := by
  rw [goesOn,passed]

end HookRule

namespace HookGroup

/-- Unless a failure has ended a group, it has a member for each of `n` hooks. -/
def Complete (g : HookGroup) (n : Nat) : Prop :=
  g.rule.goesOn g.members = true → g.members.length = n

theorem length_startMembers (rule : HookRule) (now : Nat) (e : Engine) (c : Channel)
    (started : List HookProgress) (hooks : List Hook)
    (goes : rule.goesOn (startMembers rule now e c started hooks).2.2 = true) :
    (startMembers rule now e c started hooks).2.2.length = started.length + hooks.length := by
  induction hooks generalizing e c started with
  | nil => rfl
  | cons hook others ih =>
    simp only [startMembers] at goes ⊢
    split at goes
    next on =>
      rw [if_pos on,ih _ _ _ goes]
      simp
      omega
    next off => exact absurd goes off

theorem complete_start (now : Nat) (e : Engine) (c : Channel) (hooks : List Hook) :
    (start now e c hooks).2.2.Complete hooks.length := by
  intro goes
  exact (length_startMembers _ now e c [] hooks goes).trans (by simp)

/-- Nobody is looked after once a failure has ended the group. -/
theorem pollMembers_ended {rule : HookRule} {members : List HookProgress}
    (ended : rule.goesOn members = false) (now : Nat) (e : Engine) (c : Channel) (schedule : List Nat) :
    (pollMembers rule now e c members schedule).2.2 = members := by
  induction schedule with
  | nil => rfl
  | cons i rest ih =>
    simp only [pollMembers]
    split
    · rw [if_neg (by simp [ended])]
    · exact ih

theorem length_pollMembers (rule : HookRule) (now : Nat) (e : Engine) (c : Channel)
    (members : List HookProgress) (schedule : List Nat) :
    (pollMembers rule now e c members schedule).2.2.length = members.length := by
  induction schedule generalizing e c members with
  | nil => rfl
  | cons i rest ih =>
    simp only [pollMembers]
    split
    · split
      · rw [ih,List.length_set]
      · rfl
    · exact ih e c members

theorem Complete.poll {g : HookGroup} {n : Nat} (complete : g.Complete n) (now : Nat) (e : Engine)
    (c : Channel) : (g.poll now e c).2.2.Complete n := by
  intro goes
  cases before : g.rule.goesOn g.members with
  | true => exact (length_pollMembers _ now e c _ _).trans (complete before)
  | false =>
    have same := pollMembers_ended before now e c (g.rule.schedule c g.members)
    have ended : (g.poll now e c).2.2.rule.goesOn (g.poll now e c).2.2.members = false := by
      simp only [HookGroup.poll,same,before]
    rw [ended] at goes
    cases goes

/-- When a complete group passes, each of its hooks has finished. -/
theorem Complete.finished {g : HookGroup} {hooks : List Hook} (complete : g.Complete hooks.length)
    (passed : g.verdict = some (.ok ())) : g.members = hooks.map fun _ => .finished := by
  have count : g.members.length = hooks.length := complete (HookRule.goesOn_of_verdict passed)
  rw [List.map_const',← count]
  exact List.eq_replicate_of_mem (HookRule.finished_of_verdict passed)

end HookGroup

end LanguageBridge
