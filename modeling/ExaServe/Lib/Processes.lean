import Mathlib.Logic.Function.Basic

namespace Lib

inductive Life where
  | unborn | live | ended
  deriving DecidableEq

/-- The processes of a run and the addresses the live ones have. An address may be
    taken again once its process has ended. -/
structure Processes (ι α : Type) where
  life : ι → Life
  table : α → Option ι

namespace Processes

variable {ι α : Type}

def none_ : Processes ι α := ⟨fun _ => .unborn, fun _ => none⟩

variable [DecidableEq ι] [DecidableEq α]

def spawn (processes : Processes ι α) (address : ι → α) (i : ι) : Processes ι α where
  life := Function.update processes.life i .live
  table := Function.update processes.table (address i) (some i)

def exit (processes : Processes ι α) (address : ι → α) (i : ι) : Processes ι α where
  life := Function.update processes.life i .ended
  table := Function.update processes.table (address i) none

def Tabled (address : ι → α) (processes : Processes ι α) : Prop :=
  ∀ i, processes.life i = .live → processes.table (address i) = some i

variable {processes : Processes ι α} {address : ι → α} {i j : ι}

@[simp] theorem life_spawn_self : (processes.spawn address i).life i = .live := Function.update_self ..

@[simp] theorem life_exit_self : (processes.exit address i).life i = .ended := Function.update_self ..

theorem life_spawn_ne (other : j ≠ i) : (processes.spawn address i).life j = processes.life j :=
  Function.update_of_ne other ..

theorem life_exit_ne (other : j ≠ i) : (processes.exit address i).life j = processes.life j :=
  Function.update_of_ne other ..

theorem ended_spawn (unborn : processes.life i = .unborn) (over_ : processes.life j = .ended) :
    (processes.spawn address i).life j = .ended := by
  rw [life_spawn_ne]
  · exact over_
  · intro same
    rw [same, unborn] at over_
    cases over_

theorem ended_exit (over_ : processes.life j = .ended) : (processes.exit address i).life j = .ended := by
  by_cases same : j = i
  · subst same
    exact life_exit_self
  · rw [life_exit_ne same]
    exact over_

theorem born_spawn (born : processes.life j ≠ .unborn) : (processes.spawn address i).life j ≠ .unborn := by
  by_cases same : j = i
  · subst same
    simp
  · rw [life_spawn_ne same]
    exact born

theorem born_exit (born : processes.life j ≠ .unborn) : (processes.exit address i).life j ≠ .unborn := by
  by_cases same : j = i
  · subst same
    simp
  · rw [life_exit_ne same]
    exact born

theorem tabled_spawn (tabled : processes.Tabled address) (free : processes.table (address i) = none) :
    (processes.spawn address i).Tabled address := by
  intro j live
  by_cases same : j = i
  · subst same
    exact Function.update_self ..
  · rw [life_spawn_ne same] at live
    have found := tabled j live
    have apart : address j ≠ address i := by
      intro equal
      rw [equal, free] at found
      cases found
    exact (Function.update_of_ne apart ..).trans found

theorem tabled_exit (tabled : processes.Tabled address) (live : processes.life i = .live) :
    (processes.exit address i).Tabled address := by
  intro j alive
  have other : j ≠ i := by
    intro same
    rw [same, life_exit_self] at alive
    cases alive
  rw [life_exit_ne other] at alive
  have found := tabled j alive
  have apart : address j ≠ address i := by
    intro equal
    rw [equal, tabled i live] at found
    exact other (Option.some.inj found).symm
  exact (Function.update_of_ne apart ..).trans found

end Processes

end Lib
