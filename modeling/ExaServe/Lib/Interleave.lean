import Mathlib.Logic.Function.Basic
import ExaServe.Lib.Run

namespace Lib

/-- Threads that act on one shared state, each with a state of its own. -/
structure Threads (ι S L : Type) where
  shared : S
  own : ι → L

namespace Threads

variable {ι S L A : Type} [DecidableEq ι]

/-- What a thread does to the shared state and to its own, as one step of all. -/
def act (turn : ι → A → S → L → S × L) (threads : Threads ι S L) (event : ι × A) : Threads ι S L where
  shared := (turn event.1 event.2 threads.shared (threads.own event.1)).1
  own := Function.update threads.own event.1 (turn event.1 event.2 threads.shared (threads.own event.1)).2

variable {turn : ι → A → S → L → S × L}

@[simp] theorem act_own (threads : Threads ι S L) (i : ι) (action : A) :
    (act turn threads (i, action)).own i = (turn i action threads.shared (threads.own i)).2 :=
  Function.update_self ..

theorem act_own_ne (threads : Threads ι S L) {i j : ι} (action : A) (other : j ≠ i) :
    (act turn threads (i, action)).own j = threads.own j :=
  Function.update_of_ne other ..

@[simp] theorem act_shared (threads : Threads ι S L) (i : ι) (action : A) :
    (act turn threads (i, action)).shared = (turn i action threads.shared (threads.own i)).1 := rfl

/-- The shared state is sound, and every thread's own is sound against it. -/
structure Sound (common : S → Prop) (single : ι → S → L → Prop) (threads : Threads ι S L) : Prop where
  common : common threads.shared
  single : ∀ i, single i threads.shared (threads.own i)

variable {common : S → Prop} {single : ι → S → L → Prop}

/-- A turn keeps everything sound when it keeps what its own thread relies on and
    disturbs no other. -/
theorem Sound.act {threads : Threads ι S L} (sound : threads.Sound common single) {i : ι} {action : A}
    {result : S × L} (taken : turn i action threads.shared (threads.own i) = result)
    (kept : common result.1) (own : single i result.1 result.2)
    (others : ∀ j, j ≠ i → single j threads.shared (threads.own j) → single j result.1 (threads.own j)) :
    (act turn threads (i, action)).Sound common single := by
  subst taken
  refine ⟨kept, ?_⟩
  intro j
  by_cases same : j = i
  · subst same
    rw [act_own]
    exact own
  · rw [act_own_ne threads action same]
    exact others j same (sound.single j)

end Threads

end Lib
