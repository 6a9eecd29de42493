import Mathlib.Data.List.Infix

namespace Lib

variable {S E : Type} (step : S → E → S)

def run (start : S) (events : List E) : S := events.foldl step start

/-- Each step of the run is taken from a state that admits it. -/
def Along (admits : S → E → Prop) : S → List E → Prop
  | _, [] => True
  | start, event :: rest => admits start event ∧ Along admits (step start event) rest

instance Along.decidable (admits : S → E → Prop) [∀ s e, Decidable (admits s e)] :
    (start : S) → (events : List E) → Decidable (Along step admits start events)
  | _, [] => .isTrue trivial
  | start, event :: rest =>
    have := Along.decidable admits (step start event) rest
    inferInstanceAs (Decidable (admits start event ∧ Along step admits (step start event) rest))

/-- The property holds in the first state and in every state the run reaches. -/
def Throughout (holds : S → Prop) (start : S) (events : List E) : Prop :=
  ∀ taken, taken <+: events → holds (run step start taken)

@[simp] theorem run_nil (start : S) : run step start [] = start := rfl

@[simp] theorem run_cons (start : S) (event : E) (rest : List E) :
    run step start (event :: rest) = run step (step start event) rest := rfl

theorem run_append (start : S) (first second : List E) :
    run step start (first ++ second) = run step (run step start first) second :=
  List.foldl_append

theorem run_concat (start : S) (events : List E) (event : E) :
    run step start (events ++ [event]) = step (run step start events) event := by
  rw [run_append, run_cons, run_nil]

variable {step}

theorem run_invariant {holds : S → Prop} (preserved : ∀ s e, holds s → holds (step s e))
    {start : S} (initial : holds start) (events : List E) : holds (run step start events) := by
  induction events generalizing start with
  | nil => exact initial
  | cons event rest ih => exact ih (preserved start event initial)

theorem along_append {admits : S → E → Prop} {start : S} {first second : List E} :
    Along step admits start (first ++ second) ↔
      Along step admits start first ∧ Along step admits (run step start first) second := by
  induction first generalizing start with
  | nil => simp [Along]
  | cons head rest ih =>
    rw [List.cons_append, Along, Along, ih, and_assoc]
    rfl

theorem along_concat {admits : S → E → Prop} {start : S} {events : List E} {event : E} :
    Along step admits start (events ++ [event]) ↔
      Along step admits start events ∧ admits (run step start events) event := by
  rw [along_append, Along, Along, and_true]

theorem along_of_forall {admits : S → E → Prop} (always : ∀ s e, admits s e) (start : S) (events : List E) :
    Along step admits start events := by
  induction events generalizing start with
  | nil => trivial
  | cons event rest ih => exact ⟨always start event, ih _⟩

theorem along_congr {admits allows : S → E → Prop} (same : ∀ s e, admits s e ↔ allows s e) (start : S)
    (events : List E) : Along step admits start events ↔ Along step allows start events := by
  induction events generalizing start with
  | nil => exact Iff.rfl
  | cons event rest ih => exact and_congr (same start event) (ih _)

theorem throughout_nil {holds : S → Prop} {start : S} :
    Throughout step holds start [] ↔ holds start := by
  constructor
  · intro always
    exact always [] (List.prefix_refl _)
  · intro initial taken within
    rw [List.prefix_nil.mp within]
    exact initial

theorem throughout_cons {holds : S → Prop} {start : S} {event : E} {rest : List E} :
    Throughout step holds start (event :: rest) ↔
      holds start ∧ Throughout step holds (step start event) rest := by
  constructor
  · intro always
    refine ⟨always [] List.nil_prefix, ?_⟩
    intro taken within
    exact always (event :: taken) (List.cons_prefix_cons.mpr ⟨rfl, within⟩)
  · rintro ⟨initial, later⟩ taken within
    cases taken with
    | nil => exact initial
    | cons head tail =>
      obtain ⟨rfl, tail_within⟩ := List.cons_prefix_cons.mp within
      exact later tail tail_within

/-- When a step from a state of the invariant keeps the property exactly if it is
    admitted, a run keeps it throughout exactly if all of its steps are. -/
theorem throughout_iff_along_of_invariant {invariant holds : S → Prop} {admits : S → E → Prop}
    (preserved : ∀ s e, invariant s → invariant (step s e))
    (exact_step : ∀ s e, invariant s → holds s → (holds (step s e) ↔ admits s e))
    {start : S} (sound : invariant start) (initial : holds start) (events : List E) :
    Throughout step holds start events ↔ Along step admits start events := by
  induction events generalizing start with
  | nil => simp only [throughout_nil, Along, iff_true]; exact initial
  | cons event rest ih =>
    rw [throughout_cons, Along, and_iff_right initial]
    have next := preserved start event sound
    constructor
    · intro later
      have kept : holds (step start event) := later [] List.nil_prefix
      exact ⟨(exact_step start event sound initial).mp kept, (ih next kept).mp later⟩
    · rintro ⟨admitted, later⟩
      exact (ih next ((exact_step start event sound initial).mpr admitted)).mpr later

theorem throughout_of_invariant {invariant holds : S → Prop} (preserved : ∀ s e, invariant s → invariant (step s e))
    (kept : ∀ s, invariant s → holds s) {start : S} (initial : invariant start) (events : List E) :
    Throughout step holds start events :=
  fun taken _ => kept _ (run_invariant preserved initial taken)

theorem throughout_iff_along {holds : S → Prop} {admits : S → E → Prop}
    (exact_step : ∀ s e, holds s → (holds (step s e) ↔ admits s e))
    {start : S} (initial : holds start) (events : List E) :
    Throughout step holds start events ↔ Along step admits start events :=
  @throughout_iff_along_of_invariant S E step (fun _ => True) holds admits (fun _ _ _ => trivial)
    (fun s e _ => exact_step s e) start trivial initial events

theorem throughout_of_along {holds : S → Prop} {admits : S → E → Prop}
    (preserved : ∀ s e, admits s e → holds s → holds (step s e))
    {start : S} (initial : holds start) {events : List E} (admitted : Along step admits start events) :
    Throughout step holds start events := by
  induction events generalizing start with
  | nil => exact throughout_nil.mpr initial
  | cons event rest ih =>
    exact throughout_cons.mpr ⟨initial, ih (preserved _ _ admitted.1 initial) admitted.2⟩

theorem Throughout.last {holds : S → Prop} {start : S} {events : List E}
    (always : Throughout step holds start events) : holds (run step start events) :=
  always events (List.prefix_refl _)

section Log

variable {A : Type} {allowed : List A → A → Prop}

/-- Every entry of the log is allowed after the entries before it. -/
def Guarded (allowed : List A → A → Prop) (log : List A) : Prop :=
  ∀ before entry after, log = before ++ entry :: after → allowed before entry

/-- Every entry is allowed after the given ones and those before it. -/
def GuardedFrom (allowed : List A → A → Prop) : List A → List A → Prop
  | _, [] => True
  | earlier, entry :: rest => allowed earlier entry ∧ GuardedFrom allowed (earlier ++ [entry]) rest

theorem guardedFrom_iff {earlier log : List A} : GuardedFrom allowed earlier log ↔
    ∀ before entry after, log = before ++ entry :: after → allowed (earlier ++ before) entry := by
  induction log generalizing earlier with
  | nil => simp [GuardedFrom]
  | cons head rest ih =>
    rw [GuardedFrom, ih]
    constructor
    · rintro ⟨first, later⟩ before entry after split
      cases before with
      | nil =>
        cases split
        simpa using first
      | cons other before =>
        cases split
        simpa using later before entry after rfl
    · intro all
      refine ⟨by simpa using all [] head rest rfl, ?_⟩
      rintro before entry after rfl
      simpa using all (head :: before) entry after rfl

instance GuardedFrom.decidable [∀ before entry, Decidable (allowed before entry)] :
    (earlier log : List A) → Decidable (GuardedFrom allowed earlier log)
  | _, [] => .isTrue trivial
  | earlier, entry :: rest =>
    have := GuardedFrom.decidable (earlier ++ [entry]) rest
    inferInstanceAs (Decidable (allowed earlier entry ∧ GuardedFrom allowed (earlier ++ [entry]) rest))

instance Guarded.decidable [∀ before entry, Decidable (allowed before entry)] (log : List A) :
    Decidable (Guarded allowed log) :=
  decidable_of_iff (GuardedFrom allowed [] log) guardedFrom_iff

theorem guarded_nil : Guarded allowed [] := by
  intro before entry after split
  simp at split

theorem guarded_concat {log : List A} {last : A} :
    Guarded allowed (log ++ [last]) ↔ Guarded allowed log ∧ allowed log last := by
  constructor
  · intro guarded
    refine ⟨?_, guarded log last [] rfl⟩
    rintro before entry after rfl
    exact guarded before entry (after ++ [last]) (by simp)
  · rintro ⟨guarded, final⟩ before entry after split
    rcases List.eq_nil_or_concat after with rfl | ⟨middle, tail, rfl⟩
    · obtain ⟨rfl, same⟩ := List.append_inj' split rfl
      cases same
      exact final
    · have shorter : log ++ [last] = (before ++ entry :: middle) ++ [tail] := by simpa using split
      obtain ⟨rfl, -⟩ := List.append_inj' shorter rfl
      exact guarded before entry middle rfl

end Log

end Lib
