import Mathlib.Data.List.Forall2

namespace Lib

variable {α β ε : Type}

/-- A sequence of fallible steps succeeds only through a first step that does. -/
theorem bind_ok {x : Except ε α} {f : α → Except ε β} {result : β} (done : x >>= f = .ok result) :
    ∃ value, x = .ok value ∧ f value = .ok result := by
  cases x with
  | error failure => cases done
  | ok value => exact ⟨value, rfl, done⟩

theorem ok_bind {x : Except ε α} {value : α} (done : x = .ok value) (f : α → Except ε β) :
    (x >>= f) = f value := by
  rw [done]
  rfl

/-- A check, with the error of its failure. -/
def ensure (fact : Prop) [Decidable fact] (error : ε) : Except ε Unit :=
  if fact then .ok () else .error error

theorem ensure_ok {fact : Prop} [Decidable fact] (holds : fact) (error : ε) : ensure fact error = .ok () :=
  if_pos holds

theorem ensure_holds {fact : Prop} [Decidable fact] {error : ε} {done : Unit} (passed : ensure fact error = .ok done) :
    fact := by
  by_contra fails
  rw [ensure, if_neg fails] at passed
  cases passed

theorem ensure_ok_iff {fact : Prop} [Decidable fact] {error : ε} : ensure fact error = .ok () ↔ fact :=
  ⟨ensure_holds, fun holds => ensure_ok holds error⟩

theorem seq_ok_iff {first second : Except ε Unit} :
    (first >>= fun _ => second) = .ok () ↔ first = .ok () ∧ second = .ok () := by
  constructor
  · intro done
    obtain ⟨⟨⟩, one, done⟩ := bind_ok done
    exact ⟨one, done⟩
  · intro both
    rw [ok_bind both.1, both.2]

theorem eq_ok_of_toOption {x : Except ε α} {value : α} (found : x.toOption = some value) : x = .ok value := by
  cases x with
  | error failure => cases found
  | ok other => exact congrArg Except.ok (Option.some.inj found)

theorem ok_of_toOption {x : Except ε α} {f : α → β} {result : β} (found : x.toOption.map f = some result) :
    ∃ value, x = .ok value ∧ f value = result := by
  cases x with
  | error failure => cases found
  | ok value => exact ⟨value, rfl, Option.some.inj found⟩

theorem exists_of_forall₂ {related : α → β → Prop} {left : List α} {right : List β} {item : β}
    (all : List.Forall₂ related left right) (member : item ∈ right) : ∃ other, related other item := by
  induction all with
  | nil => cases member
  | cons first rest ih =>
    rcases List.mem_cons.mp member with rfl | member
    · exact ⟨_, first⟩
    · exact ih member

theorem forall₂_of_mapM {f : α → Except ε β} {items : List α} {results : List β}
    (done : items.mapM f = .ok results) : List.Forall₂ (fun item result => f item = .ok result) items results := by
  induction items generalizing results with
  | nil =>
    cases done
    exact .nil
  | cons item rest ih =>
    rw [List.mapM_cons] at done
    obtain ⟨first, found, done⟩ := bind_ok done
    obtain ⟨others, mapped, done⟩ := bind_ok done
    cases done
    exact .cons found (ih mapped)

theorem mapM_each {f : α → Except ε β} {items : List α} {results : List β} (done : items.mapM f = .ok results) :
    ∀ item ∈ items, ∃ result, f item = .ok result := by
  intro item listed
  exact exists_of_forall₂ (forall₂_of_mapM done).flip listed

theorem mapM_some {f : α → Except ε β} {items : List α} (each : ∀ item ∈ items, ∃ result, f item = .ok result) :
    ∃ results, items.mapM f = .ok results := by
  induction items with
  | nil => exact ⟨[], rfl⟩
  | cons item rest ih =>
    obtain ⟨here, later⟩ := List.forall_mem_cons.mp each
    obtain ⟨result, found⟩ := here
    obtain ⟨results, mapped⟩ := ih later
    refine ⟨result :: results, ?_⟩
    rw [List.mapM_cons, ok_bind found, ok_bind mapped]
    rfl

theorem mapM_ok {f : α → Except ε β} {g : α → β} {items : List α} (all : ∀ item ∈ items, f item = .ok (g item)) :
    items.mapM f = .ok (items.map g) := by
  induction items with
  | nil => rfl
  | cons item rest ih =>
    rw [List.mapM_cons, ok_bind (all item List.mem_cons_self),
      ok_bind (ih fun other member => all other (List.mem_cons_of_mem _ member))]
    rfl

/-- A map whose steps all have one form. -/
theorem mapM_iff {f : α → Except ε β} {g : α → β} {holds : α → Prop}
    (each : ∀ item result, f item = .ok result ↔ holds item ∧ result = g item) {items : List α} {results : List β} :
    items.mapM f = .ok results ↔ (∀ item ∈ items, holds item) ∧ results = items.map g := by
  constructor
  · intro done
    induction items generalizing results with
    | nil =>
      cases done
      simp
    | cons item rest ih =>
      rw [List.mapM_cons] at done
      obtain ⟨first, one, done⟩ := bind_ok done
      obtain ⟨others, mapped, done⟩ := bind_ok done
      cases done
      obtain ⟨held, rfl⟩ := (each _ _).mp one
      obtain ⟨below, rfl⟩ := ih mapped
      exact ⟨List.forall_mem_cons.mpr ⟨held, below⟩, rfl⟩
  · rintro ⟨all, rfl⟩
    exact mapM_ok fun item listed => (each _ _).mpr ⟨all item listed, rfl⟩

theorem forM_ok {f : α → Except ε Unit} {items : List α} (all : ∀ item ∈ items, f item = .ok ()) :
    items.forM f = .ok () := by
  induction items with
  | nil => rfl
  | cons item rest ih =>
    show (f item >>= fun _ => rest.forM f) = .ok ()
    rw [ok_bind (all item List.mem_cons_self)]
    exact ih fun other member => all other (List.mem_cons_of_mem _ member)

theorem forM_all {f : α → Except ε Unit} {items : List α} {done : Unit} (all : items.forM f = .ok done) :
    ∀ item ∈ items, f item = .ok () := by
  induction items with
  | nil => simp
  | cons first rest ih =>
    obtain ⟨⟨⟩, head, others⟩ := bind_ok (show (f first >>= fun _ => rest.forM f) = .ok done from all)
    intro item listed
    rcases List.mem_cons.mp listed with rfl | listed
    · exact head
    · exact ih others item listed

theorem forM_ok_iff {f : α → Except ε Unit} {items : List α} :
    items.forM f = .ok () ↔ ∀ item ∈ items, f item = .ok () :=
  ⟨forM_all, forM_ok⟩

/-- What every step of a fallible fold keeps, the whole fold keeps. -/
theorem foldlM_kept {f : β → α → Except ε β} {holds : β → Prop} {items : List α}
    (kept : ∀ item ∈ items, ∀ before after, f before item = .ok after → holds before → holds after)
    {start result : β} (done : items.foldlM f start = .ok result) (initial : holds start) : holds result := by
  induction items generalizing start with
  | nil =>
    cases done
    exact initial
  | cons item rest ih =>
    rw [List.foldlM_cons] at done
    obtain ⟨next, stepped, done⟩ := bind_ok done
    exact ih (fun other member => kept other (List.mem_cons_of_mem _ member)) done
      (kept item List.mem_cons_self start next stepped initial)

end Lib
