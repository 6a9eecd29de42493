import Mathlib.Algebra.BigOperators.Group.Finset.Basic
import Mathlib.Algebra.Order.BigOperators.Group.Finset
import Mathlib.Data.List.Perm.Basic
import Mathlib.Logic.Relation

namespace Lib.WorkPool

variable {α β : Type}

/-- Items dealt to dispatchers, sent over a bounded channel to a pool of workers that may hold a number of items
    outstanding. What an item may be answered with is a relation. -/
structure Setup (α β : Type) where
  parts : List (List α)
  capacity : Nat
  workers : Nat
  slots : Nat
  Answers : α → β → Prop

/-- An item with its place: the part it is from and its position there. -/
structure Ticket (α : Type) where
  place : Nat × Nat
  item : α

/-- The dispatchers that hold a slot for their next item, the channel, and the workers: those on an item, and how
    many have stored a result and not yet given the slot back. -/
structure Pool (α β : Type) where
  sent : Nat → Nat
  holders : List Nat
  queue : List (Ticket α)
  busy : List (Ticket α)
  stored : Nat
  outstanding : Nat
  results : Nat × Nat → Option β

def Setup.itemAt (setup : Setup α β) (place : Nat × Nat) : Option α := (setup.parts[place.1]?).bind (·[place.2]?)

def start : Pool α β := ⟨fun _ => 0, [], [], [], 0, 0, fun _ => none⟩

def Pool.nextPlace (pool : Pool α β) (turn : Nat) : Nat × Nat := (turn, pool.sent turn)

/-- A dispatcher has handed over its next item. -/
def Pool.advance (pool : Pool α β) (turn : Nat) : Pool α β :=
  { pool with
    sent := Function.update pool.sent turn (pool.sent turn + 1)
    holders := pool.holders.erase turn }

def Pool.store (pool : Pool α β) (place : Nat × Nat) (result : β) : Pool α β :=
  { pool with
    results := Function.update pool.results place (some result)
    stored := pool.stored + 1 }

inductive Step (setup : Setup α β) : Pool α β → Pool α β → Prop where
  | acquire {pool : Pool α β} {turn : Nat} {item : α} : turn ∉ pool.holders →
      setup.itemAt (pool.nextPlace turn) = some item → pool.outstanding < setup.slots →
      Step setup pool { pool with holders := turn :: pool.holders, outstanding := pool.outstanding + 1 }
  | send {pool : Pool α β} {turn : Nat} {item : α} : turn ∈ pool.holders →
      setup.itemAt (pool.nextPlace turn) = some item → pool.queue.length < setup.capacity →
      Step setup pool { pool.advance turn with queue := pool.queue ++ [⟨pool.nextPlace turn, item⟩] }
  | hand {pool : Pool α β} {turn : Nat} {item : α} : turn ∈ pool.holders →
      setup.itemAt (pool.nextPlace turn) = some item → pool.queue = [] →
      pool.busy.length + pool.stored < setup.workers →
      Step setup pool { pool.advance turn with busy := ⟨pool.nextPlace turn, item⟩ :: pool.busy }
  | receive {pool : Pool α β} {ticket : Ticket α} {rest : List (Ticket α)} : pool.queue = ticket :: rest →
      pool.busy.length + pool.stored < setup.workers →
      Step setup pool { pool with queue := rest, busy := ticket :: pool.busy }
  | store {pool : Pool α β} {before after : List (Ticket α)} {ticket : Ticket α} {result : β} :
      pool.busy = before ++ ticket :: after → setup.Answers ticket.item result →
      Step setup pool { pool.store ticket.place result with busy := before ++ after }
  | release {pool : Pool α β} : 0 < pool.stored →
      Step setup pool { pool with stored := pool.stored - 1, outstanding := pool.outstanding - 1 }

/-- The states a pool can come to. -/
def Reachable (setup : Setup α β) (pool : Pool α β) : Prop := Relation.ReflTransGen (Step setup) start pool

/-- The dispatchers are through, the channel is closed and drained, and the workers have ended. -/
structure Finished (setup : Setup α β) (pool : Pool α β) : Prop where
  dispatched : ∀ turn, setup.itemAt (pool.nextPlace turn) = none
  drained : pool.queue = []
  ended : pool.busy = [] ∧ pool.stored = 0

/-- The items on their way from a dispatcher to a result. -/
def Pool.pending (pool : Pool α β) : List (Ticket α) := pool.queue ++ pool.busy

def Pool.places (pool : Pool α β) : List (Nat × Nat) := pool.pending.map Ticket.place

/-- Every item sent is on its way or answered, each only once, and no other item is. -/
structure Accounted (setup : Setup α β) (pool : Pool α β) : Prop where
  items : ∀ ticket ∈ pool.pending, setup.itemAt ticket.place = some ticket.item
  once : pool.places.Nodup
  unanswered : ∀ place ∈ pool.places, pool.results place = none ∧ place.2 < pool.sent place.1
  covered : ∀ place, (setup.itemAt place).isSome = true → place.2 < pool.sent place.1 →
    pool.results place ≠ none ∨ place ∈ pool.places
  answered : ∀ place result, pool.results place = some result →
    place.2 < pool.sent place.1 ∧ ∃ item, setup.itemAt place = some item ∧ setup.Answers item result

section Invariant

variable {setup : Setup α β} {pool after : Pool α β}

theorem accounted_start : Accounted setup (start : Pool α β) where
  items _ listed := absurd listed List.not_mem_nil
  once := List.nodup_nil
  unanswered _ listed := absurd listed List.not_mem_nil
  covered _ _ sent := absurd sent (Nat.not_lt_zero _)
  answered _ _ filled := nomatch filled

/-- A step that only moves items between the channel and the workers. -/
theorem Accounted.moved (kept : Accounted setup pool) (same : after.pending.Perm pool.pending)
    (sent : after.sent = pool.sent) (results : after.results = pool.results) : Accounted setup after := by
  have places : after.places.Perm pool.places := same.map _
  exact {
    items := fun ticket listed => kept.items ticket (same.mem_iff.mp listed)
    once := places.nodup_iff.mpr kept.once
    unanswered := by
      intro place listed
      rw [results, sent]
      exact kept.unanswered place (places.mem_iff.mp listed)
    covered := by
      intro place some_item before
      rw [sent] at before
      rw [results, places.mem_iff]
      exact kept.covered place some_item before
    answered := by
      intro place result filled
      rw [results] at filled
      rw [sent]
      exact kept.answered place result filled }

/-- A step that sends the next item of a dispatcher. -/
theorem Accounted.sent_next {turn : Nat} {item : α} (kept : Accounted setup pool)
    (next : setup.itemAt (pool.nextPlace turn) = some item)
    (same : after.pending.Perm (⟨pool.nextPlace turn, item⟩ :: pool.pending))
    (sent : after.sent = Function.update pool.sent turn (pool.sent turn + 1))
    (results : after.results = pool.results) : Accounted setup after := by
  have places : after.places.Perm (pool.nextPlace turn :: pool.places) := same.map _
  have grown : ∀ place : Nat × Nat, place.2 < pool.sent place.1 → place.2 < after.sent place.1 := by
    intro place before
    rw [sent]
    by_cases own : place.1 = turn
    · rw [own, Function.update_self]
      rw [own] at before
      omega
    · rwa [Function.update_of_ne own]
  have here : (pool.nextPlace turn).2 < after.sent (pool.nextPlace turn).1 := by
    rw [sent]
    show pool.sent turn < Function.update pool.sent turn (pool.sent turn + 1) turn
    rw [Function.update_self]
    omega
  have split : ∀ place : Nat × Nat, place.2 < after.sent place.1 →
      place = pool.nextPlace turn ∨ place.2 < pool.sent place.1 := by
    intro place before
    rw [sent] at before
    by_cases own : place.1 = turn
    · rw [own, Function.update_self] at before
      by_cases last : place.2 = pool.sent turn
      · exact .inl (Prod.ext own last)
      · right
        rw [own]
        omega
    · rw [Function.update_of_ne own] at before
      exact .inr before
  have fresh : pool.nextPlace turn ∉ pool.places := by
    intro listed
    exact absurd (kept.unanswered _ listed).2 (Nat.lt_irrefl _)
  have unfilled : pool.results (pool.nextPlace turn) = none := by
    by_contra filled
    obtain ⟨result, filled⟩ := Option.ne_none_iff_exists'.mp filled
    exact absurd (kept.answered _ _ filled).1 (Nat.lt_irrefl _)
  exact {
    items := by
      intro ticket listed
      rcases List.mem_cons.mp (same.mem_iff.mp listed) with rfl | before
      · exact next
      · exact kept.items ticket before
    once := places.nodup_iff.mpr (List.nodup_cons.mpr ⟨fresh, kept.once⟩)
    unanswered := by
      intro place listed
      rw [results]
      rcases List.mem_cons.mp (places.mem_iff.mp listed) with rfl | before
      · exact ⟨unfilled, here⟩
      · obtain ⟨open_, old⟩ := kept.unanswered place before
        exact ⟨open_, grown place old⟩
    covered := by
      intro place some_item before
      rw [results, places.mem_iff, List.mem_cons]
      rcases split place before with rfl | old
      · exact .inr (.inl rfl)
      · rcases kept.covered place some_item old with filled | listed
        · exact .inl filled
        · exact .inr (.inr listed)
    answered := by
      intro place result filled
      rw [results] at filled
      obtain ⟨old, answer⟩ := kept.answered place result filled
      exact ⟨grown place old, answer⟩ }

/-- A step that stores the result of an item. -/
theorem Accounted.stored_result {ticket : Ticket α} {result : β} (kept : Accounted setup pool)
    (same : pool.pending.Perm (ticket :: after.pending)) (answer : setup.Answers ticket.item result)
    (sent : after.sent = pool.sent)
    (results : after.results = Function.update pool.results ticket.place (some result)) : Accounted setup after := by
  have places : pool.places.Perm (ticket.place :: after.places) := same.map _
  have own : ticket ∈ pool.pending := same.mem_iff.mpr List.mem_cons_self
  obtain ⟨apart, once⟩ := List.nodup_cons.mp (places.nodup_iff.mp kept.once)
  have others : ∀ place ∈ after.places, place ∈ pool.places := fun place listed =>
    places.mem_iff.mpr (List.mem_cons_of_mem _ listed)
  exact {
    items := fun other listed => kept.items other (same.mem_iff.mpr (List.mem_cons_of_mem _ listed))
    once
    unanswered := by
      intro place listed
      have different : place ≠ ticket.place := fun hit => apart (hit ▸ listed)
      rw [results, sent, Function.update_of_ne different]
      exact kept.unanswered place (others place listed)
    covered := by
      intro place some_item before
      rw [sent] at before
      rw [results]
      by_cases hit : place = ticket.place
      · rw [hit, Function.update_self]
        exact .inl (Option.some_ne_none result)
      · rw [Function.update_of_ne hit]
        rcases kept.covered place some_item before with filled | listed
        · exact .inl filled
        · rcases List.mem_cons.mp (places.mem_iff.mp listed) with same_place | still
          · exact absurd same_place hit
          · exact .inr still
    answered := by
      intro place other filled
      rw [results] at filled
      rw [sent]
      by_cases hit : place = ticket.place
      · rw [hit, Function.update_self] at filled
        cases filled
        have place_of : ticket.place ∈ pool.places := List.mem_map_of_mem own
        rw [hit]
        exact ⟨(kept.unanswered _ place_of).2, ticket.item, kept.items ticket own, answer⟩
      · rw [Function.update_of_ne hit] at filled
        exact kept.answered place other filled }

theorem accounted_step (kept : Accounted setup pool) (step : Step setup pool after) : Accounted setup after := by
  cases step with
  | acquire => exact kept.moved (.refl _) rfl rfl
  | send _ next _ =>
    refine kept.sent_next next ?_ rfl rfl
    show ((pool.queue ++ [_]) ++ pool.busy).Perm _
    rw [List.append_assoc, List.singleton_append]
    exact List.perm_middle
  | hand _ next empty _ =>
    refine kept.sent_next next ?_ rfl rfl
    show (pool.queue ++ _ :: pool.busy).Perm _
    exact List.perm_middle
  | receive queued _ =>
    refine kept.moved ?_ rfl rfl
    show List.Perm (_ ++ _ :: pool.busy) (pool.queue ++ pool.busy)
    rw [queued]
    exact List.perm_middle
  | @store before rest ticket result held answer =>
    refine @Accounted.stored_result _ _ _ _ _ ticket _ kept ?_ answer rfl rfl
    show List.Perm (pool.queue ++ pool.busy) (_ :: (pool.queue ++ (_ ++ _)))
    rw [held, ← List.append_assoc, ← List.append_assoc]
    exact List.perm_middle
  | release => exact kept.moved (.refl _) rfl rfl

theorem accounted_reachable (reached : Reachable setup pool) : Accounted setup pool := by
  induction reached with
  | refl => exact accounted_start
  | tail _ step ih => exact accounted_step ih step

end Invariant

section Progress

variable {setup : Setup α β} {pool after : Pool α β}

/-- The slots that are out, and what holds them. -/
structure Balanced (setup : Setup α β) (pool : Pool α β) : Prop where
  outstanding : pool.outstanding = pool.holders.length + pool.queue.length + pool.busy.length + pool.stored
  once : pool.holders.Nodup
  next : ∀ turn ∈ pool.holders, (setup.itemAt (pool.nextPlace turn)).isSome = true

theorem balanced_start : Balanced setup (start : Pool α β) where
  outstanding := rfl
  once := List.nodup_nil
  next _ listed := absurd listed List.not_mem_nil

theorem Balanced.advanced {turn : Nat} (kept : Balanced setup pool) (holds : turn ∈ pool.holders) :
    (pool.advance turn).holders.length + 1 = pool.holders.length ∧ (pool.advance turn).holders.Nodup ∧
      ∀ other ∈ (pool.advance turn).holders, (setup.itemAt ((pool.advance turn).nextPlace other)).isSome = true := by
  have length := List.length_erase_of_mem holds
  have nonempty := List.length_pos_of_mem holds
  refine ⟨?_, kept.once.erase turn, ?_⟩
  · show (pool.holders.erase turn).length + 1 = _
    omega
  · intro other listed
    obtain ⟨different, held⟩ := (List.Nodup.mem_erase_iff kept.once).mp listed
    have same : (pool.advance turn).nextPlace other = pool.nextPlace other :=
      congrArg (Prod.mk other) (Function.update_of_ne different _ _)
    rw [same]
    exact kept.next other held

theorem balanced_step (kept : Balanced setup pool) (step : Step setup pool after) : Balanced setup after := by
  have outstanding := kept.outstanding
  cases step with
  | @acquire turn item free next _ =>
    refine ⟨?_, List.nodup_cons.mpr ⟨free, kept.once⟩, ?_⟩
    · simp only [List.length_cons]
      omega
    · intro other listed
      rcases List.mem_cons.mp listed with rfl | before
      · exact Option.isSome_of_eq_some next
      · exact kept.next other before
  | send holds _ _ =>
    obtain ⟨length, once, next⟩ := kept.advanced holds
    refine ⟨?_, once, next⟩
    show pool.outstanding = (pool.advance _).holders.length + (pool.queue ++ [_]).length + pool.busy.length + pool.stored
    rw [List.length_append, List.length_singleton]
    omega
  | @hand turn item holds _ _ _ =>
    obtain ⟨length, once, next⟩ := kept.advanced holds
    refine ⟨?_, once, next⟩
    show pool.outstanding =
      (pool.advance _).holders.length + pool.queue.length + (Ticket.mk _ item :: pool.busy).length + pool.stored
    rw [List.length_cons]
    omega
  | receive queued _ =>
    rw [queued, List.length_cons] at outstanding
    refine ⟨?_, kept.once, kept.next⟩
    simp only [List.length_cons]
    omega
  | store held _ =>
    rw [held, List.length_append, List.length_cons] at outstanding
    refine ⟨?_, kept.once, kept.next⟩
    show pool.outstanding = pool.holders.length + pool.queue.length + (_ ++ _ : List (Ticket α)).length + (pool.stored + 1)
    rw [List.length_append]
    omega
  | release some_stored =>
    refine ⟨?_, kept.once, kept.next⟩
    show pool.outstanding - 1 = pool.holders.length + pool.queue.length + pool.busy.length + (pool.stored - 1)
    omega

theorem balanced_reachable (reached : Reachable setup pool) : Balanced setup pool := by
  induction reached with
  | refl => exact balanced_start
  | tail _ step ih => exact balanced_step ih step

/-- The pool can always go on: as long as an item can be answered, only its end stops it. -/
theorem finished_or_step (answerable : ∀ place item, setup.itemAt place = some item → ∃ result, setup.Answers item result)
    (some_worker : 0 < setup.workers) (some_slot : 0 < setup.slots) (reached : Reachable setup pool) :
    Finished setup pool ∨ ∃ after, Step setup pool after := by
  have kept := accounted_reachable reached
  have balance := balanced_reachable reached
  by_cases stored : 0 < pool.stored
  · exact .inr ⟨_, .release stored⟩
  by_cases busy : pool.busy = []
  · have room : pool.busy.length + pool.stored < setup.workers := by
      rw [busy, List.length_nil]
      omega
    cases queued : pool.queue with
    | cons ticket rest => exact .inr ⟨_, .receive queued room⟩
    | nil =>
      cases held : pool.holders with
      | cons turn others =>
        have holds : turn ∈ pool.holders := held ▸ List.mem_cons_self
        obtain ⟨item, next⟩ := Option.isSome_iff_exists.mp (balance.next turn holds)
        exact .inr ⟨_, .hand holds next queued room⟩
      | nil =>
        by_cases left : ∃ turn item, setup.itemAt (pool.nextPlace turn) = some item
        · obtain ⟨turn, item, next⟩ := left
          have slots : pool.outstanding < setup.slots := by
            have outstanding := balance.outstanding
            rw [held, queued, busy] at outstanding
            simp only [List.length_nil] at outstanding
            omega
          exact .inr ⟨_, .acquire (held ▸ List.not_mem_nil) next slots⟩
        · refine .inl ⟨fun turn => ?_, queued, busy, by omega⟩
          by_contra some_item
          obtain ⟨item, next⟩ := Option.ne_none_iff_exists'.mp some_item
          exact left ⟨turn, item, next⟩
  · obtain ⟨ticket, rest, held⟩ := List.exists_cons_of_ne_nil busy
    have own : ticket ∈ pool.pending := List.mem_append_right _ (held ▸ List.mem_cons_self)
    obtain ⟨result, answer⟩ := answerable _ _ (kept.items ticket own)
    exact .inr ⟨_, @Step.store _ _ _ _ [] rest ticket result held answer⟩

end Progress

section Termination

variable {setup : Setup α β} {pool after : Pool α β}

def Setup.partLength (setup : Setup α β) (turn : Nat) : Nat := ((setup.parts[turn]?).map List.length).getD 0

/-- The items not yet sent. -/
def Pool.unsent (setup : Setup α β) (pool : Pool α β) : Nat :=
  ∑ turn ∈ Finset.range setup.parts.length, (setup.partLength turn - pool.sent turn)

/-- The steps that are left, counted by how far each item has come. -/
def Pool.left (setup : Setup α β) (pool : Pool α β) : Nat :=
  5 * pool.unsent setup + (setup.parts.length - pool.holders.length) + 3 * pool.queue.length + 2 * pool.busy.length +
    pool.stored

theorem itemAt_some {turn at_ : Nat} {item : α} (found : setup.itemAt (turn, at_) = some item) :
    turn < setup.parts.length ∧ at_ < setup.partLength turn := by
  obtain ⟨part, held, inside⟩ := Option.bind_eq_some_iff.mp found
  have listed : setup.parts[turn]? = some part := held
  have length : setup.partLength turn = part.length := by
    rw [Setup.partLength, listed]
    rfl
  obtain ⟨bound, -⟩ := List.getElem?_eq_some_iff.mp listed
  obtain ⟨within, -⟩ := List.getElem?_eq_some_iff.mp inside
  exact ⟨bound, length ▸ within⟩

theorem unsent_advance {turn : Nat} {item : α} (next : setup.itemAt (pool.nextPlace turn) = some item) :
    (pool.advance turn).unsent setup + 1 = pool.unsent setup := by
  obtain ⟨bound, within⟩ := itemAt_some next
  have listed : turn ∈ Finset.range setup.parts.length := Finset.mem_range.mpr bound
  have others : ∑ other ∈ (Finset.range setup.parts.length).erase turn,
      (setup.partLength other - (pool.advance turn).sent other) =
        ∑ other ∈ (Finset.range setup.parts.length).erase turn, (setup.partLength other - pool.sent other) := by
    refine Finset.sum_congr rfl fun other apart => ?_
    have different := (Finset.mem_erase.mp apart).1
    show _ - Function.update pool.sent turn (pool.sent turn + 1) other = _
    rw [Function.update_of_ne different]
  have here : (pool.advance turn).sent turn = pool.sent turn + 1 := Function.update_self ..
  unfold Pool.unsent
  rw [← Finset.add_sum_erase _ _ listed, ← Finset.add_sum_erase _ _ listed, others, here]
  omega

theorem Balanced.holders_le (kept : Balanced setup pool) : pool.holders.length ≤ setup.parts.length := by
  have inside : pool.holders ⊆ List.range setup.parts.length := by
    intro turn holds
    obtain ⟨item, next⟩ := Option.isSome_iff_exists.mp (kept.next turn holds)
    exact List.mem_range.mpr (itemAt_some next).1
  have fewer := (List.subperm_of_subset kept.once inside).length_le
  rwa [List.length_range] at fewer

theorem left_step (kept : Balanced setup pool) (step : Step setup pool after) : after.left setup < pool.left setup := by
  have bound := (balanced_step kept step).holders_le
  unfold Pool.left
  cases step with
  | acquire =>
    simp only [List.length_cons] at bound ⊢
    show 5 * pool.unsent setup + _ + _ + _ + _ < _
    omega
  | @send turn item holds next _ =>
    obtain ⟨length, -, -⟩ := kept.advanced holds
    have fewer := unsent_advance next
    show 5 * (pool.advance turn).unsent setup + (_ - (pool.advance turn).holders.length) +
      3 * (pool.queue ++ [_]).length + 2 * pool.busy.length + pool.stored < _
    rw [List.length_append, List.length_singleton]
    omega
  | @hand turn item holds next _ _ =>
    obtain ⟨length, -, -⟩ := kept.advanced holds
    have fewer := unsent_advance next
    show 5 * (pool.advance turn).unsent setup + (_ - (pool.advance turn).holders.length) +
      3 * pool.queue.length + 2 * (Ticket.mk _ item :: pool.busy).length + pool.stored < _
    rw [List.length_cons]
    omega
  | @receive ticket rest queued _ =>
    have length : pool.queue.length = rest.length + 1 := by rw [queued, List.length_cons]
    show 5 * pool.unsent setup + (_ - pool.holders.length) + 3 * rest.length + 2 * (pool.busy.length + 1) + pool.stored < _
    omega
  | @store before rest ticket result held _ =>
    have length : pool.busy.length = (before ++ rest).length + 1 := by
      rw [held, List.length_append, List.length_append, List.length_cons]
      omega
    show 5 * pool.unsent setup + (_ - pool.holders.length) + 3 * pool.queue.length + 2 * (before ++ rest).length +
      (pool.stored + 1) < _
    omega
  | release some_stored =>
    show 5 * pool.unsent setup + (_ - pool.holders.length) + 3 * pool.queue.length + 2 * pool.busy.length +
      (pool.stored - 1) < _
    omega

/-- No run goes on for ever. -/
theorem no_endless_run (run : Nat → Pool α β) (first : Reachable setup (run 0)) :
    ¬ ∀ n, Step setup (run n) (run (n + 1)) := by
  intro endless
  have reached (n : Nat) : Reachable setup (run n) := by
    induction n with
    | zero => exact first
    | succ n ih => exact ih.tail (endless n)
  have down (n : Nat) : (run n).left setup + n ≤ (run 0).left setup := by
    induction n with
    | zero => omega
    | succ n ih =>
      have less := left_step (balanced_reachable (reached n)) (endless n)
      omega
  have last := down ((run 0).left setup + 1)
  omega

/-- From every state of a run its end can be reached. -/
theorem reaches_end (answerable : ∀ place item, setup.itemAt place = some item → ∃ result, setup.Answers item result)
    (some_worker : 0 < setup.workers) (some_slot : 0 < setup.slots) (reached : Reachable setup pool) :
    ∃ last, Relation.ReflTransGen (Step setup) pool last ∧ Finished setup last := by
  induction hleft : pool.left setup using Nat.strong_induction_on generalizing pool with
  | h left ih =>
    rcases finished_or_step answerable some_worker some_slot reached with done | ⟨after, step⟩
    · exact ⟨pool, .refl, done⟩
    · have less : after.left setup < left := hleft ▸ left_step (balanced_reachable reached) step
      obtain ⟨last, later, done⟩ := ih _ less (reached.tail step) rfl
      exact ⟨last, .head step later, done⟩

end Termination

section Results

variable {setup : Setup α β} {pool : Pool α β}

/-- The results, laid out as the items are. -/
def Pool.table (setup : Setup α β) (pool : Pool α β) : List (List (Option β)) :=
  setup.parts.mapIdx fun turn part => part.mapIdx fun at_ _ => pool.results (turn, at_)

theorem finished_answers (reached : Reachable setup pool) (done : Finished setup pool) {place : Nat × Nat} {item : α}
    (found : setup.itemAt place = some item) :
    ∃ result, pool.results place = some result ∧ setup.Answers item result := by
  have kept := accounted_reachable reached
  have sent : place.2 < pool.sent place.1 := by
    by_contra unsent
    have none_left : setup.itemAt (place.1, pool.sent place.1) = none := done.dispatched place.1
    obtain ⟨part, listed, inside⟩ := Option.bind_eq_some_iff.mp found
    rw [Setup.itemAt, listed, Option.bind_some, List.getElem?_eq_none_iff] at none_left
    obtain ⟨within, -⟩ := List.getElem?_eq_some_iff.mp inside
    omega
  have empty : pool.places = [] := by
    rw [Pool.places, Pool.pending, done.drained, done.ended.1]
    rfl
  rcases kept.covered place (Option.isSome_of_eq_some found) sent with filled | listed
  · obtain ⟨result, filled⟩ := Option.ne_none_iff_exists'.mp filled
    obtain ⟨-, other, same, answer⟩ := kept.answered place result filled
    rw [found] at same
    cases same
    exact ⟨result, filled, answer⟩
  · rw [empty] at listed
    exact absurd listed List.not_mem_nil

/-- At the end of a run every item has one answer, in its own place. -/
theorem finished_table (reached : Reachable setup pool) (done : Finished setup pool) :
    List.Forall₂ (List.Forall₂ fun item slot => ∃ result, slot = some result ∧ setup.Answers item result)
      setup.parts (pool.table setup) := by
  refine List.forall₂_iff_get.mpr ⟨by rw [Pool.table, List.length_mapIdx], fun turn inside _ => ?_⟩
  simp only [Pool.table, List.get_eq_getElem, List.getElem_mapIdx]
  refine List.forall₂_iff_get.mpr ⟨by rw [List.length_mapIdx], fun at_ within _ => ?_⟩
  simp only [List.get_eq_getElem, List.getElem_mapIdx] at within ⊢
  refine finished_answers reached done ?_
  rw [Setup.itemAt, List.getElem?_eq_getElem inside, Option.bind_some, List.getElem?_eq_getElem within]

end Results

end Lib.WorkPool
