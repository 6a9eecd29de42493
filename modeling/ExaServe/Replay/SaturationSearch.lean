import Mathlib.Tactic.Linarith
import ExaServe.Replay.Saturation

namespace ExaServe.Replay.Saturation

open Lib

section Predicates

variable (cfg : SaturationConfig) (healthy : Int → Bool) (cancelled : Nat → Bool)

/-- The bisection is not ended before its next step. -/
def Running (lo hi : Int) (count : Nat) : Prop := cancelled count = false ∧ ¬ withinTolerance cfg lo hi

/-- The bisection measures a rate between the bounds. -/
def Measures (lo hi : Int) (count : Nat) : Prop := Running cfg cancelled lo hi count ∧ (lo + hi) / 2 ≠ lo

/-- While every rate between the bounds is healthy, their sum leaves the 64-bit range. -/
inductive Overflows : Int → Int → Nat → Prop where
  | here {lo hi : Int} {count : Nat} (running : Running cfg cancelled lo hi count) (large : 2 ^ 63 ≤ lo + hi) :
      Overflows lo hi count
  | above {lo hi : Int} {count : Nat} (measures : Measures cfg cancelled lo hi count)
      (well : healthy ((lo + hi) / 2) = true) (later : Overflows ((lo + hi) / 2) hi (count + 1)) :
      Overflows lo hi count

/-- Bisecting down towards the lower bound meets a healthy rate. -/
inductive Confirmed : Int → Int → Nat → Prop where
  | here {lo hi : Int} {count : Nat} (measures : Measures cfg cancelled lo hi count)
      (well : healthy ((lo + hi) / 2) = true) : Confirmed lo hi count
  | lower {lo hi : Int} {count : Nat} (measures : Measures cfg cancelled lo hi count)
      (later : Confirmed lo ((lo + hi) / 2) (count + 1)) : Confirmed lo hi count

/-- Doubling a healthy rate leaves the 64-bit range, or bisecting the bracket that is found does. -/
inductive ProbeOverflows : Int → Nat → Prop where
  | doubled {rate : Int} {count : Nat} (running : cancelled count = false) (well : healthy rate = true)
      (large : 2 ^ 63 ≤ rate * 2) : ProbeOverflows rate count
  | next {rate : Int} {count : Nat} (running : cancelled count = false) (well : healthy rate = true)
      (later : ProbeOverflows (rate * 2) (count + 1)) : ProbeOverflows rate count
  | bracket {rate : Int} {count : Nat} (running : cancelled count = false) (ill : healthy rate = false)
      (later : Overflows cfg healthy cancelled (rate / 2) rate (count + 1)) : ProbeOverflows rate count

/-- Every step says what the oracle does. -/
def Truthful (steps : List (Int × Bool)) : Prop := ∀ step ∈ steps, step.2 = healthy step.1

end Predicates

section Bisection

variable {cfg : SaturationConfig} {healthy : Int → Bool} {cancelled : Nat → Bool} {s : SearchState} {out : Found}

/-- The state after a rate between the bounds is measured. -/
def SearchState.measured (healthy : Int → Bool) (s : SearchState) : SearchState where
  steps := s.steps ++ [((s.lo + s.hi) / 2, healthy ((s.lo + s.hi) / 2))]
  lo := if healthy ((s.lo + s.hi) / 2) = true then (s.lo + s.hi) / 2 else s.lo
  hi := if healthy ((s.lo + s.hi) / 2) = true then s.hi else (s.lo + s.hi) / 2
  overflowed := s.overflowed

/-- Bounds in order, in the 64-bit range. -/
structure Bracket (s : SearchState) : Prop where
  low : 0 ≤ s.lo
  ordered : s.lo < s.hi
  high : s.hi < 2 ^ 63

theorem Bracket.mid_bounds (bracket : Bracket s) (moves : (s.lo + s.hi) / 2 ≠ s.lo) :
    s.lo < (s.lo + s.hi) / 2 ∧ (s.lo + s.hi) / 2 < s.hi := by
  have ordered := bracket.ordered
  omega

theorem Bracket.measured (bracket : Bracket s) (moves : (s.lo + s.hi) / 2 ≠ s.lo) : Bracket (s.measured healthy) := by
  have mid := bracket.mid_bounds moves
  have low := bracket.low
  have high := bracket.high
  by_cases well : healthy ((s.lo + s.hi) / 2) = true
  · constructor
    all_goals simp only [SearchState.measured, if_pos well]
    all_goals omega
  · constructor
    all_goals simp only [SearchState.measured, if_neg well]
    all_goals omega

theorem bisect_stop {fuel : Nat} (bracket : Bracket s) (ended : ¬ Running cfg cancelled s.lo s.hi s.steps.length) :
    bisect cfg healthy cancelled (fuel + 1) s = some ⟨s.steps, s.lo, s.overflowed⟩ := by
  have ordered := bracket.ordered
  have low := bracket.low
  rw [bisect]
  by_cases stopped : cancelled s.steps.length = true
  · rw [if_pos stopped]
  · have close : withinTolerance cfg s.lo s.hi := by
      by_contra far
      exact ended ⟨by simpa using stopped, far⟩
    rw [if_neg stopped, if_pos (.inr close)]

/-- One step of the bisection where no value leaves the range. -/
theorem bisect_step {fuel : Nat} (bracket : Bracket s) (running : Running cfg cancelled s.lo s.hi s.steps.length)
    (small : s.lo + s.hi < 2 ^ 63) :
    bisect cfg healthy cancelled (fuel + 1) s =
      if (s.lo + s.hi) / 2 = s.lo then some ⟨s.steps, s.lo, s.overflowed⟩
      else bisect cfg healthy cancelled fuel (s.measured healthy) := by
  have low := bracket.low
  have ordered := bracket.ordered
  have whole : toInt64 (s.lo + s.hi) = s.lo + s.hi := toInt64_eq (by omega) small
  have half : (s.lo + s.hi).tdiv 2 = (s.lo + s.hi) / 2 := Int.tdiv_eq_ediv_of_nonneg (by omega)
  have going : ¬ (s.hi ≤ 0 ∨ withinTolerance cfg s.lo s.hi) := by
    rintro (flat | close)
    · omega
    · exact running.2 close
  rw [bisect, if_neg (by simp [running.1]), if_neg going]
  simp only [whole, half, ne_eq, not_true_eq_false, decide_false, Bool.or_false]
  by_cases still : (s.lo + s.hi) / 2 = s.lo
  · rw [if_pos still, if_pos still]
  · rw [if_neg still, if_neg still, SearchState.measured]
    by_cases well : healthy ((s.lo + s.hi) / 2) = true
    · simp only [if_pos well]
    · simp only [if_neg well]

/-- Once a value has left the range the search says so. -/
theorem bisect_flag {fuel : Nat} (flagged : s.overflowed = true)
    (found : bisect cfg healthy cancelled fuel s = some out) : out.overflowed = true := by
  induction fuel generalizing s with
  | zero => cases found
  | succ fuel ih =>
    rw [bisect] at found
    simp only [flagged, Bool.true_or] at found
    split at found
    · cases found
      rfl
    · split at found
      · cases found
        rfl
      · split at found
        · cases found
          rfl
        · split at found
          · exact ih rfl found
          · exact ih rfl found

theorem bisect_large {fuel : Nat} (bracket : Bracket s) (running : Running cfg cancelled s.lo s.hi s.steps.length)
    (large : 2 ^ 63 ≤ s.lo + s.hi) (found : bisect cfg healthy cancelled (fuel + 1) s = some out) :
    out.overflowed = true := by
  have ordered := bracket.ordered
  have low := bracket.low
  have going : ¬ (s.hi ≤ 0 ∨ withinTolerance cfg s.lo s.hi) := by
    rintro (flat | close)
    · omega
    · exact running.2 close
  have flag : (s.overflowed || decide (toInt64 (s.lo + s.hi) ≠ s.lo + s.hi)) = true := by
    simp [toInt64_ne large]
  rw [bisect, if_neg (by simp [running.1]), if_neg going] at found
  simp only [flag] at found
  split at found
  · cases found
    rfl
  · split at found
    · exact bisect_flag rfl found
    · exact bisect_flag rfl found

theorem bisect_overflow {lo hi : Int} {count : Nat} (overflows : Overflows cfg healthy cancelled lo hi count)
    {fuel : Nat} (same_lo : s.lo = lo) (same_hi : s.hi = hi) (counted : s.steps.length = count) (bracket : Bracket s)
    (found : bisect cfg healthy cancelled fuel s = some out) : out.overflowed = true := by
  induction overflows generalizing s fuel with
  | @here lo hi count running large =>
    subst same_lo same_hi counted
    cases fuel with
    | zero => cases found
    | succ fuel => exact bisect_large bracket running large found
  | @above lo hi count measures well later ih =>
    subst same_lo same_hi counted
    cases fuel with
    | zero => cases found
    | succ fuel =>
      by_cases large : 2 ^ 63 ≤ s.lo + s.hi
      · exact bisect_large bracket measures.1 large found
      · rw [bisect_step bracket measures.1 (by omega), if_neg measures.2] at found
        apply ih _ _ _ (bracket.measured measures.2) found
        · simp only [SearchState.measured, if_pos well]
        · simp only [SearchState.measured, if_pos well]
        · simp [SearchState.measured]

/-- What a bisection leaves: the lower bound as it was, or a rate measured healthy; the upper
    bound as it was, or a rate measured unhealthy. -/
structure Bisected (cfg : SaturationConfig) (healthy : Int → Bool) (cancelled : Nat → Bool) (s : SearchState)
    (out : Found) (hi : Int) (later : List (Int × Bool)) : Prop where
  steps : out.steps = s.steps ++ later
  flag : out.overflowed = s.overflowed
  truthful : Truthful healthy later
  lower : out.rate = s.lo ∧ (∀ step ∈ later, step.2 = false) ∨ s.lo < out.rate ∧ (out.rate, true) ∈ later
  upper : hi = s.hi ∧ (∀ step ∈ later, step.2 = true) ∨ (hi, false) ∈ later
  gap : out.rate < hi
  high : hi ≤ s.hi
  ended : cancelled out.steps.length = true ∨ withinTolerance cfg out.rate hi ∨ hi - out.rate ≤ 1

/-- Only an upper bound beyond 2^62 overflows. -/
theorem overflows_wide {lo hi : Int} {count : Nat} (overflows : Overflows cfg healthy cancelled lo hi count)
    (ordered : lo < hi) : 2 ^ 62 < hi := by
  induction overflows with
  | here running large => omega
  | above measures well later ih => exact ih (by omega)

theorem not_overflows (small : s.hi ≤ 2 ^ 62) (bracket : Bracket s) :
    ¬ Overflows cfg healthy cancelled s.lo s.hi s.steps.length := by
  intro overflows
  have wide := overflows_wide overflows bracket.ordered
  omega

/-- A measured rate is one more step of what a bisection leaves. -/
theorem Bisected.measured {hi : Int} {later : List (Int × Bool)} (bracket : Bracket s)
    (moves : (s.lo + s.hi) / 2 ≠ s.lo)
    (bisected : Bisected cfg healthy cancelled (s.measured healthy) out hi later) :
    Bisected cfg healthy cancelled s out hi (((s.lo + s.hi) / 2, healthy ((s.lo + s.hi) / 2)) :: later) := by
  have mid := bracket.mid_bounds moves
  have lower := bisected.lower
  have upper := bisected.upper
  constructor
  case steps => rw [bisected.steps, SearchState.measured, List.append_assoc, List.singleton_append]
  case flag => exact bisected.flag
  case truthful =>
    intro step member
    rcases List.mem_cons.mp member with rfl | member
    · rfl
    · exact bisected.truthful step member
  case lower =>
    by_cases well : healthy ((s.lo + s.hi) / 2) = true
    · simp only [SearchState.measured, if_pos well] at lower
      rw [well]
      rcases lower with ⟨same, -⟩ | ⟨more, member⟩
      · exact .inr ⟨by omega, by rw [same]; exact List.mem_cons_self⟩
      · exact .inr ⟨by omega, List.mem_cons_of_mem _ member⟩
    · simp only [SearchState.measured, if_neg well] at lower
      rcases lower with ⟨same, all⟩ | ⟨more, member⟩
      · refine .inl ⟨same, fun step member => ?_⟩
        rcases List.mem_cons.mp member with rfl | member
        · simpa using well
        · exact all step member
      · exact .inr ⟨more, List.mem_cons_of_mem _ member⟩
  case upper =>
    by_cases well : healthy ((s.lo + s.hi) / 2) = true
    · simp only [SearchState.measured, if_pos well] at upper
      rcases upper with ⟨same, all⟩ | member
      · refine .inl ⟨same, fun step member => ?_⟩
        rcases List.mem_cons.mp member with rfl | member
        · exact well
        · exact all step member
      · exact .inr (List.mem_cons_of_mem _ member)
    · simp only [SearchState.measured, if_neg well] at upper
      rw [show healthy ((s.lo + s.hi) / 2) = false by simpa using well]
      rcases upper with ⟨same, -⟩ | member
      · rw [same]
        exact .inr List.mem_cons_self
      · exact .inr (List.mem_cons_of_mem _ member)
  case gap => exact bisected.gap
  case high =>
    apply bisected.high.trans
    simp only [SearchState.measured]
    split_ifs
    all_goals omega
  case ended => exact bisected.ended

theorem bisected_here (bracket : Bracket s)
    (ended : cancelled s.steps.length = true ∨ withinTolerance cfg s.lo s.hi ∨ s.hi - s.lo ≤ 1) :
    Bisected cfg healthy cancelled s ⟨s.steps, s.lo, s.overflowed⟩ s.hi [] where
  steps := by rw [List.append_nil]
  flag := rfl
  truthful := nofun
  lower := .inl ⟨rfl, nofun⟩
  upper := .inl ⟨rfl, nofun⟩
  gap := bracket.ordered
  high := le_rfl
  ended := ended

theorem not_confirmed (ended : ¬ Measures cfg cancelled s.lo s.hi s.steps.length) :
    ¬ Confirmed cfg healthy cancelled s.lo s.hi s.steps.length := by
  intro confirmed
  cases confirmed with
  | here measures well => exact ended measures
  | lower measures later => exact ended measures

theorem fits_measured (bracket : Bracket s) (measures : Measures cfg cancelled s.lo s.hi s.steps.length)
    (small : s.lo + s.hi < 2 ^ 63) (fits : ¬ Overflows cfg healthy cancelled s.lo s.hi s.steps.length) :
    ¬ Overflows cfg healthy cancelled (s.measured healthy).lo (s.measured healthy).hi
      (s.measured healthy).steps.length := by
  by_cases well : healthy ((s.lo + s.hi) / 2) = true
  · intro later
    apply fits
    apply Overflows.above measures well
    simpa [SearchState.measured, well] using later
  · apply not_overflows _ (bracket.measured measures.2)
    simp only [SearchState.measured, if_neg well]
    omega

/-- Where nothing overflows, a bisection that ends leaves what it should, and moves the lower
    bound exactly if a healthy rate is met below. -/
theorem bisect_spec {fuel : Nat} (bracket : Bracket s)
    (fits : ¬ Overflows cfg healthy cancelled s.lo s.hi s.steps.length)
    (found : bisect cfg healthy cancelled fuel s = some out) :
    (∃ hi later, Bisected cfg healthy cancelled s out hi later) ∧
      (out.rate ≠ s.lo ↔ Confirmed cfg healthy cancelled s.lo s.hi s.steps.length) := by
  induction fuel generalizing s with
  | zero => cases found
  | succ fuel ih =>
    by_cases running : Running cfg cancelled s.lo s.hi s.steps.length
    · have small : s.lo + s.hi < 2 ^ 63 := by
        by_contra large
        exact fits (.here running (by omega))
      rw [bisect_step bracket running small] at found
      by_cases still : (s.lo + s.hi) / 2 = s.lo
      · rw [if_pos still] at found
        cases found
        refine ⟨⟨_, _, bisected_here bracket (.inr (.inr (by omega)))⟩, ?_⟩
        exact iff_of_false (fun moved => moved rfl) (not_confirmed fun measures => measures.2 still)
      · rw [if_neg still] at found
        have mid := bracket.mid_bounds still
        obtain ⟨⟨final, later, bisected⟩, moved⟩ :=
          ih (bracket.measured still) (fits_measured bracket ⟨running, still⟩ small fits) found
        refine ⟨⟨final, _, bisected.measured bracket still⟩, ?_⟩
        by_cases well : healthy ((s.lo + s.hi) / 2) = true
        · have above : s.lo < out.rate := by
            have lower := bisected.lower
            simp only [SearchState.measured, if_pos well] at lower
            omega
          exact iff_of_true (by omega) (.here ⟨running, still⟩ well)
        · simp only [SearchState.measured, if_neg well, List.length_append, List.length_singleton] at moved
          rw [moved]
          constructor
          · intro confirmed
            exact .lower ⟨running, still⟩ confirmed
          · intro confirmed
            cases confirmed with
            | here measures healthy_mid => exact absurd healthy_mid well
            | lower measures confirmed => exact confirmed
    · rw [bisect_stop bracket running] at found
      cases found
      refine ⟨⟨_, _, bisected_here bracket ?_⟩, ?_⟩
      · by_cases stopped : cancelled s.steps.length = true
        · exact .inl stopped
        · refine .inr (.inl ?_)
          by_contra far
          exact running ⟨by simpa using stopped, far⟩
      · exact iff_of_false (fun moved => moved rfl) (not_confirmed fun measures => running measures.1)

/-- Where nothing overflows the bisection ends. -/
theorem bisect_ends (bracket : Bracket s) (fits : ¬ Overflows cfg healthy cancelled s.lo s.hi s.steps.length) :
    ∃ fuel out, bisect cfg healthy cancelled fuel s = some out := by
  induction width : (s.hi - s.lo).toNat using Nat.strong_induction_on generalizing s with
  | _ width ih =>
    by_cases running : Running cfg cancelled s.lo s.hi s.steps.length
    · have small : s.lo + s.hi < 2 ^ 63 := by
        by_contra large
        exact fits (.here running (by omega))
      by_cases still : (s.lo + s.hi) / 2 = s.lo
      · exact ⟨1, _, by rw [bisect_step bracket running small, if_pos still]⟩
      · have mid := bracket.mid_bounds still
        have narrower : ((s.measured healthy).hi - (s.measured healthy).lo).toNat < (s.hi - s.lo).toNat := by
          by_cases well : healthy ((s.lo + s.hi) / 2) = true
          · simp only [SearchState.measured, if_pos well]
            omega
          · simp only [SearchState.measured, if_neg well]
            omega
        have fits_later := fits_measured bracket ⟨running, still⟩ small fits
        obtain ⟨fuel, out, found⟩ := ih _ (width ▸ narrower) (bracket.measured still) fits_later rfl
        exact ⟨fuel + 1, out, by rw [bisect_step bracket running small, if_neg still, found]⟩
    · exact ⟨1, _, bisect_stop bracket running⟩

end Bisection

end ExaServe.Replay.Saturation
