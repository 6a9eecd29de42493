import ExaServe.Replay.SaturationSearch

namespace ExaServe.Replay.Saturation

open Lib

section Probing

variable {cfg : SaturationConfig} {healthy : Int → Bool} {cancelled : Nat → Bool} {steps : List (Int × Bool)}
  {rate last first : Int} {overflowed : Bool} {fuel : Nat}

/-- A probe before its next rate: nothing measured yet, or half the rate was healthy last. -/
structure Probing (healthy : Int → Bool) (first : Int) (steps : List (Int × Bool)) (rate last : Int) : Prop where
  positive : 0 < rate
  small : rate < 2 ^ 63
  truthful : Truthful healthy steps
  well : ∀ step ∈ steps, step.2 = true
  half : steps = [] ∧ last = 0 ∧ rate = first ∨
    last * 2 = rate ∧ (last, true) ∈ steps ∧ healthy first = true

theorem Probing.next (probing : Probing healthy first steps rate last) (well : healthy rate = true)
    (small : rate * 2 < 2 ^ 63) : Probing healthy first (steps ++ [(rate, true)]) (rate * 2) rate := by
  have positive := probing.positive
  have begun : healthy first = true := by
    rcases probing.half with ⟨-, -, start⟩ | ⟨-, -, begun⟩
    · rwa [← start]
    · exact begun
  refine ⟨by omega, small, ?_, ?_, .inr ⟨rfl, by simp, begun⟩⟩
  · intro step member
    rcases List.mem_append.mp member with before | now
    · exact probing.truthful step before
    · rw [List.mem_singleton.mp now, well]
  · intro step member
    rcases List.mem_append.mp member with before | now
    · exact probing.well step before
    · rw [List.mem_singleton.mp now]

/-- The lower bound of the bracket is half the unhealthy rate. -/
theorem Probing.lower (probing : Probing healthy first steps rate last) :
    (if last = 0 then rate.tdiv 2 else last) = rate / 2 := by
  have positive := probing.positive
  split_ifs with zero
  · exact Int.tdiv_eq_ediv_of_nonneg positive.le
  · rcases probing.half with ⟨-, absent, -⟩ | ⟨doubled, -, -⟩
    · exact absurd absent zero
    · omega

/-- One turn of the probe where no value leaves the range. -/
theorem probe_step (probing : Probing healthy first steps rate last) (running : cancelled steps.length = false) :
    probe healthy cancelled (fuel + 1) steps rate last overflowed =
      if healthy rate = true then
        probe healthy cancelled fuel (steps ++ [(rate, true)]) (toInt64 (rate * 2)) rate
          (overflowed || decide (toInt64 (rate * 2) ≠ rate * 2))
      else some (.inr ⟨steps ++ [(rate, false)], rate / 2, rate, overflowed⟩) := by
  have positive := probing.positive
  rw [probe, if_neg (by simp [running])]
  by_cases well : healthy rate = true
  · rw [if_pos well, if_pos well]
  · rw [if_neg well, if_neg well, if_neg (by omega), probing.lower]

theorem toInt64_double (probing : Probing healthy first steps rate last) (small : rate * 2 < 2 ^ 63) :
    toInt64 (rate * 2) = rate * 2 := by
  have positive := probing.positive
  exact toInt64_eq (by omega) small

/-- What the probe hands over: a search that was cancelled, or a bracket. -/
inductive Probed (cfg : SaturationConfig) (healthy : Int → Bool) (cancelled : Nat → Bool) (first : Int) :
    Found ⊕ SearchState → Prop where
  | cut {steps : List (Int × Bool)} {last : Int} (stopped : cancelled steps.length = true)
      (truthful : Truthful healthy steps) (well : ∀ step ∈ steps, step.2 = true)
      (best : steps = [] ∧ last = 0 ∨ 0 < last ∧ (last, true) ∈ steps ∧ healthy first = true) :
      Probed cfg healthy cancelled first (.inl ⟨steps, last, false⟩)
  | bracket {steps : List (Int × Bool)} {hi : Int} (positive : 0 < hi) (small : hi < 2 ^ 63)
      (truthful : Truthful healthy steps) (ill : (hi, false) ∈ steps)
      (fits : ¬ Overflows cfg healthy cancelled (hi / 2) hi steps.length)
      (lower : steps = [(hi, false)] ∧ hi = first ∧ cancelled 0 = false ∨
        (hi / 2, true) ∈ steps ∧ 0 < hi / 2 ∧ healthy first = true) :
      Probed cfg healthy cancelled first (.inr ⟨steps, hi / 2, hi, false⟩)

theorem probe_spec (probing : Probing healthy first steps rate last)
    (fits : ¬ ProbeOverflows cfg healthy cancelled rate steps.length) {result : Found ⊕ SearchState}
    (found : probe healthy cancelled fuel steps rate last false = some result) :
    Probed cfg healthy cancelled first result := by
  induction fuel generalizing steps rate last with
  | zero => cases found
  | succ fuel ih =>
    have positive := probing.positive
    by_cases running : cancelled steps.length = false
    · rw [probe_step probing running] at found
      by_cases well : healthy rate = true
      · have small : rate * 2 < 2 ^ 63 := by
          by_contra large
          exact fits (.doubled running well (by omega))
        rw [if_pos well, toInt64_double probing small] at found
        simp only [ne_eq, not_true_eq_false, decide_false, Bool.or_false] at found
        apply ih (probing.next well small) _ found
        rw [List.length_append, List.length_singleton]
        exact fun later => fits (.next running well later)
      · rw [if_neg well] at found
        cases found
        have ill : healthy rate = false := by simpa using well
        refine .bracket positive probing.small ?_ (by simp) ?_ ?_
        · intro step member
          rcases List.mem_append.mp member with before | now
          · exact probing.truthful step before
          · rw [List.mem_singleton.mp now, ill]
        · rw [List.length_append, List.length_singleton]
          exact fun later => fits (.bracket running ill later)
        · rcases probing.half with ⟨none, -, start⟩ | ⟨doubled, member, begun⟩
          · subst none
            exact .inl ⟨rfl, start, running⟩
          · refine .inr ⟨?_, by omega, begun⟩
            rw [show rate / 2 = last by omega]
            exact List.mem_append_left _ member
    · have stopped : cancelled steps.length = true := by simpa using running
      rw [probe, if_pos stopped] at found
      cases found
      refine .cut stopped probing.truthful probing.well ?_
      rcases probing.half with ⟨none, zero, -⟩ | ⟨doubled, member, begun⟩
      · exact .inl ⟨none, zero⟩
      · exact .inr ⟨by omega, member, begun⟩

/-- Where nothing overflows the probe ends. -/
theorem probe_ends (probing : Probing healthy first steps rate last)
    (fits : ¬ ProbeOverflows cfg healthy cancelled rate steps.length) :
    ∃ fuel result, probe healthy cancelled fuel steps rate last false = some result := by
  induction room : (2 ^ 63 - rate).toNat using Nat.strong_induction_on generalizing steps rate last with
  | _ room ih =>
    have positive := probing.positive
    by_cases running : cancelled steps.length = false
    · by_cases well : healthy rate = true
      · have small : rate * 2 < 2 ^ 63 := by
          by_contra large
          exact fits (.doubled running well (by omega))
        have fits_later : ¬ ProbeOverflows cfg healthy cancelled (rate * 2) (steps ++ [(rate, true)]).length := by
          rw [List.length_append, List.length_singleton]
          exact fun later => fits (.next running well later)
        obtain ⟨fuel, result, found⟩ := ih _ (by omega) (probing.next well small) fits_later rfl
        refine ⟨fuel + 1, result, ?_⟩
        rw [probe_step probing running, if_pos well, toInt64_double probing small]
        simpa using found
      · exact ⟨1, _, by rw [probe_step probing running, if_neg well]⟩
    · exact ⟨1, _, by rw [probe, if_pos (by simpa using running)]⟩

/-- A result that says, or whose bracket says once it is bisected, that a value left the range. -/
def Flagged (cfg : SaturationConfig) (healthy : Int → Bool) (cancelled : Nat → Bool) : Found ⊕ SearchState → Prop
  | .inl found => found.overflowed = true
  | .inr s => s.overflowed = true ∨ Bracket s ∧ Overflows cfg healthy cancelled s.lo s.hi s.steps.length

theorem probe_flag {result : Found ⊕ SearchState}
    (found : probe healthy cancelled fuel steps rate last true = some result) :
    Flagged cfg healthy cancelled result := by
  induction fuel generalizing steps rate last with
  | zero => cases found
  | succ fuel ih =>
    rw [probe] at found
    split at found
    · cases found
      rfl
    · split at found
      · rw [Bool.true_or] at found
        exact ih found
      · by_cases flat : rate ≤ 0
        · rw [if_pos flat] at found
          cases found
          rfl
        · rw [if_neg flat] at found
          cases found
          exact .inl rfl

theorem probe_overflow {count : Nat} (overflows : ProbeOverflows cfg healthy cancelled rate count)
    (probing : Probing healthy first steps rate last) (counted : steps.length = count) {result : Found ⊕ SearchState}
    (found : probe healthy cancelled fuel steps rate last overflowed = some result) :
    Flagged cfg healthy cancelled result := by
  induction overflows generalizing steps last fuel overflowed with
  | @doubled rate count running well large =>
    subst counted
    cases fuel with
    | zero => cases found
    | succ fuel =>
      rw [probe_step probing running, if_pos well, decide_eq_true (toInt64_ne large), Bool.or_true] at found
      exact probe_flag found
  | @next rate count running well later ih =>
    subst counted
    cases fuel with
    | zero => cases found
    | succ fuel =>
      rw [probe_step probing running, if_pos well] at found
      by_cases large : 2 ^ 63 ≤ rate * 2
      · rw [decide_eq_true (toInt64_ne large), Bool.or_true] at found
        exact probe_flag found
      · rw [toInt64_double probing (by omega)] at found
        exact ih (probing.next well (by omega)) (by simp) found
  | @bracket rate count running ill later =>
    subst counted
    cases fuel with
    | zero => cases found
    | succ fuel =>
      have positive := probing.positive
      have small := probing.small
      rw [probe_step probing running, if_neg (by simp [ill])] at found
      cases found
      refine .inr ⟨⟨by simp only; omega, by simp only; omega, small⟩, ?_⟩
      simpa using later

end Probing

section Results

variable (cfg : SaturationConfig) (healthy : Int → Bool) (cancelled : Nat → Bool)

/-- What a report promises: no value left the range, a positive rate was measured and healthy,
    zero means that none was, and for an oracle that is healthy up to a rate the report is within
    the tolerance below it, as the search compares them and in exact numbers. -/
structure Sound (out : Found) : Prop where
  inRange : out.overflowed = false
  measured : 0 < out.rate → (out.rate, true) ∈ out.steps
  zero : out.rate = 0 ↔ ∀ step ∈ out.steps, step.2 = false
  limit : ∀ limit : Int, 0 ≤ limit → (∀ rate, 0 < rate → (healthy rate = true ↔ rate ≤ limit)) →
    out.rate ≤ limit ∧
    ((cfg.maxRate = 0 ∨ ∃ step ∈ out.steps, step.2 = false) → (∀ count ≤ out.steps.length, cancelled count = false) →
      ∃ h, (h, false) ∈ out.steps ∧ limit < h ∧ (h - out.rate ≤ 1 ∨ withinTolerance cfg out.rate h) ∧
        ((h - out.rate : Int) : ℚ) ≤ max 1 (cfg.tolerance * h * (1 + 1 / 2 ^ 51)))

/-- No value leaves the range, and a lower bound that was not measured is confirmed by a
    healthy rate above it. -/
def Measurable : Prop :=
  if cfg.maxRate = 0 then
    ¬ ProbeOverflows cfg healthy cancelled cfg.initialRate 0 ∧
      (cancelled 0 = false → healthy cfg.initialRate = false → 2 ≤ cfg.initialRate →
        Confirmed cfg healthy cancelled (cfg.initialRate / 2) cfg.initialRate 1)
  else
    ¬ Overflows cfg healthy cancelled cfg.initialRate cfg.maxRate 0 ∧
      Confirmed cfg healthy cancelled cfg.initialRate cfg.maxRate 0

variable {cfg healthy cancelled} {s : SearchState} {out : Found}

/-- The stop test in exact numbers, up to the rounding of the quotient it compares. -/
theorem tolerance_gap {lo hi : Int} (natural : 0 ≤ lo) (gap : lo < hi) (small : hi < 2 ^ 63)
    (near : hi - lo ≤ 1 ∨ withinTolerance cfg lo hi) :
    ((hi - lo : Int) : ℚ) ≤ max 1 (cfg.tolerance * hi * (1 + 1 / 2 ^ 51)) := by
  rcases near with close | within
  · apply le_max_of_le_left
    exact_mod_cast close
  · apply le_max_of_le_right
    rw [withinTolerance, toInt64_eq (by omega) (by omega)] at within
    exact floatQuotient_le (by omega) (by omega) small within

/-- A bisection from a lower bound that is measured, or moved, or zero, is sound. -/
theorem sound_of_bisected {hi : Int} {later : List (Int × Bool)} (bracket : Bracket s) (flag : s.overflowed = false)
    (truthful : Truthful healthy s.steps) (bisected : Bisected cfg healthy cancelled s out hi later)
    (lower : (s.lo, true) ∈ s.steps ∧ 0 < s.lo ∨ out.rate ≠ s.lo ∨ s.lo = 0 ∧ ∀ step ∈ s.steps, step.2 = false)
    (upper : (s.hi, false) ∈ s.steps ∨ cfg.maxRate ≠ 0 ∧ s.steps = []) : Sound cfg healthy cancelled out := by
  have low := bracket.low
  have gap := bisected.gap
  have all_truthful : Truthful healthy out.steps := by
    intro step member
    rw [bisected.steps] at member
    rcases List.mem_append.mp member with before | after
    · exact truthful step before
    · exact bisected.truthful step after
  have inside : ∀ step ∈ s.steps, step ∈ out.steps := by
    intro step member
    rw [bisected.steps]
    exact List.mem_append_left _ member
  have after : ∀ step ∈ later, step ∈ out.steps := by
    intro step member
    rw [bisected.steps]
    exact List.mem_append_right _ member
  have measured : 0 < out.rate → (out.rate, true) ∈ out.steps := by
    intro positive
    rcases bisected.lower with ⟨same, -⟩ | ⟨-, member⟩
    · rcases lower with ⟨member, -⟩ | moved | ⟨zero, -⟩
      · rw [same]
        exact inside _ member
      · exact absurd same moved
      · omega
    · exact after _ member
  have natural : 0 ≤ out.rate := by
    rcases bisected.lower with ⟨same, -⟩ | ⟨more, -⟩
    · omega
    · omega
  constructor
  case inRange => rw [bisected.flag, flag]
  case measured => exact measured
  case zero =>
    constructor
    · intro zero
      rcases bisected.lower with ⟨same, none_later⟩ | ⟨more, -⟩
      · rcases lower with ⟨-, positive⟩ | moved | ⟨-, none_before⟩
        · omega
        · exact absurd same moved
        · intro step member
          rw [bisected.steps] at member
          rcases List.mem_append.mp member with before | member
          · exact none_before step before
          · exact none_later step member
      · omega
    · intro none
      by_contra some_rate
      exact absurd (none _ (measured (by omega))) (by simp)
  case limit =>
    intro limit natural_limit monotone
    constructor
    · rcases natural.lt_or_eq with positive | zero
      · exact (monotone _ positive).mp (all_truthful _ (measured positive)).symm
      · omega
    · intro uncut running
      have ill : (hi, false) ∈ out.steps := by
        rcases bisected.upper with ⟨same, all_well⟩ | member
        · rcases upper with member | ⟨given, none⟩
          · rw [same]
            exact inside _ member
          · obtain ⟨step, member, bad⟩ := uncut.resolve_left given
            rw [bisected.steps, none, List.nil_append] at member
            rw [all_well step member] at bad
            cases bad
        · exact after _ member
      have near : hi - out.rate ≤ 1 ∨ withinTolerance cfg out.rate hi := by
        rcases bisected.ended with stopped | close | near
        · rw [running _ le_rfl] at stopped
          cases stopped
        · exact .inr close
        · exact .inl near
      refine ⟨hi, ill, ?_, near, ?_⟩
      · by_contra under
        have well := (monotone hi (by omega)).mpr (by omega)
        rw [← all_truthful _ ill] at well
        cases well
      · exact tolerance_gap natural gap (bisected.high.trans_lt bracket.high) near

/-- A probe that was cancelled reports the last rate it measured. -/
theorem sound_of_cut {steps : List (Int × Bool)} {last first : Int} (stopped : cancelled steps.length = true)
    (truthful : Truthful healthy steps)
    (best : steps = [] ∧ last = 0 ∨ 0 < last ∧ (last, true) ∈ steps ∧ healthy first = true) :
    Sound cfg healthy cancelled ⟨steps, last, false⟩ := by
  constructor
  case inRange => rfl
  case measured =>
    intro positive
    rcases best with ⟨-, zero⟩ | ⟨-, member, -⟩
    · exact absurd positive (by simp [zero])
    · exact member
  case zero =>
    constructor
    · intro zero step member
      rcases best with ⟨none, -⟩ | ⟨positive, -, -⟩
      · rw [none] at member
        cases member
      · exact absurd zero positive.ne'
    · intro none
      rcases best with ⟨-, zero⟩ | ⟨-, member, -⟩
      · exact zero
      · exact absurd (none _ member) (by simp)
  case limit =>
    intro limit natural monotone
    constructor
    · rcases best with ⟨-, zero⟩ | ⟨positive, member, -⟩
      · exact zero.symm ▸ natural
      · exact (monotone last positive).mp (truthful _ member).symm
    · intro _ running
      rw [running _ le_rfl] at stopped
      cases stopped

/-- A bisection whose lower bound was not measured and does not move is not sound. -/
theorem not_sound {hi : Int} {later : List (Int × Bool)} (bisected : Bisected cfg healthy cancelled s out hi later)
    (positive : 0 < s.lo) (stays : out.rate = s.lo) (none : ∀ step ∈ s.steps, step.2 = false) :
    ¬ Sound cfg healthy cancelled out := by
  intro sound
  have member := sound.measured (by omega)
  rw [bisected.steps] at member
  rcases List.mem_append.mp member with before | after
  · exact absurd (none _ before) (by simp)
  · rcases bisected.lower with ⟨-, none_later⟩ | ⟨more, -⟩
    · exact absurd (none_later _ after) (by simp)
    · omega

/-- A search that ends, and what it reports is sound. -/
def SearchSound (cfg : SaturationConfig) (healthy : Int → Bool) (cancelled : Nat → Bool) : Prop :=
  ∃ probes bisections out, binarySearch cfg healthy cancelled probes bisections = some out ∧
    Sound cfg healthy cancelled out

theorem search_sound_given (initial : 0 < cfg.initialRate) (word : cfg.initialRate < 2 ^ 63)
    (given : 0 < cfg.maxRate) (maximum : cfg.maxRate < 2 ^ 63) (positive : 0 < cfg.tolerance) :
    SearchSound cfg healthy cancelled ↔
      ¬ Overflows cfg healthy cancelled cfg.initialRate cfg.maxRate 0 ∧
        Confirmed cfg healthy cancelled cfg.initialRate cfg.maxRate 0 := by
  have run : ∀ probes bisections, binarySearch cfg healthy cancelled probes bisections =
      bisect cfg healthy cancelled bisections ⟨[], cfg.initialRate, cfg.maxRate, false⟩ := by
    intro probes bisections
    rw [binarySearch, if_neg (by omega)]
  by_cases ordered : cfg.initialRate < cfg.maxRate
  · have bracket : Bracket ⟨[], cfg.initialRate, cfg.maxRate, false⟩ := ⟨initial.le, ordered, maximum⟩
    constructor
    · rintro ⟨probes, bisections, out, found, sound⟩
      rw [run] at found
      have fits : ¬ Overflows cfg healthy cancelled cfg.initialRate cfg.maxRate 0 := by
        intro overflows
        have flagged := bisect_overflow overflows rfl rfl rfl bracket found
        rw [sound.inRange] at flagged
        cases flagged
      obtain ⟨⟨hi, later, bisected⟩, moved⟩ := bisect_spec bracket fits found
      refine ⟨fits, moved.mp fun stays => ?_⟩
      exact not_sound bisected initial stays nofun sound
    · rintro ⟨fits, confirmed⟩
      obtain ⟨bisections, out, found⟩ := bisect_ends bracket fits
      obtain ⟨⟨hi, later, bisected⟩, moved⟩ := bisect_spec bracket fits found
      exact ⟨0, bisections, out, by rw [run, found], sound_of_bisected bracket rfl nofun bisected
        (.inr (.inl (moved.mpr confirmed))) (.inr ⟨by omega, rfl⟩)⟩
  · -- an upper bound that is not above the first rate ends the search before its first step
    have close : withinTolerance cfg cfg.initialRate cfg.maxRate := by
      have difference : toInt64 (cfg.maxRate - cfg.initialRate) = cfg.maxRate - cfg.initialRate :=
        toInt64_eq (by omega) (by omega)
      rw [withinTolerance, difference]
      exact (floatQuotient_nonpos (by omega)).trans positive.le
    apply iff_of_false
    · rintro ⟨probes, bisections, out, found, sound⟩
      rw [run] at found
      cases bisections with
      | zero => cases found
      | succ fuel =>
        have ended : out = ⟨[], cfg.initialRate, false⟩ := by
          rw [bisect] at found
          split at found
          · exact (Option.some.inj found).symm
          · rw [if_pos (.inr close)] at found
            exact (Option.some.inj found).symm
        subst ended
        exact absurd (sound.measured initial) List.not_mem_nil
    · rintro ⟨-, confirmed⟩
      cases confirmed with
      | here measures well => exact measures.1.2 close
      | lower measures later => exact measures.1.2 close

theorem search_sound_probed (initial : 0 < cfg.initialRate) (word : cfg.initialRate < 2 ^ 63)
    (auto : cfg.maxRate = 0) : SearchSound cfg healthy cancelled ↔
      ¬ ProbeOverflows cfg healthy cancelled cfg.initialRate 0 ∧
        (cancelled 0 = false → healthy cfg.initialRate = false → 2 ≤ cfg.initialRate →
          Confirmed cfg healthy cancelled (cfg.initialRate / 2) cfg.initialRate 1) := by
  have start : Probing healthy cfg.initialRate [] cfg.initialRate 0 :=
    ⟨initial, word, nofun, nofun, .inl ⟨rfl, rfl, rfl⟩⟩
  constructor
  · rintro ⟨probes, bisections, out, found, sound⟩
    rw [binarySearch, if_pos auto.le] at found
    cases probed : probe healthy cancelled probes [] cfg.initialRate 0 false with
    | none =>
      rw [probed] at found
      cases found
    | some result =>
      rw [probed] at found
      have fits : ¬ ProbeOverflows cfg healthy cancelled cfg.initialRate 0 := by
        intro overflows
        have flagged := probe_overflow overflows start rfl probed
        have inRange := sound.inRange
        cases result with
        | inl ended =>
          cases found
          rw [show out.overflowed = true from flagged] at inRange
          cases inRange
        | inr s =>
          have out_flagged : out.overflowed = true := by
            rcases flagged with flagged | ⟨bracket, overflows⟩
            · exact bisect_flag flagged found
            · exact bisect_overflow overflows rfl rfl rfl bracket found
          rw [out_flagged] at inRange
          cases inRange
      refine ⟨fits, ?_⟩
      intro running ill wide
      cases probe_spec start fits probed with
      | @cut steps last stopped truthful well best =>
        cases found
        rcases best with ⟨none, -⟩ | ⟨-, -, begun⟩
        · subst none
          rw [List.length_nil, running] at stopped
          cases stopped
        · rw [ill] at begun
          cases begun
      | @bracket steps hi positive small truthful bad fits lower =>
        have bracket : Bracket ⟨steps, hi / 2, hi, false⟩ := ⟨by simp only; omega, by simp only; omega, small⟩
        rcases lower with ⟨steps_eq, same, -⟩ | ⟨-, -, begun⟩
        · subst steps_eq
          subst hi
          obtain ⟨⟨final, later, bisected⟩, moved⟩ := bisect_spec bracket fits found
          apply moved.mp
          intro stays
          refine not_sound bisected (by simp only; omega) stays ?_ sound
          simp
        · rw [ill] at begun
          cases begun
  · rintro ⟨fits, confirmed⟩
    obtain ⟨probes, result, probed⟩ := probe_ends start fits
    cases probe_spec start fits probed with
    | @cut steps last stopped truthful well best =>
      exact ⟨probes, 0, ⟨steps, last, false⟩, by rw [binarySearch, if_pos auto.le, probed], sound_of_cut stopped truthful best⟩
    | @bracket steps hi positive small truthful bad fits lower =>
      have bracket : Bracket ⟨steps, hi / 2, hi, false⟩ := ⟨by simp only; omega, by simp only; omega, small⟩
      obtain ⟨bisections, out, found⟩ := bisect_ends bracket fits
      obtain ⟨⟨final, later, bisected⟩, moved⟩ := bisect_spec bracket fits found
      refine ⟨probes, bisections, out, by rw [binarySearch, if_pos auto.le, probed]; exact found, ?_⟩
      apply sound_of_bisected bracket rfl truthful bisected _ (.inl bad)
      rcases lower with ⟨steps_eq, same, running⟩ | ⟨member, half, -⟩
      · subst steps_eq
        subst hi
        have ill : healthy cfg.initialRate = false := (truthful (cfg.initialRate, false) bad).symm
        by_cases wide : 2 ≤ cfg.initialRate
        · exact .inr (.inl (moved.mpr (confirmed running ill wide)))
        · exact .inr (.inr ⟨by simp only; omega, by simp⟩)
      · exact .inl ⟨member, half⟩

theorem ok_of_guard {refused : Prop} [Decidable refused] {message : String} {rest : Except String Unit}
    (accepted : (if refused then .error message else rest) = .ok ()) : ¬ refused ∧ rest = .ok () := by
  split_ifs at accepted with holds
  exact ⟨holds, accepted⟩

/-- The rates and the tolerance of an accepted configuration. -/
theorem validate_rates (accepted : cfg.validate = .ok ()) (mode : cfg.searchMode = "binary") :
    0 < cfg.initialRate ∧ 0 ≤ cfg.maxRate ∧ 0 < cfg.tolerance ∧ cfg.tolerance < 1 := by
  rw [SaturationConfig.validate] at accepted
  obtain ⟨-, accepted⟩ := ok_of_guard accepted
  obtain ⟨-, accepted⟩ := ok_of_guard accepted
  obtain ⟨-, accepted⟩ := ok_of_guard accepted
  obtain ⟨-, accepted⟩ := ok_of_guard accepted
  obtain ⟨-, accepted⟩ := ok_of_guard accepted
  obtain ⟨-, accepted⟩ := ok_of_guard accepted
  obtain ⟨-, accepted⟩ := ok_of_guard accepted
  obtain ⟨tolerance, accepted⟩ := ok_of_guard accepted
  obtain ⟨-, accepted⟩ := ok_of_guard accepted
  obtain ⟨-, accepted⟩ := ok_of_guard accepted
  rw [SaturationConfig.validateMode, mode] at accepted
  obtain ⟨initial, accepted⟩ := ok_of_guard accepted
  obtain ⟨maximum, -⟩ := ok_of_guard accepted
  push Not at tolerance initial maximum
  exact ⟨initial, maximum, tolerance⟩

/-- A search of an accepted configuration ends and reports a measured rate exactly when no value
    leaves the 64-bit range and every lower bound it may report is measured. -/
theorem search_sound_iff (accepted : cfg.validate = .ok ()) (mode : cfg.searchMode = "binary")
    (initial : cfg.initialRate < 2 ^ 63) (maximum : cfg.maxRate < 2 ^ 63) :
    SearchSound cfg healthy cancelled ↔ Measurable cfg healthy cancelled := by
  obtain ⟨positive, natural, tolerance, -⟩ := validate_rates accepted mode
  unfold Measurable
  split_ifs with auto
  · exact search_sound_probed positive initial auto
  · exact search_sound_given positive initial (by omega) maximum tolerance

/-- From a first rate up to 2^62, an oracle that is unhealthy beyond 2^61 overflows nothing. -/
theorem probe_fits {top : Int} (ill : ∀ rate, top < rate → healthy rate = false) (knee : top ≤ 2 ^ 61) {rate : Int}
    {count : Nat} (overflows : ProbeOverflows cfg healthy cancelled rate count) (positive : 0 < rate) :
    2 ^ 62 < rate := by
  have below : ∀ rate, healthy rate = true → rate ≤ top := by
    intro rate well
    by_contra above
    rw [ill rate (by omega)] at well
    cases well
  induction overflows with
  | doubled running well large =>
    have low := below _ well
    omega
  | next running well later ih =>
    have low := below _ well
    have high := ih (by omega)
    omega
  | bracket running bad later => exact overflows_wide later (by omega)

end Results

section Sample

/-- One server, searched from a rate of 1 with no upper bound given. -/
def sampleConfig : SaturationConfig where
  baseURLs := ["http://127.0.0.1:8000"]
  maxActive := 64
  numGoWorkers := 4
  timeoutSec := 120
  searchMode := "binary"
  initialRate := 1
  maxRate := 0
  stepDuration := 30
  warmupDuration := 10
  cooldownPause := 5
  tolerance := 1 / 20
  maxErrorRate := 1 / 20
  plateauRatio := 9 / 10
  stepUpStart := 1
  stepUpEnd := 10
  stepUpIncrement := 1

/-- A server that is healthy up to a rate of 5. -/
def upToFive (rate : Int) : Bool := decide (rate ≤ 5)

/-- The knee of one server is found. -/
theorem one_server_found : SearchSound sampleConfig upToFive (fun _ => false) := by
  apply (search_sound_iff (by decide +kernel) rfl (by decide) (by decide)).mpr
  rw [Measurable, if_pos (show sampleConfig.maxRate = 0 from rfl)]
  constructor
  · intro overflows
    have ill : ∀ rate, 5 < rate → upToFive rate = false := by
      intro rate above
      exact decide_eq_false (by omega)
    have wide := probe_fits ill (by decide) overflows (by decide)
    exact absurd wide (by decide)
  · intro _ ill
    exact absurd ill (by decide)

/-- Searched from a rate of 10, a server that is healthy up to 2. -/
def upToTwo (rate : Int) : Bool := decide (rate ≤ 2)

/-- The search reports a rate of 5, which it did not measure, although every rate that it did
    measure was unhealthy. -/
theorem unmeasured_rate_reported :
    ({ sampleConfig with initialRate := 10 }).validate = .ok () ∧
    (binarySearch { sampleConfig with initialRate := 10 } upToTwo (fun _ => false) 1 3).map
      (fun out => (out.steps, out.rate)) = some ([(10, false), (7, false), (6, false)], 5) ∧
    ¬ SearchSound { sampleConfig with initialRate := 10 } upToTwo (fun _ => false) := by
  refine ⟨by decide +kernel, by decide +kernel, fun sound => ?_⟩
  have confirmed := ((search_sound_probed (by decide) (by decide) rfl).mp sound).2 rfl (by decide) (by decide)
  cases confirmed with
  | here measures well => exact absurd well (by decide)
  | lower measures confirmed =>
    cases confirmed with
    | here measures well => exact absurd well (by decide)
    | lower measures confirmed =>
      cases confirmed with
      | here measures well => exact absurd measures.2 (by decide)
      | lower measures confirmed => exact absurd measures.2 (by decide)

end Sample

end ExaServe.Replay.Saturation
