import Mathlib.Data.Int.Init
import ExaServe.Lib.Int64

namespace ExaServe.Replay.Saturation

open Lib

section Config

/-- The fields the search is checked for and reads; floats by their values. -/
structure SaturationConfig where
  baseURLs : List String
  maxActive : Int
  numGoWorkers : Int
  timeoutSec : ℚ
  searchMode : String
  initialRate : Int
  maxRate : Int
  stepDuration : ℚ
  warmupDuration : ℚ
  cooldownPause : ℚ
  tolerance : ℚ
  maxErrorRate : ℚ
  plateauRatio : ℚ
  stepUpStart : Int
  stepUpEnd : Int
  stepUpIncrement : Int

def SaturationConfig.validateMode (cfg : SaturationConfig) : Except String Unit :=
  match cfg.searchMode with
  | "binary" =>
    if cfg.initialRate ≤ 0 then .error "initial rate must be > 0"
    else if cfg.maxRate < 0 then .error "max rate must be >= 0"
    else .ok ()
  | "step-up" =>
    if cfg.stepUpStart ≤ 0 ∨ cfg.stepUpEnd ≤ 0 ∨ cfg.stepUpIncrement ≤ 0 then
      .error "step-up requires positive start, end, and increment"
    else if cfg.stepUpEnd < cfg.stepUpStart then .error "step-up end must be >= start"
    else .ok ()
  | mode => .error s!"unknown search mode {mode.quote}"

def SaturationConfig.validate (cfg : SaturationConfig) : Except String Unit :=
  if cfg.baseURLs.length = 0 then .error "at least one base URL is required"
  else if cfg.maxActive < 1 then .error "max active requests must be >= 1"
  else if cfg.numGoWorkers < 1 then .error "num go workers must be >= 1"
  else if cfg.timeoutSec ≤ 0 then .error "timeout must be > 0"
  else if cfg.stepDuration ≤ 0 then .error "step duration must be > 0"
  else if cfg.warmupDuration < 0 then .error "warmup duration must be >= 0"
  else if cfg.cooldownPause < 0 then .error "cooldown pause must be >= 0"
  else if cfg.tolerance ≤ 0 ∨ 1 ≤ cfg.tolerance then .error "tolerance must be in (0, 1)"
  else if cfg.maxErrorRate < 0 ∨ 1 < cfg.maxErrorRate then .error "max error rate must be in [0, 1]"
  else if cfg.plateauRatio ≤ 0 ∨ 1 < cfg.plateauRatio then .error "plateau ratio must be in (0, 1]"
  else cfg.validateMode

end Config

section Search

variable (cfg : SaturationConfig) (healthy : Int → Bool) (cancelled : Nat → Bool)

/-- The steps measured, the bounds, and whether a value has left the 64-bit range. -/
structure SearchState where
  steps : List (Int × Bool)
  lo : Int
  hi : Int
  overflowed : Bool

/-- What the search reports. -/
structure Found where
  steps : List (Int × Bool)
  rate : Int
  overflowed : Bool

/-- The stop test `float64(hi-lo)/float64(hi) <= tolerance`. -/
def withinTolerance (lo hi : Int) : Prop := floatQuotient (toInt64 (hi - lo)) hi ≤ cfg.tolerance

instance (lo hi : Int) : Decidable (withinTolerance cfg lo hi) := inferInstanceAs (Decidable (_ ≤ _))

/-- The second phase; the context is cancelled or not before each step. -/
def bisect : Nat → SearchState → Option Found
  | 0, _ => none
  | fuel + 1, s =>
    if cancelled s.steps.length = true then some ⟨s.steps, s.lo, s.overflowed⟩
    else if s.hi ≤ 0 ∨ withinTolerance cfg s.lo s.hi then some ⟨s.steps, s.lo, s.overflowed⟩
    else
      let overflowed := s.overflowed || decide (toInt64 (s.lo + s.hi) ≠ s.lo + s.hi)
      let mid := (toInt64 (s.lo + s.hi)).tdiv 2
      if mid = s.lo then some ⟨s.steps, s.lo, overflowed⟩
      else
        let steps := s.steps ++ [(mid, healthy mid)]
        if healthy mid = true then bisect fuel ⟨steps, mid, s.hi, overflowed⟩
        else bisect fuel ⟨steps, s.lo, mid, overflowed⟩

/-- The ceiling probe: the steps, the rate up to which they were healthy and the bracket, if an
    unhealthy rate was met. -/
def probe : Nat → List (Int × Bool) → Int → Int → Bool → Option (Found ⊕ SearchState)
  | 0, _, _, _, _ => none
  | fuel + 1, steps, rate, lastHealthy, overflowed =>
    if cancelled steps.length = true then some (.inl ⟨steps, lastHealthy, overflowed⟩)
    else if healthy rate = true then
      probe fuel (steps ++ [(rate, true)]) (toInt64 (rate * 2)) rate
        (overflowed || decide (toInt64 (rate * 2) ≠ rate * 2))
    else
      let measured := steps ++ [(rate, false)]
      let lo := if lastHealthy = 0 then rate.tdiv 2 else lastHealthy
      if rate ≤ 0 then some (.inl ⟨measured, lastHealthy, overflowed⟩)
      else some (.inr ⟨measured, lo, rate, overflowed⟩)

/-- The search, with fuel for each of its loops. -/
def binarySearch (probes bisections : Nat) : Option Found :=
  if cfg.maxRate ≤ 0 then
    match probe healthy cancelled probes [] cfg.initialRate 0 false with
    | none => none
    | some (.inl found) => some found
    | some (.inr bracket) => bisect cfg healthy cancelled bisections bracket
  else bisect cfg healthy cancelled bisections ⟨[], cfg.initialRate, cfg.maxRate, false⟩

end Search

end ExaServe.Replay.Saturation
