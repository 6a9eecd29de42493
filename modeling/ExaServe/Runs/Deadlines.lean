import ExaServe.Plan.Contracts
import Mathlib.Data.Rat.Floor
import Mathlib.Tactic.Linarith
import Mathlib.Tactic.Positivity

namespace ExaServe.Runs

section Model

/-- What a `ClientPolicy` says of the deadlines, and its checks. -/
structure ClientPolicy where
  requestTimeoutS : Time := 3600
  drainWaitTimeoutS : Time := 3780
  shardTimeoutS : Time := 600
  numRuns : Nat := 1
  warmupDurationS : Time := 0
  request_positive : 1 / 1000000000 ≤ requestTimeoutS := by decide +kernel
  drain_positive : 1 / 1000000000 ≤ drainWaitTimeoutS := by decide +kernel
  shard_positive : 1 / 1000000000 ≤ shardTimeoutS := by decide +kernel
  runs_positive : 1 ≤ numRuns := by first | exact Plan.one_counts | decide
  warmup_nonneg : 0 ≤ warmupDurationS := by decide +kernel

/-- A request of the trace, and the Go process of the rank that sends it. -/
structure TraceRequest where
  reqId : Nat
  rank : Nat
  process : Nat
  timestamp : Time

structure ReplayPlan where
  client : ClientPolicy
  duration : Time
  requests : List TraceRequest
  duration_positive : 0 < duration
  timestamps_nonneg : ∀ request ∈ requests, 0 ≤ request.timestamp

variable (plan : ReplayPlan)

def processTimeoutS : Except String Time :=
  let runs : Time := max 1 plan.client.numRuns
  let dispatchS := max 0 plan.duration
  let warmupS := max 0 plan.client.warmupDurationS
  if plan.client.requestTimeoutS ≤ 0 then .error "client.request_timeout_s must be finite and positive"
  else if plan.client.shardTimeoutS ≤ 0 then .error "client.shard_timeout_s must be finite and positive"
  else
    let cooldownS := 75 * max 0 (runs - 1)
    .ok (max 300 (runs * (dispatchS + plan.client.requestTimeoutS + plan.client.shardTimeoutS) + warmupS +
      cooldownS + 120))

/-- An iteration of a wait: its instant, and whether the interrupt event is set. -/
structure Poll where
  instant : Time
  interrupted : Bool

inductive Drained where
  | waiting
  | exited
  | interrupted
  | timedOut (stopped : List Nat)
  deriving DecidableEq

/-- The loop of `_send_run_t0_and_wait`, over the processes that are alive with the
    instants they exit at. -/
def drainLoop (deadline : Time) : List (Nat × Time) → List Poll → Drained
  | _, [] => .waiting
  | alive, poll :: rest =>
    let left := alive.filter fun entry => poll.instant < entry.2
    if left = [] then .exited
    else if poll.interrupted then .interrupted
    else if deadline < poll.instant then .timedOut (left.map Prod.fst)
    else drainLoop deadline left rest

def sendRunT0AndWait (drainWaitTimeoutS : Time) (alive : List (Nat × Time)) (polls : List Poll) :
    Except String Drained :=
  if drainWaitTimeoutS ≤ 0 then .error "go dispatch drain deadline must be finite and positive"
  else .ok (drainLoop drainWaitTimeoutS alive polls)

inductive Waited where
  | waiting
  | exited
  | timedOut
  deriving DecidableEq

/-- The loop of `_run_command_with_tee`: it waits for at most half a second at a time. -/
def waitLoop (deadline exit : Time) : Nat → Time → Waited
  | 0, _ => .waiting
  | polls + 1, now =>
    let remaining := deadline - now
    if remaining ≤ 0 then .timedOut
    else if exit ≤ now + min (1 / 2) remaining then .exited
    else waitLoop deadline exit polls (now + min (1 / 2) remaining)

end Model

section Timelines

/-- One run: how long each request takes from its dispatch, and the result transfer. -/
structure RunTimes where
  latency : TraceRequest → Time
  transfer : Time

variable (plan : ReplayPlan)

/-- Every request ends within its deadline, and the transfer takes what it is allowed. -/
structure RunTimes.Timely (run : RunTimes) : Prop where
  ended : ∀ request ∈ plan.requests, 0 ≤ run.latency request ∧ run.latency request ≤ plan.client.requestTimeoutS
  transferred : 0 ≤ run.transfer ∧ run.transfer ≤ plan.client.shardTimeoutS

def latest (times : List Time) : Time := times.foldr max 0

/-- When a Go process exits, from the start of the run. -/
def RunTimes.exit (run : RunTimes) (rank process : Nat) : Time :=
  latest ((plan.requests.filter fun request => request.rank = rank ∧ request.process = process).map
    fun request => request.timestamp + run.latency request)

def RunTimes.exits (run : RunTimes) (rank processes : Nat) : List (Nat × Time) :=
  (List.range processes).map fun process => (process, run.exit plan rank process)

/-- When the last request has ended. -/
def RunTimes.drained (run : RunTimes) : Time :=
  latest (plan.requests.map fun request => request.timestamp + run.latency request)

/-- When a run starts, from the start of the process: after the warm-up, and each earlier
    run with its cooldown. -/
def runStart (warmed : Time) (earlier : List RunTimes) : Time :=
  warmed + (earlier.map fun run => run.drained plan + run.transfer + 75).sum

/-- When the process exits. -/
def processExit (warmed : Time) (earlier : List RunTimes) (last : RunTimes) : Time :=
  runStart plan warmed earlier + last.drained plan + last.transfer

/-- The deadlines nest, and none cuts a timely replay short. -/
structure DeadlinesNest : Prop where
  undrained : ∀ run : RunTimes, run.Timely plan → ∀ rank processes polls,
    (∀ poll ∈ polls, poll.interrupted = false) → ∀ stopped,
      sendRunT0AndWait plan.client.drainWaitTimeoutS (run.exits plan rank processes) polls ≠ .ok (.timedOut stopped)
  unkilled : ∀ warmed ≤ plan.client.warmupDurationS, ∀ earlier : List RunTimes, ∀ last : RunTimes,
    (∀ run ∈ earlier ++ [last], run.Timely plan) → (earlier ++ [last]).length = plan.client.numRuns →
      ∃ timeout, processTimeoutS plan = .ok timeout ∧
        ∀ polls, waitLoop timeout (processExit plan warmed earlier last) polls 0 ≠ .timedOut
  inner : ∀ request ∈ plan.requests,
    request.timestamp + plan.client.requestTimeoutS < plan.client.drainWaitTimeoutS
  outer : ∀ warmed ≤ plan.client.warmupDurationS, ∀ earlier : List RunTimes,
    (∀ run ∈ earlier, run.Timely plan) → earlier.length < plan.client.numRuns →
      ∃ timeout, processTimeoutS plan = .ok timeout ∧
        runStart plan warmed earlier + plan.client.drainWaitTimeoutS < timeout

/-- The latest deadline of a request, from the start of its run. -/
def lastDeadline : Time :=
  latest (plan.requests.map fun request => request.timestamp + plan.client.requestTimeoutS)

/-- A run and its transfer at their longest. -/
def runBound : Time := lastDeadline plan + plan.client.shardTimeoutS

/-- The drain waits past every request's deadline, and the outer deadline past all runs at their
    longest and past the drain deadline of the last. -/
structure DeadlinesFit : Prop where
  drain : ∀ request ∈ plan.requests, request.timestamp + plan.client.requestTimeoutS < plan.client.drainWaitTimeoutS
  process : ∃ timeout, processTimeoutS plan = .ok timeout ∧
    plan.client.warmupDurationS + (plan.client.numRuns - 1 : Nat) * (runBound plan + 75) + runBound plan ≤ timeout
  last : ∃ timeout, processTimeoutS plan = .ok timeout ∧
    plan.client.warmupDurationS + (plan.client.numRuns - 1 : Nat) * (runBound plan + 75) +
      plan.client.drainWaitTimeoutS < timeout

end Timelines

section Loops

theorem le_latest {times : List Time} {time : Time} (member : time ∈ times) : time ≤ latest times := by
  induction times with
  | nil => cases member
  | cons first rest ih =>
    rcases List.mem_cons.mp member with rfl | later
    · exact le_max_left _ _
    · exact (ih later).trans (le_max_right _ _)

theorem latest_le {times : List Time} {bound : Time} (positive : 0 ≤ bound) (within : ∀ time ∈ times, time ≤ bound) :
    latest times ≤ bound := by
  induction times with
  | nil => exact positive
  | cons first rest ih =>
    exact max_le (within first List.mem_cons_self) (ih fun time member => within time (List.mem_cons_of_mem _ member))

theorem latest_nonneg (times : List Time) : 0 ≤ latest times := by
  induction times with
  | nil => exact le_rfl
  | cons first rest ih => exact ih.trans (le_max_right _ _)

/-- No process is stopped that exits by the deadline. -/
theorem drainLoop_in_time {deadline : Time} {alive : List (Nat × Time)} {polls : List Poll} {stopped : List Nat}
    (early : ∀ entry ∈ alive, entry.2 ≤ deadline) : drainLoop deadline alive polls ≠ .timedOut stopped := by
  induction polls generalizing alive with
  | nil => simp [drainLoop]
  | cons poll rest ih =>
    unfold drainLoop
    dsimp only
    split_ifs with done interrupted late
    · simp
    · simp
    · obtain ⟨entry, member⟩ := List.exists_mem_of_ne_nil _ done
      obtain ⟨listed, running⟩ := List.mem_filter.mp member
      have running := of_decide_eq_true running
      exact absurd (late.trans running) (not_lt.mpr (early entry listed))
    · exact ih fun entry member => early entry (List.mem_filter.mp member).1

/-- The process is not stopped if it exits by the deadline. -/
theorem waitLoop_in_time {deadline exit now : Time} (early : exit ≤ deadline) (before : now < deadline)
    (polls : Nat) : waitLoop deadline exit polls now ≠ .timedOut := by
  induction polls generalizing now with
  | zero => simp [waitLoop]
  | succ polls ih =>
    unfold waitLoop
    dsimp only
    rw [if_neg (by linarith)]
    split_ifs with exited
    · simp
    · rw [not_le] at exited
      exact ih (exited.trans_le early)

/-- It is stopped if it exits later, after as many polls as there are half seconds. -/
theorem waitLoop_late {deadline exit : Time} (late : deadline < exit) (polls : Nat) {now : Time}
    (near : deadline - now ≤ polls / 2) : waitLoop deadline exit (polls + 1) now = .timedOut := by
  induction polls generalizing now with
  | zero =>
    unfold waitLoop
    rw [if_pos (by simpa using near)]
  | succ polls ih =>
    unfold waitLoop
    dsimp only
    split_ifs with past exited
    · rfl
    · have : now + min (1 / 2) (deadline - now) ≤ deadline := by
        have := min_le_right (1 / 2) (deadline - now)
        linarith
      linarith
    · apply ih
      push_cast at near
      rcases min_cases (1 / 2) (deadline - now) with ⟨half, _⟩ | ⟨whole, _⟩
      · rw [half]
        linarith
      · rw [whole]
        have : (0 : Time) ≤ polls / 2 := by positivity
        linarith

/-- The process is left alone exactly if it exits by the deadline. -/
theorem waitLoop_iff {deadline exit : Time} (positive : 0 < deadline) :
    (∀ polls, waitLoop deadline exit polls 0 ≠ .timedOut) ↔ exit ≤ deadline := by
  constructor
  · intro alone
    by_contra late
    rw [not_le] at late
    have many := Nat.le_ceil (2 * deadline)
    exact alone (⌈2 * deadline⌉₊ + 1) (waitLoop_late late _ (by linarith))
  · intro early polls
    exact waitLoop_in_time early positive polls

end Loops

section Nesting

variable (plan : ReplayPlan)

theorem processTimeoutS_ok : ∃ timeout, processTimeoutS plan = .ok timeout ∧ 0 < timeout := by
  have request := plan.client.request_positive
  have shard := plan.client.shard_positive
  unfold processTimeoutS
  dsimp only
  rw [if_neg (by linarith), if_neg (by linarith)]
  refine ⟨_, rfl, lt_max_of_lt_left (by norm_num)⟩

/-- The run whose requests and transfer all take the longest. -/
def longestRun : RunTimes where
  latency := fun _ => plan.client.requestTimeoutS
  transfer := plan.client.shardTimeoutS

theorem longestRun_timely : (longestRun plan).Timely plan where
  ended := fun _ _ => ⟨(by norm_num : (0 : Time) ≤ 1 / 1000000000).trans plan.client.request_positive, le_rfl⟩
  transferred := ⟨(by norm_num : (0 : Time) ≤ 1 / 1000000000).trans plan.client.shard_positive, le_rfl⟩

variable {plan}

theorem RunTimes.Timely.drained_le {run : RunTimes} (timely : run.Timely plan) :
    run.drained plan ≤ lastDeadline plan := by
  apply latest_le (latest_nonneg _)
  intro time member
  obtain ⟨request, listed, rfl⟩ := List.mem_map.mp member
  have deadline : request.timestamp + plan.client.requestTimeoutS ≤ lastDeadline plan :=
    le_latest (List.mem_map.mpr ⟨request, listed, rfl⟩)
  have ended := (timely.ended request listed).2
  change _ ≤ lastDeadline plan
  linarith

theorem RunTimes.Timely.exit_le {run : RunTimes} (timely : run.Timely plan) {rank process : Nat} {deadline : Time}
    (positive : 0 ≤ deadline)
    (fits : ∀ request ∈ plan.requests, request.timestamp + plan.client.requestTimeoutS ≤ deadline) :
    run.exit plan rank process ≤ deadline := by
  apply latest_le positive
  intro time member
  obtain ⟨request, listed, rfl⟩ := List.mem_map.mp member
  have listed := (List.mem_filter.mp listed).1
  have := (timely.ended request listed).2
  have := fits request listed
  linarith

theorem runStart_le {warmed : Time} {earlier : List RunTimes} (timely : ∀ run ∈ earlier, run.Timely plan) :
    runStart plan warmed earlier ≤ warmed + earlier.length * (runBound plan + 75) := by
  rw [runStart]
  apply add_le_add_right
  induction earlier with
  | nil => simp
  | cons run rest ih =>
    have first := timely run List.mem_cons_self
    have later := ih fun other member => timely other (List.mem_cons_of_mem _ member)
    have drained := first.drained_le
    have transferred := first.transferred.2
    rw [List.map_cons, List.sum_cons, List.length_cons]
    push_cast
    rw [runBound] at later ⊢
    linarith

theorem runStart_longest (warmed : Time) (count : Nat) :
    runStart plan warmed (List.replicate count (longestRun plan)) = warmed + count * (runBound plan + 75) := by
  rw [runStart, List.map_replicate, List.sum_replicate, nsmul_eq_mul]
  rfl

end Nesting

section Sample

/-- The default policy, and one request 600 s into the trace. -/
def defaultPlan : ReplayPlan where
  client := {}
  duration := 600
  requests := [⟨0, 0, 0, 600⟩]
  duration_positive := by norm_num
  timestamps_nonneg := by decide +kernel

end Sample

end ExaServe.Runs
