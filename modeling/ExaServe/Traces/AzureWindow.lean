import Mathlib.Data.List.MinMax
import Mathlib.Data.List.Sort
import Mathlib.Data.Rat.Floor
import Mathlib.Tactic.Linarith

namespace ExaServe.Traces

/-- A row of the input trace, its time in exact arithmetic. -/
structure AzureRow where
  timestamp : ℚ
  inputTokens : Int
  outputTokens : Int

section Model

variable (rows : List AzureRow) (duration : ℚ)

def parsedRows : List AzureRow := rows.insertionSort fun left right => left.timestamp ≤ right.timestamp

def startTime : ℚ := ((parsedRows rows).head?.map AzureRow.timestamp).getD 0

def endTime : ℚ := ((parsedRows rows).getLast?.map AzureRow.timestamp).getD 0

/-- `int((timestamp - start_time) // 10)` -/
def binKey (timestamp : ℚ) : Nat := ⌊(timestamp - startTime rows) / 10⌋.toNat

def bins (bin : Nat) : Nat := (parsedRows rows).countP fun row => binKey rows row.timestamp = bin

/-- `max(1, int(target_duration / 10))` -/
def windowBins : Nat := max 1 ⌊duration / 10⌋.toNat

def maxBin : Nat := binKey rows (endTime rows)

def windowTotal (bin : Nat) : Nat :=
  ((List.range (windowBins duration)).map fun offset => bins rows (bin + offset)).sum

/-- The bin where the selected window starts; `choice` is the seeded generator's. -/
def selectedBin (strategy : String) (choice : List Nat → Nat) : Nat :=
  let rolling := List.range (maxBin rows + 1)
  if strategy = "peak" then (rolling.argmax (windowTotal rows duration)).getD 0
  else if strategy = "sparse" then
    ((rolling.filter fun bin => 0 < windowTotal rows duration bin).argmin (windowTotal rows duration)).getD 0
  else choice rolling

def windowStart (strategy : String) (choice : List Nat → Nat) : ℚ :=
  if endTime rows - startTime rows ≤ duration then startTime rows
  else startTime rows + selectedBin rows duration strategy choice * 10

/-- The rows that `generate_azure_rows` turns into requests. -/
def selectedRows (strategy : String) (choice : List Nat → Nat) : List AzureRow :=
  (parsedRows rows).filter fun row => windowStart rows duration strategy choice ≤ row.timestamp ∧
    row.timestamp < windowStart rows duration strategy choice + duration

/-- What `materialize_trace_artifact` makes of them. -/
def materializedRows (strategy : String) (choice : List Nat → Nat) : Except String (List AzureRow) :=
  if selectedRows rows duration strategy choice = [] then .error "trace generation produced no requests"
  else .ok (selectedRows rows duration strategy choice)

end Model

section Windows

variable (rows : List AzureRow) (duration : ℚ)

/-- The requests from the start of a bin on, for so long. -/
def requestsFor (span : ℚ) (bin : Nat) : Nat :=
  rows.countP fun row => startTime rows + 10 * bin ≤ row.timestamp ∧ row.timestamp < startTime rows + 10 * bin + span

/-- The requests of an aligned window. -/
def requestsIn : Nat → Nat := requestsFor rows duration

/-- The requests of its whole bins. -/
def binsIn : Nat → Nat := requestsFor rows (10 * windowBins duration)

/-- The window ends before the trace does. -/
def Inside (bin : Nat) : Prop := startTime rows + 10 * bin + duration ≤ endTime rows

instance (bin : Nat) : Decidable (Inside rows duration bin) := inferInstanceAs (Decidable (_ ≤ _))

/-- The window is what the strategy's name says, and is a whole one. -/
structure WindowRight (strategy : String) (choice : List Nat → Nat) : Prop where
  peak : strategy = "peak" → ∀ bin, Inside rows duration bin →
    requestsIn rows duration bin ≤ (selectedRows rows duration strategy choice).length
  sparse : strategy = "sparse" → selectedRows rows duration strategy choice ≠ [] ∧
    ∀ bin, Inside rows duration bin → 0 < requestsIn rows duration bin →
      (selectedRows rows duration strategy choice).length ≤ requestsIn rows duration bin
  whole : windowStart rows duration strategy choice + duration ≤ endTime rows
  reported : (∃ selected, selected ≠ [] ∧ materializedRows rows duration strategy choice = .ok selected) ∨
    materializedRows rows duration strategy choice = .error "trace generation produced no requests"

/-- The first of the windows that its whole bins rank highest is a full one, and no full one holds more. -/
def PeakFair : Prop :=
  ∃ bin, Inside rows duration bin ∧
    (∀ other ≤ maxBin rows, binsIn rows duration other ≤ binsIn rows duration bin) ∧
    (∀ earlier < bin, binsIn rows duration earlier < binsIn rows duration bin) ∧
    ∀ other, Inside rows duration other → requestsIn rows duration other ≤ requestsIn rows duration bin

/-- The same of the lowest that is not empty. -/
def SparseFair : Prop :=
  ∃ bin, Inside rows duration bin ∧ 0 < binsIn rows duration bin ∧ 0 < requestsIn rows duration bin ∧
    (∀ other ≤ maxBin rows, 0 < binsIn rows duration other → binsIn rows duration bin ≤ binsIn rows duration other) ∧
    (∀ earlier < bin, 0 < binsIn rows duration earlier → binsIn rows duration bin < binsIn rows duration earlier) ∧
    ∀ other, Inside rows duration other → 0 < requestsIn rows duration other →
      requestsIn rows duration bin ≤ requestsIn rows duration other

def ScoreFair (strategy : String) (choice : List Nat → Nat) : Prop :=
  if strategy = "peak" then PeakFair rows duration
  else if strategy = "sparse" then SparseFair rows duration
  else Inside rows duration (choice (List.range (maxBin rows + 1)))

/-- No window that runs past the end of the trace is better than all that do not. -/
def EndFair (strategy : String) (choice : List Nat → Nat) : Prop :=
  if strategy = "peak" then ∃ bin, Inside rows duration bin ∧
    ∀ other ≤ maxBin rows, requestsIn rows duration other ≤ requestsIn rows duration bin
  else if strategy = "sparse" then ∃ bin, Inside rows duration bin ∧ 0 < requestsIn rows duration bin ∧
    ∀ other ≤ maxBin rows, 0 < requestsIn rows duration other →
      requestsIn rows duration bin ≤ requestsIn rows duration other
  else Inside rows duration (choice (List.range (maxBin rows + 1)))

end Windows

section Sorted

variable {rows : List AzureRow}

theorem parsedRows_perm : (parsedRows rows).Perm rows := List.perm_insertionSort _ _

theorem parsedRows_sorted : (parsedRows rows).Pairwise fun left right => left.timestamp ≤ right.timestamp := by
  have : IsTrans AzureRow fun left right => left.timestamp ≤ right.timestamp :=
    ⟨fun _ _ _ first second => first.trans second⟩
  have : Std.Total fun left right : AzureRow => left.timestamp ≤ right.timestamp := ⟨fun left right => le_total _ _⟩
  exact List.pairwise_insertionSort _ rows

theorem startTime_le {row : AzureRow} (member : row ∈ rows) : startTime rows ≤ row.timestamp := by
  have listed := parsedRows_perm.mem_iff.mpr member
  have sorted := @parsedRows_sorted rows
  unfold startTime
  cases sorted_rows : parsedRows rows with
  | nil =>
    rw [sorted_rows] at listed
    cases listed
  | cons first rest =>
    rw [sorted_rows] at listed sorted
    rcases List.mem_cons.mp listed with rfl | later
    · exact le_rfl
    · exact (List.pairwise_cons.mp sorted).1 row later

theorem le_endTime {row : AzureRow} (member : row ∈ rows) : row.timestamp ≤ endTime rows := by
  have listed := parsedRows_perm.mem_iff.mpr member
  have sorted := @parsedRows_sorted rows
  unfold endTime
  rcases List.eq_nil_or_concat (parsedRows rows) with empty | ⟨front, last, whole⟩
  · rw [empty] at listed
    cases listed
  · rw [List.concat_eq_append] at whole
    rw [whole] at listed sorted ⊢
    rw [List.getLast?_concat]
    rcases List.mem_append.mp listed with early | here
    · exact (List.pairwise_append.mp sorted).2.2 row early last List.mem_cons_self
    · rw [List.mem_singleton.mp here]
      exact le_rfl

theorem exists_start (nonempty : rows ≠ []) : ∃ row ∈ rows, row.timestamp = startTime rows := by
  unfold startTime
  cases sorted_rows : parsedRows rows with
  | nil => exact absurd (sorted_rows ▸ parsedRows_perm).symm.eq_nil nonempty
  | cons first rest =>
    exact ⟨first, parsedRows_perm.mem_iff.mp (sorted_rows ▸ List.mem_cons_self), rfl⟩

end Sorted

section Bins

variable {rows : List AzureRow} {duration : ℚ}

theorem le_binKey_iff {timestamp : ℚ} (later : startTime rows ≤ timestamp) (bin : Nat) :
    bin ≤ binKey rows timestamp ↔ startTime rows + 10 * bin ≤ timestamp := by
  have positive : 0 ≤ ⌊(timestamp - startTime rows) / 10⌋ := by
    rw [Int.floor_nonneg]
    apply div_nonneg _ (by norm_num)
    linarith
  have cast : bin ≤ binKey rows timestamp ↔ (bin : Int) ≤ ⌊(timestamp - startTime rows) / 10⌋ := by
    rw [binKey]
    omega
  rw [cast, Int.le_floor, le_div_iff₀ (by norm_num)]
  constructor
  · intro bound
    push_cast at bound
    linarith
  · intro bound
    push_cast
    linarith

/-- Bins side by side hold what their span holds. -/
theorem sum_countP {α : Type} (key : α → Nat) (items : List α) (bin count : Nat) :
    ((List.range count).map fun offset => items.countP fun item => key item = bin + offset).sum =
      items.countP fun item => bin ≤ key item ∧ key item < bin + count := by
  induction count with
  | zero =>
    symm
    rw [List.range_zero, List.map_nil, List.sum_nil, List.countP_eq_zero]
    intro item _
    rw [decide_eq_true_eq]
    omega
  | succ count ih =>
    rw [List.range_succ, List.map_append, List.sum_append, ih, List.map_singleton, List.sum_singleton]
    clear ih
    induction items with
    | nil => rfl
    | cons item rest ih =>
      rw [List.countP_cons, List.countP_cons, List.countP_cons, ← ih]
      simp only [decide_eq_true_eq]
      split_ifs
      all_goals omega

theorem windowTotal_eq (bin : Nat) : windowTotal rows duration bin = binsIn rows duration bin := by
  have summed := sum_countP (fun row : AzureRow => binKey rows row.timestamp) (parsedRows rows) bin
    (windowBins duration)
  rw [windowTotal, binsIn, requestsFor]
  rw [show (List.map (fun offset => bins rows (bin + offset)) (List.range (windowBins duration))).sum = _ from summed]
  rw [parsedRows_perm.countP_eq]
  apply List.countP_congr
  intro row member
  have first := le_binKey_iff (startTime_le member) bin
  have last := le_binKey_iff (startTime_le member) (bin + windowBins duration)
  push_cast at last
  rw [decide_eq_true_eq, decide_eq_true_eq, first, ← not_le, last, not_le]
  rw [show startTime rows + 10 * ((bin : ℚ) + windowBins duration) =
    startTime rows + 10 * bin + 10 * windowBins duration by ring]

theorem inside_le {bin : Nat} (positive : 0 < duration) (nonempty : rows ≠ [])
    (inside : Inside rows duration bin) : bin ≤ maxBin rows := by
  obtain ⟨row, member, _⟩ := exists_start nonempty
  have order : startTime rows ≤ endTime rows := (startTime_le member).trans (le_endTime member)
  rw [maxBin, le_binKey_iff order]
  rw [Inside] at inside
  linarith

theorem inside_earlier {bin earlier : Nat} (order : earlier ≤ bin) (inside : Inside rows duration bin) :
    Inside rows duration earlier := by
  rw [Inside] at inside ⊢
  have cast : (earlier : ℚ) ≤ bin := by exact_mod_cast order
  linarith

theorem first_bin_busy {span : ℚ} (positive : 0 < span) (nonempty : rows ≠ []) : 0 < requestsFor rows span 0 := by
  obtain ⟨row, member, starts⟩ := exists_start nonempty
  rw [requestsFor, List.countP_pos_iff]
  refine ⟨row, member, ?_⟩
  rw [decide_eq_true_eq, starts]
  constructor
  · norm_num
  · norm_num
    exact positive

/-- The whole bins of a duration that is a number of them are the window. -/
theorem binsIn_whole {count : Nat} (positive : 0 < duration) (multiple : duration = 10 * count) :
    binsIn rows duration = requestsIn rows duration := by
  have counted : 1 ≤ count := by
    rcases Nat.eq_zero_or_pos count with none | some
    · rw [multiple, none] at positive
      norm_num at positive
    · exact some
  have quotient : duration / 10 = ((count : Int) : ℚ) := by
    rw [multiple]
    push_cast
    ring
  have width : windowBins duration = count := by
    rw [windowBins, quotient, Int.floor_intCast]
    omega
  rw [binsIn, requestsIn, width, ← multiple]

end Bins

section Firsts

/-- In an increasing list the first place is the least. -/
theorem idxOf_le_iff {items : List Nat} (increasing : items.Pairwise (· < ·)) {left right : Nat}
    (here : left ∈ items) (there : right ∈ items) : items.idxOf left ≤ items.idxOf right ↔ left ≤ right := by
  induction increasing with
  | nil => cases here
  | cons later _ ih =>
    rename_i head rest
    rcases List.mem_cons.mp here with rfl | here
    · rcases List.mem_cons.mp there with rfl | there
      · simp
      · simp [(later right there).le]
    · have passed := later left here
      rcases List.mem_cons.mp there with rfl | there
      · rw [List.idxOf_cons_self, List.idxOf_cons_ne _ passed.ne]
        omega
      · rw [List.idxOf_cons_ne _ passed.ne, List.idxOf_cons_ne _ (later right there).ne, ← ih here there]
        omega

theorem argmax_least {items : List Nat} (increasing : items.Pairwise (· < ·)) (score : Nat → Nat) {best : Nat} :
    best ∈ items.argmax score ↔
      best ∈ items ∧ (∀ other ∈ items, score other ≤ score best) ∧
        ∀ earlier ∈ items, earlier < best → score earlier < score best := by
  rw [List.mem_argmax_iff]
  apply and_congr_right
  intro listed
  apply and_congr_right
  intro top
  constructor
  · intro first earlier member before
    apply lt_of_not_ge
    intro ties
    have := (idxOf_le_iff increasing listed member).mp (first earlier member ties)
    omega
  · intro first other member ties
    rw [idxOf_le_iff increasing listed member]
    apply le_of_not_gt
    intro before
    exact absurd (first other member before) (not_lt.mpr ties)

theorem argmin_least {items : List Nat} (increasing : items.Pairwise (· < ·)) (score : Nat → Nat) {best : Nat} :
    best ∈ items.argmin score ↔
      best ∈ items ∧ (∀ other ∈ items, score best ≤ score other) ∧
        ∀ earlier ∈ items, earlier < best → score best < score earlier := by
  rw [List.mem_argmin_iff]
  apply and_congr_right
  intro listed
  apply and_congr_right
  intro low
  constructor
  · intro first earlier member before
    apply lt_of_not_ge
    intro ties
    have := (idxOf_le_iff increasing listed member).mp (first earlier member ties)
    omega
  · intro first other member ties
    rw [idxOf_le_iff increasing listed member]
    apply le_of_not_gt
    intro before
    exact absurd (first other member before) (not_lt.mpr ties)

end Firsts

section Selection

variable {rows : List AzureRow} {duration : ℚ} (choice : List Nat → Nat)

theorem peak_selected (bin : Nat) :
    selectedBin rows duration "peak" choice = bin ↔
      bin ≤ maxBin rows ∧ (∀ other ≤ maxBin rows, binsIn rows duration other ≤ binsIn rows duration bin) ∧
        ∀ earlier < bin, binsIn rows duration earlier < binsIn rows duration bin := by
  have scores : windowTotal rows duration = binsIn rows duration := funext windowTotal_eq
  have least := fun bin =>
    @argmax_least (List.range (maxBin rows + 1)) List.pairwise_lt_range (binsIn rows duration) bin
  rw [selectedBin, if_pos rfl, scores]
  cases found : (List.range (maxBin rows + 1)).argmax (binsIn rows duration) with
  | none =>
    rw [List.argmax_eq_none, List.range_eq_nil] at found
    omega
  | some best =>
    have selected := (least best).mp found
    simp only [List.mem_range, Nat.lt_succ_iff] at selected
    constructor
    · rintro rfl
      exact ⟨selected.1, selected.2.1, fun earlier before =>
        selected.2.2 earlier (before.le.trans selected.1) before⟩
    · rintro ⟨within, top, first⟩
      rcases lt_trichotomy best bin with before | same | after
      · exact absurd (first best before) (not_lt.mpr (selected.2.1 bin within))
      · exact same
      · exact absurd (selected.2.2 bin within after) (not_lt.mpr (top best selected.1))

theorem sparse_selected (nonempty : rows ≠ []) (bin : Nat) :
    selectedBin rows duration "sparse" choice = bin ↔
      (bin ≤ maxBin rows ∧ 0 < binsIn rows duration bin) ∧
        (∀ other ≤ maxBin rows, 0 < binsIn rows duration other →
          binsIn rows duration bin ≤ binsIn rows duration other) ∧
        ∀ earlier < bin, 0 < binsIn rows duration earlier →
          binsIn rows duration bin < binsIn rows duration earlier := by
  have scores : windowTotal rows duration = binsIn rows duration := funext windowTotal_eq
  have width : (0 : ℚ) < 10 * windowBins duration := by
    have : 1 ≤ windowBins duration := le_max_left _ _
    have : (1 : ℚ) ≤ windowBins duration := by exact_mod_cast this
    linarith
  have busy : 0 < binsIn rows duration 0 := first_bin_busy width nonempty
  have least := fun bin =>
    @argmin_least ((List.range (maxBin rows + 1)).filter fun bin => 0 < binsIn rows duration bin)
      (List.pairwise_lt_range.filter _) (binsIn rows duration) bin
  rw [selectedBin, if_neg (by decide), if_pos rfl, scores]
  cases found : ((List.range (maxBin rows + 1)).filter fun bin => 0 < binsIn rows duration bin).argmin
      (binsIn rows duration) with
  | none =>
    have listed : 0 ∈ (List.range (maxBin rows + 1)).filter fun bin => 0 < binsIn rows duration bin := by
      simp [busy]
    rw [List.argmin_eq_none.mp found] at listed
    cases listed
  | some best =>
    have selected := (least best).mp found
    simp only [List.mem_filter, List.mem_range, Nat.lt_succ_iff, decide_eq_true_eq, and_imp] at selected
    obtain ⟨⟨reached, some⟩, low, first⟩ := selected
    constructor
    · rintro rfl
      exact ⟨⟨reached, some⟩, low, fun earlier before busy => first earlier (before.le.trans reached) busy before⟩
    · rintro ⟨⟨within, nonzero⟩, lowest, earliest⟩
      rcases lt_trichotomy best bin with before | same | after
      · exact absurd (earliest best before some) (not_lt.mpr (low bin within nonzero))
      · exact same
      · exact absurd (first bin within nonzero after) (not_lt.mpr (lowest best reached some))

theorem reported (strategy : String) :
    (∃ selected, selected ≠ [] ∧ materializedRows rows duration strategy choice = .ok selected) ∨
      materializedRows rows duration strategy choice = .error "trace generation produced no requests" := by
  rw [materializedRows]
  split_ifs with empty
  · exact .inr rfl
  · exact .inl ⟨_, empty, rfl⟩

variable {strategy : String}

theorem windowStart_spanning (span : duration < endTime rows - startTime rows) :
    windowStart rows duration strategy choice = startTime rows + 10 * selectedBin rows duration strategy choice := by
  rw [windowStart, if_neg (not_le.mpr span), mul_comm]

theorem selectedRows_length (span : duration < endTime rows - startTime rows) :
    (selectedRows rows duration strategy choice).length =
      requestsIn rows duration (selectedBin rows duration strategy choice) := by
  rw [selectedRows, windowStart_spanning choice span, ← List.countP_eq_length_filter, parsedRows_perm.countP_eq]
  rfl

theorem peak_right_iff (positive : 0 < duration) (nonempty : rows ≠ [])
    (span : duration < endTime rows - startTime rows) :
    WindowRight rows duration "peak" choice ↔ PeakFair rows duration := by
  have selected := @peak_selected rows duration choice
  constructor
  · intro right
    obtain ⟨_, top, first⟩ := (selected _).mp rfl
    have whole := right.whole
    have peak := right.peak rfl
    rw [windowStart_spanning choice span] at whole
    rw [selectedRows_length choice span] at peak
    exact ⟨_, whole, top, first, peak⟩
  · rintro ⟨bin, inside, top, first, fair⟩
    have chosen := (selected bin).mpr ⟨inside_le positive nonempty inside, top, first⟩
    constructor
    · intro _
      rw [selectedRows_length choice span, chosen]
      exact fair
    · intro named
      exact absurd named (by decide)
    · rw [windowStart_spanning choice span, chosen]
      exact inside
    · exact reported choice "peak"

theorem sparse_right_iff (positive : 0 < duration) (nonempty : rows ≠ [])
    (span : duration < endTime rows - startTime rows) :
    WindowRight rows duration "sparse" choice ↔ SparseFair rows duration := by
  have selected := @sparse_selected rows duration choice nonempty
  constructor
  · intro right
    obtain ⟨⟨_, some⟩, low, first⟩ := (selected _).mp rfl
    obtain ⟨busy, fair⟩ := right.sparse rfl
    have whole := right.whole
    rw [windowStart_spanning choice span] at whole
    rw [← List.length_pos_iff, selectedRows_length choice span] at busy
    rw [selectedRows_length choice span] at fair
    exact ⟨_, whole, some, busy, low, first, fair⟩
  · rintro ⟨bin, inside, some, busy, low, first, fair⟩
    have chosen := (selected bin).mpr ⟨⟨inside_le positive nonempty inside, some⟩, low, first⟩
    constructor
    · intro named
      exact absurd named (by decide)
    · intro _
      rw [← List.length_pos_iff, selectedRows_length choice span, chosen]
      exact ⟨busy, fair⟩
    · rw [windowStart_spanning choice span, chosen]
      exact inside
    · exact reported choice "sparse"

/-- For a duration of whole bins the scores are the windows' own, so only the end matters. -/
theorem scoreFair_iff_endFair {count : Nat} (positive : 0 < duration) (multiple : duration = 10 * count)
    (nonempty : rows ≠ []) (strategy : String) :
    ScoreFair rows duration strategy choice ↔ EndFair rows duration strategy choice := by
  have same := @binsIn_whole rows duration count positive multiple
  have within := fun bin => @inside_le rows duration bin positive nonempty
  rw [ScoreFair, EndFair]
  split_ifs
  · rw [PeakFair, same]
    constructor
    · rintro ⟨bin, inside, top, _⟩
      exact ⟨bin, inside, top⟩
    · rintro ⟨bin, inside, top⟩
      -- the first window that ties with it starts no later, so it is a full one too
      obtain ⟨_, best, first⟩ := (@peak_selected rows duration choice _).mp rfl
      rw [same] at best first
      refine ⟨_, inside_earlier ?_ inside, best, first, fun other full => best other (within other full)⟩
      apply le_of_not_gt
      intro after
      exact absurd (first bin after) (not_lt.mpr (top _ (by assumption)))
  · rw [SparseFair, same]
    constructor
    · rintro ⟨bin, inside, some, _, low, _⟩
      exact ⟨bin, inside, some, low⟩
    · rintro ⟨bin, inside, busy, low⟩
      obtain ⟨⟨_, some⟩, least, first⟩ := (@sparse_selected rows duration choice nonempty _).mp rfl
      rw [same] at some least first
      refine ⟨_, inside_earlier ?_ inside, some, some, least, first, ?_⟩
      swap
      · exact fun other full => least other (within other full)
      apply le_of_not_gt
      intro after
      exact absurd (first bin after busy) (not_lt.mpr (low _ (by assumption) some))
  · exact Iff.rfl

end Selection

section Sample

/-- Three requests at the start and one at the end. -/
def sampleRows : List AzureRow := [0, 0, 0, 25].map fun timestamp => ⟨timestamp, 8, 8⟩

end Sample

end ExaServe.Traces
