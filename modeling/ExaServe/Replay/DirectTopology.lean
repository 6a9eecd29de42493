import ExaServe.Lib.Except
import ExaServe.Lib.Grouping
import ExaServe.Replay.Trace
import Mathlib.Algebra.Group.Fin.Basic
import Mathlib.Algebra.Group.Units.Equiv

namespace ExaServe.Replay

open Lib

section Topology

/-- `urlsplit(url).hostname`, which refuses a malformed address. -/
abbrev HostName := String → Except Failure (Option String)

def urlHost (hostname : HostName) (url : String) : Except Failure String :=
  (hostname url).map fun host => host.getD ""

/-- The targets under their hosts, hosts in the order in which they first appear. -/
def targetsByHost (hostname : HostName) (baseUrls : List String) : Except Failure (List (String × List String)) :=
  baseUrls.foldlM (fun groups url => (urlHost hostname url).map fun host => appendEntry host url groups) []

/-- The targets of the host at an index. -/
def targetsAt (groups : List (String × List String)) (index : Nat) : Except Failure (List String) :=
  match (groups.map Prod.fst)[index]? with
  | some host => .ok ((findEntry host groups).getD [])
  | none => .error (.runtime "list index out of range")

/-- `pair_shift % hosts or 1` -/
def pairShiftOf (pairShift : Int) (hosts : Nat) : Int := if pairShift % hosts = 0 then 1 else pairShift % hosts

/-- The first names of a sorted set, as a message shows them. -/
def shownAddresses (addresses : List String) : String :=
  let first := (addresses.insertionSort (· ≤ ·)).take 6
  if first = [] then "[]" else "['" ++ "', '".intercalate first ++ "']"

/-- `_apply_direct_topology`; the addresses are those that the rank's own host answers to. -/
def applyDirectTopology (hostname : HostName) (addresses : List String) (baseUrls : List String) (rank mpiSize : Nat)
    (topology : String) (pairShift : Int) : Except Failure (List String) :=
  if topology = "mesh" then .ok baseUrls
  else do
    let groups ← targetsByHost hostname baseUrls
    let hosts := groups.map Prod.fst
    let excess := ((hosts.length : Int) - mpiSize).natAbs
    ensure (¬ ((topology = "local" ∨ topology = "paired") ∧ mpiSize ≠ 0 ∧ mpiSize ≠ hosts.length)) (Failure.runtime
      (s!"direct topology {topology} pins each rank to one node, but there are {mpiSize} client ranks for " ++
        s!"{hosts.length} target nodes; {excess} node(s) would be mis-loaded. " ++
        "Set client.num_nodes == deployment.num_nodes."))
    ensure (topology = "local" ∨ topology = "paired")
      (Failure.runtime s!"direct topology '{topology}' is not one of mesh/local/paired")
    match hosts.findIdx? (addresses.contains ·) with
    | none =>
      let shown := shownAddresses addresses
      .error (Failure.runtime (s!"rank {rank}: direct topology {topology} could not match this host " ++
        s!"({shown}...) against any of the {hosts.length} target hosts"))
    | some index =>
      if topology = "local" then targetsAt groups index
      else do
        ensure (2 ≤ hosts.length) (Failure.runtime "direct topology paired needs at least 2 nodes")
        targetsAt groups ((index + pairShiftOf pairShift hosts.length) % hosts.length).toNat

end Topology

section Grouped

variable {hostname : HostName} {urls : List String} {host : String → String}

theorem targetsByHost_eq (parsed : ∀ url ∈ urls, urlHost hostname url = .ok (host url)) :
    targetsByHost hostname urls = .ok (groupItems host urls) := by
  have from_groups : ∀ groups, urls.foldlM (fun groups url => (urlHost hostname url).map fun host =>
      appendEntry host url groups) groups =
      .ok (urls.foldl (fun groups url => appendEntry (host url) url groups) groups) := by
    induction urls with
    | nil =>
      intro groups
      rfl
    | cons url rest ih =>
      intro groups
      have later := ih fun other member => parsed other (List.mem_cons_of_mem _ member)
      rw [List.foldlM_cons, parsed url List.mem_cons_self, List.foldl_cons, ← later]
      rfl
  exact from_groups []

theorem targetsAt_eq {index : Nat} {name : String}
    (here : ((groupItems host urls).map Prod.fst)[index]? = some name) :
    targetsAt (groupItems host urls) index = .ok (urls.filter fun url => host url = name) := by
  rw [targetsAt, here]
  exact congrArg Except.ok (findEntry_groupItems host urls name)

end Grouped

section Pairs

/-- The hosts moved on by a shift: it is reduced to one that moves each of them. -/
theorem exists_rotation (pairShift : Int) {hosts : Nat} (two : 2 ≤ hosts) :
    ∃ remote : Equiv.Perm (Fin hosts), (∀ index, remote index ≠ index) ∧
      ∀ index, ((index.val + pairShiftOf pairShift hosts) % hosts).toNat = (remote index).val := by
  have positive : (0 : Int) < hosts := by omega
  have low := Int.emod_nonneg pairShift (by omega : (hosts : Int) ≠ 0)
  have high := Int.emod_lt_of_pos pairShift positive
  obtain ⟨step, same, some_step, small⟩ :
      ∃ step : Nat, pairShiftOf pairShift hosts = step ∧ 0 < step ∧ step < hosts := by
    rw [pairShiftOf]
    by_cases none_left : pairShift % hosts = 0
    · rw [if_pos none_left]
      exact ⟨1, rfl, by omega, by omega⟩
    · rw [if_neg none_left]
      exact ⟨(pairShift % hosts).toNat, by omega, by omega, by omega⟩
  have : NeZero hosts := ⟨by omega⟩
  refine ⟨Equiv.addRight ⟨step, small⟩, ?_, ?_⟩
  · intro index fixed
    have zero : (⟨step, small⟩ : Fin hosts) = 0 := add_eq_left.mp fixed
    exact absurd (congrArg Fin.val zero) (Nat.ne_of_gt some_step)
  · intro index
    rw [same, Equiv.coe_addRight, Fin.val_add, ← Nat.cast_add, ← Int.natCast_emod, Int.toNat_natCast]

end Pairs

section Loads

/-- Each rank runs on one of the hosts: its host answers to that host's name and to no other's. -/
structure Placement (hosts : List String) (addresses : Fin hosts.length → List String) where
  node : Equiv.Perm (Fin hosts.length)
  answers : ∀ rank index, hosts.get index ∈ addresses rank ↔ index = node rank

variable {hosts : List String} {addresses : Fin hosts.length → List String}

theorem Placement.findIdx (placement : Placement hosts addresses) (rank : Fin hosts.length) :
    hosts.findIdx? ((addresses rank).contains ·) = some (placement.node rank).val := by
  rw [List.findIdx?_eq_some_iff_getElem]
  refine ⟨(placement.node rank).isLt, ?_, ?_⟩
  · rw [List.contains_iff_mem]
    exact (placement.answers rank _).mpr rfl
  · intro index before
    rw [Bool.not_eq_true, List.contains_eq_mem, decide_eq_false_iff_not]
    intro member
    have same := (placement.answers rank ⟨index, before.trans (placement.node rank).isLt⟩).mp member
    exact absurd (congrArg Fin.val same) (Nat.ne_of_lt before)

/-- A one-to-one choice of hosts uses each target at one rank. -/
theorem target_once {urls : List String} {host : String → String} (nodup : hosts.Nodup)
    (placed : Equiv.Perm (Fin hosts.length)) {chosen : Fin hosts.length → Except Failure (List String)}
    (loads : ∀ rank, chosen rank = .ok (urls.filter fun url => host url = hosts.get (placed rank)))
    {url : String} (member : url ∈ urls) (known : host url ∈ hosts) :
    ∃! rank, ∃ targets, chosen rank = .ok targets ∧ url ∈ targets := by
  obtain ⟨index, same⟩ := List.get_of_mem known
  refine ⟨placed.symm index, ⟨_, loads _, ?_⟩, ?_⟩
  · rw [Equiv.apply_symm_apply, List.mem_filter, decide_eq_true_eq]
    exact ⟨member, same.symm⟩
  · intro rank used
    obtain ⟨targets, found, listed⟩ := used
    rw [loads rank] at found
    cases found
    rw [List.mem_filter, decide_eq_true_eq, ← same] at listed
    rw [Equiv.eq_symm_apply]
    exact (List.nodup_iff_injective_get.mp nodup listed.2).symm

variable {hostname : HostName} {urls : List String} {host : String → String}

/-- The hosts of a list of targets. -/
def hostsOf (host : String → String) (urls : List String) : List String := (groupItems host urls).map Prod.fst

variable {addresses : Fin (hostsOf host urls).length → List String}

theorem hostsOf_nodup : (hostsOf host urls).Nodup := groupItems_nodup host urls

/-- A placed rank gets to the choice of its targets. -/
theorem topology_chosen (parsed : ∀ url ∈ urls, urlHost hostname url = .ok (host url))
    (placement : Placement (hostsOf host urls) addresses) {topology : String}
    (known : topology = "local" ∨ topology = "paired") (pairShift : Int) (rank : Fin (hostsOf host urls).length) :
    applyDirectTopology hostname (addresses rank) urls rank (hostsOf host urls).length topology pairShift =
      if topology = "local" then targetsAt (groupItems host urls) (placement.node rank)
      else ensure (2 ≤ (hostsOf host urls).length)
        (Failure.runtime "direct topology paired needs at least 2 nodes") >>= fun _ => targetsAt (groupItems host urls) (((placement.node rank).val +
          pairShiftOf pairShift (hostsOf host urls).length) % (hostsOf host urls).length).toNat := by
  have agree : ¬ ((topology = "local" ∨ topology = "paired") ∧ (hostsOf host urls).length ≠ 0 ∧
      (hostsOf host urls).length ≠ (hostsOf host urls).length) := fun mismatch => mismatch.2.2 rfl
  have other : topology ≠ "mesh" := by
    rcases known with rfl | rfl
    · decide
    · decide
  rw [applyDirectTopology, if_neg other, ok_bind (targetsByHost_eq parsed)]
  refine (ok_bind (ensure_ok agree _) _).trans ?_
  refine (ok_bind (ensure_ok known _) _).trans ?_
  change (match (hostsOf host urls).findIdx? ((addresses rank).contains ·) with
    | none => _
    | some index => _) = _
  rw [placement.findIdx rank]
  rfl

theorem local_targets (parsed : ∀ url ∈ urls, urlHost hostname url = .ok (host url))
    (placement : Placement (hostsOf host urls) addresses) (pairShift : Int) (rank : Fin (hostsOf host urls).length) :
    applyDirectTopology hostname (addresses rank) urls rank (hostsOf host urls).length "local" pairShift =
      .ok (urls.filter fun url => host url = (hostsOf host urls).get (placement.node rank)) := by
  rw [topology_chosen parsed placement (.inl rfl), if_pos rfl]
  exact targetsAt_eq (List.getElem?_eq_getElem (placement.node rank).isLt)

theorem paired_targets (parsed : ∀ url ∈ urls, urlHost hostname url = .ok (host url))
    (placement : Placement (hostsOf host urls) addresses) {pairShift : Int} (two : 2 ≤ (hostsOf host urls).length)
    {remote : Equiv.Perm (Fin (hostsOf host urls).length)}
    (moved : ∀ index, ((index.val + pairShiftOf pairShift (hostsOf host urls).length) %
      (hostsOf host urls).length).toNat = (remote index).val) (rank : Fin (hostsOf host urls).length) :
    applyDirectTopology hostname (addresses rank) urls rank (hostsOf host urls).length "paired" pairShift =
      .ok (urls.filter fun url => host url = (hostsOf host urls).get (remote (placement.node rank))) := by
  rw [topology_chosen parsed placement (.inr rfl), if_neg (by decide), ok_bind (ensure_ok two _), moved]
  exact targetsAt_eq (List.getElem?_eq_getElem (remote (placement.node rank)).isLt)

/-- Under each pinned topology every target is used by one rank; a paired rank's host is another. -/
theorem topology_loads_equally (parsed : ∀ url ∈ urls, urlHost hostname url = .ok (host url))
    (placement : Placement (hostsOf host urls) addresses) (pairShift : Int) :
    ((∀ rank, applyDirectTopology hostname (addresses rank) urls rank (hostsOf host urls).length "local" pairShift =
        .ok (urls.filter fun url => host url = (hostsOf host urls).get (placement.node rank))) ∧
      ∀ url ∈ urls, ∃! rank : Fin (hostsOf host urls).length, ∃ targets, applyDirectTopology hostname (addresses rank)
        urls rank (hostsOf host urls).length "local" pairShift = .ok targets ∧ url ∈ targets) ∧
    (2 ≤ (hostsOf host urls).length → ∃ remote : Equiv.Perm (Fin (hostsOf host urls).length),
      (∀ index, remote index ≠ index) ∧
      (∀ rank, applyDirectTopology hostname (addresses rank) urls rank (hostsOf host urls).length "paired" pairShift =
        .ok (urls.filter fun url => host url = (hostsOf host urls).get (remote (placement.node rank)))) ∧
      ∀ url ∈ urls, ∃! rank : Fin (hostsOf host urls).length, ∃ targets, applyDirectTopology hostname (addresses rank)
        urls rank (hostsOf host urls).length "paired" pairShift = .ok targets ∧ url ∈ targets) := by
  have known : ∀ url ∈ urls, host url ∈ hostsOf host urls :=
    fun url member => (mem_groupItems_keys host urls _).mpr ⟨url, member, rfl⟩
  refine ⟨⟨local_targets parsed placement pairShift, ?_⟩, ?_⟩
  · intro url member
    exact target_once hostsOf_nodup placement.node
      (local_targets parsed placement pairShift) member (known url member)
  · intro two
    obtain ⟨remote, apart, moved⟩ := exists_rotation pairShift two
    have targets := paired_targets parsed placement two moved
    refine ⟨remote, apart, targets, ?_⟩
    intro url member
    exact target_once hostsOf_nodup (placement.node.trans remote) targets member (known url member)

/-- Two nodes, the second with two targets. -/
def sampleHost (url : String) : String := if "http://n0:".toList.isPrefixOf url.toList then "n0" else "n1"

def sampleUrls : List String := ["http://n0:8000", "http://n1:8000", "http://n1:8001"]

/-- The ranks run on the hosts in the opposite order. -/
def sampleAddresses (rank : Fin (hostsOf sampleHost sampleUrls).length) : List String :=
  if rank.val = 0 then ["localhost", "n1"] else ["localhost", "n0"]

theorem sample_placement_answers : ∀ rank index : Fin (hostsOf sampleHost sampleUrls).length,
    (hostsOf sampleHost sampleUrls).get index ∈ sampleAddresses rank ↔ index = Fin.revPerm rank := by
  decide +kernel

/-- A shift by as many hosts as there are still leads each rank to the other host. -/
theorem sample_loads_equally : ∃! rank : Fin (hostsOf sampleHost sampleUrls).length, ∃ targets,
    applyDirectTopology (fun url => .ok (some (sampleHost url))) (sampleAddresses rank) sampleUrls rank
      (hostsOf sampleHost sampleUrls).length "paired" (-2) = .ok targets ∧ "http://n1:8001" ∈ targets := by
  have placed : Placement (hostsOf sampleHost sampleUrls) sampleAddresses := ⟨Fin.revPerm, sample_placement_answers⟩
  obtain ⟨_, paired⟩ := @topology_loads_equally (fun url => .ok (some (sampleHost url))) sampleUrls sampleHost
    sampleAddresses (fun _ _ => rfl) placed (-2)
  obtain ⟨_, _, _, once⟩ := paired (by decide +kernel)
  exact once "http://n1:8001" (by decide +kernel)

end Loads

end ExaServe.Replay
