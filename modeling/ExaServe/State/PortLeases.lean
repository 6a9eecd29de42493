import ExaServe.State.Ports

namespace ExaServe.State.Ports

open Lib

variable {ι : Type}

/-- The claim file of a port names this owner and token. -/
def Node.Names (node : Node ι) (port : Nat) (owner : Int) (token : Token ι) : Prop :=
  ∃ mtime, node.claim port = some { content := .claim owner token, mtime }

/-- The guarded part of `release` is over and the lease is given up. -/
def Process.surrendered (process : Process ι) (index : Nat) : Prop :=
  process.stage = .releasing index (.unlock true) ∨ process.stage = .releasing index (.finish true)

/-- A live process has a lease object for the port that it has not released. -/
def System.Holds (system : System ι) (i : ι) (port : Nat) : Prop :=
  system.shared.processes.life i = .live ∧ ∃ index lease, (system.own i).leases[index]? = some lease ∧
    lease.port = port ∧ lease.released = false ∧ ¬ (system.own i).surrendered index

theorem Node.Names.unique {node : Node ι} {port : Nat} {first second : Int} {left right : Token ι}
    (one : node.Names port first left) (other : node.Names port second right) :
    first = second ∧ left = right := by
  obtain ⟨m, found⟩ := one
  obtain ⟨m', found'⟩ := other
  rw [found] at found'
  cases found'
  exact ⟨rfl, rfl⟩

theorem names_congr {node after : Node ι} {port : Nat} (same : after.claim port = node.claim port)
    (owner : Int) (token : Token ι) : after.Names port owner token ↔ node.Names port owner token := by
  rw [Node.Names, Node.Names, same]

theorem setClaim_ne (node : Node ι) {port other : Nat} (file : Option (ClaimFile ι)) (ne : other ≠ port) :
    (node.setClaim port file).claim other = node.claim other := Function.update_of_ne ne ..

@[simp] theorem setClaim_same (node : Node ι) (port : Nat) (file : Option (ClaimFile ι)) :
    (node.setClaim port file).claim port = file := Function.update_self ..

/-- Putting another file at a port keeps every token that is not named there. -/
theorem names_setClaim {node : Node ι} {port other : Nat} {file : Option (ClaimFile ι)} {owner : Int}
    {token : Token ι} (named : node.Names other owner token)
    (spared : ∀ o, ¬ node.Names port o token) : (node.setClaim port file).Names other owner token := by
  have ne : other ≠ port := by
    intro same
    subst same
    exact spared owner named
  obtain ⟨mtime, found⟩ := named
  exact ⟨mtime, by rw [setClaim_ne node file ne]; exact found⟩

section Invariant

variable (pid : ι → Int)

/-- Live processes stand in the process table, and a claim carries the pid of the
    process that drew its token. -/
structure Common (node : Node ι) : Prop where
  tabled : node.processes.Tabled pid
  owned : ∀ port owner token, node.Names port owner token →
    owner = pid token.1 ∧ node.processes.life token.1 ≠ .unborn

/-- What a process knows of the claim file while it has its guard. -/
def Facts (i : ι) (node : Node ι) (process : Process ι) : Prop :=
  match process.stage with
  | .claiming port _ _ (.judge owner _) => ∀ o token, node.Names port o token → o = owner
  | .claiming port _ _ .discard => ∀ o token, node.Names port o token → node.processes.life token.1 = .ended
  | .claiming port _ _ .write =>
    (node.claim port).isSome ∧ ∀ o token, ¬ node.Names port o token
  | .claiming port _ serial .probe | .claiming port _ serial .withdraw
  | .claiming port _ serial .retract | .claiming port _ serial (.unlock .lease) =>
    node.Names port (pid i) (i, serial)
  | .releasing index .unlink => ∀ lease token, process.leases[index]? = some lease →
    lease.token = some token → node.Names lease.port (pid i) token
  | _ => True

/-- The tokens of the leases are draws of this process, all distinct, and the
    call in progress has a token of its own. -/
structure Minted (i : ι) (process : Process ι) : Prop where
  drawn : ∀ lease ∈ process.leases, ∃ serial < process.drawn, lease.token = some (i, serial)
  distinct : process.leases.Pairwise fun left right => left.token ≠ right.token
  current : ∀ port rest serial at_, process.stage = .claiming port rest serial at_ →
    serial < process.drawn ∧ ∀ lease ∈ process.leases, lease.token ≠ some (i, serial)

structure Standing (i : ι) (node : Node ι) (process : Process ι) : Prop where
  minted : Minted i process
  guards : ∀ port, process.guarding = some port → node.guard port = some i
  backed : ∀ index lease, process.leases[index]? = some lease → lease.released = false →
    ¬ process.surrendered index → ∃ token, lease.token = some token ∧ node.Names lease.port (pid i) token
  facts : Facts pid i node process

def Single (i : ι) (node : Node ι) (process : Process ι) : Prop :=
  node.processes.life i = .live → Standing pid i node process

/-- What a step of one process leaves of the node for the others. -/
structure Spares (i : ι) (node after : Node ι) : Prop where
  guards : ∀ port j, j ≠ i → node.guard port = some j → after.guard port = some j
  claims : ∀ port, node.guard port ≠ some i → after.claim port = node.claim port
  names : ∀ port owner token, token.1 ≠ i → node.processes.life token.1 = .live → node.Names port owner token →
    after.Names port owner token
  life : ∀ j, j ≠ i → after.processes.life j = node.processes.life j
  ended : ∀ j, node.processes.life j = .ended → after.processes.life j = .ended

end Invariant

variable {pid : ι → Int} {i : ι} {node after : Node ι} {process : Process ι}

theorem Spares.refl (i : ι) (node : Node ι) : Spares i node node where
  guards := fun _ _ _ held => held
  claims := fun _ _ => rfl
  names := fun _ _ _ _ _ named => named
  life := fun _ _ => rfl
  ended := fun _ over_ => over_

theorem facts_congr (claims : ∀ port, process.guarding = some port → after.claim port = node.claim port)
    (ended : ∀ j, node.processes.life j = .ended → after.processes.life j = .ended) (facts : Facts pid i node process) :
    Facts pid i after process := by
  unfold Facts at facts ⊢
  split at facts <;> rename_i stage
  case h_1 port _ _ _ _ =>
    have same := names_congr (claims port (by simp [Process.guarding, stage]))
    simpa only [same] using facts
  case h_2 port _ _ =>
    have same := names_congr (claims port (by simp [Process.guarding, stage]))
    intro o token named
    exact ended _ (facts o token ((same o token).mp named))
  case h_3 port _ _ =>
    have same := claims port (by simp [Process.guarding, stage])
    simpa only [names_congr same, same] using facts
  case h_8 index =>
    intro lease token found drawn
    have same := claims lease.port (by simp [Process.guarding, stage, found])
    exact (names_congr same _ _).mpr (facts lease token found drawn)
  case h_9 => trivial
  all_goals
    rename_i port _ _
    have same := names_congr (claims _ (by simp [Process.guarding, stage]; rfl))
    exact (same _ _).mpr facts

theorem Standing.spared {j : ι} (other : j ≠ i) (standing : Standing pid j node process)
    (live : node.processes.life j = .live) (spares : Spares i node after) : Standing pid j after process where
  minted := standing.minted
  guards := fun port guarding => spares.guards port j other (standing.guards port guarding)
  backed := by
    intro index lease found unreleased kept
    obtain ⟨token, drawn, named⟩ := standing.backed index lease found unreleased kept
    obtain ⟨serial, -, minted⟩ := standing.minted.drawn lease (List.mem_of_getElem? found)
    have mine : token = (j, serial) := Option.some.inj (drawn.symm.trans minted)
    subst mine
    exact ⟨_, drawn, spares.names _ _ _ other live named⟩
  facts := by
    apply facts_congr _ spares.ended standing.facts
    intro port guarding
    apply spares.claims
    rw [standing.guards port guarding]
    exact fun same => other (Option.some.inj same)

/-- What one turn has to establish. -/
structure Kept (pid : ι → Int) (i : ι) (node : Node ι) (result : Node ι × Process ι) : Prop where
  common : Common pid result.1
  spares : Spares i node result.1
  standing : result.1.processes.life i = .live → Standing pid i result.1 result.2

theorem Minted.next (minted : Minted i process) {stage : Stage}
    (current : ∀ port rest serial at_, stage = .claiming port rest serial at_ →
      ∃ before, process.stage = .claiming port rest serial before) : Minted i (process.next stage) where
  drawn := minted.drawn
  distinct := minted.distinct
  current := by
    intro port rest serial at_ now
    obtain ⟨before, was⟩ := current port rest serial at_ now
    exact minted.current port rest serial before was

theorem Spares.setClaim {port : Nat} (held : node.guard port = some i) (file : Option (ClaimFile ι))
    (gone : ∀ owner token, node.Names port owner token → token.1 = i ∨ node.processes.life token.1 = .ended) :
    Spares i node (node.setClaim port file) where
  guards := fun _ _ _ held => held
  claims := by
    intro other free
    apply setClaim_ne
    intro same
    subst same
    exact free held
  names := by
    intro other owner token foreign live named
    apply names_setClaim named
    intro o there
    rcases gone o token there with own | over_
    · exact foreign own
    · rw [live] at over_
      cases over_
  life := fun _ _ => rfl
  ended := fun _ over_ => over_

theorem Common.setClaim (common : Common pid node) (live : node.processes.life i = .live) {port : Nat}
    {file : Option (ClaimFile ι)}
    (named : ∀ mtime owner token, file = some { content := .claim owner token, mtime } →
      owner = pid i ∧ token.1 = i) : Common pid (node.setClaim port file) where
  tabled := common.tabled
  owned := by
    intro other owner token there
    by_cases same : other = port
    · subst same
      obtain ⟨mtime, found⟩ := there
      rw [setClaim_same] at found
      obtain ⟨rfl, mine⟩ := named mtime owner token found
      rw [mine]
      exact ⟨rfl, by show node.processes.life i ≠ _; rw [live]; simp⟩
    · exact common.owned other owner token ((names_congr (setClaim_ne node file same) _ _).mp there)

theorem Standing.move (standing : Standing pid i node process) {stage : Stage}
    (minted : Minted i (process.next stage))
    (guards : ∀ port, (process.next stage).guarding = some port → after.guard port = some i)
    (surrenders : ∀ index, process.surrendered index → (process.next stage).surrendered index)
    (names : ∀ index lease token, process.leases[index]? = some lease → lease.token = some token →
      ¬ (process.next stage).surrendered index → node.Names lease.port (pid i) token →
      after.Names lease.port (pid i) token)
    (facts : Facts pid i after (process.next stage)) : Standing pid i after (process.next stage) where
  minted := minted
  guards := guards
  backed := by
    intro index lease found unreleased kept
    obtain ⟨token, drawn, named⟩ := standing.backed index lease found unreleased
      (fun given => kept (surrenders index given))
    exact ⟨token, drawn, names index lease token found drawn kept named⟩
  facts := facts

section Claim

variable {port serial : Nat} {rest : List Nat} {source target : ClaimStage}

theorem claiming_not_surrendered (was : process.stage = .claiming port rest serial source) (index : Nat) :
    ¬ process.surrendered index := by
  rintro (given | given) <;> rw [was] at given <;> cases given

theorem guarding_claiming (was : process.stage = .claiming port rest serial source) (inside : source ≠ .lock) :
    process.guarding = some port := by
  unfold Process.guarding
  rw [was]
  cases source <;> first | rfl | exact absurd rfl inside

theorem guarding_next (process : Process ι) (within : target ≠ .lock) :
    (process.next (.claiming port rest serial target)).guarding = some port :=
  guarding_claiming rfl within

theorem Minted.claiming (minted : Minted i process) (was : process.stage = .claiming port rest serial source) :
    Minted i (process.next (.claiming port rest serial target)) := by
  apply minted.next
  rintro _ _ _ _ ⟨⟩
  exact ⟨source, was⟩

/-- A step of `_claim` that leaves the node as it is. -/
theorem kept_stay (common : Common pid node) (standing : Standing pid i node process)
    (was : process.stage = .claiming port rest serial source) (inside : source ≠ .lock) (within : target ≠ .lock)
    (facts : Facts pid i node (process.next (.claiming port rest serial target))) :
    Kept pid i node (node, process.next (.claiming port rest serial target)) where
  common := common
  spares := Spares.refl i node
  standing := by
    intro live
    apply standing.move (standing.minted.claiming was) _ _ _ facts
    · intro other guarding
      rw [guarding_next process within] at guarding
      cases guarding
      exact standing.guards port (guarding_claiming was inside)
    · intro index given
      exact absurd given (claiming_not_surrendered was index)
    · intro index lease token _ _ _ named
      exact named

/-- A step of `_claim` that puts another file at its port. Only its own claim, or
    one whose process has ended, may stand there. -/
theorem kept_setClaim (common : Common pid node) (live : node.processes.life i = .live)
    (standing : Standing pid i node process) (was : process.stage = .claiming port rest serial source)
    (inside : source ≠ .lock) (within : target ≠ .lock) {file : Option (ClaimFile ι)}
    (written : ∀ mtime owner token, file = some { content := .claim owner token, mtime } →
      owner = pid i ∧ token.1 = i)
    (gone : ∀ owner token, node.Names port owner token →
      token = (i, serial) ∨ node.processes.life token.1 = .ended)
    (facts : Facts pid i (node.setClaim port file) (process.next (.claiming port rest serial target))) :
    Kept pid i node (node.setClaim port file, process.next (.claiming port rest serial target)) := by
  have held := standing.guards port (guarding_claiming was inside)
  refine ⟨common.setClaim live written, ?_, ?_⟩
  · apply Spares.setClaim held
    intro owner token named
    exact (gone owner token named).imp_left fun same => by rw [same]
  · intro _
    apply standing.move (standing.minted.claiming was) _ _ _ facts
    · intro other guarding
      rw [guarding_next process within] at guarding
      cases guarding
      exact held
    · intro index given
      exact absurd given (claiming_not_surrendered was index)
    · intro index lease token found drawn _ named
      apply names_setClaim named
      intro o there
      have member := List.mem_of_getElem? found
      rcases gone o token there with same | over_
      · subst same
        exact (standing.minted.current port rest serial source was).2 lease member drawn
      · obtain ⟨n, -, minted⟩ := standing.minted.drawn lease member
        cases drawn.symm.trans minted
        rw [live] at over_
        cases over_

end Claim

theorem Spares.setGuard {port : Nat} (mine : node.guard port = none ∨ node.guard port = some i)
    (holder : Option ι) : Spares i node (node.setGuard port holder) where
  guards := by
    intro other j foreign held
    have ne : other ≠ port := by
      intro same
      subst same
      rcases mine with free | own
      · rw [held] at free
        cases free
      · rw [held] at own
        exact foreign (Option.some.inj own)
    exact (Function.update_of_ne ne ..).trans held
  claims := fun _ _ => rfl
  names := fun _ _ _ _ _ named => named
  life := fun _ _ => rfl
  ended := fun _ over_ => over_

theorem Common.setGuard (common : Common pid node) (port : Nat) (holder : Option ι) :
    Common pid (node.setGuard port holder) := ⟨common.tabled, common.owned⟩

/-- Out of a call, or at the guard of the next port, a process relies on its leases only. -/
theorem Standing.tryNext (standing : Standing pid i node process) (guard : Nat → Option ι)
    (kept : ∀ index, ¬ process.surrendered index) (ports : List Nat) :
    Standing pid i { node with guard } (process.tryNext ports) := by
  have backed : ∀ (index : Nat) (lease : PortLease ι), process.leases[index]? = some lease →
      lease.released = false → ∃ token, lease.token = some token ∧ node.Names lease.port (pid i) token :=
    fun index lease found unreleased => standing.backed index lease found unreleased (kept index)
  cases ports with
  | nil =>
    refine ⟨standing.minted.next ?_, ?_, ?_, trivial⟩
    · intro _ _ _ _ now
      cases now
    · intro port guarding
      cases guarding
    · intro index lease found unreleased _
      exact backed index lease found unreleased
  | cons port rest =>
    refine ⟨⟨?_, standing.minted.distinct, ?_⟩, ?_, ?_, trivial⟩
    · intro lease member
      obtain ⟨serial, below, drawn⟩ := standing.minted.drawn lease member
      exact ⟨serial, Nat.lt_succ_of_lt below, drawn⟩
    · rintro _ _ _ _ ⟨⟩
      refine ⟨Nat.lt_succ_self _, ?_⟩
      intro lease member fresh
      obtain ⟨serial, below, drawn⟩ := standing.minted.drawn lease member
      cases drawn.symm.trans fresh
      exact lt_irrefl _ below
    · intro other guarding
      cases guarding
    · intro index lease found unreleased _
      exact backed index lease found unreleased

section Claim

variable {port serial : Nat} {rest : List Nat} {source : ClaimStage}

theorem Standing.leased (standing : Standing pid i node process) (guard : Nat → Option ι)
    (was : process.stage = .claiming port rest serial source) (named : node.Names port (pid i) (i, serial)) :
    Standing pid i { node with guard }
      { process with leases := process.leases ++ [{ port, token := some (i, serial) }], stage := .idle } := by
  obtain ⟨below, unused⟩ := standing.minted.current port rest serial source was
  refine ⟨⟨?_, ?_, ?_⟩, ?_, ?_, trivial⟩
  · intro lease member
    rcases List.mem_append.mp member with old | new
    · exact standing.minted.drawn lease old
    · rw [List.mem_singleton] at new
      subst new
      exact ⟨serial, below, rfl⟩
  · apply List.pairwise_append.mpr
    refine ⟨standing.minted.distinct, List.pairwise_singleton _ _, ?_⟩
    intro lease member new last
    rw [List.mem_singleton] at last
    subst last
    exact unused lease member
  · intro _ _ _ _ now
    cases now
  · intro other guarding
    cases guarding
  · intro index lease found unreleased _
    rcases Nat.lt_or_ge index process.leases.length with old | new
    · rw [List.getElem?_append_left old] at found
      exact standing.backed index lease found unreleased (claiming_not_surrendered was index)
    · rw [List.getElem?_append_right new] at found
      obtain rfl := List.mem_singleton.mp (List.mem_of_getElem? found)
      exact ⟨(i, serial), rfl, named⟩

variable [DecidableEq ι] {answer : Answer ι}

theorem claimTurn_kept (common : Common pid node) (live : node.processes.life i = .live)
    (standing : Standing pid i node process) (was : process.stage = .claiming port rest serial source) :
    Kept pid i node (claimTurn pid i answer node process port rest serial source) := by
  have facts := standing.facts
  unfold Facts at facts
  rw [was] at facts
  have none_surrendered := claiming_not_surrendered was
  cases source with
  | lock =>
    rw [claimTurn]
    split_ifs
    · exact ⟨common, Spares.refl i node, fun _ => standing.tryNext node.guard none_surrendered []⟩
    · split
      · rename_i free
        refine ⟨common.setGuard port _, Spares.setGuard (.inl free) _, fun _ => ?_⟩
        apply standing.move (standing.minted.claiming was)
        · intro other guarding
          cases guarding
          exact Function.update_self ..
        · intro index given
          exact absurd given (none_surrendered index)
        · intro _ _ _ _ _ _ named
          exact named
        · trivial
      · exact ⟨common, Spares.refl i node, fun _ => standing⟩
  | create =>
    rw [claimTurn]
    split_ifs
    · exact kept_stay common standing was nofun nofun trivial
    · exact kept_stay common standing was nofun nofun trivial
    · split
      · rename_i absent
        apply kept_setClaim common live standing was (by decide) (by decide)
        · intro _ _ _ empty
          cases empty
        · rintro _ _ ⟨_, found⟩
          rw [absent] at found
          cases found
        · refine ⟨by simp, ?_⟩
          rintro _ _ ⟨_, found⟩
          simp [created, Content.empty] at found
      · exact kept_stay common standing was nofun nofun trivial
  | stat =>
    rw [claimTurn]
    split <;> exact kept_stay common standing was nofun nofun trivial
  | read mtime =>
    rw [claimTurn]
    split
    · rename_i owner _ _ found
      refine kept_stay common standing was nofun nofun ?_
      rintro o token ⟨_, named⟩
      rw [named] at found
      cases found
      rfl
    · exact kept_stay common standing was nofun nofun trivial
  | judge owner mtime =>
    rw [claimTurn]
    split_ifs with refused
    · exact kept_stay common standing was nofun nofun trivial
    · refine kept_stay common standing was nofun nofun ?_
      intro o token named
      obtain ⟨drawn, born⟩ := common.owned port o token named
      have same := facts o token named
      -- a live process would be found under the owner's pid
      have dead : node.processes.life token.1 ≠ .live := by
        intro alive
        have tabled := common.tabled token.1 alive
        rw [← drawn, same] at tabled
        exact refused (.inl (by simp [Node.pidAlive, tabled]))
      cases stage : node.processes.life token.1 with
      | unborn => exact absurd stage born
      | live => exact absurd stage dead
      | ended => rfl
  | discard =>
    rw [claimTurn]
    split
    · apply kept_setClaim common live standing was (by decide) (by decide)
      · intro _ _ _ removed
        cases removed
      · intro owner token named
        exact .inr (facts owner token named)
      · trivial
    · exact kept_stay common standing was nofun nofun trivial
  | recreate =>
    rw [claimTurn]
    split
    · rename_i absent
      apply kept_setClaim common live standing was (by decide) (by decide)
      · intro _ _ _ empty
        cases empty
      · rintro _ _ ⟨_, found⟩
        rw [absent] at found
        cases found
      · refine ⟨by simp, ?_⟩
        rintro _ _ ⟨_, found⟩
        simp [created, Content.empty] at found
    · exact kept_stay common standing was nofun nofun trivial
  | write =>
    obtain ⟨present, unnamed⟩ := facts
    obtain ⟨file, found⟩ := Option.isSome_iff_exists.mp present
    rw [claimTurn]
    simp only [found, Option.map_some]
    split_ifs
    · apply kept_setClaim common live standing was (by decide) (by decide)
      · intro mtime owner token torn
        cases content : answer.torn <;> simp only [content] at torn <;> cases torn
        exact ⟨rfl, rfl⟩
      · intro owner token named
        exact absurd named (unnamed owner token)
      · trivial
    · apply kept_setClaim common live standing was (by decide) (by decide)
      · intro mtime owner token ours
        cases ours
        exact ⟨rfl, rfl⟩
      · intro owner token named
        exact absurd named (unnamed owner token)
      · exact ⟨answer.now, setClaim_same ..⟩
  | probe =>
    rw [claimTurn]
    split_ifs
    · exact kept_stay common standing was nofun nofun trivial
    · exact kept_stay common standing was nofun nofun facts
    · exact kept_stay common standing was nofun nofun facts
  | withdraw =>
    rw [claimTurn]
    split
    · apply kept_setClaim common live standing was (by decide) (by decide)
      · intro _ _ _ removed
        cases removed
      · intro owner token named
        exact .inl (named.unique facts).2
      · trivial
    · exact kept_stay common standing was nofun nofun trivial
  | unwind =>
    rw [claimTurn]
    split
    · rename_i owner token _ found
      split_ifs with ours
      · refine kept_stay common standing was nofun nofun ?_
        obtain ⟨rfl, rfl⟩ := ours
        obtain ⟨file, there, read⟩ := Option.bind_eq_some_iff.mp found
        obtain ⟨content, mtime⟩ := file
        cases content <;> cases read
        exact ⟨mtime, there⟩
      · exact kept_stay common standing was nofun nofun trivial
    · exact kept_stay common standing was nofun nofun trivial
  | retract =>
    rw [claimTurn]
    split_ifs
    · exact kept_stay common standing was nofun nofun trivial
    · apply kept_setClaim common live standing was (by decide) (by decide)
      · intro _ _ _ removed
        cases removed
      · intro owner token named
        exact .inl (named.unique facts).2
      · trivial
  | unlock result =>
    have held := standing.guards port (guarding_claiming was nofun)
    have spares := Spares.setGuard (.inr held) (none : Option ι)
    cases result with
    | lease => exact ⟨common.setGuard port _, spares, fun _ => standing.leased _ was facts⟩
    | nothing => exact ⟨common.setGuard port _, spares, fun _ => standing.tryNext _ none_surrendered rest⟩
    | raised => exact ⟨common.setGuard port _, spares, fun _ => standing.tryNext _ none_surrendered []⟩

end Claim

section Release

variable {index port : Nat} {held : Token ι} {source target : ReleaseStage} {lease : PortLease ι}

theorem Minted.releasing (minted : Minted i process) :
    Minted i (process.next (.releasing index target)) := by
  apply minted.next
  intro _ _ _ _ now
  cases now

theorem surrendered_releasing (was : process.stage = .releasing index source) (other : Nat) :
    process.surrendered other ↔ other = index ∧ (source = .unlock true ∨ source = .finish true) := by
  unfold Process.surrendered
  rw [was]
  simp only [Stage.releasing.injEq]
  tauto

/-- A step of `release` that leaves the node as it is. -/
theorem kept_release (common : Common pid node) (standing : Standing pid i node process)
    (was : process.stage = .releasing index source)
    (before : source ≠ .unlock true ∧ source ≠ .finish true)
    (guards : ∀ port, (process.next (.releasing index target)).guarding = some port →
      node.guard port = some i)
    (facts : Facts pid i node (process.next (.releasing index target))) :
    Kept pid i node (node, process.next (.releasing index target)) where
  common := common
  spares := Spares.refl i node
  standing := by
    intro _
    apply standing.move standing.minted.releasing guards _ _ facts
    · intro other given
      rcases ((surrendered_releasing was other).mp given).2 with late | late
      · exact absurd late before.1
      · exact absurd late before.2
    · intro _ _ _ _ _ _ named
      exact named

theorem Pairwise.token_unique {leases : List (PortLease ι)}
    (distinct : leases.Pairwise fun left right => left.token ≠ right.token) {first second : Nat}
    {one other : PortLease ι} (found : leases[first]? = some one) (found' : leases[second]? = some other)
    (same : one.token = other.token) : first = second := by
  obtain ⟨below, rfl⟩ := List.getElem?_eq_some_iff.mp found
  obtain ⟨below', rfl⟩ := List.getElem?_eq_some_iff.mp found'
  rcases Nat.lt_trichotomy first second with less | equal | more
  · exact absurd same (List.pairwise_iff_getElem.mp distinct first second below below' less)
  · exact equal
  · exact absurd same.symm (List.pairwise_iff_getElem.mp distinct second first below' below more)

/-- The end of `release`: the object is marked, and nothing relies on it any more. -/
theorem Standing.markReleased (standing : Standing pid i node process)
    (was : process.stage = .releasing index source) :
    Standing pid i node ((process.markReleased index).next .idle) := by
  have shape : ∀ (other : Nat) (lease : PortLease ι),
      (process.leases.modify index fun lease => { lease with released := true })[other]? = some lease →
      ∃ old, process.leases[other]? = some old ∧ old.token = lease.token ∧ old.port = lease.port ∧
        (lease.released = false → other ≠ index ∧ old.released = false) := by
    intro other lease found
    rw [List.getElem?_modify] at found
    obtain ⟨old, there, rfl⟩ := Option.map_eq_some_iff.mp found
    refine ⟨old, there, ?_⟩
    split_ifs with same
    · exact ⟨rfl, rfl, nofun⟩
    · exact ⟨rfl, rfl, fun unreleased => ⟨fun other => same other.symm, unreleased⟩⟩
  refine ⟨⟨?_, ?_, ?_⟩, ?_, ?_, trivial⟩
  · intro lease member
    obtain ⟨other, found⟩ := List.mem_iff_getElem?.mp member
    obtain ⟨old, there, token, -⟩ := shape other lease found
    rw [← token]
    exact standing.minted.drawn old (List.mem_of_getElem? there)
  · apply List.pairwise_iff_getElem.mpr
    intro first second below below' less same
    obtain ⟨one, there, token, -⟩ := shape first _ (List.getElem?_eq_getElem below)
    obtain ⟨two, there', token', -⟩ := shape second _ (List.getElem?_eq_getElem below')
    have equal := Pairwise.token_unique standing.minted.distinct there there' (by rw [token, token', same])
    omega
  · intro _ _ _ _ now
    cases now
  · intro other guarding
    cases guarding
  · intro other lease found unreleased _
    obtain ⟨old, there, token, at_, kept⟩ := shape other lease found
    obtain ⟨ne, still⟩ := kept unreleased
    rw [← token, ← at_]
    apply standing.backed other old there still
    rw [surrendered_releasing was]
    exact fun given => ne given.1

variable [DecidableEq ι] {answer : Answer ι}

theorem releaseTurn_kept (common : Common pid node) (live : node.processes.life i = .live)
    (standing : Standing pid i node process) (was : process.stage = .releasing index source)
    (found : process.leases[index]? = some lease) (drawn : lease.token = some held) :
    Kept pid i node (releaseTurn pid i answer node process index lease.port held source) := by
  have facts := standing.facts
  unfold Facts at facts
  rw [was] at facts
  have at_port : ∀ target, (process.next (.releasing index target)).guarding = none ∨
      (process.next (.releasing index target)).guarding = some lease.port := by
    intro target
    cases target <;> simp [Process.guarding, Process.next, found]
  have guards_of : node.guard lease.port = some i → ∀ target other,
      (process.next (.releasing index target)).guarding = some other → node.guard other = some i := by
    intro locked target other guarding
    rcases at_port target with free | taken
    · rw [free] at guarding
      cases guarding
    · rw [taken] at guarding
      cases guarding
      exact locked
  have locked : source ≠ .lock → (∀ done, source ≠ .finish done) → node.guard lease.port = some i := by
    intro inside unfinished
    apply standing.guards
    unfold Process.guarding
    rw [was]
    cases source <;> simp_all
  cases source with
  | lock =>
    rw [releaseTurn]
    split_ifs
    · exact kept_release common standing was (by decide) nofun trivial
    · exact kept_release common standing was (by decide) nofun trivial
    · split
      · rename_i free
        refine ⟨common.setGuard _ _, Spares.setGuard (.inl free) _, fun _ => ?_⟩
        apply standing.move standing.minted.releasing
        · intro other guarding
          rcases at_port .read with none_ | taken
          · rw [none_] at guarding
            cases guarding
          · rw [taken] at guarding
            cases guarding
            exact Function.update_self ..
        · intro other given
          exact absurd ((surrendered_releasing was other).mp given).2 (by decide)
        · intro _ _ _ _ _ _ named
          exact named
        · trivial
      · exact ⟨common, Spares.refl i node, fun _ => standing⟩
  | read =>
    have guards := guards_of (locked (by decide) nofun)
    rw [releaseTurn]
    split
    · exact kept_release common standing was (by decide) (guards _) trivial
    · rename_i file there
      split
      · rename_i owner token _ read
        split_ifs with ours
        · apply kept_release common standing was (by decide) (guards _)
          intro same token found' drawn'
          cases found.symm.trans found'
          cases drawn.symm.trans drawn'
          obtain ⟨rfl, rfl⟩ := ours
          obtain ⟨content, mtime⟩ := file
          cases content <;> cases read
          exact ⟨mtime, there⟩
        · exact kept_release common standing was (by decide) (guards _) trivial
      · exact kept_release common standing was (by decide) (guards _) trivial
  | unlink =>
    have holding := locked (by decide) nofun
    have named := facts lease held found drawn
    obtain ⟨serial, -, minted⟩ := standing.minted.drawn lease (List.mem_of_getElem? found)
    rw [releaseTurn]
    split_ifs
    · exact kept_release common standing was (by decide) (guards_of holding _) trivial
    · refine ⟨common.setClaim live nofun, ?_, fun _ => ?_⟩
      · apply Spares.setClaim holding
        intro owner token there
        cases drawn.symm.trans minted
        exact .inl (by rw [(there.unique named).2])
      · apply standing.move standing.minted.releasing
        · exact guards_of holding _
        · intro other given
          exact absurd ((surrendered_releasing was other).mp given).2 (by decide)
        · intro other second token found' drawn' kept there
          apply names_setClaim there
          intro o at_
          have same := (at_.unique named).2
          subst same
          apply kept
          have equal := Pairwise.token_unique standing.minted.distinct found' found (drawn'.trans drawn.symm)
          rw [equal]
          exact .inl rfl
        · trivial
  | unlock done =>
    refine ⟨common.setGuard _ _, Spares.setGuard (.inr (locked nofun nofun)) _, fun _ => ?_⟩
    apply standing.move standing.minted.releasing
    · intro other guarding
      cases guarding
    · intro other given
      obtain ⟨rfl, late⟩ := (surrendered_releasing was other).mp given
      rw [surrendered_releasing rfl]
      simpa using late
    · intro _ _ _ _ _ _ named
      exact named
    · trivial
  | finish done =>
    cases done with
    | true => exact ⟨common, Spares.refl i node, fun _ => standing.markReleased was⟩
    | false =>
      refine ⟨common, Spares.refl i node, fun _ => standing.tryNext node.guard ?_ []⟩
      intro other given
      exact absurd ((surrendered_releasing was other).mp given).2 (by decide)

end Release

theorem Kept.same (common : Common pid node) {result : Process ι}
    (standing : node.processes.life i = .live → Standing pid i node result) : Kept pid i node (node, result) :=
  ⟨common, Spares.refl i node, standing⟩

/-- Outside a call, the start of one relies on the leases only. -/
theorem Standing.reservePort (standing : Standing pid i node process) (idle : process.stage = .idle)
    (startPort maxRetries : Int) (bindHost : String) (secure : Bool) :
    Standing pid i node (process.reservePort startPort maxRetries bindHost secure) := by
  unfold Process.reservePort
  split_ifs
  · exact standing
  · apply standing.tryNext node.guard
    intro index given
    rcases given with given | given <;> rw [idle] at given <;> cases given

theorem Standing.release (standing : Standing pid i node process) (idle : process.stage = .idle)
    (index : Nat) : Standing pid i node (process.release index) := by
  unfold Process.release
  split
  · exact standing
  · rename_i lease found
    split_ifs
    · exact standing
    · split
      · rename_i undrawn
        obtain ⟨serial, -, drawn⟩ := standing.minted.drawn lease (List.mem_of_getElem? found)
        rw [undrawn] at drawn
        cases drawn
      · apply standing.move standing.minted.releasing
        · intro other guarding
          cases guarding
        · intro other given
          rcases given with given | given <;> rw [idle] at given <;> cases given
        · intro _ _ _ _ _ _ named
          exact named
        · trivial

theorem start_sound (pid : ι → Int) (left : Nat → Option (Option Int × ℚ)) :
    (System.start left : System ι).Sound (Common pid) (Single pid) where
  common := by
    refine ⟨nofun, ?_⟩
    rintro port owner token ⟨mtime, found⟩
    obtain ⟨⟨text, at_⟩, -, same⟩ := Option.map_eq_some_iff.mp found
    cases text <;> cases same
  single := nofun

theorem Holds.named {system : System ι} (sound : system.Sound (Common pid) (Single pid)) {port : Nat}
    (holds : system.Holds i port) : ∃ serial, system.shared.Names port (pid i) (i, serial) := by
  obtain ⟨live, index, lease, found, rfl, unreleased, kept⟩ := holds
  have standing := sound.single i live
  obtain ⟨token, drawn, named⟩ := standing.backed index lease found unreleased kept
  obtain ⟨serial, -, minted⟩ := standing.minted.drawn lease (List.mem_of_getElem? found)
  cases drawn.symm.trans minted
  exact ⟨serial, named⟩

/-- No two live processes hold a port. -/
def System.Exclusive (system : System ι) : Prop :=
  ∀ i j port, system.Holds i port → system.Holds j port → i = j

theorem exclusive_of_sound {system : System ι} (sound : system.Sound (Common pid) (Single pid)) :
    system.Exclusive := by
  intro i j port left right
  obtain ⟨n, named⟩ := Holds.named sound left
  obtain ⟨m, named'⟩ := Holds.named sound right
  have same := (named.unique named').2
  cases same
  rfl

variable [DecidableEq ι]

theorem proceed_kept {answer : Answer ι} (common : Common pid node) (live : node.processes.life i = .live)
    (standing : Standing pid i node process) : Kept pid i node (proceed pid i answer node process) := by
  unfold proceed
  split
  · exact ⟨common, Spares.refl i node, fun _ => standing⟩
  · rename_i was
    exact claimTurn_kept common live standing was
  · rename_i index _ was
    split
    · rename_i found
      exact releaseTurn_kept common live standing was found rfl
    · rename_i stray
      refine ⟨common, Spares.refl i node, fun _ => ⟨standing.minted.next ?_, ?_, ?_, trivial⟩⟩
      · intro _ _ _ _ now
        cases now
      · intro other guarding
        cases guarding
      · intro other lease found unreleased _
        apply standing.backed other lease found unreleased
        intro given
        obtain ⟨rfl, -⟩ := (surrendered_releasing was other).mp given
        obtain ⟨serial, -, drawn⟩ := standing.minted.drawn lease (List.mem_of_getElem? found)
        obtain ⟨port, token, released⟩ := lease
        cases drawn
        exact stray port (i, serial) released found

theorem spawn_kept (common : Common pid node) (unborn : node.processes.life i = .unborn)
    (free : node.processes.table (pid i) = none) : Kept pid i node (node.spawn pid i, {}) where
  common := by
    refine ⟨Processes.tabled_spawn common.tabled free, ?_⟩
    intro port owner token named
    obtain ⟨mine, born⟩ := common.owned port owner token named
    exact ⟨mine, Processes.born_spawn born⟩
  spares := by
    constructor
    · exact fun _ _ _ held => held
    · exact fun _ _ => rfl
    · exact fun _ _ _ _ _ named => named
    · exact fun _ other => Processes.life_spawn_ne other
    · exact fun _ over_ => Processes.ended_spawn unborn over_
  standing := by
    intro _
    refine ⟨⟨nofun, List.Pairwise.nil, nofun⟩, nofun, ?_, trivial⟩
    intro index lease found
    cases found

theorem exit_kept (common : Common pid node) (live : node.processes.life i = .live)
    (standing : Standing pid i node process) : Kept pid i node (node.exit pid i process, process) where
  common := by
    refine ⟨Processes.tabled_exit common.tabled live, ?_⟩
    intro port owner token named
    obtain ⟨mine, born⟩ := common.owned port owner token named
    exact ⟨mine, Processes.born_exit born⟩
  spares := by
    constructor
    · intro port j other held
      unfold Node.exit
      cases guarding : process.guarding with
      | none => exact held
      | some mine =>
        have ne : port ≠ mine := by
          intro same
          subst same
          rw [standing.guards port guarding] at held
          exact other (Option.some.inj held).symm
        exact (Function.update_of_ne ne ..).trans held
    · exact fun _ _ => rfl
    · exact fun _ _ _ _ _ named => named
    · exact fun _ other => Processes.life_exit_ne other
    · exact fun _ over_ => Processes.ended_exit over_
  standing := by
    intro alive
    rw [show (node.exit pid i process).processes.life i = .ended from Processes.life_exit_self] at alive
    cases alive

theorem turn_kept (common : Common pid node) (single : Single pid i node process) (action : Action ι) :
    Kept pid i node (turn pid i action node process) := by
  unfold turn
  split
  · rename_i unborn
    split_ifs with taken
    · exact Kept.same common single
    · exact spawn_kept common unborn (by simpa using taken)
  · rename_i live
    exact exit_kept common live (single live)
  · rename_i live idle
    exact Kept.same common fun _ => (single live).reservePort idle ..
  · rename_i live idle
    exact Kept.same common fun _ => (single live).release idle _
  · rename_i live
    exact proceed_kept common live (single live)
  · exact Kept.same common single

theorem step_sound (pid : ι → Int) (system : System ι) (event : ι × Action ι)
    (sound : system.Sound (Common pid) (Single pid)) :
    (system.step pid event).Sound (Common pid) (Single pid) := by
  obtain ⟨i, action⟩ := event
  have kept := turn_kept sound.common (sound.single i) action
  apply sound.act rfl kept.common kept.standing
  intro j other single alive
  have live : system.shared.processes.life j = .live := (kept.spares.life j other).symm.trans alive
  exact (single live).spared other live kept.spares

theorem run_sound (pid : ι → Int) (left : Nat → Option (Option Int × ℚ)) (events : List (ι × Action ι)) :
    (run (System.step pid) (System.start left) events).Sound (Common pid) (Single pid) :=
  run_invariant (step_sound pid) (start_sound pid left) events

/-- A step of `release` removes no claim file but that of the lease it releases. -/
def System.ReleasesOwn (pid : ι → Int) (system : System ι) : Prop :=
  ∀ i index at_ answer port file, (system.own i).stage = .releasing index at_ →
    system.shared.claim port = some file →
    (system.step pid (i, .proceed answer)).shared.claim port = some file ∨
    ∃ lease token, (system.own i).leases[index]? = some lease ∧ lease.port = port ∧
      lease.token = some token ∧ file.content = .claim (pid i) token

theorem releasesOwn_of_sound {system : System ι} (sound : system.Sound (Common pid) (Single pid)) :
    system.ReleasesOwn pid := by
  intro i index at_ answer port file was there
  by_cases live : system.shared.processes.life i = .live
  · show (turn pid i (.proceed answer) system.shared (system.own i)).1.claim port = some file ∨ _
    simp only [turn, live, proceed, was]
    split
    · rename_i at_port held released found
      cases at_ with
      | unlink =>
        rw [releaseTurn]
        split_ifs
        · exact .inl there
        · by_cases same : port = at_port
          · subst same
            have facts := (sound.single i live).facts
            unfold Facts at facts
            rw [was] at facts
            obtain ⟨mtime, named⟩ := facts _ held found rfl
            cases there.symm.trans named
            exact .inr ⟨_, held, found, rfl, rfl, rfl⟩
          · exact .inl ((setClaim_ne _ _ same).trans there)
      | lock =>
        rw [releaseTurn]
        split_ifs
        · exact .inl there
        · exact .inl there
        · split <;> exact .inl there
      | read =>
        rw [releaseTurn]
        split
        · exact .inl there
        · split
          · split_ifs <;> exact .inl there
          · exact .inl there
      | unlock done => exact .inl there
      | finish done => cases done <;> exact .inl there
    · exact .inl there
  · left
    show (turn pid i (.proceed answer) system.shared (system.own i)).1.claim port = some file
    unfold turn
    split <;> simp_all

theorem port_leases_exclusive (pid : ι → Int) (left : Nat → Option (Option Int × ℚ))
    (events : List (ι × Action ι)) :
    Throughout (System.step pid) (fun system => system.Exclusive ∧ system.ReleasesOwn pid)
      (System.start left) events := by
  intro taken _
  have sound := run_sound pid left taken
  exact ⟨exclusive_of_sound sound, releasesOwn_of_sound sound⟩

-- the second process meets the claim of the first and takes the next port
example :
    let system := run (System.step fun i : Bool => if i then 7 else 8) (System.start fun _ => none)
      ([(true, Action.spawn), (false, Action.spawn), (true, Action.reservePort 5000 2 "127.0.0.1" true),
          (false, Action.reservePort 5000 2 "127.0.0.1" true)] ++
        List.replicate 5 (true, Action.proceed {}) ++ List.replicate 11 (false, Action.proceed {}))
    (system.own true).leases.map PortLease.port = [5000] ∧
      (system.own false).leases.map PortLease.port = [5001] := by
  exact ⟨rfl, rfl⟩

end ExaServe.State.Ports
