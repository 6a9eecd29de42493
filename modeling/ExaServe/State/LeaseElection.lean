import Mathlib.Data.Fintype.Fin
import ExaServe.State.Lease

namespace ExaServe.State.Lease

open Lib

variable {ι : Type}

def judged (log : List (Entry ι)) : List (Unique ι) :=
  log.filterMap fun
    | .expired inode _ => some inode
    | _ => none

theorem judged_concat (log : List (Entry ι)) (entry : Entry ι) :
    judged (log ++ [entry]) = judged log ++ judged [entry] := by
  simp [judged, List.filterMap_append]

theorem currentToken_lease {directory : Directory ι} {token : Unique ι} (current : directory.currentToken = some token) :
    ∃ file owner, directory.lease = some file ∧ file.content = some owner ∧ owner.token = some token := by
  unfold Directory.currentToken at current
  obtain ⟨owner, found, drawn⟩ := Option.bind_eq_some_iff.mp current
  obtain ⟨file, there, content⟩ := Option.bind_eq_some_iff.mp found
  exact ⟨file, owner, there, content, drawn⟩

variable [DecidableEq ι]

def stand (held : List (Unique ι)) : Entry ι → List (Unique ι)
  | .elected token => held ++ [token]
  | .expired _ (some token) | .released token => held.filter (· ≠ token)
  | .expired _ none | .tookOver _ _ => held

/-- The tokens `acquire` returned with that were neither found expired nor
    released since. -/
def standing (log : List (Entry ι)) : List (Unique ι) := log.foldl stand []

/-- `acquire` returns when nobody else stands, and a takeover replaces the file it
    found expired. -/
def allowed (earlier : List (Entry ι)) : Entry ι → Prop
  | .elected _ => standing earlier = []
  | .tookOver found present => present = found
  | _ => True

instance (earlier : List (Entry ι)) : (entry : Entry ι) → Decidable (allowed earlier entry)
  | .elected _ => inferInstanceAs (Decidable (standing earlier = []))
  | .tookOver found present => inferInstanceAs (Decidable (present = found))
  | .expired _ _ | .released _ => .isTrue trivial

/-- The sidecar a process has opened and not yet given back. -/
def Stage.lock : Stage ι → Option (Unique ι)
  | .reread _ lock | .restat lock _ | .rejudge lock _ _ _ | .stamp _ lock _ | .publish _ lock _ _
  | .remove lock | .unlockStat _ lock | .unlink _ lock => some lock
  | _ => none

/-- The lease file of an `acquire` that has made it and not yet returned. -/
def Stage.pending : Stage ι → Option (Unique ι)
  | .fill inode | .unlockStat (.won inode) _ | .unlink (.won inode) _ | .leave (.won inode) => some inode
  | _ => none

namespace System

variable (system : System ι)

def Arbitrates (i : ι) : Prop :=
  system.shared.processes.life i = .live ∧ (system.own i).stage.lock.isSome

/-- Each return of `acquire` finds no other holder standing, each takeover replaces
    what it found, and at most one process has the arbitration. -/
def Elects : Prop :=
  Guarded allowed system.shared.log ∧ ∀ i j, system.Arbitrates i → system.Arbitrates j → i = j

/-- The sidecar at the path is that of a process still in its arbitration. -/
def SidecarInUse : Prop :=
  ∃ j, system.shared.processes.life j = .live ∧ (system.own j).stage.lock ≠ none ∧
    system.shared.sidecar.map Sidecar.inode = (system.own j).stage.lock

/-- The lease file is that of an `acquire` still in progress. -/
def AcquireUnderWay (inode : Unique ι) : Prop :=
  ∃ j, system.shared.processes.life j = .live ∧ (system.own j).stage.pending = some inode

variable (setting : Setting ι)

/-- A takeover reads a lease again that is still there, and takes it for expired on
    the record it then has, after the `acquire` that made it has come to its end; the
    sidecar taken for stale is nobody's. -/
def Settled (i : ι) (answer : Answer) : Stage ι → Prop
  | .reread .takeover _ => system.shared.lease ≠ none
  | .rejudge _ found content owner =>
    system.shared.expired (setting.address i).1 owner answer = true →
      ¬ system.AcquireUnderWay found ∧ system.shared.lease.bind LeaseFile.content = content
  | .discard _ => answer.raises = false → ¬ system.SidecarInUse
  | _ => True

def Orderly (event : ι × Action) : Prop :=
  system.shared.processes.life event.1 = .live →
  match event.2 with
  | .proceed answer => system.Settled setting event.1 answer (system.own event.1).stage
  | _ => True

section Decide

variable [Fintype ι]

instance (i : ι) : Decidable (system.Arbitrates i) := inferInstanceAs (Decidable (_ ∧ _))

instance : Decidable system.SidecarInUse := inferInstanceAs (Decidable (∃ _, _))

instance (inode : Unique ι) : Decidable (system.AcquireUnderWay inode) := inferInstanceAs (Decidable (∃ _, _))

instance (i : ι) (answer : Answer) : (stage : Stage ι) → Decidable (system.Settled setting i answer stage)
  | .reread .takeover _ => inferInstanceAs (Decidable (system.shared.lease ≠ none))
  | .rejudge _ found content owner => inferInstanceAs (Decidable
      (system.shared.expired (setting.address i).1 owner answer = true →
        ¬ system.AcquireUnderWay found ∧ system.shared.lease.bind LeaseFile.content = content))
  | .discard _ => inferInstanceAs (Decidable (answer.raises = false → ¬ system.SidecarInUse))
  | .idle | .confirm | .create | .fill _ | .look | .lookStat | .judge _ | .arbitrate _ _ | .inspect _
  | .reread .renewal _ | .reread .release _ | .restat _ _ | .stamp _ _ _ | .publish _ _ _ _ | .remove _
  | .unlockStat _ _ | .unlink _ _ | .leave _ => .isTrue trivial

instance : (event : ι × Action) → Decidable (system.Orderly setting event)
  | (i, .proceed answer) => inferInstanceAs (Decidable (system.shared.processes.life i = .live →
      system.Settled setting i answer (system.own i).stage))
  | (_, .spawn) | (_, .exit) | (_, .acquire) | (_, .renew) | (_, .release) => .isTrue fun _ => trivial

end Decide

end System

theorem standing_concat (log : List (Entry ι)) (entry : Entry ι) :
    standing (log ++ [entry]) = stand (standing log) entry := by
  simp [standing, List.foldl_append]

section Invariant

/-- The lease at the path is this file, and no takeover has found it expired. -/
def Directory.Unjudged (directory : Directory ι) (inode : Unique ι) : Prop :=
  directory.lease.map LeaseFile.inode = some inode ∧ inode ∉ judged directory.log

/-- The lease at the path is this file, a takeover has found it expired, and nobody
    stands. -/
def Directory.Forfeit (directory : Directory ι) (found : Option (Unique ι)) : Prop :=
  ∃ inode, found = some inode ∧ directory.lease.map LeaseFile.inode = some inode ∧
    inode ∈ judged directory.log ∧ standing directory.log = []

/-- What a process relies on at its stage. -/
def Needs (i : ι) (directory : Directory ι) (token : Option (Unique ι)) : Stage ι → Prop
  | .fill inode => inode.1 = i ∧ directory.Unjudged inode ∧ directory.lease.bind LeaseFile.content = none
  | .unlockStat (.won inode) _ | .unlink (.won inode) _ | .leave (.won inode) =>
    inode.1 = i ∧ directory.Unjudged inode ∧ directory.currentToken = token
  | .restat _ found | .rejudge _ found _ _ => directory.lease.map LeaseFile.inode = some found
  | .stamp .takeover _ found => directory.Forfeit found
  | .publish .takeover _ found identity => identity.token = token ∧ directory.Forfeit found
  | .stamp _ _ _ | .remove _ => token.isSome ∧ directory.currentToken = token
  | .publish _ _ _ identity => identity.token = token ∧ token.isSome ∧ directory.currentToken = token
  | _ => True

/-- The stages of `acquire` in which its token has not been returned with. -/
def Stage.acquiring : Stage ι → Bool
  | .create | .fill _ | .look | .lookStat | .judge _ | .arbitrate .takeover _ | .inspect .takeover
  | .discard .takeover | .reread .takeover _ | .restat _ _ | .rejudge _ _ _ _ | .stamp .takeover _ _
  | .publish .takeover _ _ _ | .unlockStat (.won _) _ | .unlink (.won _) _ | .leave (.won _) => true
  | _ => false

structure Fit (i : ι) (directory : Directory ι) (holder : Holder ι) : Prop where
  mine : ∀ token, holder.token = some token → token.1 = i
  drawn : ∀ token, holder.token = some token → token.2 < holder.drawn
  fresh : ∀ value : Unique ι, value.1 = i → value ∈ standing directory.log ∨ value ∈ judged directory.log ∨
    directory.lease.map LeaseFile.inode = some value → value.2 < holder.drawn
  locked : ∀ lock, holder.stage.lock = some lock →
    lock.1 = i ∧ directory.sidecar.map Sidecar.inode = some lock
  acquiring : holder.stage.acquiring = true →
    ∃ token, holder.token = some token ∧ token ∉ standing directory.log
  needs : Needs i directory holder.token holder.stage

structure Common (directory : Directory ι) : Prop where
  named : ∀ token ∈ standing directory.log, directory.currentToken = some token
  guarded : Guarded allowed directory.log

/-- A process that has not started is in no call. -/
structure Single (i : ι) (directory : Directory ι) (holder : Holder ι) : Prop where
  unborn : directory.processes.life i = .unborn → holder.stage = .idle
  fit : directory.processes.life i ≠ .ended → Fit i directory holder

end Invariant

variable {i j : ι} {directory after : Directory ι} {holder : Holder ι}

theorem Fit.next (fit : Fit i directory holder) {stage : Stage ι}
    (locked : ∀ lock, stage.lock = some lock → holder.stage.lock = some lock)
    (acquiring : stage.acquiring = true → holder.stage.acquiring = true)
    (needs : Needs i directory holder.token stage) : Fit i directory (holder.next stage) where
  mine := fit.mine
  drawn := fit.drawn
  fresh := fit.fresh
  locked := fun lock now => fit.locked lock (locked lock now)
  acquiring := fun now => fit.acquiring (acquiring now)
  needs := needs

/-- A new token, at the head of the loop of `acquire`. -/
theorem Fit.begin_ (fit : Fit i directory holder) : Fit i directory (holder.begin_ i) where
  mine := by
    intro token drawn
    cases drawn
    rfl
  drawn := by
    intro token drawn
    cases drawn
    exact Nat.lt_succ_self _
  fresh := fun value own known => Nat.lt_succ_of_lt (fit.fresh value own known)
  locked := nofun
  acquiring := by
    intro _
    refine ⟨(i, holder.drawn), rfl, ?_⟩
    intro stands
    exact lt_irrefl _ (fit.fresh (i, holder.drawn) rfl (.inl stands))
  needs := trivial

/-- The stages that rely on the lease file. -/
def Stage.rests : Stage ι → Bool
  | .fill _ | .unlockStat (.won _) _ | .unlink (.won _) _ | .leave (.won _) | .restat _ _
  | .rejudge _ _ _ _ | .stamp _ _ _ | .publish _ _ _ _ | .remove _ => true
  | _ => false

theorem needs_of_free {token : Option (Unique ι)} {stage : Stage ι} (free : stage.rests = false) :
    Needs i directory token stage := by
  unfold Needs
  split <;> simp_all [Stage.rests]

/-- Whoever relies on the lease file finds one at the path. -/
theorem rests_lease {token : Option (Unique ι)} {stage : Stage ι} (needs : Needs i directory token stage)
    (rests : stage.rests = true) : directory.lease ≠ none := by
  intro absent
  unfold Needs at needs
  have no_token : directory.currentToken = none := by simp [Directory.currentToken, absent]
  split at needs <;> simp_all [Stage.rests, Directory.Unjudged, Directory.Forfeit]

/-- Without the arbitration, only an `acquire` that has made its file relies on it. -/
theorem rests_unlocked {token : Option (Unique ι)} {stage : Stage ι} (needs : Needs i directory token stage)
    (rests : stage.rests = true) (unlocked : stage.lock = none) :
    ∃ inode, inode.1 = i ∧ directory.Unjudged inode ∧
      (directory.lease.bind LeaseFile.content = none ∨ directory.currentToken = token) := by
  unfold Needs at needs
  split at needs
  · exact ⟨_, needs.1, needs.2.1, .inl needs.2.2⟩
  case h_4 => exact ⟨_, needs.1, needs.2.1, .inr needs.2.2⟩
  all_goals simp_all [Stage.rests, Stage.lock]

/-- A process that does not rely on the lease file is not touched by what becomes of it. -/
theorem Fit.free (fit : Fit j directory holder) (free : holder.stage.rests = false)
    (stands : ∀ value ∈ standing after.log, value ∈ standing directory.log ∨ value.1 ≠ j)
    (judges : ∀ value ∈ judged after.log, value ∈ judged directory.log ∨
      directory.lease.map LeaseFile.inode = some value ∨ value.1 ≠ j)
    (lease : ∀ value, after.lease.map LeaseFile.inode = some value →
      directory.lease.map LeaseFile.inode = some value ∨ value.1 ≠ j)
    (sidecar : ∀ lock, holder.stage.lock = some lock → after.sidecar = directory.sidecar) :
    Fit j after holder where
  mine := fit.mine
  drawn := fit.drawn
  fresh := by
    intro value own known
    apply fit.fresh value own
    rcases known with known | known | known
    · exact (stands value known).elim .inl fun other => absurd own other
    · rcases judges value known with old | there | other
      · exact .inr (.inl old)
      · exact .inr (.inr there)
      · exact absurd own other
    · exact (lease value known).elim (fun old => .inr (.inr old)) fun other => absurd own other
  locked := by
    intro lock now
    rw [sidecar lock now]
    exact fit.locked lock now
  acquiring := by
    intro now
    obtain ⟨token, drawn, absent⟩ := fit.acquiring now
    refine ⟨token, drawn, ?_⟩
    intro known
    rcases stands token known with old | other
    · exact absent old
    · exact other (fit.mine token drawn)
  needs := needs_of_free free

/-- A step that leaves the lease file and the log alone. -/
theorem Fit.sidecar (fit : Fit j directory holder) {processes : Processes ι (String × Int)}
    {sidecar : Option (Sidecar ι)}
    (kept : ∀ lock, holder.stage.lock = some lock → sidecar = directory.sidecar) :
    Fit j { directory with processes, sidecar } holder where
  mine := fit.mine
  drawn := fit.drawn
  fresh := fit.fresh
  locked := by
    intro lock now
    refine ⟨(fit.locked lock now).1, ?_⟩
    show sidecar.map Sidecar.inode = some lock
    rw [kept lock now]
    exact (fit.locked lock now).2
  acquiring := fit.acquiring
  needs := fit.needs

/-- Two processes have the arbitration only if they are the same. -/
theorem Fit.unlocked {other : Holder ι} (fit : Fit i directory holder) (fit' : Fit j directory other)
    (apart : j ≠ i) {lock : Unique ι} (locked : holder.stage.lock = some lock) : other.stage.lock = none := by
  cases held : other.stage.lock with
  | none => rfl
  | some second =>
    obtain ⟨mine, found⟩ := fit.locked lock locked
    obtain ⟨theirs, found'⟩ := fit'.locked second held
    rw [found] at found'
    cases found'
    exact absurd (theirs.symm.trans mine) apart

section Others

theorem free_of_forfeit (fit : Fit j directory holder) (unlocked : holder.stage.lock = none)
    {found : Option (Unique ι)} (forfeit : directory.Forfeit found) : holder.stage.rests = false := by
  cases rests : holder.stage.rests with
  | false => rfl
  | true =>
    obtain ⟨inode, -, ⟨there, unjudged⟩, -⟩ := rests_unlocked fit.needs rests unlocked
    obtain ⟨other, -, there', known, -⟩ := forfeit
    rw [there] at there'
    cases there'
    exact absurd known unjudged

theorem free_of_current (fit : Fit j directory holder) (apart : j ≠ i)
    (unlocked : holder.stage.lock = none) {token : Unique ι} (mine : token.1 = i)
    (current : directory.currentToken = some token) : holder.stage.rests = false := by
  cases rests : holder.stage.rests with
  | false => rfl
  | true =>
    obtain ⟨inode, -, -, empty | same⟩ := rests_unlocked fit.needs rests unlocked
    · rw [Directory.currentToken, empty] at current
      cases current
    · rw [current] at same
      exact absurd ((fit.mine token same.symm).symm.trans mine) apart

theorem Fit.created (fit : Fit j directory holder) (apart : j ≠ i) (absent : directory.lease = none)
    (drawn : Nat) (mtime : ℚ) :
    Fit j { directory with lease := some { inode := (i, drawn), content := none, mtime } } holder := by
  apply fit.free
  · cases rests : holder.stage.rests with
    | false => rfl
    | true => exact absurd absent (rests_lease fit.needs rests)
  · exact fun _ known => .inl known
  · exact fun _ known => .inl known
  · intro value made
    cases made
    exact .inr fun same => apart same.symm
  · exact fun _ _ => rfl

theorem fill_inode (directory : Directory ι) (inode : Unique ι) (identity : Owner ι) (mtime : ℚ) :
    (directory.fill inode identity mtime).lease.map LeaseFile.inode =
      directory.lease.map LeaseFile.inode := by
  unfold Directory.fill
  cases directory.lease with
  | none => rfl
  | some file =>
    simp only [Option.map_some, Option.some.injEq]
    split_ifs <;> rfl

theorem Fit.filled (fit : Fit j directory holder) (apart : j ≠ i) {inode : Unique ι} (mine : inode.1 = i)
    (unjudged : directory.Unjudged inode) (empty : directory.lease.bind LeaseFile.content = none)
    (identity : Owner ι) (mtime : ℚ) : Fit j (directory.fill inode identity mtime) holder := by
  have same := fill_inode directory inode identity mtime
  have no_token : directory.currentToken = none := by rw [Directory.currentToken, empty]; rfl
  refine ⟨fit.mine, fit.drawn, ?_, fit.locked, fit.acquiring, ?_⟩
  · intro value own known
    rw [same] at known
    exact fit.fresh value own known
  · have needs := fit.needs
    unfold Needs at needs ⊢
    have not_theirs : ∀ other : Unique ι, other.1 = j → ¬ directory.Unjudged other := by
      intro other theirs there
      cases unjudged.1.symm.trans there.1
      exact apart (theirs.symm.trans mine)
    have not_forfeit : ∀ found, ¬ directory.Forfeit found := by
      rintro found ⟨other, -, there, known, -⟩
      cases unjudged.1.symm.trans there
      exact unjudged.2 known
    split at needs
    case h_5 | h_6 => exact same.trans needs
    case h_1 | h_2 | h_3 | h_4 => exact absurd needs.2.1 (not_theirs _ needs.1)
    case h_7 => exact absurd needs (not_forfeit _)
    case h_8 => exact absurd needs.2 (not_forfeit _)
    case h_12 => trivial
    all_goals simp_all

theorem Fit.judgedBy (fit : Fit j directory holder) (unlocked : holder.stage.lock = none)
    {found : Unique ι} (there : directory.lease.map LeaseFile.inode = some found)
    (returned : holder.stage.pending ≠ some found) (token : Option (Unique ι)) :
    Fit j { directory with log := directory.log ++ [Entry.expired found token] } holder := by
  have fewer : ∀ value ∈ standing (directory.log ++ [Entry.expired found token]),
      value ∈ standing directory.log := by
    intro value known
    rw [standing_concat] at known
    cases token with
    | none => exact known
    | some token => exact List.mem_of_mem_filter known
  have more : ∀ value ∈ judged (directory.log ++ [Entry.expired found token]),
      value ∈ judged directory.log ∨ value = found := by
    intro value known
    rw [judged_concat] at known
    simpa [judged] using known
  refine ⟨fit.mine, fit.drawn, ?_, fit.locked, ?_, ?_⟩
  · intro value own known
    apply fit.fresh value own
    rcases known with known | known | known
    · exact .inl (fewer value known)
    · rcases more value known with old | same
      · exact .inr (.inl old)
      · exact .inr (.inr (by rw [same]; exact there))
    · exact .inr (.inr known)
  · intro now
    obtain ⟨mine, drawn, absent⟩ := fit.acquiring now
    exact ⟨mine, drawn, fun known => absent (fewer mine known)⟩
  · have needs := fit.needs
    have still : ∀ inode, holder.stage.pending = some inode → directory.Unjudged inode →
        inode ∉ judged (directory.log ++ [Entry.expired found token]) := by
      intro inode pending unjudged known
      rcases more inode known with old | same
      · exact unjudged.2 old
      · exact returned (by rw [pending, same])
    generalize holder.stage = stage at needs still unlocked
    unfold Needs at needs ⊢
    split at needs
    case h_1 | h_4 => exact ⟨needs.1, ⟨needs.2.1.1, still _ rfl needs.2.1⟩, needs.2.2⟩
    case h_12 => trivial
    all_goals cases unlocked

theorem Fit.electedBy (fit : Fit j directory holder) (apart : j ≠ i) {inode token : Unique ι}
    (mine : token.1 = i) (unjudged : directory.Unjudged inode) :
    Fit j { directory with log := directory.log ++ [Entry.elected token] } holder := by
  have more : ∀ value ∈ standing (directory.log ++ [Entry.elected token]),
      value ∈ standing directory.log ∨ value = token := by
    intro value known
    rw [standing_concat] at known
    simpa [stand] using known
  have same : judged (directory.log ++ [Entry.elected token]) = judged directory.log := by
    rw [judged_concat]
    simp [judged]
  refine ⟨fit.mine, fit.drawn, ?_, fit.locked, ?_, ?_⟩
  · intro value own known
    apply fit.fresh value own
    rcases known with known | known | known
    · rcases more value known with old | new
      · exact .inl old
      · subst new
        exact absurd (own.symm.trans mine) apart
    · exact .inr (.inl (by rw [← same]; exact known))
    · exact .inr (.inr known)
  · intro now
    obtain ⟨theirs, drawn, absent⟩ := fit.acquiring now
    refine ⟨theirs, drawn, ?_⟩
    intro known
    rcases more theirs known with old | new
    · exact absent old
    · subst new
      exact apart ((fit.mine _ drawn).symm.trans mine)
  · have needs := fit.needs
    have not_forfeit : ∀ found, ¬ directory.Forfeit found := by
      rintro found ⟨other, -, there, known, -⟩
      cases unjudged.1.symm.trans there
      exact unjudged.2 known
    generalize holder.stage = stage at needs
    unfold Needs at needs ⊢
    unfold Directory.Unjudged at needs ⊢
    rw [same]
    split at needs
    case h_7 => exact absurd needs (not_forfeit _)
    case h_8 => exact absurd needs.2 (not_forfeit _)
    all_goals exact needs

end Others

/-- What one step of `i` has to establish. -/
structure Kept (i : ι) (system : System ι) (result : Directory ι × Holder ι) : Prop where
  common : Common result.1
  fit : Fit i result.1 result.2
  processes : result.1.processes = system.shared.processes
  others : ∀ j, j ≠ i → system.shared.processes.life j = .live ∨ (system.own j).stage = .idle →
    Fit j system.shared (system.own j) → Fit j result.1 (system.own j)

variable {system : System ι}

theorem Kept.stay (common : Common system.shared) {result : Holder ι} (fit : Fit i system.shared result) :
    Kept i system (system.shared, result) :=
  ⟨common, fit, rfl, fun _ _ _ other => other⟩

/-- A new token names no lease yet and stands nowhere. -/
theorem Common.fill (common : Common directory) {inode : Unique ι}
    (empty : directory.lease.bind LeaseFile.content = none) (identity : Owner ι) (mtime : ℚ) :
    Common (directory.fill inode identity mtime) where
  named := by
    intro token stands
    have current := common.named token stands
    rw [Directory.currentToken, empty] at current
    cases current
  guarded := common.guarded

theorem fill_currentToken {inode : Unique ι} (unjudged : directory.Unjudged inode) (identity : Owner ι)
    (mtime : ℚ) : (directory.fill inode identity mtime).currentToken = identity.token := by
  obtain ⟨file, there, same⟩ := Option.map_eq_some_iff.mp unjudged.1
  simp [Directory.currentToken, Directory.fill, there, same]

theorem Common.leaseless (common : Common directory) (idle : standing directory.log = [])
    (lease : Option (LeaseFile ι)) : Common { directory with lease } where
  named := by
    intro token stands
    rw [show standing _ = [] from idle] at stands
    cases stands
  guarded := common.guarded

theorem standing_empty (common : Common directory) (empty : directory.currentToken = none) :
    standing directory.log = [] := by
  cases stands : standing directory.log with
  | nil => rfl
  | cons token rest =>
    have current := common.named token (by rw [stands]; exact List.mem_cons_self)
    rw [empty] at current
    cases current

section Unlocked

variable (setting : Setting ι) (answer : Answer)

theorem giveUp_fit (fit : Fit i directory holder) (task : Task) : Fit i directory (holder.giveUp i task) := by
  cases task with
  | takeover => exact fit.begin_
  | renewal => exact fit.next nofun nofun trivial
  | release => exact fit.next nofun nofun trivial

theorem create_kept (common : Common system.shared) (fit : Fit i system.shared (system.own i))
    (stage : (system.own i).stage = .create) :
    Kept i system (proceed setting i answer system.shared (system.own i)) := by
  unfold proceed
  simp only [stage]
  split_ifs
  · exact .stay common (fit.next nofun nofun trivial)
  · split
    · rename_i absent
      have idle := standing_empty common (by simp [Directory.currentToken, absent])
      refine ⟨common.leaseless idle _, ?_, rfl, ?_⟩
      · refine ⟨fit.mine, fun token drawn => Nat.lt_succ_of_lt (fit.drawn token drawn), ?_, nofun,
          fun _ => fit.acquiring (by rw [stage]; rfl), rfl, ⟨rfl, ?_⟩, rfl⟩
        · intro value own known
          rcases known with known | known | known
          · exact Nat.lt_succ_of_lt (fit.fresh value own (.inl known))
          · exact Nat.lt_succ_of_lt (fit.fresh value own (.inr (.inl known)))
          · cases known
            exact Nat.lt_succ_self _
        · intro known
          exact lt_irrefl _ (fit.fresh (i, (system.own i).drawn) rfl (.inr (.inl known)))
      · intro j apart _ other
        exact other.created apart absent _ _
    · exact .stay common (fit.next nofun (fun _ => by rw [stage]; rfl) trivial)

theorem fill_kept (common : Common system.shared) (fit : Fit i system.shared (system.own i))
    {inode : Unique ι} (stage : (system.own i).stage = .fill inode) :
    Kept i system (proceed setting i answer system.shared (system.own i)) := by
  have needs := fit.needs
  rw [stage] at needs
  obtain ⟨mine, unjudged, empty⟩ := needs
  unfold proceed
  simp only [stage]
  split_ifs
  · exact .stay common (fit.next nofun nofun trivial)
  · refine ⟨common.fill empty _ _, ?_, rfl, ?_⟩
    · refine ⟨fit.mine, fit.drawn, ?_, nofun, fun _ => fit.acquiring (by rw [stage]; rfl), mine,
        ⟨?_, unjudged.2⟩, ?_⟩
      · intro value own known
        rw [fill_inode] at known
        exact fit.fresh value own known
      · exact (fill_inode ..).trans unjudged.1
      · exact fill_currentToken unjudged _ _
    · intro j apart _ other
      exact other.filled apart mine unjudged empty _ _

theorem arbitrate_kept (common : Common system.shared) (fit : Fit i system.shared (system.own i))
    {task : Task} {again : Bool} (stage : (system.own i).stage = .arbitrate task again) :
    Kept i system (proceed setting i answer system.shared (system.own i)) := by
  have still : ∀ target : Stage ι, (target.acquiring = true → task = .takeover) →
      target.acquiring = true → (system.own i).stage.acquiring = true := by
    intro target takes now
    rw [stage, takes now]
    rfl
  unfold proceed
  simp only [stage]
  by_cases raises : answer.raises = true
  · rw [if_pos raises]
    exact .stay common (fit.next nofun nofun trivial)
  · rw [if_neg raises]
    split
    · rename_i free
      refine ⟨⟨common.named, common.guarded⟩, ?_, rfl, ?_⟩
      · refine ⟨fit.mine, fun token drawn => Nat.lt_succ_of_lt (fit.drawn token drawn),
          fun value own known => Nat.lt_succ_of_lt (fit.fresh value own known), ?_, ?_, ?_⟩
        · rintro lock ⟨⟩
          exact ⟨rfl, rfl⟩
        · intro now
          apply fit.acquiring
          apply still _ _ now
          cases task <;> simp [Holder.drawInode, Stage.acquiring]
        · trivial
      · intro j apart _ other
        apply other.sidecar
        intro lock held
        have found := (other.locked lock held).2
        rw [free] at found
        cases found
    · split_ifs
      · exact .stay common (giveUp_fit fit task)
      · refine Kept.stay common (fit.next nofun (still _ ?_) trivial)
        cases task <;> simp [Stage.acquiring]

theorem inspect_kept (common : Common system.shared) (fit : Fit i system.shared (system.own i))
    {task : Task} (stage : (system.own i).stage = .inspect task) :
    Kept i system (proceed setting i answer system.shared (system.own i)) := by
  have still : ∀ again, (Stage.arbitrate task again : Stage ι).acquiring = true →
      (system.own i).stage.acquiring = true := by
    intro again now
    rw [stage]
    cases task <;> first | rfl | cases now
  unfold proceed
  simp only [stage]
  split
  · split_ifs
    · refine Kept.stay common (fit.next nofun ?_ trivial)
      intro now
      rw [stage]
      cases task <;> first | rfl | cases now
    · exact .stay common (giveUp_fit fit task)
  · exact .stay common (fit.next nofun (still true) trivial)

/-- The sidecar taken for stale is removed. Nobody has it: that is what an orderly
    run promises. -/
theorem discard_kept (common : Common system.shared) (fit : Fit i system.shared (system.own i))
    {task : Task} (stage : (system.own i).stage = .discard task)
    (nobody : answer.raises = false → ¬ system.SidecarInUse) :
    Kept i system (proceed setting i answer system.shared (system.own i)) := by
  have still : ∀ again, (Stage.arbitrate task again : Stage ι).acquiring = true →
      (system.own i).stage.acquiring = true := by
    intro again now
    rw [stage]
    cases task <;> first | rfl | cases now
  unfold proceed
  simp only [stage]
  split_ifs with raises
  · exact .stay common (fit.next nofun (still true) trivial)
  · refine ⟨⟨common.named, common.guarded⟩, ?_, rfl, ?_⟩
    · have moved : Fit i system.shared ((system.own i).next (.arbitrate task true)) :=
        fit.next nofun (still true) trivial
      exact moved.sidecar nofun
    · intro j _ active other
      apply other.sidecar
      intro lock held
      have live : system.shared.processes.life j = .live := by
        apply active.resolve_right
        intro idle
        rw [idle] at held
        cases held
      have used : system.SidecarInUse :=
        ⟨j, live, by rw [held]; nofun, by rw [held]; exact (other.locked lock held).2⟩
      exact absurd used (nobody (by simpa using raises))

theorem leave_kept (common : Common system.shared) (fit : Fit i system.shared (system.own i))
    {outcome : Outcome ι} (stage : (system.own i).stage = .leave outcome) :
    Kept i system (proceed setting i answer system.shared (system.own i)) := by
  unfold proceed
  simp only [stage]
  cases outcome with
  | won inode =>
    have needs := fit.needs
    rw [stage] at needs
    obtain ⟨-, unjudged, current⟩ := needs
    obtain ⟨token, drawn, absent⟩ := fit.acquiring (by rw [stage]; rfl)
    rw [drawn] at current
    -- whoever stands is named by the lease, and that names the token that is returned
    have alone : standing system.shared.log = [] := by
      cases stands : standing system.shared.log with
      | nil => rfl
      | cons first rest =>
        have member : first ∈ standing system.shared.log := by rw [stands]; exact List.mem_cons_self
        have named := common.named first member
        rw [current] at named
        cases named
        exact absurd member absent
    simp only [drawn, Option.toList_some, List.map_cons, List.map_nil]
    have extended : standing (system.shared.log ++ [Entry.elected token]) = [token] := by
      rw [standing_concat, alone]
      rfl
    refine ⟨⟨?_, guarded_concat.mpr ⟨common.guarded, alone⟩⟩, ?_, rfl, ?_⟩
    · intro other stands
      rw [extended, List.mem_singleton] at stands
      rw [stands]
      exact current
    · refine ⟨fun _ same => fit.mine _ (drawn.trans same), fun _ same => fit.drawn _ (drawn.trans same), ?_,
        nofun, nofun, trivial⟩
      intro value own known
      rcases known with known | known | known
      · rw [extended, List.mem_singleton] at known
        subst known
        exact fit.drawn _ drawn
      · apply fit.fresh value own
        rw [judged_concat] at known
        exact .inr (.inl (by simpa [judged] using known))
      · exact fit.fresh value own (.inr (.inr known))
    · intro j apart _ other
      exact other.electedBy apart (fit.mine token drawn) unjudged
  | released =>
    exact .stay common ⟨nofun, nofun, fit.fresh, nofun, nofun, trivial⟩
  | refused => exact .stay common (fit.next nofun nofun trivial)
  | renewed extended => exact .stay common (fit.next nofun nofun trivial)
  | failed => exact .stay common (fit.next nofun nofun trivial)

end Unlocked

section Locked

variable (setting : Setting ι) (answer : Answer)

theorem holdsLease_current (holds : holder.holdsLease directory = true) :
    holder.token.isSome ∧ directory.currentToken = holder.token := by
  simp only [Holder.holdsLease, Bool.and_eq_true, decide_eq_true_eq] at holds
  exact ⟨holds.1.2, holds.2⟩

/-- From one stage with the arbitration to another. -/
theorem Fit.within (fit : Fit i directory holder) {before stage : Stage ι} (at_ : holder.stage = before)
    (locked : stage.lock = before.lock) (acquiring : stage.acquiring = true → before.acquiring = true)
    (needs : Needs i directory holder.token stage) : Fit i directory (holder.next stage) := by
  apply fit.next
  · intro lock now
    rw [at_, ← locked]
    exact now
  · intro now
    rw [at_]
    exact acquiring now
  · exact needs

theorem reread_kept (common : Common system.shared) (fit : Fit i system.shared (system.own i))
    {task : Task} {lock : Unique ι} (stage : (system.own i).stage = .reread task lock)
    (present : task = .takeover → system.shared.lease ≠ none) :
    Kept i system (proceed setting i answer system.shared (system.own i)) := by
  unfold proceed
  simp only [stage]
  cases task with
  | takeover =>
    dsimp only
    split
    · rename_i absent
      exact absurd absent (present rfl)
    · rename_i there
      have found : ∀ stage : Stage ι, stage.lock = some lock →
          Needs i system.shared (system.own i).token stage →
          Kept i system (system.shared, (system.own i).next stage) := by
        intro target locked needs
        exact .stay common (fit.within stage locked (fun _ => rfl) needs)
      split_ifs
      · exact found _ rfl (by show Option.map _ _ = _; rw [there]; rfl)
      · exact found _ rfl (by show Option.map _ _ = _; rw [there]; rfl)
    · rename_i there
      refine .stay common (fit.within stage rfl (fun _ => rfl) ?_)
      show Option.map _ _ = _
      rw [there]
      rfl
  | renewal =>
    dsimp only
    split_ifs with holds
    · simp only [Bool.and_eq_true] at holds
      exact .stay common (fit.within stage rfl nofun (holdsLease_current holds.2))
    · exact .stay common (fit.within stage rfl nofun trivial)
  | release =>
    dsimp only
    split_ifs with holds
    · simp only [Bool.and_eq_true] at holds
      exact .stay common (fit.within stage rfl nofun (holdsLease_current holds.2))
    · exact .stay common (fit.within stage rfl nofun trivial)

/-- The verdict under the arbitration. Nobody stands after it: whoever did is named by
    the record that was judged. -/
theorem rejudge_kept (common : Common system.shared) (fit : Fit i system.shared (system.own i))
    {lock found : Unique ι} {content : Option (Owner ι)} {owner : Owner ι}
    (stage : (system.own i).stage = .rejudge lock found content owner)
    (orderly : system.shared.expired (setting.address i).1 owner answer = true →
      ¬ system.AcquireUnderWay found ∧ system.shared.lease.bind LeaseFile.content = content) :
    Kept i system (proceed setting i answer system.shared (system.own i)) := by
  have there := fit.needs
  rw [stage] at there
  replace there : system.shared.lease.map LeaseFile.inode = some found := there
  unfold proceed
  simp only [stage]
  split_ifs with verdict
  · obtain ⟨returned, same⟩ := orderly verdict
    have alone : standing (system.shared.log ++ [Entry.expired found (content.bind Owner.token)]) = [] := by
      rw [standing_concat]
      have current : system.shared.currentToken = content.bind Owner.token := by
        rw [Directory.currentToken, same]
      cases token : content.bind Owner.token with
      | none => exact standing_empty common (by rw [current, token])
      | some named =>
        apply List.filter_eq_nil_iff.mpr
        intro other stands
        have also := common.named other stands
        rw [current, token] at also
        cases also
        simp
    have known : found ∈ judged (system.shared.log ++ [Entry.expired found (content.bind Owner.token)]) := by
      rw [judged_concat]
      simp [judged]
    refine ⟨⟨?_, guarded_concat.mpr ⟨common.guarded, trivial⟩⟩, ?_, rfl, ?_⟩
    · intro token stands
      rw [show standing _ = [] from alone] at stands
      cases stands
    · refine ⟨fit.mine, fit.drawn, ?_, ?_, ?_, ⟨found, rfl, there, known, alone⟩⟩
      · intro value own seen
        apply fit.fresh value own
        rcases seen with seen | seen | seen
        · rw [show standing _ = [] from alone] at seen
          cases seen
        · rw [judged_concat] at seen
          rcases List.mem_append.mp seen with old | new
          · exact .inr (.inl old)
          · right; right
            simp only [judged, List.filterMap_cons, List.filterMap_nil, List.mem_singleton] at new
            rw [new]
            exact there
        · exact .inr (.inr seen)
      · rintro _ ⟨⟩
        exact fit.locked lock (by rw [stage]; rfl)
      · intro _
        obtain ⟨token, drawn, -⟩ := fit.acquiring (by rw [stage]; rfl)
        exact ⟨token, drawn, by rw [show standing _ = [] from alone]; exact List.not_mem_nil⟩
    · intro j apart active other
      apply other.judgedBy _ there
      · intro pending
        have live : system.shared.processes.life j = .live := by
          apply active.resolve_right
          intro idle
          rw [idle] at pending
          cases pending
        exact returned ⟨j, live, pending⟩
      · exact fit.unlocked other apart (by rw [stage]; rfl)
  · exact .stay common (fit.within stage rfl nofun trivial)

theorem stamp_kept (common : Common system.shared) (fit : Fit i system.shared (system.own i))
    {task : Task} {lock : Unique ι} {found : Option (Unique ι)}
    (stage : (system.own i).stage = .stamp task lock found) :
    Kept i system (proceed setting i answer system.shared (system.own i)) := by
  have needs := fit.needs
  rw [stage] at needs
  unfold proceed
  simp only [stage]
  cases task with
  | takeover => exact .stay common (fit.within stage rfl (fun _ => rfl) ⟨rfl, needs⟩)
  | renewal => exact .stay common (fit.within stage rfl nofun ⟨rfl, needs⟩)
  | release => exact .stay common (fit.within stage rfl nofun ⟨rfl, needs⟩)

/-- A file put in place with a new inode by whoever has the arbitration. -/
theorem Fit.replaced (fit : Fit j directory holder) (apart : j ≠ i) (free : holder.stage.rests = false)
    {log : List (Entry ι)} {lease : Option (LeaseFile ι)}
    (stands : ∀ value ∈ standing log, value ∈ standing directory.log)
    (judges : judged log = judged directory.log)
    (made : ∀ value, lease.map LeaseFile.inode = some value → value.1 = i) :
    Fit j { directory with lease, log } holder := by
  apply fit.free free
  · exact fun value known => .inl (stands value known)
  · intro value known
    exact .inl (by rw [← judges]; exact known)
  · intro value known
    exact .inr fun theirs => apart (theirs.symm.trans (made value known))
  · exact fun _ _ => rfl

theorem takeover_kept (common : Common system.shared) (fit : Fit i system.shared (system.own i))
    {lock : Unique ι} {found : Option (Unique ι)} {identity : Owner ι}
    (stage : (system.own i).stage = .publish .takeover lock found identity) :
    Kept i system (proceed setting i answer system.shared (system.own i)) := by
  have needs := fit.needs
  rw [stage] at needs
  obtain ⟨stamped, forfeit⟩ := needs
  obtain ⟨inode, same, there, known, alone⟩ := id forfeit
  unfold proceed
  simp only [stage]
  split_ifs with raises unsynced
  · exact .stay common (fit.within stage rfl nofun trivial)
  all_goals
    have unchanged : standing (system.shared.log ++
        [.tookOver found (system.shared.lease.map LeaseFile.inode)]) = [] := by
      rw [standing_concat]
      exact alone
    have judges : judged (system.shared.log ++
        [.tookOver found (system.shared.lease.map LeaseFile.inode)]) = judged system.shared.log := by
      rw [judged_concat]
      simp [judged]
    have fresh_inode : (i, (system.own i).drawn) ∉ judged system.shared.log := fun seen =>
      lt_irrefl _ (fit.fresh (i, (system.own i).drawn) rfl (.inr (.inl seen)))
    have fresh : ∀ value : Unique ι, value.1 = i →
        value ∈ standing (system.shared.log ++
          [.tookOver found (system.shared.lease.map LeaseFile.inode)]) ∨
        value ∈ judged (system.shared.log ++
          [.tookOver found (system.shared.lease.map LeaseFile.inode)]) ∨
        some (i, (system.own i).drawn) = some value → value.2 < (system.own i).drawn + 1 := by
      intro value own seen
      rcases seen with seen | seen | seen
      · rw [unchanged] at seen
        cases seen
      · rw [judges] at seen
        exact Nat.lt_succ_of_lt (fit.fresh value own (.inr (.inl seen)))
      · cases seen
        exact Nat.lt_succ_self _
    have guarded : Guarded allowed (system.shared.log ++
        [.tookOver found (system.shared.lease.map LeaseFile.inode)]) :=
      guarded_concat.mpr ⟨common.guarded, there.trans same.symm⟩
    have others : ∀ j, j ≠ i →
        system.shared.processes.life j = .live ∨ (system.own j).stage = .idle → Fit j system.shared (system.own j) → Fit j { system.shared with
          lease := some { inode := (i, (system.own i).drawn), content := some identity, mtime := answer.now }
          log := system.shared.log ++ [Entry.tookOver found (system.shared.lease.map LeaseFile.inode)] }
          (system.own j) := by
      intro j apart _ other
      have unlocked := fit.unlocked other apart (by rw [stage]; rfl)
      apply other.replaced apart (free_of_forfeit other unlocked forfeit) _ judges
      · rintro value ⟨⟩
        rfl
      · intro value seen
        rw [unchanged] at seen
        cases seen
    have held := fit.locked lock (by rw [stage]; rfl)
  · refine ⟨⟨?_, guarded⟩, ?_, rfl, others⟩
    · intro token stands
      rw [show standing _ = [] from unchanged] at stands
      cases stands
    · refine ⟨fit.mine, fun token drawn => Nat.lt_succ_of_lt (fit.drawn token drawn), fresh, ?_, nofun, trivial⟩
      rintro _ ⟨⟩
      exact held
  · refine ⟨⟨?_, guarded⟩, ?_, rfl, others⟩
    · intro token stands
      rw [show standing _ = [] from unchanged] at stands
      cases stands
    · refine ⟨fit.mine, fun token drawn => Nat.lt_succ_of_lt (fit.drawn token drawn), fresh, ?_, ?_,
        rfl, ⟨rfl, ?_⟩, stamped⟩
      · rintro _ ⟨⟩
        exact held
      · intro _
        obtain ⟨token, drawn, -⟩ := fit.acquiring (by rw [stage]; rfl)
        exact ⟨token, drawn, by rw [show standing _ = [] from unchanged]; exact List.not_mem_nil⟩
      · rw [show judged _ = _ from judges]
        exact fresh_inode

/-- A renewal replaces its own lease by one with the same token. -/
theorem renewal_kept (common : Common system.shared) (fit : Fit i system.shared (system.own i))
    {task : Task} {lock : Unique ι} {found : Option (Unique ι)} {identity : Owner ι}
    (stage : (system.own i).stage = .publish task lock found identity) (renews : task ≠ .takeover) :
    Kept i system (proceed setting i answer system.shared (system.own i)) := by
  have needs : identity.token = (system.own i).token ∧ (system.own i).token.isSome ∧
      system.shared.currentToken = (system.own i).token := by
    have needs := fit.needs
    rw [stage] at needs
    cases task with
    | takeover => exact absurd rfl renews
    | renewal => exact needs
    | release => exact needs
  obtain ⟨stamped, held, current⟩ := needs
  obtain ⟨token, drawn⟩ := Option.isSome_iff_exists.mp held
  have result : proceed setting i answer system.shared (system.own i) =
      if answer.raises then (system.shared, (system.own i).next (.unlockStat .failed lock))
      else ({ system.shared with
          lease := some { inode := (i, (system.own i).drawn), content := some identity, mtime := answer.now } },
        (system.own i).drawInode (.unlockStat (.renewed true) lock)) := by
    cases task with
    | takeover => exact absurd rfl renews
    | renewal => simp only [proceed, stage]
    | release => simp only [proceed, stage]
  rw [result]
  split_ifs
  · exact .stay common (fit.within stage rfl nofun trivial)
  · refine ⟨⟨?_, common.guarded⟩, ?_, rfl, ?_⟩
    · intro other stands
      rw [← common.named other stands, current]
      exact stamped
    · refine ⟨fit.mine, fun token drawn => Nat.lt_succ_of_lt (fit.drawn token drawn), ?_, ?_, nofun, trivial⟩
      · intro value own seen
        rcases seen with seen | seen | seen
        · exact Nat.lt_succ_of_lt (fit.fresh value own (.inl seen))
        · exact Nat.lt_succ_of_lt (fit.fresh value own (.inr (.inl seen)))
        · cases seen
          exact Nat.lt_succ_self _
      · rintro _ ⟨⟩
        exact fit.locked lock (by rw [stage]; rfl)
    · intro j apart _ other
      have unlocked := fit.unlocked other apart (by rw [stage]; rfl)
      apply other.replaced apart
        (free_of_current other apart unlocked (fit.mine token drawn) (current.trans drawn)) _ rfl
      · rintro value ⟨⟩
        rfl
      · exact fun _ known => known

theorem remove_kept (common : Common system.shared) (fit : Fit i system.shared (system.own i))
    {lock : Unique ι} (stage : (system.own i).stage = .remove lock) :
    Kept i system (proceed setting i answer system.shared (system.own i)) := by
  have needs := fit.needs
  rw [stage] at needs
  obtain ⟨held, current⟩ := needs
  obtain ⟨token, drawn⟩ := Option.isSome_iff_exists.mp held
  rw [drawn] at current
  unfold proceed
  simp only [stage]
  split_ifs
  · exact .stay common (fit.within stage rfl nofun trivial)
  · simp only [drawn, Option.toList_some, List.map_cons, List.map_nil]
    have alone : standing (system.shared.log ++ [Entry.released token]) = [] := by
      rw [standing_concat]
      apply List.filter_eq_nil_iff.mpr
      intro other stands
      have named := common.named other stands
      rw [current] at named
      cases named
      simp
    have judges : judged (system.shared.log ++ [Entry.released token]) = judged system.shared.log := by
      rw [judged_concat]
      simp [judged]
    refine ⟨⟨?_, guarded_concat.mpr ⟨common.guarded, trivial⟩⟩, ?_, rfl, ?_⟩
    · intro other stands
      rw [show standing _ = [] from alone] at stands
      cases stands
    · refine ⟨fit.mine, fit.drawn, ?_, ?_, nofun, trivial⟩
      · intro value own seen
        rcases seen with seen | seen | seen
        · rw [show standing _ = [] from alone] at seen
          cases seen
        · rw [show judged _ = _ from judges] at seen
          exact fit.fresh value own (.inr (.inl seen))
        · cases seen
      · rintro _ ⟨⟩
        exact fit.locked lock (by rw [stage]; rfl)
    · intro j apart _ other
      have unlocked := fit.unlocked other apart (by rw [stage]; rfl)
      apply other.replaced apart
        (free_of_current other apart unlocked (fit.mine token drawn) current) _ judges
      · rintro value ⟨⟩
      · intro value seen
        rw [alone] at seen
        cases seen

theorem unlockStat_kept (common : Common system.shared) (fit : Fit i system.shared (system.own i))
    {outcome : Outcome ι} {lock : Unique ι} (stage : (system.own i).stage = .unlockStat outcome lock) :
    Kept i system (proceed setting i answer system.shared (system.own i)) := by
  have needs := fit.needs
  rw [stage] at needs
  obtain ⟨-, held⟩ := fit.locked lock (by rw [stage]; rfl)
  unfold proceed
  simp only [stage, held, if_true]
  split_ifs
  · exact .stay common (fit.next nofun nofun trivial)
  · cases outcome with
    | won inode => exact .stay common (fit.within stage rfl (fun _ => rfl) needs)
    | refused => exact .stay common (fit.within stage rfl nofun trivial)
    | renewed extended => exact .stay common (fit.within stage rfl nofun trivial)
    | released => exact .stay common (fit.within stage rfl nofun trivial)
    | failed => exact .stay common (fit.within stage rfl nofun trivial)

theorem unlink_kept (common : Common system.shared) (fit : Fit i system.shared (system.own i))
    {outcome : Outcome ι} {lock : Unique ι} (stage : (system.own i).stage = .unlink outcome lock) :
    Kept i system (proceed setting i answer system.shared (system.own i)) := by
  have needs := fit.needs
  rw [stage] at needs
  have locked : (system.own i).stage.lock = some lock := by rw [stage]; rfl
  have left : Fit i system.shared ((system.own i).next (.leave outcome)) := by
    cases outcome with
    | won inode => exact fit.next nofun (fun _ => by rw [stage]; rfl) needs
    | refused => exact fit.next nofun nofun trivial
    | renewed extended => exact fit.next nofun nofun trivial
    | released => exact fit.next nofun nofun trivial
    | failed => exact fit.next nofun nofun trivial
  unfold proceed
  simp only [stage]
  split_ifs
  · exact .stay common (fit.next nofun nofun trivial)
  · refine ⟨⟨common.named, common.guarded⟩, left.sidecar nofun, rfl, ?_⟩
    intro j apart _ other
    apply other.sidecar
    intro second held
    rw [fit.unlocked other apart locked] at held
    cases held

end Locked

section Run

variable (setting : Setting ι)

theorem proceed_kept (answer : Answer) (common : Common system.shared)
    (live : system.shared.processes.life i = .live) (fit : Fit i system.shared (system.own i))
    (orderly : system.Orderly setting (i, .proceed answer)) :
    Kept i system (proceed setting i answer system.shared (system.own i)) := by
  have orderly : system.Settled setting i answer (system.own i).stage := orderly live
  cases stage : (system.own i).stage with
  | idle =>
    simp only [proceed, stage]
    exact .stay common fit
  | confirm =>
    simp only [proceed, stage]
    split_ifs
    · exact .stay common (fit.next nofun nofun trivial)
    · have reset : Fit i system.shared { system.own i with held := false, token := none } :=
        ⟨nofun, nofun, fit.fresh, fit.locked, by rw [stage]; nofun, needs_of_free (by rw [stage]; rfl)⟩
      exact .stay common reset.begin_
  | create => exact create_kept setting answer common fit stage
  | fill inode => exact fill_kept setting answer common fit stage
  | look =>
    have acquiring : (system.own i).stage.acquiring = true := by rw [stage]; rfl
    simp only [proceed, stage]
    split
    · exact .stay common fit.begin_
    · split_ifs
      · exact .stay common (fit.next nofun (fun _ => acquiring) trivial)
      · exact .stay common (fit.next nofun (fun _ => acquiring) trivial)
    · exact .stay common (fit.next nofun (fun _ => acquiring) trivial)
  | lookStat =>
    simp only [proceed, stage]
    exact .stay common (fit.next nofun (fun _ => by rw [stage]; rfl) trivial)
  | judge owner =>
    simp only [proceed, stage]
    split_ifs
    · exact .stay common (fit.next nofun (fun _ => by rw [stage]; rfl) trivial)
    · exact .stay common (fit.next nofun nofun trivial)
  | arbitrate task again => exact arbitrate_kept setting answer common fit stage
  | inspect task => exact inspect_kept setting answer common fit stage
  | discard task =>
    rw [stage] at orderly
    exact discard_kept setting answer common fit stage orderly
  | reread task lock =>
    rw [stage] at orderly
    apply reread_kept setting answer common fit stage
    rintro rfl
    exact orderly
  | restat lock found =>
    have needs := fit.needs
    rw [stage] at needs
    simp only [proceed, stage]
    exact .stay common (fit.within stage rfl (fun _ => rfl) needs)
  | rejudge lock found content owner =>
    rw [stage] at orderly
    exact rejudge_kept setting answer common fit stage orderly
  | stamp task lock found => exact stamp_kept setting answer common fit stage
  | publish task lock found identity =>
    by_cases takes : task = .takeover
    · subst takes
      exact takeover_kept setting answer common fit stage
    · exact renewal_kept setting answer common fit stage takes
  | remove lock => exact remove_kept setting answer common fit stage
  | unlockStat outcome lock => exact unlockStat_kept setting answer common fit stage
  | unlink outcome lock => exact unlink_kept setting answer common fit stage
  | leave outcome => exact leave_kept setting answer common fit stage

theorem Kept.single {result : Directory ι × Holder ι} (kept : Kept i system result) (apart : j ≠ i)
    (single : Single j system.shared (system.own j)) : Single j result.1 (system.own j) := by
  constructor
  · rw [kept.processes]
    exact single.unborn
  · rw [kept.processes]
    intro unended
    apply kept.others j apart _ (single.fit unended)
    cases life : system.shared.processes.life j with
    | unborn => exact .inr (single.unborn life)
    | live => exact .inl rfl
    | ended => exact absurd life unended

theorem turn_kept (action : Action) (common : Common system.shared)
    (live : system.shared.processes.life i = .live) (fit : Fit i system.shared (system.own i))
    (orderly : system.Orderly setting (i, action)) (stays : action ≠ .exit) :
    Kept i system (turn setting i action system.shared (system.own i)) := by
  unfold turn
  rw [live]
  split
  case h_2 => exact absurd rfl stays
  case h_3 =>
    unfold Holder.acquire
    split_ifs
    · exact .stay common (fit.next nofun nofun trivial)
    · exact .stay common fit.begin_
  case h_4 => exact .stay common (fit.next nofun nofun trivial)
  case h_5 =>
    unfold Holder.release
    split_ifs
    · exact .stay common (fit.next nofun nofun trivial)
    · exact .stay common fit
  case h_6 => exact proceed_kept setting _ common live fit orderly
  case h_7 => exact .stay common fit
  case h_1 life => cases life

theorem step_sound (system : System ι) (event : ι × Action) (orderly : system.Orderly setting event)
    (sound : system.Sound Common Single) : (system.step setting event).Sound Common Single := by
  obtain ⟨i, action⟩ := event
  have single := sound.single i
  have idle : turn setting i action system.shared (system.own i) = (system.shared, system.own i) →
      (system.step setting (i, action)).Sound Common Single :=
    fun taken => sound.act taken sound.common single fun _ _ other => other
  have moved : ∀ processes : Processes ι (String × Int),
      turn setting i action system.shared (system.own i) =
        ({ system.shared with processes }, system.own i) →
      (∀ j, j ≠ i → processes.life j = system.shared.processes.life j) →
      Single i { system.shared with processes } (system.own i) →
      (system.step setting (i, action)).Sound Common Single := by
    intro processes taken life own
    apply sound.act taken ⟨sound.common.named, sound.common.guarded⟩ own
    intro j apart other
    constructor
    · intro unborn
      exact other.unborn ((life j apart).symm.trans unborn)
    · intro unended
      exact (other.fit (fun over_ => unended ((life j apart).trans over_))).sidecar fun _ _ => rfl
  cases life : system.shared.processes.life i with
  | ended =>
    apply idle
    unfold turn
    rw [life]
    split <;> first | rfl | contradiction
  | unborn =>
    have fit := single.fit (by rw [life]; nofun)
    by_cases spawn : action = .spawn ∧ (system.shared.processes.table (setting.address i)).isSome = false
    · obtain ⟨rfl, free⟩ := spawn
      apply moved (system.shared.processes.spawn setting.address i)
      · simp [turn, life, free]
      · exact fun j apart => Processes.life_spawn_ne apart
      · constructor
        · intro unborn
          rw [show Processes.life _ i = _ from Processes.life_spawn_self] at unborn
          cases unborn
        · exact fun _ => fit.sidecar fun _ _ => rfl
    · apply idle
      unfold turn
      rw [life]
      cases action <;> simp_all
  | live =>
    have fit := single.fit (by rw [life]; nofun)
    by_cases exit : action = .exit
    · subst exit
      apply moved (system.shared.processes.exit setting.address i)
      · simp [turn, life]
      · exact fun j apart => Processes.life_exit_ne apart
      · constructor
        · intro unborn
          rw [show Processes.life _ i = _ from Processes.life_exit_self] at unborn
          cases unborn
        · intro unended
          exact absurd Processes.life_exit_self unended
    · have kept := turn_kept setting action sound.common life fit orderly exit
      apply sound.act rfl kept.common
      · constructor
        · intro unborn
          rw [kept.processes, life] at unborn
          cases unborn
        · exact fun _ => kept.fit
      · intro j apart other
        exact kept.single apart other

theorem start_sound : (System.start : System ι).Sound Common Single where
  common := ⟨nofun, guarded_nil⟩
  single := by
    intro i
    refine ⟨fun _ => rfl, fun _ => ⟨nofun, nofun, ?_, nofun, nofun, trivial⟩⟩
    intro value _ known
    rcases known with known | known | known <;> cases known

theorem elects_of_sound (sound : system.Sound Common Single) : system.Elects := by
  refine ⟨sound.common.guarded, ?_⟩
  intro i j first second
  obtain ⟨lock, held⟩ := Option.isSome_iff_exists.mp first.2
  by_contra apart
  have fit := (sound.single i).fit (by rw [first.1]; nofun)
  have other := (sound.single j).fit (by rw [second.1]; nofun)
  have unlocked := fit.unlocked other (fun same => apart same.symm) held
  have also := second.2
  rw [unlocked] at also
  cases also

theorem orderly_run_elects (events : List (ι × Action))
    (orderly : Along (System.step setting) (fun system => system.Orderly setting) System.start events) :
    Throughout (System.step setting) System.Elects System.start events := by
  have sound : Throughout (System.step setting) (fun system => system.Sound Common Single) System.start
      events := throughout_of_along (step_sound setting) start_sound orderly
  intro taken within
  exact elects_of_sound (sound taken within)

end Run

section Runs

def oneNode : Setting (Fin 3) := { address := fun i => ("node", i.val + 10), ttlS := fun _ => 60 }

def proceeds (i : Fin 3) (now : ℚ) (count : Nat) : List (Fin 3 × Action) :=
  List.replicate count (i, .proceed { now })

/-- The first process holds the lease from time 0. -/
def firstHolds : List (Fin 3 × Action) :=
  [(0, Action.spawn), (1, Action.spawn), (2, Action.spawn), (0, Action.acquire)] ++ proceeds 0 0 3

def takeoverInOrder : List (Fin 3 × Action) :=
  firstHolds ++ [(1, Action.acquire)] ++ proceeds 1 100 11

theorem takeover_in_order :
    Along (System.step oneNode) (fun system => system.Orderly oneNode) System.start takeoverInOrder ∧
    Throughout (System.step oneNode) System.Elects System.start takeoverInOrder ∧
    (run (System.step oneNode) System.start takeoverInOrder).shared.log =
      [.elected (0, 0), .expired (0, 1) (some (0, 0)), .tookOver (some (0, 1)) (some (0, 1)),
        .elected (1, 0)] :=
  ⟨by decide +kernel, orderly_run_elects oneNode takeoverInOrder (by decide +kernel), by decide +kernel⟩

/-- The holder releases after the taker found its lease expired. The taker then reads
    no lease, and publishes over the one the third process has made meanwhile. -/
def leaseVanishes : List (Fin 3 × Action) :=
  firstHolds ++ [(1, Action.acquire)] ++ proceeds 1 100 3 ++ [(0, Action.release)] ++ proceeds 0 100 6 ++
    proceeds 1 100 3 ++ [(2, Action.acquire)] ++ proceeds 2 100 3 ++ proceeds 1 100 4

/-- The taker has the arbitration for 100 seconds and has not given it back. -/
def sidecarGoesStale : List (Fin 3 × Action) :=
  firstHolds ++ [(1, Action.acquire)] ++ proceeds 1 100 4 ++ [(2, Action.acquire)] ++ proceeds 2 200 7

theorem two_holders_elected :
    ¬ (run (System.step oneNode) System.start leaseVanishes).Elects ∧
    ¬ (run (System.step oneNode) System.start sidecarGoesStale).Elects := by
  constructor
  · intro elects
    exact absurd elects.1 (by decide +kernel)
  · intro elects
    exact absurd (elects.2 1 2 (by decide +kernel) (by decide +kernel)) (by decide)

end Runs

end ExaServe.State.Lease
