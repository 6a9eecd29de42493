import ExaServe.Control.Guardian.Steps

namespace ExaServe.Control.Guardian

open Lib Plan State.Ownership

/-- The phases in which the child of the guardian may be alive. -/
def GuardianPhase.busy : GuardianPhase → Bool
  | .spawned | .publishing | .watching | .unwinding _ _ | .stopping _ _ | .expired _ | .crashed => true
  | _ => false

/-- What holds of the three processes and their files at every point of a run. -/
structure Invariant (launch : Launch) (party : Party) : Prop where
  calm : party.guardian.busy = false → party.groupAlive = false
  recorded : ∀ receipt, party.childFile.receipt? = some receipt → receipt = childRecord launch
  fenced : party.child = .fenced ∨ party.rayAlive = true → party.childFile.receipt?.isSome

section Steps

variable {launch : Launch} {party : Party}

theorem invariant_start : Invariant launch {} where
  calm _ := rfl
  recorded receipt found := by cases found
  fenced live := by simp [Party.rayAlive] at live

theorem rayAlive_of_groupAlive (dead : party.groupAlive = false) : party.rayAlive = false := by
  unfold Party.groupAlive at dead
  unfold Party.rayAlive
  simp only [Bool.or_eq_false_iff] at dead
  rw [dead.2, Bool.or_false, decide_eq_false_iff_not]
  intro child
  rw [child] at dead
  cases dead.1

theorem not_fenced_of_groupAlive (dead : party.groupAlive = false) : ¬ (party.child = .fenced ∨ party.rayAlive = true) := by
  rintro (child | alive)
  · unfold Party.groupAlive at dead
    rw [child] at dead
    cases dead
  · rw [rayAlive_of_groupAlive dead] at alive
    cases alive

/-- Who is busy may be so with a child in any state. -/
theorem Invariant.toBusy (inv : Invariant launch party) {guardian : GuardianPhase} (busy : guardian.busy = true) :
    Invariant launch { party with guardian } where
  calm idle := by
    replace idle : guardian.busy = false := idle
    rw [busy] at idle
    cases idle
  recorded := inv.recorded
  fenced := inv.fenced

theorem Invariant.toIdle (inv : Invariant launch party) (dead : party.groupAlive = false) (guardian : GuardianPhase) :
    Invariant launch { party with guardian } where
  calm _ := dead
  recorded := inv.recorded
  fenced := inv.fenced

/-- The receipt of the child may go once its group has. -/
theorem Invariant.remove (inv : Invariant launch party) (dead : party.groupAlive = false) :
    Invariant launch { party with childFile := .absent } where
  calm := inv.calm
  recorded receipt found := by cases found
  fenced live := absurd live (not_fenced_of_groupAlive dead)

theorem Invariant.spawn (inv : Invariant launch party) (armed : party.guardian = .armed) :
    Invariant launch { party with guardian := .spawned, child := .bootstrap } where
  calm idle := by cases idle
  recorded := inv.recorded
  fenced live := by
    have dead := rayAlive_of_groupAlive (inv.calm (by rw [armed]; rfl))
    simp only [Party.rayAlive, Bool.or_eq_false_iff, decide_eq_false_iff_not] at dead
    simp [Party.rayAlive, dead.2] at live

theorem Invariant.link (_ : Invariant launch party) :
    Invariant launch { party with guardian := .publishing, childFile := .linked (childRecord launch) } where
  calm idle := by cases idle
  recorded receipt found := (Option.some.inj found).symm
  fenced _ := rfl

theorem Invariant.sync (inv : Invariant launch party) :
    Invariant launch { party with guardian := .watching, childFile := party.childFile.sync } where
  calm idle := by cases idle
  recorded receipt found := inv.recorded receipt ((Publication.receipt?_sync _).symm.trans found)
  fenced live := by
    rw [Publication.receipt?_sync]
    exact inv.fenced live

theorem guardianStep_invariant (inv : Invariant launch party) (step : GuardianStep) :
    Invariant launch (guardianStep launch party step) := by
  unfold guardianStep
  split
  case h_1 arming =>
    split_ifs
    · exact inv.toIdle (inv.calm (by rw [arming]; rfl)) _
    · exact inv
  case h_3 arming =>
    have dead := inv.calm (by rw [arming]; rfl)
    split
    · exact inv
    · split_ifs
      · exact inv.toIdle dead _
      · exact inv.toIdle dead _
  case h_6 armed => exact inv.spawn armed
  case h_8 =>
    split
    · exact inv.link
    · exact inv.toBusy rfl
  case h_10 => exact inv.sync
  case h_17 =>
    split_ifs with alive
    · exact inv
    · exact inv.toIdle (Bool.not_eq_true _ ▸ alive) _
  case h_20 =>
    split_ifs with alive
    · exact inv
    · exact inv.toIdle (Bool.not_eq_true _ ▸ alive) _
  case h_22 stopped =>
    have dead := inv.calm (by rw [stopped]; rfl)
    exact (inv.remove dead).toIdle dead _
  case h_24 released =>
    have dead := inv.calm (by rw [released]; rfl)
    exact ⟨fun _ => dead, inv.recorded, inv.fenced⟩
  all_goals first
    | exact inv
    | exact inv.toBusy rfl
    | exact inv.toIdle (inv.calm (by simp [*, GuardianPhase.busy])) _
    | (split_ifs <;> first | exact inv | exact inv.toBusy rfl)

/-- A child that ends, or a member of its group that does, takes no receipt with it. -/
theorem Invariant.fewer (inv : Invariant launch party) {child : ChildPhase} {descendants : Nat}
    (dead : party.groupAlive = false → child.alive = false ∧ descendants = 0)
    (live : child = .fenced ∨ child = .ray ∨ 0 < descendants → party.child = .fenced ∨ party.rayAlive = true) :
    Invariant launch { party with child, descendants } where
  calm idle := by
    obtain ⟨ended, none⟩ := dead (inv.calm idle)
    simp [Party.groupAlive, ended, none]
  recorded := inv.recorded
  fenced alive := by
    refine inv.fenced (live ?_)
    simpa [Party.rayAlive] using alive

theorem childStep_invariant (inv : Invariant launch party) (step : ChildStep) :
    Invariant launch (childStep launch party step) := by
  have ended : Invariant launch { party with child := .ended } := by
    refine inv.fewer (fun dead => ⟨rfl, ?_⟩) ?_
    · simp only [Party.groupAlive, Bool.or_eq_false_iff, decide_eq_false_iff_not] at dead
      exact Nat.eq_zero_of_not_pos dead.2
    · rintro (fenced | ray | many)
      · cases fenced
      · cases ray
      · exact .inr (by simp [Party.rayAlive, many])
  unfold childStep
  split
  case h_1 =>
    split_ifs
    · exact inv
    · exact ended
  case h_5 bootstrap =>
    split
    · exact inv
    · rename_i receipt found
      split_ifs
      · refine ⟨fun idle => ?_, inv.recorded, fun _ => by rw [found]; rfl⟩
        have dead := inv.calm idle
        simp [Party.groupAlive, bootstrap, ChildPhase.alive] at dead
      · exact ended
  case h_6 fenced =>
    refine ⟨fun idle => ?_, inv.recorded, fun _ => inv.fenced (.inl fenced)⟩
    have dead := inv.calm idle
    simp [Party.groupAlive, fenced, ChildPhase.alive] at dead
  case h_8 =>
    split_ifs
    · exact ended
    · exact inv
  case h_9 =>
    split_ifs with alive
    · refine ⟨fun idle => ?_, inv.recorded, fun _ => inv.fenced (.inr alive)⟩
      rw [rayAlive_of_groupAlive (inv.calm idle)] at alive
      cases alive
    · exact inv
  case h_10 =>
    refine inv.fewer (fun dead => ?_) ?_
    · simp only [Party.groupAlive, Bool.or_eq_false_iff, decide_eq_false_iff_not] at dead
      exact ⟨dead.1, Nat.le_zero.mp (le_trans (Nat.sub_le _ _) (Nat.not_lt.mp dead.2))⟩
    · rintro (fenced | ray | many)
      · exact .inl fenced
      · exact .inr (by simp [Party.rayAlive, ray])
      · exact .inr (by simp [Party.rayAlive, lt_of_lt_of_le many (Nat.sub_le _ _)])
  all_goals first
    | exact inv
    | exact ended

/-- The owner's doings outside the group and its receipt concern nobody. -/
theorem Invariant.toOwner (inv : Invariant launch party) (owner : OwnerPhase) (guardianFile : Publication)
    (stopSignal : Bool) : Invariant launch { party with owner, guardianFile, stopSignal } :=
  ⟨inv.calm, inv.recorded, inv.fenced⟩

theorem ownerStep_invariant (inv : Invariant launch party) (step : OwnerStep) :
    Invariant launch (ownerStep launch party step) := by
  unfold ownerStep
  split
  case h_1 =>
    refine ⟨fun idle => ?_, inv.recorded, inv.fenced⟩
    replace idle : (if party.guardian = .unborn then GuardianPhase.arming else party.guardian).busy = false := idle
    split_ifs at idle with unborn
    · exact inv.calm (by rw [unborn]; rfl)
    · exact inv.calm idle
  case h_2 =>
    split
    · exact inv.toOwner _ _ _
    · exact inv.toOwner _ _ _
  case h_6 =>
    unfold requestStop
    split
    · exact inv.toBusy rfl
    · exact inv.toOwner _ _ _
  case h_8 =>
    split_ifs
    · exact inv.toOwner _ _ _
    · exact inv.toOwner _ _ _
  case h_12 =>
    split_ifs with alive
    · exact inv
    · exact (inv.remove (Bool.not_eq_true _ ▸ alive)).toOwner _ _ _
  case h_14 =>
    split_ifs
    · exact inv
    · exact inv.toOwner _ _ _
  all_goals first
    | exact inv
    | exact inv.toOwner _ _ _

theorem step_invariant (inv : Invariant launch party) (event : Event) : Invariant launch (step launch party event) := by
  cases event with
  | owner step => exact ownerStep_invariant inv step
  | guardian step => exact guardianStep_invariant inv step
  | child step => exact childStep_invariant inv step
  | ownerKilled => exact inv.toOwner _ _ _
  | guardianKilled =>
    unfold step
    dsimp only
    split_ifs
    · exact inv.toBusy rfl
    · exact inv

end Steps

section Claims

variable {launch : Launch} {before : Party}

/-- What one step may do to the child, its receipt and its guardian: an exec finds the receipt on
    disk, Ray has it for as long as it lives, the guardian removes no receipt of a live group, and
    it leaves none behind once its owner is lost. -/
structure OwnedBeforeExec (launch : Launch) (onDisk : Publication → Prop) (leaves : GuardianPhase → Prop)
    (before : Party) (event : Event) : Prop where
  exec : before.child ≠ .ray → (step launch before event).child = .ray →
    before.childFile.receipt? = some (childRecord launch) ∧ onDisk before.childFile
  owned : (step launch before event).rayAlive = true →
    (step launch before event).childFile.receipt? = some (childRecord launch)
  removed : (∃ own, event = .guardian own) →
    (before.childFile ≠ .absent ∧ (step launch before event).childFile = .absent) ∨
      (before.guardianFile ≠ .absent ∧ (step launch before event).guardianFile = .absent) →
    before.groupAlive = false
  stopped : before.owner = .lost → before.guardian.alive = true → leaves (step launch before event).guardian →
    (step launch before event).groupAlive = false

def Publication.IsSynced (file : Publication) : Prop := ∃ receipt, file = .synced receipt

def GuardianPhase.Exited (guardian : GuardianPhase) : Prop := ∃ result, guardian = .exited result

def GuardianPhase.Left (guardian : GuardianPhase) : Prop := guardian.Exited ∨ ∃ failure, guardian = .expired failure

/-- The guardian gives up only after it has sent SIGKILL, and then keeps both receipts. -/
structure ExpiresKilling (launch : Launch) (before : Party) (event : Event) : Prop where
  killed : ∀ failure, before.guardian.alive = true → (step launch before event).guardian = .expired failure →
    (∃ cause, before.guardian = .stopping cause true) ∨ ∃ cause, before.guardian = .unwinding cause true
  kept : ∀ failure, before.guardian.alive = true → (step launch before event).guardian = .expired failure →
    (step launch before event).childFile = before.childFile ∧
      (step launch before event).guardianFile = before.guardianFile

theorem childStep_ray {own : ChildStep} (ray : (childStep launch before own).child = .ray) :
    before.child = .ray ∨ before.child = .fenced := by
  unfold childStep at ray
  split at ray
  case h_5 bootstrap =>
    split at ray
    · exact .inl ray
    · split_ifs at ray
  case h_6 fenced => exact .inr fenced
  all_goals first
    | exact .inl ray
    | (split_ifs at ray <;> exact .inl ray)
    | cases ray

/-- A guardian with a child that may be alive removes no file. -/
theorem guardianStep_keeps (own : GuardianStep) (busy : before.guardian.busy = true) :
    (before.childFile ≠ .absent → (guardianStep launch before own).childFile ≠ .absent) ∧
      (guardianStep launch before own).guardianFile = before.guardianFile := by
  unfold guardianStep
  split
  case h_8 =>
    split
    · rename_i absent
      exact ⟨fun present => absurd absent present, rfl⟩
    · exact ⟨id, rfl⟩
  case h_10 =>
    refine ⟨fun present gone => present ?_, rfl⟩
    replace gone : before.childFile.sync = .absent := gone
    cases file : before.childFile with
    | absent => rfl
    | linked receipt =>
      rw [file] at gone
      cases gone
    | synced receipt =>
      rw [file] at gone
      cases gone
  case h_22 stopped =>
    rw [stopped] at busy
    cases busy
  case h_24 released =>
    rw [released] at busy
    cases busy
  all_goals first
    | exact ⟨id, rfl⟩
    | (split_ifs <;> exact ⟨id, rfl⟩)
    | (split; exact ⟨id, rfl⟩; split_ifs <;> exact ⟨id, rfl⟩)

theorem guardianStep_removes (inv : Invariant launch before) {own : GuardianStep}
    (removed : (before.childFile ≠ .absent ∧ (guardianStep launch before own).childFile = .absent) ∨
      (before.guardianFile ≠ .absent ∧ (guardianStep launch before own).guardianFile = .absent)) :
    before.groupAlive = false := by
  cases busy : before.guardian.busy with
  | false => exact inv.calm busy
  | true =>
    obtain ⟨child, guardian⟩ := @guardianStep_keeps launch before own busy
    rcases removed with ⟨present, gone⟩ | ⟨present, gone⟩
    · exact absurd gone (child present)
    · exact absurd (guardian.symm.trans gone) present

theorem guardianStep_expired {own : GuardianStep} {failure : String} (alive : before.guardian.alive = true)
    (expired : (guardianStep launch before own).guardian = .expired failure) :
    ((∃ cause, before.guardian = .stopping cause true) ∨ ∃ cause, before.guardian = .unwinding cause true) ∧
      (guardianStep launch before own).childFile = before.childFile ∧
        (guardianStep launch before own).guardianFile = before.guardianFile := by
  have running : before.guardian ≠ .expired failure := by
    intro same
    rw [same] at alive
    cases alive
  unfold guardianStep at expired ⊢
  split at expired
  case h_3 =>
    split at expired
    · exact absurd expired running
    · split_ifs at expired
  case h_8 =>
    split at expired
    · cases expired
    · cases expired
  case h_18 unwinding => exact ⟨.inr ⟨_, unwinding⟩, rfl, rfl⟩
  case h_21 stopping => exact ⟨.inl ⟨_, stopping⟩, rfl, rfl⟩
  all_goals first
    | exact absurd expired running
    | cases expired
    | (split_ifs at expired; exact absurd expired running)

theorem owner_keeps_child (own : OwnerStep) : (ownerStep launch before own).child = before.child := by
  unfold ownerStep requestStop
  split <;> first
    | rfl
    | (split <;> rfl)

theorem guardian_makes_no_ray {own : GuardianStep} (ray : (guardianStep launch before own).child = .ray) :
    before.child = .ray := by
  unfold guardianStep at ray
  split at ray
  case h_3 =>
    split at ray
    · exact ray
    · split_ifs at ray <;> exact ray
  case h_8 => split at ray <;> exact ray
  all_goals first
    | exact ray
    | cases ray
    | (split_ifs at ray <;> exact ray)

theorem owner_makes_no_expiry {own : OwnerStep} {failure : String}
    (expired : (ownerStep launch before own).guardian = .expired failure) : before.guardian = .expired failure := by
  unfold ownerStep requestStop at expired
  split at expired
  case h_1 =>
    replace expired : (if before.guardian = .unborn then GuardianPhase.arming else before.guardian) = .expired failure :=
      expired
    split_ifs at expired
    exact expired
  all_goals first
    | exact expired
    | (split at expired <;> first | exact expired | cases expired)

theorem child_keeps_guardian (own : ChildStep) : (childStep launch before own).guardian = before.guardian := by
  unfold childStep
  split <;> first
    | rfl
    | (split <;> rfl)

/-- Only the bootstrap that has found its receipt becomes Ray. -/
theorem exec_recorded (inv : Invariant launch before) {event : Event} (other : before.child ≠ .ray)
    (ray : (step launch before event).child = .ray) : before.childFile.receipt? = some (childRecord launch) := by
  have fenced : before.child = .fenced := by
    cases event with
    | owner own => exact absurd ((owner_keeps_child own).symm.trans ray) other
    | guardian own => exact absurd (guardian_makes_no_ray ray) other
    | child own => exact (childStep_ray ray).resolve_left other
    | ownerKilled => exact absurd ray other
    | guardianKilled =>
      unfold step at ray
      dsimp only at ray
      split_ifs at ray <;> exact absurd ray other
  obtain ⟨receipt, found⟩ := Option.isSome_iff_exists.mp (inv.fenced (.inl fenced))
  rw [found, inv.recorded receipt found]

theorem owned_before_exec_step (inv : Invariant launch before) (event : Event) :
    OwnedBeforeExec launch (fun _ => True) GuardianPhase.Exited before event where
  exec other ray := ⟨exec_recorded inv other ray, trivial⟩
  owned alive := by
    have after := step_invariant inv event
    obtain ⟨receipt, found⟩ := Option.isSome_iff_exists.mp (after.fenced (.inr alive))
    rw [found, after.recorded receipt found]
  removed := by
    rintro ⟨own, rfl⟩ gone
    exact guardianStep_removes inv gone
  stopped := by
    rintro - - ⟨result, exited⟩
    exact (step_invariant inv event).calm (by rw [exited]; rfl)

theorem expires_killing_step (launch : Launch) (before : Party) (event : Event) : ExpiresKilling launch before event := by
  have expiry : ∀ failure, before.guardian.alive = true → (step launch before event).guardian = .expired failure →
      ∃ own, event = .guardian own := by
    intro failure alive expired
    have running : before.guardian ≠ .expired failure := by
      intro same
      rw [same] at alive
      cases alive
    cases event with
    | guardian own => exact ⟨own, rfl⟩
    | owner own => exact absurd (owner_makes_no_expiry expired) running
    | child own => exact absurd ((child_keeps_guardian own).symm.trans expired) running
    | ownerKilled => exact absurd expired running
    | guardianKilled =>
      unfold step at expired
      dsimp only at expired
      split_ifs at expired
  constructor
  · intro failure alive expired
    obtain ⟨own, rfl⟩ := expiry failure alive expired
    exact (guardianStep_expired alive expired).1
  · intro failure alive expired
    obtain ⟨own, rfl⟩ := expiry failure alive expired
    exact (guardianStep_expired alive expired).2

/-- In every run of the three, whichever of them is killed when, an exec finds the child's receipt,
    Ray keeps it, and the guardian leaves a live group only where it outlasts SIGKILL. -/
theorem owned_before_exec (launch : Launch) (events : List Event) :
    Along (step launch) (fun before event => OwnedBeforeExec launch (fun _ => True) GuardianPhase.Exited before event ∧
      ExpiresKilling launch before event) {} events := by
  have inv := @invariant_start launch
  revert inv
  generalize ({} : Party) = start
  intro inv
  induction events generalizing start with
  | nil => trivial
  | cons event rest ih =>
    exact ⟨⟨owned_before_exec_step inv event, expires_killing_step launch start event⟩, ih _ (step_invariant inv event)⟩

section Sample

def sampleLaunch : Launch where
  uid := 1000
  hostname := "node-1"
  deploymentId := "deployment"
  generation := 7
  rank := 1
  guardian := { pid := 100, pgid := 100, startTicks := 10 }
  guardianArgv := ["guardian"]
  tempPaths := []
  child := { pid := 200, pgid := 200, startTicks := 20 }
  childArgv := ["ray"]
  createdAt := .int 1
  receiptWait := "30"

/-- The guardian is recorded, starts its child and links the receipt of it. -/
def linkedRun : List Event :=
  [.owner .spawn, .owner .link, .owner .sync, .guardian .readReceipt, .guardian .spawn, .guardian .link,
    .child .readReceipt]

/-- The owner is killed, and the child outlasts the signals of the guardian. -/
def outlastedRun : List Event :=
  linkedRun ++ [Event.guardian .sync, .child .exec, .ownerKilled, .guardian .ownerGone, .guardian .kill]

theorem sample_evaluated :
    (run (step sampleLaunch) {} linkedRun).child = .fenced ∧
      (∃ receipt, (run (step sampleLaunch) {} linkedRun).childFile = .linked receipt) ∧
      (run (step sampleLaunch) {} outlastedRun).owner = .lost ∧
      (run (step sampleLaunch) {} outlastedRun).guardian = .stopping .ownerLost true ∧
      (run (step sampleLaunch) {} outlastedRun).groupAlive = true := by
  refine ⟨by decide +kernel, ⟨childRecord sampleLaunch, rfl⟩, by decide +kernel, by decide +kernel, by decide +kernel⟩

/-- The child may exec before the directory of its receipt is synced, and the guardian may leave
    a group that outlasts it. -/
theorem exec_unsynced_and_group_left :
    (¬ ∀ events, Along (step sampleLaunch)
      (OwnedBeforeExec sampleLaunch Publication.IsSynced GuardianPhase.Exited) {} events) ∧
    ¬ ∀ events, Along (step sampleLaunch)
      (OwnedBeforeExec sampleLaunch (fun _ => True) GuardianPhase.Left) {} events := by
  obtain ⟨fenced, ⟨receipt, linked⟩, lost, stopping, alive⟩ := sample_evaluated
  constructor
  · intro always
    have last := (along_concat.mp (always (linkedRun ++ [Event.child .exec]))).2
    have ray : (step sampleLaunch (run (step sampleLaunch) {} linkedRun) (.child .exec)).child = .ray := by
      simp only [step, childStep, fenced]
    obtain ⟨other, synced⟩ := (last.exec (by rw [fenced]; decide) ray).2
    rw [linked] at synced
    cases synced
  · intro always
    have last := (along_concat.mp (always (outlastedRun ++ [Event.guardian .deadline]))).2
    revert last lost stopping alive
    generalize run (step sampleLaunch) {} outlastedRun = party
    intro lost stopping alive last
    have after : ∃ failure, step sampleLaunch party (.guardian .deadline) =
        { party with guardian := .expired failure } := by
      simp only [step, guardianStep, stopping]
      exact ⟨_, rfl⟩
    obtain ⟨failure, after⟩ := after
    have gone := last.stopped lost (by rw [stopping]; rfl) (by rw [after]; exact .inr ⟨_, rfl⟩)
    rw [after] at gone
    cases alive.symm.trans gone

end Sample

end Claims

end ExaServe.Control.Guardian
