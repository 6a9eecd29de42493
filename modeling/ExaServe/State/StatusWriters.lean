import ExaServe.Lib.Interleave
import ExaServe.State.StatusRuns

namespace ExaServe.State.Status

open Lib Control

def leaseTtlS : ℚ := 60

/-- What the lease file says: the token drawn for it, whose it is and since when. -/
structure LeaseRecord (ι : Type) where
  token : Nat
  owner : ι
  acquiredAt : ℚ

/-- One replacement of the file: what its writer had loaded, what was there instead
    when it wrote, and the record it put there. -/
structure Commit (σ : Type) where
  loaded : Option Json
  base : Option (StatusRecord σ)
  replaced : Option Json
  record : StatusRecord σ

structure Directory (ι σ : Type) where
  file : Option Json
  lease : Option (LeaseRecord ι) := none
  drawn : Nat := 0
  ended : List ι := []
  commits : List (Commit σ) := []

/-- Where a writer is in its call. -/
inductive Writer (σ : Type) where
  | idle
  | acquiring (faults : Faults) (body : Body σ)
  | entering (faults : Faults) (body : Body σ) (token : Nat)
  | loading (faults : Faults) (body : Body σ) (token : Nat)
  | publishing (faults : Faults) (token : Nat) (loaded : Option Json) (base : Option (StatusRecord σ))
      (record : StatusRecord σ)
  | releasing (faults : Faults) (token : Nat)
  | ended

/-- The wall clock a step reads, and whether the wait for the lease is over. -/
inductive Action where
  | call (turn : Turn)
  | proceed (now : ℚ) (late : Bool)
  | crash

section Revisions

variable {σ : Type}

def nextRevision : Option (StatusRecord σ) → Nat
  | none => 0
  | some old => old.revision + 1

/-- A body counts the revision of what it loads up by one. -/
def Counts (body : Body σ) : Prop :=
  ∀ held record, body held = .ok record → record.revision = nextRevision held

theorem appendHistory_revision {record result : StatusRecord σ} {event : Event σ}
    (appended : appendHistory record event = .ok result) : result.revision = record.revision := by
  unfold appendHistory at appended
  split_ifs at appended
  · obtain ⟨dropped, -, done⟩ := bind_ok appended
    cases done
    rfl
  · cases appended
    rfl

variable [DecidableEq σ] {machine : Machine σ} {path : String}

theorem initializeBody_counts {recordId : Arg String} {state : String} {provenance data : Arg DataDict}
    {now : Reading} {body : Body σ}
    (checked : initializeBody machine path recordId state provenance data now = .ok body) : Counts body := by
  obtain ⟨_, -, checked⟩ := bind_ok checked
  obtain ⟨_, -, checked⟩ := bind_ok checked
  obtain ⟨_, -, checked⟩ := bind_ok checked
  obtain ⟨_, -, checked⟩ := bind_ok checked
  obtain ⟨_, -, checked⟩ := bind_ok checked
  cases checked
  intro held record built
  cases held with
  | some old => cases built
  | none =>
    cases built
    rfl

theorem transitionBody_counts {args : TransitionArgs} {now : Reading} {body : Body σ}
    (checked : transitionBody machine path args now = .ok body) : Counts body := by
  obtain ⟨_, -, checked⟩ := bind_ok checked
  obtain ⟨_, -, checked⟩ := bind_ok checked
  obtain ⟨⟨_, _⟩, -, checked⟩ := bind_ok checked
  obtain ⟨_, -, checked⟩ := bind_ok checked
  obtain ⟨_, -, checked⟩ := bind_ok checked
  obtain ⟨_, -, checked⟩ := bind_ok checked
  obtain ⟨_, -, checked⟩ := bind_ok checked
  cases checked
  intro held record built
  obtain ⟨old, compared, rest⟩ := bind_ok built
  obtain ⟨_, -, rest⟩ := bind_ok rest
  obtain ⟨_, -, rest⟩ := bind_ok rest
  obtain ⟨_, -, appended⟩ := bind_ok rest
  rw [(compare_held compared).1, appendHistory_revision appended]
  rfl

theorem updateBody_counts {args : UpdateArgs} {now : Reading} {body : Body σ}
    (checked : updateBody machine path args now = .ok body) : Counts body := by
  obtain ⟨_, -, checked⟩ := bind_ok checked
  obtain ⟨⟨_, _⟩, -, checked⟩ := bind_ok checked
  obtain ⟨_, -, checked⟩ := bind_ok checked
  obtain ⟨_, -, checked⟩ := bind_ok checked
  obtain ⟨_, -, checked⟩ := bind_ok checked
  cases checked
  intro held record built
  obtain ⟨old, compared, rest⟩ := bind_ok built
  rw [(compare_held compared).1]
  split_ifs at rest
  · rw [appendHistory_revision rest]
    rfl
  · obtain ⟨_, -, done⟩ := bind_ok rest
    cases done
    rfl

theorem bodyOf_counts {given : Turn} {body : Body σ} (checked : bodyOf machine path given = .ok body) :
    Counts body := by
  unfold bodyOf at checked
  split at checked
  · exact initializeBody_counts checked
  · exact transitionBody_counts checked
  · exact updateBody_counts checked

/-- Whatever else is read back of a record that was printed, its revision is. -/
theorem load_revision {record other : StatusRecord σ} {raw : Json}
    (printed : asdict machine record = some raw) (loaded : load machine raw = .ok other) :
    other.revision = record.revision := by
  obtain ⟨provenance, -, rest⟩ := Option.bind_eq_some_iff.mp printed
  obtain ⟨data, -, done⟩ := Option.bind_eq_some_iff.mp rest
  cases done
  simp only [load] at loaded
  split_ifs at loaded
  obtain ⟨_, -, loaded⟩ := bind_ok loaded
  obtain ⟨_, -, loaded⟩ := bind_ok loaded
  obtain ⟨_, -, loaded⟩ := bind_ok loaded
  obtain ⟨_, -, loaded⟩ := bind_ok loaded
  obtain ⟨revision, read, loaded⟩ := bind_ok loaded
  obtain ⟨_, -, loaded⟩ := bind_ok loaded
  obtain ⟨_, -, loaded⟩ := bind_ok loaded
  obtain ⟨_, -, loaded⟩ := bind_ok loaded
  obtain ⟨_, -, loaded⟩ := bind_ok loaded
  obtain ⟨_, -, loaded⟩ := bind_ok loaded
  have same : revision = record.revision := by
    cases read
    rfl
  split at loaded
  · obtain ⟨_, -, done⟩ := bind_ok loaded
    cases done
    exact same
  · cases loaded

end Revisions

section Writers

variable {ι σ : Type} [DecidableEq ι] [DecidableEq σ]

namespace Directory

/-- `holds_lease`. -/
def holds (directory : Directory ι σ) (token : Nat) : Bool :=
  directory.lease.any fun lease => lease.token = token

/-- The lease is gone, older than its TTL, or of a process of this host that ended. -/
def free (host : ι → String) (i : ι) (now : ℚ) (directory : Directory ι σ) : Bool :=
  directory.lease.all fun lease =>
    leaseTtlS < now - lease.acquiredAt ∨ host lease.owner = host i ∧ lease.owner ∈ directory.ended

def grant (i : ι) (now : ℚ) (directory : Directory ι σ) : Directory ι σ :=
  { directory with
    lease := some { token := directory.drawn, owner := i, acquiredAt := now }
    drawn := directory.drawn + 1 }

def release (directory : Directory ι σ) (token : Nat) : Directory ι σ :=
  if directory.holds token then { directory with lease := none } else directory

end Directory

variable (machine : Machine σ) (path : String) (host : ι → String)

/-- The next step of a call. `with` enters the lease it was handed, which acquires
    again when it is no longer the writer's; nothing looks at it after that. -/
def proceed (i : ι) (now : ℚ) (late : Bool) (directory : Directory ι σ) :
    Writer σ → Directory ι σ × Writer σ
  | .idle => (directory, .idle)
  | .acquiring faults body =>
    if directory.free host i now then (directory.grant i now, .entering faults body directory.drawn)
    else (directory, if late then .idle else .acquiring faults body)
  | .entering faults body token =>
    if directory.holds token then (directory, .loading faults body token)
    else if directory.free host i now then (directory.grant i now, .loading faults body directory.drawn)
    else (directory, .idle)
  | .loading faults body token =>
    match loadFile machine faults directory.file with
    | .error _ => (directory, .releasing faults token)
    | .ok base => match body base with
      | .error _ => (directory, .releasing faults token)
      | .ok record => (directory, .publishing faults token directory.file base record)
  | .publishing faults token loaded base record =>
    match (publish machine faults directory.file record).published with
    | none => (directory, .releasing faults token)
    | some written =>
      ({ directory with
          file := (publish machine faults directory.file record).file
          commits := directory.commits ++ [{ loaded, base, replaced := directory.file, record := written }] },
        .releasing faults token)
  | .releasing faults token => (if faults.unreleased then directory else directory.release token, .idle)
  | .ended => (directory, .ended)

def turn (i : ι) (action : Action) (directory : Directory ι σ) (writer : Writer σ) :
    Directory ι σ × Writer σ :=
  match action, writer with
  | .call given, .idle => match bodyOf machine path given with
    | .error _ => (directory, .idle)
    | .ok body => (directory, .acquiring given.faults body)
  | .call _, writer => (directory, writer)
  | .proceed now late, writer => proceed machine host i now late directory writer
  | .crash, _ => ({ directory with ended := i :: directory.ended }, .ended)

abbrev Writers (ι σ : Type) := Threads ι (Directory ι σ) (Writer σ)

def Writers.start (file : Option Json) : Writers ι σ := { shared := { file }, own := fun _ => .idle }

def Writers.step : Writers ι σ → ι × Action → Writers ι σ := Threads.act (turn machine path host)

/-- Every replacement is of what its writer loaded, each loads the record published
    before it, and no revision is published twice. -/
structure Directory.NoLostUpdate (directory : Directory ι σ) : Prop where
  current : ∀ commit ∈ directory.commits, commit.replaced = commit.loaded
  read : directory.commits.IsChain fun earlier later =>
    later.base.map StatusRecord.revision = some earlier.record.revision
  distinct : (directory.commits.map fun commit => commit.record.revision).Pairwise (· < ·)

def Directory.fences (directory : Directory ι σ) : Action → Writer σ → Bool
  | .proceed _ _, .publishing _ token _ _ _ => directory.holds token
  | _, _ => true

/-- A writer that publishes still has the lease. -/
def Writers.Fenced (writers : Writers ι σ) (event : ι × Action) : Prop :=
  writers.shared.fences event.2 (writers.own event.1) = true

instance (writers : Writers ι σ) (event : ι × Action) : Decidable (writers.Fenced event) :=
  inferInstanceAs (Decidable (_ = true))

end Writers

section Ownership

variable {ι σ : Type}

theorem Directory.holds_iff {directory : Directory ι σ} {token : Nat} :
    directory.holds token = true ↔ ∃ lease, directory.lease = some lease ∧ lease.token = token := by
  simp [Directory.holds, Option.any_eq_true]

/-- A token that was drawn, and is on the lease only for this writer. -/
structure Owned (i : ι) (directory : Directory ι σ) (token : Nat) : Prop where
  below : token < directory.drawn
  mine : ∀ lease, directory.lease = some lease → lease.token = token → lease.owner = i

/-- A step of another writer leaves the file to the one that has the lease. -/
structure Undisturbed (i : ι) (before after : Directory ι σ) : Prop where
  owned : ∀ token, Owned i before token → Owned i after token
  file : ∀ token, Owned i before token → after.holds token = true →
    before.holds token = true ∧ after.file = before.file

theorem undisturbed_of_same {i : ι} {before after : Directory ι σ} (lease : after.lease = before.lease)
    (drawn : after.drawn = before.drawn) (file : after.file = before.file) : Undisturbed i before after where
  owned := by
    rintro token ⟨below, mine⟩
    exact ⟨drawn ▸ below, lease ▸ mine⟩
  file := by
    intro token _ holds
    unfold Directory.holds at *
    exact ⟨lease ▸ holds, file⟩

theorem Owned.grant {i j : ι} {directory : Directory ι σ} {token : Nat} (owned : Owned i directory token)
    (now : ℚ) : Owned i (directory.grant j now) token where
  below := Nat.lt_succ_of_lt owned.below
  mine := by
    intro lease found same
    cases found
    exact absurd same (Nat.ne_of_gt owned.below)

theorem undisturbed_grant {i j : ι} {directory : Directory ι σ} (now : ℚ) :
    Undisturbed i directory (directory.grant j now) where
  owned := fun _ owned => owned.grant now
  file := by
    intro token owned holds
    obtain ⟨lease, found, same⟩ := Directory.holds_iff.mp holds
    cases found
    exact absurd same (Nat.ne_of_gt owned.below)

theorem owned_grant {i : ι} {directory : Directory ι σ} (now : ℚ) :
    Owned i (directory.grant i now) directory.drawn where
  below := Nat.lt_succ_self _
  mine := by
    intro lease found _
    cases found
    rfl

theorem undisturbed_release {i : ι} {directory : Directory ι σ} (token : Nat) :
    Undisturbed i directory (directory.release token) := by
  unfold Directory.release
  split_ifs
  · refine ⟨fun _ owned => ⟨owned.below, nofun⟩, ?_⟩
    intro other _ holds
    cases holds
  · exact undisturbed_of_same rfl rfl rfl

variable {machine : Machine σ}

theorem publish_written {faults : Faults} {file : Option Json} {record written : StatusRecord σ}
    (done : (publish machine faults file record).published = some written) :
    written = record ∧ ∃ raw, (publish machine faults file record).file = some raw ∧
      asdict machine record = some raw := by
  unfold publish at done ⊢
  split at done
  · cases done
  · rename_i raw printed
    by_cases unwritable : faults.unwritable = true
    · simp [unwritable, Result.raised] at done
    · simp only [unwritable] at done ⊢
      cases done
      exact ⟨rfl, raw, rfl, printed⟩

/-- The writer that has the lease writes: the token of no other is on it. -/
theorem undisturbed_write {i j : ι} (other : j ≠ i) {before after : Directory ι σ} {token : Nat}
    (owned : Owned i before token) (holds : before.holds token = true) (lease : after.lease = before.lease)
    (drawn : after.drawn = before.drawn) : Undisturbed j before after where
  owned := by
    rintro probe ⟨below, mine⟩
    exact ⟨drawn ▸ below, lease ▸ mine⟩
  file := by
    intro probe theirs still
    obtain ⟨found, there, same⟩ := Directory.holds_iff.mp holds
    obtain ⟨again, found_again, equal⟩ := Directory.holds_iff.mp still
    rw [lease, there] at found_again
    cases found_again
    exact absurd ((theirs.mine found there equal).symm.trans (owned.mine found there same)) other

structure Recorded (machine : Machine σ) (directory : Directory ι σ) : Prop where
  kept : directory.NoLostUpdate
  last : ∀ commit, directory.commits.getLast? = some commit →
    ∃ raw, directory.file = some raw ∧ asdict machine commit.record = some raw
  below : ∀ lease, directory.lease = some lease → lease.token < directory.drawn

theorem Recorded.grant {directory : Directory ι σ} (recorded : Recorded machine directory) (i : ι) (now : ℚ) :
    Recorded machine (directory.grant i now) where
  kept := ⟨recorded.kept.current, recorded.kept.read, recorded.kept.distinct⟩
  last := recorded.last
  below := by
    intro lease found
    cases found
    exact Nat.lt_succ_self _

theorem Recorded.release {directory : Directory ι σ} (recorded : Recorded machine directory) (token : Nat) :
    Recorded machine (directory.release token) := by
  unfold Directory.release
  split_ifs
  · exact ⟨⟨recorded.kept.current, recorded.kept.read, recorded.kept.distinct⟩, recorded.last, nofun⟩
  · exact recorded

theorem recorded_start (file : Option Json) : Recorded machine ({ file } : Directory ι σ) where
  kept := {
    current := by
      intro commit member
      cases member
    read := List.isChain_nil
    distinct := List.Pairwise.nil }
  last := by
    intro commit found
    cases found
  below := by
    intro lease found
    cases found

end Ownership

section Kept

variable {ι σ : Type} [DecidableEq σ] {machine : Machine σ}

/-- What a writer relies on in each stage of its call. -/
def Standing (machine : Machine σ) (i : ι) (directory : Directory ι σ) : Writer σ → Prop
  | .idle | .ended => True
  | .acquiring _ body => Counts body
  | .entering _ body token | .loading _ body token => Counts body ∧ Owned i directory token
  | .publishing faults token loaded base record =>
    Owned i directory token ∧ record.revision = nextRevision base ∧
      loadFile machine faults loaded = .ok base ∧ (directory.holds token = true → directory.file = loaded)
  | .releasing _ token => Owned i directory token

theorem Standing.other {i : ι} {before after : Directory ι σ} {writer : Writer σ}
    (standing : Standing machine i before writer) (left : Undisturbed i before after) :
    Standing machine i after writer := by
  cases writer with
  | idle => trivial
  | ended => trivial
  | acquiring faults body => exact standing
  | entering faults body token => exact ⟨standing.1, left.owned token standing.2⟩
  | loading faults body token => exact ⟨standing.1, left.owned token standing.2⟩
  | releasing faults token => exact left.owned token standing
  | publishing faults token loaded base record =>
    obtain ⟨owned, revision, read, file⟩ := standing
    refine ⟨left.owned token owned, revision, read, ?_⟩
    intro holds
    obtain ⟨held, same⟩ := left.file token owned holds
    rw [same]
    exact file held

theorem Recorded.commit {directory : Directory ι σ} (recorded : Recorded machine directory) {faults : Faults}
    {loaded : Option Json} {base : Option (StatusRecord σ)} {record : StatusRecord σ} {raw : Json}
    (current : directory.file = loaded) (revision : record.revision = nextRevision base)
    (read : loadFile machine faults loaded = .ok base) (printed : asdict machine record = some raw) :
    Recorded machine { directory with
      file := some raw
      commits := directory.commits ++ [{ loaded, base, replaced := directory.file, record }] } := by
  have follows : ∀ commit, directory.commits.getLast? = some commit →
      base.map StatusRecord.revision = some commit.record.revision := by
    intro commit found
    obtain ⟨before, there, shown⟩ := recorded.last commit found
    rw [← current, there] at read
    simp only [loadFile] at read
    split_ifs at read
    cases loads : load machine before with
    | error raised =>
      rw [loads] at read
      cases read
    | ok other =>
      rw [loads] at read
      cases read
      rw [Option.map_some, load_revision shown loads]
  refine ⟨⟨?_, ?_, ?_⟩, ?_, recorded.below⟩
  · intro commit member
    rcases List.mem_append.mp member with member | member
    · exact recorded.kept.current commit member
    · rw [List.mem_singleton] at member
      subst member
      exact current
  · apply recorded.kept.read.append (List.isChain_singleton _)
    intro last found next head
    cases head
    exact follows last found
  · apply List.isChain_iff_pairwise.mp
    rw [List.map_append]
    apply (List.isChain_iff_pairwise.mpr recorded.kept.distinct).append (List.isChain_singleton _)
    intro last found next head
    obtain ⟨commit, ended, rfl⟩ := Option.map_eq_some_iff.mp (List.getLast?_map ▸ Option.mem_def.mp found)
    cases head
    obtain ⟨old, rfl, same⟩ := Option.map_eq_some_iff.mp (follows commit ended)
    show commit.record.revision < record.revision
    rw [revision, ← same]
    exact Nat.lt_succ_self _
  · intro commit found
    rw [List.getLast?_concat] at found
    cases found
    exact ⟨raw, rfl, printed⟩

/-- A turn of one writer: what all rely on, what it relies on itself, and what the
    others do. -/
structure Safe (machine : Machine σ) (i : ι) (before : Directory ι σ) (result : Directory ι σ × Writer σ) :
    Prop where
  recorded : Recorded machine result.1
  standing : Standing machine i result.1 result.2
  others : ∀ j, j ≠ i → Undisturbed j before result.1

theorem safe_stay {i : ι} {directory : Directory ι σ} (recorded : Recorded machine directory)
    {writer : Writer σ} (standing : Standing machine i directory writer) :
    Safe machine i directory (directory, writer) :=
  ⟨recorded, standing, fun _ _ => undisturbed_of_same rfl rfl rfl⟩

theorem safe_grant {i : ι} {directory : Directory ι σ} (recorded : Recorded machine directory) (now : ℚ)
    {writer : Writer σ} (standing : Standing machine i (directory.grant i now) writer) :
    Safe machine i directory (directory.grant i now, writer) :=
  ⟨recorded.grant i now, standing, fun _ _ => undisturbed_grant now⟩

variable [DecidableEq ι] {path : String} {host : ι → String}

theorem proceed_safe {i : ι} {directory : Directory ι σ} (recorded : Recorded machine directory)
    {writer : Writer σ} (standing : Standing machine i directory writer) (now : ℚ) (late : Bool)
    (fenced : ∀ faults token loaded base record, writer = .publishing faults token loaded base record →
      directory.holds token = true) :
    Safe machine i directory (proceed machine host i now late directory writer) := by
  cases writer with
  | idle => exact safe_stay recorded trivial
  | ended => exact safe_stay recorded trivial
  | acquiring faults body =>
    simp only [proceed]
    split_ifs
    · exact safe_grant recorded now ⟨standing, owned_grant now⟩
    · exact safe_stay recorded trivial
    · exact safe_stay recorded standing
  | entering faults body token =>
    simp only [proceed]
    split_ifs
    · exact safe_stay recorded standing
    · exact safe_grant recorded now ⟨standing.1, owned_grant now⟩
    · exact safe_stay recorded trivial
  | loading faults body token =>
    obtain ⟨counts, owned⟩ := standing
    simp only [proceed]
    split
    · exact safe_stay recorded owned
    · rename_i base read
      split
      · exact safe_stay recorded owned
      · rename_i record built
        exact safe_stay recorded ⟨owned, counts base record built, read, fun _ => rfl⟩
  | releasing faults token =>
    simp only [proceed]
    split_ifs
    · exact safe_stay recorded trivial
    · exact ⟨recorded.release token, trivial, fun _ _ => undisturbed_release token⟩
  | publishing faults token loaded base record =>
    obtain ⟨owned, revision, read, file⟩ := standing
    have holds := fenced faults token loaded base record rfl
    simp only [proceed]
    split
    · exact safe_stay recorded owned
    · rename_i written done
      obtain ⟨rfl, raw, there, printed⟩ := publish_written done
      rw [there]
      exact ⟨recorded.commit (file holds) revision read printed, ⟨owned.below, owned.mine⟩,
        fun j other => undisturbed_write other owned holds rfl rfl⟩

theorem turn_safe {i : ι} {action : Action} {writers : Writers ι σ}
    (sound : writers.Sound (Recorded machine) (Standing machine)) (fenced : writers.Fenced (i, action)) :
    Safe machine i writers.shared (turn machine path host i action writers.shared (writers.own i)) := by
  have recorded := sound.common
  have standing := sound.single i
  unfold Writers.Fenced at fenced
  unfold turn
  generalize writers.own i = writer at standing fenced ⊢
  split
  · split
    · exact safe_stay recorded trivial
    · exact safe_stay recorded (bodyOf_counts ‹_›)
  · exact safe_stay recorded standing
  · apply proceed_safe recorded standing
    rintro faults token loaded base record rfl
    exact fenced
  · exact ⟨⟨⟨recorded.kept.current, recorded.kept.read, recorded.kept.distinct⟩, recorded.last, recorded.below⟩,
      trivial, fun _ _ => undisturbed_of_same rfl rfl rfl⟩

theorem step_sound {writers : Writers ι σ} {event : ι × Action} (fenced : writers.Fenced event)
    (sound : writers.Sound (Recorded machine) (Standing machine)) :
    (writers.step machine path host event).Sound (Recorded machine) (Standing machine) := by
  obtain ⟨i, action⟩ := event
  have safe : Safe machine i writers.shared (turn machine path host i action writers.shared (writers.own i)) :=
    turn_safe sound fenced
  exact sound.act rfl safe.recorded safe.standing
    (fun j other standing => standing.other (safe.others j other))

/-- As long as no writer publishes after its lease was taken over, none overwrites a
    record it has not loaded, whatever the file holds at first. -/
theorem fenced_writers_lose_no_update (file : Option Json) (events : List (ι × Action))
    (fenced : Along (Writers.step machine path host) Writers.Fenced (.start file) events) :
    Throughout (Writers.step machine path host) (fun writers => writers.shared.NoLostUpdate) (.start file) events := by
  have initial : (Writers.start file : Writers ι σ).Sound (Recorded machine) (Standing machine) :=
    ⟨recorded_start file, fun _ => trivial⟩
  have kept : ∀ (writers : Writers ι σ) (event : ι × Action), writers.Fenced event →
      writers.Sound (Recorded machine) (Standing machine) →
      (writers.step machine path host event).Sound (Recorded machine) (Standing machine) := by
    intro writers event admitted sound
    exact step_sound admitted sound
  have sound : Throughout (Writers.step machine path host)
      (Threads.Sound (Recorded machine) (Standing machine)) (.start file) events :=
    throughout_of_along kept initial fenced
  intro taken within
  exact (sound taken within).common.kept

end Kept

section Runs

def initialFile : Option Json := (perform Machine.deployment "status.json" (created secondsAfter {}) none).file

def tick : Action :=
  .call { call := .update { expected := "PLANNED", reasonCode := .value "TICK" }, now := secondsAfter }

/-- A whole call at one time. -/
def calls (writer : Bool) (now : ℚ) : List (Bool × Action) :=
  (writer, tick) :: List.replicate 5 (writer, .proceed now false)

def oneHost : Bool → String := fun _ => "node-0"

theorem one_after_the_other :
    Along (Writers.step Machine.deployment "status.json" oneHost) Writers.Fenced (.start initialFile)
      (calls false 0 ++ calls true 1) ∧
    (run (Writers.step Machine.deployment "status.json" oneHost) (.start initialFile)
      (calls false 0 ++ calls true 1)).shared.commits.map (fun commit => commit.record.revision) = [1, 2] ∧
    Throughout (Writers.step Machine.deployment "status.json" oneHost)
      (fun writers => writers.shared.NoLostUpdate) (.start initialFile) (calls false 0 ++ calls true 1) := by
  have fenced : Along (Writers.step Machine.deployment "status.json" oneHost) Writers.Fenced (.start initialFile)
      (calls false 0 ++ calls true 1) := by decide +kernel
  exact ⟨fenced, by decide +kernel, fenced_writers_lose_no_update _ _ fenced⟩

/-- One writer stalls for a hundred seconds after it has loaded; another takes the
    lease over and publishes. -/
def stalledWriter : List (Bool × Action) :=
  (calls false 0).take 4 ++ calls true 100 ++ [(false, Action.proceed 100 false)]

theorem stalled_writer_overwrites :
    (run (Writers.step Machine.deployment "status.json" oneHost) (.start initialFile)
      stalledWriter).shared.commits.map (fun commit => commit.record.revision) = [1, 1] ∧
    ¬ Throughout (Writers.step Machine.deployment "status.json" oneHost)
      (fun writers => writers.shared.NoLostUpdate) (.start initialFile) stalledWriter := by
  have twice : (run (Writers.step Machine.deployment "status.json" oneHost) (.start initialFile)
      stalledWriter).shared.commits.map (fun commit => commit.record.revision) = [1, 1] := by decide +kernel
  refine ⟨twice, ?_⟩
  intro always
  have distinct := always.last.distinct
  rw [twice] at distinct
  exact absurd distinct (by decide)

end Runs

end ExaServe.State.Status
