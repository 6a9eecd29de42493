import Mathlib.Data.Rat.Defs
import ExaServe.Lib.Interleave
import ExaServe.Lib.Processes
import Mathlib.Algebra.Order.Ring.Unbundled.Rat

namespace ExaServe.State

open Lib

namespace Lease

variable {ι : Type}

/-- A value no other process and no later draw of the same one has: a fencing
    token of `secrets.token_hex`, or the inode of a file a process makes. -/
abbrev Unique (ι : Type) := ι × Nat

/-- The fields of a lease record that are read back. -/
structure Owner (ι : Type) where
  host : String
  pid : Int
  acquiredAt : ℚ
  ttlS : ℚ
  token : Option (Unique ι)
  deriving DecidableEq

/-- The file at the lease path. It has no content between its creation and the
    write of the owner record. -/
structure LeaseFile (ι : Type) where
  inode : Unique ι
  content : Option (Owner ι)
  mtime : ℚ
  deriving DecidableEq

structure Sidecar (ι : Type) where
  inode : Unique ι
  mtime : ℚ
  deriving DecidableEq

/-- What the calls did that the election is judged by. -/
inductive Entry (ι : Type) where
  /-- `acquire` returned with this token. -/
  | elected (token : Unique ι)
  /-- A takeover found the lease expired while it had the arbitration. -/
  | expired (inode : Unique ι) (token : Option (Unique ι))
  | released (token : Unique ι)
  /-- A takeover that had found the first file replaced the second. -/
  | tookOver (found present : Option (Unique ι))
  deriving DecidableEq

structure Directory (ι : Type) where
  processes : Processes ι (String × Int)
  lease : Option (LeaseFile ι)
  sidecar : Option (Sidecar ι)
  log : List (Entry ι)

inductive Task where
  | takeover | renewal | release
  deriving DecidableEq

/-- What is left to do once the arbitration has been given back. -/
inductive Outcome (ι : Type) where
  | won (inode : Unique ι)
  | refused
  | renewed (extended : Bool)
  | released
  | failed
  deriving DecidableEq

inductive Stage (ι : Type) where
  | idle
  -- acquire
  | confirm
  | create
  | fill (inode : Unique ι)
  | look
  | lookStat
  | judge (owner : Owner ι)
  -- _try_arbitration
  | arbitrate (task : Task) (again : Bool)
  | inspect (task : Task)
  | discard (task : Task)
  -- with the arbitration
  | reread (task : Task) (lock : Unique ι)
  | restat (lock inode : Unique ι)
  | rejudge (lock inode : Unique ι) (content : Option (Owner ι)) (owner : Owner ι)
  | stamp (task : Task) (lock : Unique ι) (found : Option (Unique ι))
  | publish (task : Task) (lock : Unique ι) (found : Option (Unique ι)) (identity : Owner ι)
  | remove (lock : Unique ι)
  -- _release_arbitration
  | unlockStat (outcome : Outcome ι) (lock : Unique ι)
  | unlink (outcome : Outcome ι) (lock : Unique ι)
  | leave (outcome : Outcome ι)
  deriving DecidableEq

/-- An `ExclusiveLease` object and where its process is in a call on it. -/
structure Holder (ι : Type) where
  held : Bool := false
  token : Option (Unique ι) := none
  drawn : Nat := 0
  stage : Stage ι := .idle

/-- What the system answers to the next primitive of a process. -/
structure Answer where
  now : ℚ := 0
  raises : Bool := false
  -- the directory could not be synced after the file was put in place
  unsynced : Bool := false
  -- the pid belongs to a process outside the run
  elsewhere : Bool := false

inductive Action where
  | spawn | exit | acquire | renew | release
  | proceed (answer : Answer)

/-- Where each process runs, and the TTL its lease object was made with. -/
structure Setting (ι : Type) where
  address : ι → String × Int
  ttlS : ι → ℚ

namespace Directory

variable [DecidableEq ι]

def start : Directory ι := { processes := .none_, lease := none, sidecar := none, log := [] }

/-- `_expired`, as the process at this host sees it. -/
def expired (directory : Directory ι) (host : String) (owner : Owner ι) (answer : Answer) : Bool :=
  if owner.ttlS ≤ 0 then false
  else if owner.ttlS < answer.now - owner.acquiredAt then true
  else decide (owner.host = host ∧ 0 < owner.pid) &&
    (directory.processes.table (owner.host, owner.pid)).isNone && !answer.elsewhere

/-- `unreadable_owner`: the file's age stands for that of its record. -/
def unreadableOwner (directory : Directory ι) (ttlS : ℚ) (answer : Answer) : Owner ι where
  host := "?"
  pid := -1
  acquiredAt := match answer.raises, directory.lease with
    | false, some file => answer.now - max 0 (answer.now - file.mtime)
    | _, _ => answer.now
  ttlS := ttlS
  token := none

/-- `_current_token`. -/
def currentToken (directory : Directory ι) : Option (Unique ι) :=
  (directory.lease.bind LeaseFile.content).bind Owner.token

/-- The creator writes its record through its descriptor, to the file it made. -/
def fill (directory : Directory ι) (inode : Unique ι) (identity : Owner ι) (mtime : ℚ) : Directory ι :=
  { directory with lease := directory.lease.map fun file =>
      if file.inode = inode then { file with content := some identity, mtime } else file }

end Directory

namespace Holder

def next (holder : Holder ι) (stage : Stage ι) : Holder ι := { holder with stage }

/-- The head of the loop in `acquire`: a new token, then the exclusive creation. -/
def begin_ (holder : Holder ι) (i : ι) : Holder ι :=
  { holder with token := some (i, holder.drawn), drawn := holder.drawn + 1, stage := .create }

def drawInode (holder : Holder ι) (stage : Stage ι) : Holder ι :=
  { holder with drawn := holder.drawn + 1, stage }

/-- What a call does when `_try_arbitration` returns None. -/
def giveUp (holder : Holder ι) (i : ι) : Task → Holder ι
  | .takeover => holder.begin_ i
  | .renewal | .release => holder.next .idle

/-- `holds_lease`. -/
def holdsLease [DecidableEq ι] (holder : Holder ι) (directory : Directory ι) : Bool :=
  holder.held && holder.token.isSome && decide (directory.currentToken = holder.token)

def acquire (holder : Holder ι) (i : ι) : Holder ι :=
  if holder.held then holder.next .confirm else holder.begin_ i

def renew (holder : Holder ι) : Holder ι := holder.next (.arbitrate .renewal false)

def release (holder : Holder ι) : Holder ι :=
  if holder.held then holder.next (.arbitrate .release false) else holder

end Holder

section Turns

variable [DecidableEq ι] (setting : Setting ι) (i : ι) (answer : Answer)

def identity (holder : Holder ι) : Owner ι where
  host := (setting.address i).1
  pid := (setting.address i).2
  acquiredAt := answer.now
  ttlS := setting.ttlS i
  token := holder.token

/-- The next primitive of the call a process is in. -/
def proceed (directory : Directory ι) (holder : Holder ι) : Directory ι × Holder ι :=
  let inode := (i, holder.drawn)
  match holder.stage with
  | .idle => (directory, holder)
  | .confirm =>
    if !answer.raises && holder.holdsLease directory then (directory, holder.next .idle)
    else (directory, { holder with held := false, token := none }.begin_ i)
  | .create =>
    if answer.raises then (directory, holder.next .idle)
    else match directory.lease with
      | none => ({ directory with lease := some { inode, content := none, mtime := answer.now } },
          holder.drawInode (.fill inode))
      | some _ => (directory, holder.next .look)
  | .fill inode =>
    if answer.raises then (directory, holder.next .idle)
    else (directory.fill inode (identity setting i answer holder) answer.now,
      holder.next (.leave (.won inode)))
  | .look =>
    match directory.lease with
    | none => (directory, holder.begin_ i)
    | some { content := some owner, .. } =>
      if answer.raises then (directory, holder.next .lookStat) else (directory, holder.next (.judge owner))
    | some { content := none, .. } => (directory, holder.next .lookStat)
  | .lookStat => (directory, holder.next (.judge (directory.unreadableOwner (setting.ttlS i) answer)))
  | .judge owner =>
    if directory.expired (setting.address i).1 owner answer then
      (directory, holder.next (.arbitrate .takeover false))
    else (directory, holder.next .idle)
  | .arbitrate task again =>
    if answer.raises then (directory, holder.next .idle)
    else match directory.sidecar with
      | none => ({ directory with sidecar := some { inode, mtime := answer.now } },
          holder.drawInode (.reread task inode))
      | some _ =>
        if again then (directory, holder.giveUp i task) else (directory, holder.next (.inspect task))
  | .inspect task =>
    match answer.raises, directory.sidecar with
    | false, some sidecar =>
      if 60 < answer.now - sidecar.mtime then (directory, holder.next (.discard task))
      else (directory, holder.giveUp i task)
    | _, _ => (directory, holder.next (.arbitrate task true))
  | .discard task =>
    if answer.raises then (directory, holder.next (.arbitrate task true))
    else ({ directory with sidecar := none }, holder.next (.arbitrate task true))
  | .reread .takeover lock =>
    match directory.lease with
    | none => (directory, holder.next (.stamp .takeover lock none))
    | some { inode := found, content := some owner, .. } =>
      if answer.raises then (directory, holder.next (.restat lock found))
      else (directory, holder.next (.rejudge lock found (some owner) owner))
    | some { inode := found, content := none, .. } => (directory, holder.next (.restat lock found))
  | .reread .renewal lock =>
    if !answer.raises && holder.holdsLease directory then
      (directory, holder.next (.stamp .renewal lock none))
    else (directory, holder.next (.unlockStat (.renewed false) lock))
  | .reread .release lock =>
    if !answer.raises && holder.holdsLease directory then (directory, holder.next (.remove lock))
    else (directory, holder.next (.unlockStat .released lock))
  | .restat lock found =>
    (directory,
      holder.next (.rejudge lock found none (directory.unreadableOwner (setting.ttlS i) answer)))
  | .rejudge lock found content owner =>
    if directory.expired (setting.address i).1 owner answer then
      ({ directory with log := directory.log ++ [Entry.expired found (content.bind Owner.token)] },
        holder.next (.stamp .takeover lock (some found)))
    else (directory, holder.next (.unlockStat .refused lock))
  | .stamp task lock found =>
    (directory, holder.next (.publish task lock found (identity setting i answer holder)))
  | .publish .takeover lock found identity =>
    if answer.raises then (directory, holder.next (.unlockStat .failed lock))
    else
      ({ directory with
          lease := some { inode, content := some identity, mtime := answer.now }
          log := directory.log ++ [Entry.tookOver found (directory.lease.map LeaseFile.inode)] },
        if answer.unsynced then holder.drawInode (.unlockStat .failed lock)
        else { holder.drawInode (.unlockStat (.won inode) lock) with held := true })
  | .publish _ lock _ identity =>
    if answer.raises then (directory, holder.next (.unlockStat .failed lock))
    else
      ({ directory with lease := some { inode, content := some identity, mtime := answer.now } },
        holder.drawInode (.unlockStat (.renewed true) lock))
  | .remove lock =>
    if answer.raises then (directory, holder.next (.unlockStat .failed lock))
    else
      ({ directory with lease := none, log := directory.log ++ holder.token.toList.map .released },
        holder.next (.unlockStat .released lock))
  | .unlockStat outcome lock =>
    if answer.raises then (directory, holder.next (.leave .failed))
    else if (directory.sidecar.map Sidecar.inode) = some lock then
      (directory, holder.next (.unlink outcome lock))
    else (directory, holder.next (.leave outcome))
  | .unlink outcome _ =>
    if answer.raises ∨ directory.sidecar = none then (directory, holder.next (.leave .failed))
    else ({ directory with sidecar := none }, holder.next (.leave outcome))
  | .leave (.won _) =>
    ({ directory with log := directory.log ++ holder.token.toList.map .elected },
      { holder with held := true, stage := .idle })
  | .leave .released => (directory, { holder with held := false, token := none, stage := .idle })
  | .leave _ => (directory, holder.next .idle)

/-- One step of one process. A process is born once, under an address that is free
    then, with a lease object that is not held. -/
def turn (action : Action) (directory : Directory ι) (holder : Holder ι) : Directory ι × Holder ι :=
  match action, directory.processes.life i, holder.stage with
  | .spawn, .unborn, _ =>
    if (directory.processes.table (setting.address i)).isSome then (directory, holder)
    else ({ directory with processes := directory.processes.spawn setting.address i }, holder)
  | .exit, .live, _ =>
    ({ directory with processes := directory.processes.exit setting.address i }, holder)
  | .acquire, .live, .idle => (directory, holder.acquire i)
  | .renew, .live, .idle => (directory, holder.renew)
  | .release, .live, .idle => (directory, holder.release)
  | .proceed answer, .live, _ => proceed setting i answer directory holder
  | _, _, _ => (directory, holder)

end Turns

abbrev System (ι : Type) := Threads ι (Directory ι) (Holder ι)

variable [DecidableEq ι]

def System.start : System ι := { shared := Directory.start, own := fun _ => {} }

def System.step (setting : Setting ι) : System ι → ι × Action → System ι := Threads.act (turn setting)

end Lease

end ExaServe.State
