import Mathlib.Data.Rat.Defs
import ExaServe.Lib.Interleave
import ExaServe.Lib.Processes

namespace ExaServe.State.Ports

open Lib

def staleAfterS : ℚ := 3600

variable {ι : Type}

/-- What `secrets.token_hex` gives one process: no other process and no later
    draw of the same one has it. -/
abbrev Token (ι : Type) := ι × Nat

inductive Content (ι : Type) where
  | claim (owner : Int) (token : Token ι)
  -- `PID timestamp`; an empty file reads as the owner -1
  | legacy (owner : Int)
  | unreadable
  -- a symlink, a directory, a file of another user
  | irregular

structure ClaimFile (ι : Type) where
  content : Content ι
  mtime : ℚ

def Content.empty : Content ι := .legacy (-1)

def readClaim : Content ι → Option (Int × Option (Token ι))
  | .claim owner token => some (owner, some token)
  | .legacy owner => some (owner, none)
  | .unreadable | .irregular => none

/-- The node: its process table, and for each port the claim file of the lease
    directory and the process that has the lock on its guard file. -/
structure Node (ι : Type) where
  processes : Processes ι Int
  guard : Nat → Option ι
  claim : Nat → Option (ClaimFile ι)

structure PortLease (ι : Type) where
  port : Nat
  token : Option (Token ι)
  released : Bool := false

inductive Claimed where
  | lease | nothing | raised
  deriving DecidableEq

inductive ClaimStage where
  | lock | create | stat | read (mtime : ℚ) | judge (owner : Int) (mtime : ℚ) | discard | recreate
  | write | probe | withdraw | unwind | retract
  | unlock (result : Claimed)
  deriving DecidableEq

inductive ReleaseStage where
  | lock | read | unlink
  | unlock (done : Bool)
  | finish (done : Bool)
  deriving DecidableEq

inductive Stage where
  | idle
  /-- `_claim` of one port, with the ports still to try. -/
  | claiming (port : Nat) (rest : List Nat) (serial : Nat) (at_ : ClaimStage)
  /-- `release` of the lease object at an index of the process's leases. -/
  | releasing (index : Nat) (at_ : ReleaseStage)
  deriving DecidableEq

structure Process (ι : Type) where
  drawn : Nat := 0
  leases : List (PortLease ι) := []
  stage : Stage := .idle

/-- What the system answers to the next primitive of a process. -/
structure Answer (ι : Type) where
  raises : Bool := false
  denied : Bool := false
  missing : Bool := false
  elsewhere : Bool := false
  bindable : Bool := true
  torn : Content ι := .empty
  now : ℚ := 0

inductive Action (ι : Type) where
  | spawn
  | exit
  | reservePort (startPort maxRetries : Int) (bindHost : String) (secure : Bool)
  | release (index : Nat)
  | proceed (answer : Answer ι)

namespace Process

def next (process : Process ι) (stage : Stage) : Process ι := { process with stage }

/-- The loop of `reserve_port`: `_claim` for the first port left, with a new token. -/
def tryNext (process : Process ι) : List Nat → Process ι
  | [] => process.next .idle
  | port :: rest => { process with
      drawn := process.drawn + 1, stage := .claiming port rest process.drawn .lock }

def reservePort (process : Process ι) (startPort maxRetries : Int) (bindHost : String) (secure : Bool) :
    Process ι :=
  if maxRetries < 1 ∨ ¬(1 ≤ startPort ∧ startPort ≤ 65535) ∨ bindHost = "" ∨ secure = false then process
  else
    let stopPort := min 65536 (startPort + maxRetries)
    process.tryNext (List.range' startPort.toNat (stopPort - startPort).toNat)

def markReleased (process : Process ι) (index : Nat) : Process ι :=
  { process with leases := process.leases.modify index fun lease => { lease with released := true } }

def release (process : Process ι) (index : Nat) : Process ι :=
  match process.leases[index]? with
  | none => process
  | some lease =>
    if lease.released then process
    else match lease.token with
      | none => process.markReleased index
      | some _ => process.next (.releasing index .lock)

end Process

namespace Node

def start (left : Nat → Option (Option Int × ℚ)) : Node ι where
  processes := .none_
  guard := fun _ => none
  claim := fun port => (left port).map fun file =>
    { content := match file.1 with | some owner => .legacy owner | none => .unreadable, mtime := file.2 }

def setGuard (node : Node ι) (port : Nat) (holder : Option ι) : Node ι :=
  { node with guard := Function.update node.guard port holder }

def setClaim (node : Node ι) (port : Nat) (file : Option (ClaimFile ι)) : Node ι :=
  { node with claim := Function.update node.claim port file }

/-- `_pid_alive`: a process of ours has the pid, or some other process does. -/
def pidAlive (node : Node ι) (pid : Int) (elsewhere : Bool) : Bool := 
  (node.processes.table pid).isSome || elsewhere

end Node

section Turns

variable [DecidableEq ι] (pid : ι → Int) (i : ι) (answer : Answer ι)

def created (answer : Answer ι) : ClaimFile ι := { content := .empty, mtime := answer.now }

def claimTurn (node : Node ι) (process : Process ι) (port : Nat) (rest : List Nat) (serial : Nat) :
    ClaimStage → Node ι × Process ι
  | .lock =>
    if answer.raises then (node, process.next .idle)
    else match node.guard port with
      | none => (node.setGuard port (some i), process.next (.claiming port rest serial .create))
      | some _ => (node, process)
  | .create =>
    if answer.denied then (node, process.next (.claiming port rest serial (.unlock .nothing)))
    else if answer.raises then (node, process.next (.claiming port rest serial (.unlock .raised)))
    else match node.claim port with
      | none => (node.setClaim port (some (created answer)), process.next (.claiming port rest serial .write))
      | some _ => (node, process.next (.claiming port rest serial .stat))
  | .stat =>
    match answer.raises, node.claim port with
    | false, some { content := .irregular, .. } =>
      (node, process.next (.claiming port rest serial (.unlock .nothing)))
    | false, some file => (node, process.next (.claiming port rest serial (.read file.mtime)))
    | _, _ => (node, process.next (.claiming port rest serial (.unlock .nothing)))
  | .read mtime =>
    match answer.raises, (node.claim port).bind fun file => readClaim file.content with
    | false, some (owner, _) => (node, process.next (.claiming port rest serial (.judge owner mtime)))
    | _, _ => (node, process.next (.claiming port rest serial (.unlock .nothing)))
  | .judge owner mtime =>
    if node.pidAlive owner answer.elsewhere ∨ answer.now - mtime < staleAfterS then
      (node, process.next (.claiming port rest serial (.unlock .nothing)))
    else (node, process.next (.claiming port rest serial .discard))
  | .discard =>
    match answer.raises, node.claim port with
    | false, some _ => (node.setClaim port none, process.next (.claiming port rest serial .recreate))
    | _, _ => (node, process.next (.claiming port rest serial (.unlock .nothing)))
  | .recreate =>
    match answer.raises, node.claim port with
    | false, none =>
      (node.setClaim port (some (created answer)), process.next (.claiming port rest serial .write))
    | _, _ => (node, process.next (.claiming port rest serial (.unlock .nothing)))
  | .write =>
    if answer.raises then
      (node.setClaim port ((node.claim port).map fun file =>
        { file with content := match answer.torn with
            | .claim _ _ => .claim (pid i) (i, serial)
            | torn => torn }),
        process.next (.claiming port rest serial .unwind))
    else
      (node.setClaim port ((node.claim port).map fun _ =>
        { content := .claim (pid i) (i, serial), mtime := answer.now }),
        process.next (.claiming port rest serial .probe))
  | .probe =>
    if answer.raises then (node, process.next (.claiming port rest serial .unwind))
    else if answer.bindable then (node, process.next (.claiming port rest serial (.unlock .lease)))
    else (node, process.next (.claiming port rest serial .withdraw))
  | .withdraw =>
    match answer.raises, node.claim port with
    | false, some _ => (node.setClaim port none, process.next (.claiming port rest serial (.unlock .nothing)))
    | _, _ => (node, process.next (.claiming port rest serial .unwind))
  | .unwind =>
    match answer.raises, (node.claim port).bind fun file => readClaim file.content with
    | false, some (owner, token) =>
      if owner = pid i ∧ token = some (i, serial) then
        (node, process.next (.claiming port rest serial .retract))
      else (node, process.next (.claiming port rest serial (.unlock .raised)))
    | _, _ => (node, process.next (.claiming port rest serial (.unlock .raised)))
  | .retract =>
    if answer.raises then (node, process.next (.claiming port rest serial (.unlock .raised)))
    else (node.setClaim port none, process.next (.claiming port rest serial (.unlock .raised)))
  | .unlock .lease =>
    (node.setGuard port none,
      { process with leases := process.leases ++ [{ port, token := some (i, serial) }], stage := .idle })
  | .unlock .nothing => (node.setGuard port none, process.tryNext rest)
  | .unlock .raised => (node.setGuard port none, process.next .idle)

def releaseTurn (node : Node ι) (process : Process ι) (index port : Nat) (held : Token ι) :
    ReleaseStage → Node ι × Process ι
  | .lock =>
    if answer.missing then (node, process.next (.releasing index (.finish true)))
    else if answer.raises then (node, process.next (.releasing index (.finish false)))
    else match node.guard port with
      | none => (node.setGuard port (some i), process.next (.releasing index .read))
      | some _ => (node, process)
  | .read =>
    match node.claim port with
    | none => (node, process.next (.releasing index (.unlock true)))
    | some file =>
      match answer.raises, readClaim file.content with
      | false, some (owner, token) =>
        if owner = pid i ∧ token = some held then (node, process.next (.releasing index .unlink))
        else (node, process.next (.releasing index (.unlock true)))
      | _, _ => (node, process.next (.releasing index (.unlock false)))
  | .unlink =>
    if answer.raises then (node, process.next (.releasing index (.unlock false)))
    else (node.setClaim port none, process.next (.releasing index (.unlock true)))
  | .unlock done => (node.setGuard port none, process.next (.releasing index (.finish done)))
  | .finish true => (node, (process.markReleased index).next .idle)
  | .finish false => (node, process.next .idle)

/-- The next primitive of the call a process is in. -/
def proceed (node : Node ι) (process : Process ι) : Node ι × Process ι :=
  match process.stage with
  | .idle => (node, process)
  | .claiming port rest serial at_ => claimTurn pid i answer node process port rest serial at_
  | .releasing index at_ =>
    match process.leases[index]? with
    | some { port, token := some held, .. } => releaseTurn pid i answer node process index port held at_
    | _ => (node, process.next .idle)

end Turns

/-- The port whose guard file a process has locked. -/
def Process.guarding (process : Process ι) : Option Nat :=
  match process.stage with
  | .idle | .claiming _ _ _ .lock | .releasing _ .lock | .releasing _ (.finish _) => none
  | .claiming port _ _ _ => some port
  | .releasing index _ => (process.leases[index]?).map PortLease.port

variable [DecidableEq ι]

/-- The end of a process drops its locks and frees its pid. -/
def Node.exit (node : Node ι) (pid : ι → Int) (i : ι) (process : Process ι) : Node ι :=
  { node with
    processes := node.processes.exit pid i
    guard := match process.guarding with
      | some port => Function.update node.guard port none
      | none => node.guard }

def Node.spawn (node : Node ι) (pid : ι → Int) (i : ι) : Node ι :=
  { node with processes := node.processes.spawn pid i }

/-- One step of one process. A process is born once, under a pid that is free then. -/
def turn (pid : ι → Int) (i : ι) (action : Action ι) (node : Node ι) (process : Process ι) :
    Node ι × Process ι :=
  match action, node.processes.life i, process.stage with
  | .spawn, .unborn, _ => 
    if (node.processes.table (pid i)).isSome then (node, process) else (node.spawn pid i, {})
  | .exit, .live, _ => (node.exit pid i process, process)
  | .reservePort startPort maxRetries bindHost secure, .live, .idle =>
    (node, process.reservePort startPort maxRetries bindHost secure)
  | .release index, .live, .idle => (node, process.release index)
  | .proceed answer, .live, _ => proceed pid i answer node process
  | _, _, _ => (node, process)

abbrev System (ι : Type) := Threads ι (Node ι) (Process ι)

def System.start (left : Nat → Option (Option Int × ℚ)) : System ι where
  shared := Node.start left
  own := fun _ => {}

def System.step (pid : ι → Int) : System ι → ι × Action ι → System ι := Threads.act (turn pid)

end ExaServe.State.Ports
