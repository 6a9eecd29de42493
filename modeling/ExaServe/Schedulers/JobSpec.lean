import ExaServe.Lib.Except
import ExaServe.Lib.Shell
import ExaServe.Plan.Contracts

namespace ExaServe.Schedulers

open Lib

section Spec

/-- One batch job; paths by their texts, the environment as a dictionary's items. -/
structure JobSpec where
  jobName : String
  numNodes : Int
  walltime : String
  account : String
  stdoutDir : String
  stderrDir : String
  commandArgv : List String
  queue : String
  cwd : Option String
  environment : List (String × String)
  bootstrapScript : String
  sourceEnvScript : Option String
  pythonpath : List String
  environmentUnset : List String
  filesystems : Option String
  keepFlag : Option String
  gpusPerNode : Option Int
  mailUser : String
  mailEvents : String
  runIdentity : String
  distinctNames : (environment.map Prod.fst).Nodup

def isSafeDirective (c : Char) : Bool := c.isAlphanum || " ._:/@=+%-".toList.contains c

def validateDirectiveField (fieldName value : String) : Except String Unit :=
  ensure (value.toList.all isSafeDirective)
    ("scheduler field " ++ quotedText fieldName ++ " has disallowed characters: " ++ quotedText value)

/-- `[A-Za-z_][A-Za-z0-9_]*` -/
def isEnvName (name : String) : Bool :=
  match name.toList with
  | [] => false
  | first :: rest => (Shell.isNameChar first && !first.isDigit) && rest.all Shell.isNameChar

/-- `\d+:[0-5]\d:[0-5]\d` -/
def isWalltime (walltime : String) : Bool :=
  match walltime.toList.reverse with
  | s2 :: s1 :: ':' :: m2 :: m1 :: ':' :: hours =>
    s2.isDigit && m2.isDigit && ('0' ≤ s1 && s1 ≤ '5') && ('0' ≤ m1 && m1 ≤ '5') && hours ≠ [] &&
      hours.all Char.isDigit
  | _ => false

def protectedPython : List String := ["PYTHONNOUSERSITE", "PYTHONSAFEPATH"]

def shownNames (names : List String) : String := "[" ++ ", ".intercalate (names.map quotedText) ++ "]"

def holdsNul (text : String) : Bool := text.toList.contains (Char.ofNat 0)

def JobSpec.validateEntry (entry : String × String) : Except String Unit := do
  ensure (isEnvName entry.1 = true) ("invalid job environment variable: " ++ quotedText entry.1)
  ensure (holdsNul entry.2 = false) ("job environment value for " ++ quotedText entry.1 ++ " contains NUL")

variable (spec : JobSpec)

/-- The fields of the directives, in the order in which they are checked. -/
def JobSpec.directiveFields : List (String × Option String) :=
  [("walltime", spec.walltime), ("account", spec.account), ("job_name", spec.jobName), ("queue", spec.queue),
    ("filesystems", spec.filesystems), ("keep_flag", spec.keepFlag), ("mail_user", spec.mailUser),
    ("mail_events", spec.mailEvents), ("run_identity", spec.runIdentity)]

def JobSpec.validateField (field : String × Option String) : Except String Unit :=
  match field.2 with
  | some value => validateDirectiveField field.1 value
  | none => .ok ()

def JobSpec.validateFilled (field : String × String) : Except String Unit :=
  ensure (field.2 ≠ "") ("scheduler field " ++ quotedText field.1 ++ " must be non-empty")

/-- `__post_init__`: the checks of the values, in their order. -/
def JobSpec.validate : Except String Unit := do
  ensure (spec.commandArgv ≠ []) "JobSpec.command_argv must be a non-empty argv tuple"
  ensure (0 < spec.numNodes) "JobSpec.num_nodes must be positive"
  ensure (0 ≤ spec.gpusPerNode.getD 0) "JobSpec.gpus_per_node must be non-negative"
  spec.directiveFields.forM validateField
  [("walltime", spec.walltime), ("account", spec.account), ("job_name", spec.jobName)].forM validateFilled
  ensure (isWalltime spec.walltime = true) "scheduler walltime must use HH:MM:SS"
  validateDirectiveField "stdout_dir" spec.stdoutDir
  validateDirectiveField "stderr_dir" spec.stderrDir
  ensure (∀ name ∈ spec.environmentUnset, isEnvName name = true)
    "JobSpec.environment_unset must be a tuple of environment names"
  ensure spec.environmentUnset.Nodup "JobSpec.environment_unset must not contain duplicates"
  let forbidden := protectedPython.filter (spec.environmentUnset.contains ·)
  ensure (forbidden = []) ("JobSpec may not unset mandatory " ++ shownNames forbidden)
  spec.environment.forM validateEntry
  let invalid := protectedPython.filter fun name => ((spec.environment.lookup name).getD "1") ≠ "1"
  ensure (invalid = []) ("JobSpec may not override mandatory Python isolation: " ++ shownNames invalid)
  ensure (∀ arg ∈ spec.commandArgv, holdsNul arg = false) "JobSpec.command_argv contains NUL"

end Spec

section Body

variable (spec : JobSpec)

def shellQuote (text : String) : List Char := Shell.quote text.toList

def exportOf (entry : String × String) : List Char := "export ".toList ++ entry.1.toList ++ '=' :: shellQuote entry.2

def preambleLines : List (List Char) :=
  ["set -eo pipefail".toList,
    ("unset VIRTUAL_ENV PYTHONHOME CONDA_DEFAULT_ENV CONDA_PREFIX " ++
      "CONDA_PROMPT_MODIFIER _CE_CONDA _CE_M PYTHONPYCACHEPREFIX").toList,
    "export PYTHONNOUSERSITE=1".toList, "export PYTHONSAFEPATH=1".toList, "export PYTHONDONTWRITEBYTECODE=1".toList]

/-- The bootstrap script stands in the body as it is, without the line ends at its end. -/
def JobSpec.bootstrapLines : List (List Char) :=
  if spec.bootstrapScript = "" then []
  else [(spec.bootstrapScript.toList.reverse.dropWhile (· = '\n')).reverse]

def JobSpec.pathLines : List (List Char) :=
  (match spec.cwd with
    | some cwd => ["cd ".toList ++ shellQuote cwd]
    | none => []) ++
  (if spec.pythonpath = [] then []
    else ["unset PYTHONPATH".toList, "_ES_PYTHONPATH=".toList ++ shellQuote (":".intercalate spec.pythonpath),
      "export PYTHONPATH=\"$_ES_PYTHONPATH\"".toList]) ++
  match spec.sourceEnvScript with
  | some script => ["source ".toList ++ shellQuote script]
  | none => []

/-- `sorted(environment.items())`; the names are the keys of a dictionary. -/
def JobSpec.sortedEnvironment : List (String × String) :=
  spec.environment.insertionSort fun left right => left.1 ≤ right.1

def JobSpec.commandLines : List (List Char) :=
  ["export PYTHONNOUSERSITE=1".toList, "export PYTHONSAFEPATH=1".toList] ++
  (spec.environmentUnset.map fun name => "unset ".toList ++ name.toList) ++ ["set -u".toList] ++
  spec.sortedEnvironment.map exportOf ++
  ["exec ".toList ++ joinWith ' ' (spec.commandArgv.map shellQuote)]

def textOf (lines : List (List Char)) : List Char := lines.flatMap (· ++ ['\n'])

def JobSpec.body : List Char :=
  textOf (preambleLines ++ spec.bootstrapLines ++ spec.pathLines ++ spec.commandLines)

end Body

section Render

variable (spec : JobSpec)

def shebang : List Char := "#!/bin/bash -l".toList

def JobSpec.identityLines : List (List Char) :=
  if spec.runIdentity = "" then [] else ["# EXASERVE-RUN-IDENTITY: ".toList ++ spec.runIdentity.toList]

/-- The text of a field that may be absent; an absent one counts as empty. -/
def filled (field : Option String) (lines : String → List (List Char)) : List (List Char) :=
  if field.getD "" = "" then [] else lines (field.getD "")

def pbsHeader : List (List Char) :=
  [shebang] ++ spec.identityLines ++
  ["#PBS -N ".toList ++ spec.jobName.toList, "#PBS -A ".toList ++ spec.account.toList] ++
  filled (some spec.mailUser) (fun user =>
    ["#PBS -m ".toList ++ spec.mailEvents.toList, "#PBS -M ".toList ++ user.toList]) ++
  filled spec.keepFlag (fun flag => ["#PBS -k ".toList ++ flag.toList]) ++
  filled spec.filesystems (fun systems => ["#PBS -l filesystems=".toList ++ systems.toList]) ++
  ["#PBS -l select=".toList ++ (toString spec.numNodes).toList, "#PBS -l walltime=".toList ++ spec.walltime.toList,
    "#PBS -q ".toList ++ spec.queue.toList, "#PBS -o ".toList ++ spec.stdoutDir.toList ++ ['/'],
    "#PBS -e ".toList ++ spec.stderrDir.toList ++ ['/'], []]

/-- `PBSScheduler.render_job` -/
def renderPbs : Except String (List Char) :=
  if spec.queue = "" then .error "PBS jobs require an explicit queue"
  else .ok (textOf (pbsHeader spec) ++ spec.body)

def mapMail (events : String) : String :=
  let values := (if events.toList.contains 'b' then ["BEGIN"] else []) ++
    (if events.toList.contains 'e' then ["END"] else []) ++ if events.toList.contains 'a' then ["FAIL"] else []
  if values = [] then "NONE" else ",".intercalate values

def slurmHeader : List (List Char) :=
  [shebang] ++ spec.identityLines ++
  ["#SBATCH --job-name=".toList ++ spec.jobName.toList, "#SBATCH --account=".toList ++ spec.account.toList] ++
  filled (some spec.queue) (fun queue => ["#SBATCH --partition=".toList ++ queue.toList]) ++
  ["#SBATCH --nodes=".toList ++ (toString spec.numNodes).toList, "#SBATCH --ntasks-per-node=1".toList] ++
  (if spec.gpusPerNode.getD 0 = 0 then []
    else ["#SBATCH --gpus-per-node=".toList ++ (toString (spec.gpusPerNode.getD 0)).toList]) ++
  ["#SBATCH --time=".toList ++ spec.walltime.toList,
    "#SBATCH --output=".toList ++ spec.stdoutDir.toList ++ "/%x-%j.out".toList,
    "#SBATCH --error=".toList ++ spec.stderrDir.toList ++ "/%x-%j.err".toList] ++
  filled (some spec.mailUser) (fun user =>
    ["#SBATCH --mail-user=".toList ++ user.toList,
     "#SBATCH --mail-type=".toList ++ (mapMail spec.mailEvents).toList]) ++
  [[]]

/-- `SlurmScheduler.render_job` -/
def renderSlurm : Except String (List Char) := .ok (textOf (slurmHeader spec) ++ spec.body)

end Render

end ExaServe.Schedulers
