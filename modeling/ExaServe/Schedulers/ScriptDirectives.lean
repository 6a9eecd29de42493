import ExaServe.Schedulers.ScriptBody

namespace ExaServe.Schedulers

open Lib Shell

section Reading

/-- The lines of a script in front of its first command. -/
def leadingLines (script : List Char) : List (List Char) :=
  (linesBy (fun c => c = '\n') script).takeWhile fun line => line.head?.getD '#' = '#'

def isBlank (c : Char) : Bool := c = ' ' || c = '\t'

/-- The words of each directive, as a scheduler splits them at blanks. -/
def directives (marker script : List Char) : List (List (List Char)) :=
  ((leadingLines script).filter fun line => marker.isPrefixOf line).map fun line =>
    wordsBy isBlank (line.drop marker.length)

/-- Options of one letter, each with its value in the next word. -/
def shortOptions : List (List Char) → Option (List (String × String))
  | [] => some []
  | [_] => none
  | flag :: value :: rest =>
    if flag.head? = some '-' then (shortOptions rest).map ((String.ofList flag, String.ofList value) :: ·) else none

/-- An option with a long name, its value after the equals sign. -/
def longOption : List Char → Option (String × String)
  | '-' :: '-' :: text => assignment text
  | _ => none

def readPbs (script : List Char) : Option (List (String × String)) :=
  ((directives "#PBS".toList script).mapM shortOptions).map List.flatten

def readSlurm (script : List Char) : Option (List (String × String)) :=
  (directives "#SBATCH".toList script).flatten.mapM longOption

end Reading

section Options

variable (spec : JobSpec)

def given (field : Option String) (options : String → List (String × String)) : List (String × String) :=
  if field.getD "" = "" then [] else options (field.getD "")

/-- What a job asks of PBS. -/
def JobSpec.pbsOptions : List (String × String) :=
  [("-N", spec.jobName), ("-A", spec.account)] ++
  given (some spec.mailUser) (fun user => [("-m", spec.mailEvents), ("-M", user)]) ++
  given spec.keepFlag (fun flag => [("-k", flag)]) ++
  given spec.filesystems (fun systems => [("-l", "filesystems=" ++ systems)]) ++
  [("-l", "select=" ++ toString spec.numNodes), ("-l", "walltime=" ++ spec.walltime), ("-q", spec.queue),
    ("-o", spec.stdoutDir ++ "/"), ("-e", spec.stderrDir ++ "/")]

/-- What a job asks of Slurm: always one task on each node. -/
def JobSpec.slurmOptions : List (String × String) :=
  [("job-name", spec.jobName), ("account", spec.account)] ++
  given (some spec.queue) (fun queue => [("partition", queue)]) ++
  [("nodes", toString spec.numNodes), ("ntasks-per-node", "1")] ++
  (if spec.gpusPerNode.getD 0 = 0 then [] else [("gpus-per-node", toString (spec.gpusPerNode.getD 0))]) ++
  [("time", spec.walltime), ("output", spec.stdoutDir ++ "/%x-%j.out"), ("error", spec.stderrDir ++ "/%x-%j.err")] ++
  given (some spec.mailUser) (fun user => [("mail-user", user), ("mail-type", mapMail spec.mailEvents)])

def pbsLine (option : String × String) : List Char := "#PBS ".toList ++ option.1.toList ++ ' ' :: option.2.toList

def slurmLine (option : String × String) : List Char :=
  "#SBATCH --".toList ++ option.1.toList ++ '=' :: option.2.toList

theorem filled_map {line : String × String → List Char} (field : Option String) {lines : String → List (List Char)}
    {options : String → List (String × String)} (same : ∀ text, lines text = (options text).map line) :
    filled field lines = (given field options).map line := by
  rw [filled, given]
  split_ifs
  · rfl
  · exact same _

theorem pbsLine_eq {front : List Char} {name : String} (same : front = "#PBS ".toList ++ name.toList ++ [' '])
    (value : String) : front ++ value.toList = pbsLine (name, value) := by
  rw [same, List.append_assoc, List.singleton_append]
  rfl

theorem pbsLine_key {front : List Char} {name key : String}
    (same : front = "#PBS ".toList ++ name.toList ++ ' ' :: key.toList) (value : String) :
    front ++ value.toList = pbsLine (name, key ++ value) := by
  change _ = "#PBS ".toList ++ name.toList ++ ' ' :: (key ++ value).toList
  rw [same, String.toList_append, List.append_assoc, List.cons_append]

theorem pbsLine_slash {front : List Char} {name : String} (same : front = "#PBS ".toList ++ name.toList ++ [' '])
    (value : String) : front ++ value.toList ++ ['/'] = pbsLine (name, value ++ "/") := by
  rw [← pbsLine_eq same, String.toList_append, List.append_assoc]
  rfl

/-- Each header is its options, one on a line. -/
theorem pbsHeader_eq : pbsHeader spec = [shebang] ++ spec.identityLines ++ spec.pbsOptions.map pbsLine ++ [[]] := by
  have mail : filled (some spec.mailUser) (fun user =>
      ["#PBS -m ".toList ++ spec.mailEvents.toList, "#PBS -M ".toList ++ user.toList]) =
        (given (some spec.mailUser) fun user => [("-m", spec.mailEvents), ("-M", user)]).map pbsLine :=
    filled_map _ fun _ => congrArg₂ (fun events user => [events, user]) (pbsLine_eq (by decide +kernel) _)
      (pbsLine_eq (by decide +kernel) _)
  have keep : filled spec.keepFlag (fun flag => ["#PBS -k ".toList ++ flag.toList]) =
      (given spec.keepFlag fun flag => [("-k", flag)]).map pbsLine :=
    filled_map _ fun _ => congrArg (fun line => [line]) (pbsLine_eq (by decide +kernel) _)
  have systems : filled spec.filesystems (fun systems => ["#PBS -l filesystems=".toList ++ systems.toList]) =
      (given spec.filesystems fun systems => [("-l", "filesystems=" ++ systems)]).map pbsLine :=
    filled_map _ fun _ => congrArg (fun line => [line]) (pbsLine_key (by decide +kernel) _)
  rw [pbsHeader, JobSpec.pbsOptions, mail, keep, systems, @pbsLine_eq "#PBS -N ".toList "-N" (by decide +kernel),
    @pbsLine_eq "#PBS -A ".toList "-A" (by decide +kernel),
    @pbsLine_key "#PBS -l select=".toList "-l" "select=" (by decide +kernel),
    @pbsLine_key "#PBS -l walltime=".toList "-l" "walltime=" (by decide +kernel),
    @pbsLine_eq "#PBS -q ".toList "-q" (by decide +kernel), @pbsLine_slash "#PBS -o ".toList "-o" (by decide +kernel),
    @pbsLine_slash "#PBS -e ".toList "-e" (by decide +kernel)]
  simp only [List.map_append, List.map_cons, List.map_nil, List.append_assoc, List.cons_append, List.nil_append]

theorem slurmLine_eq {front : List Char} {name : String} (same : front = "#SBATCH --".toList ++ name.toList ++ ['='])
    (value : String) : front ++ value.toList = slurmLine (name, value) := by
  rw [same, List.append_assoc, List.singleton_append]
  rfl

theorem slurmHeader_eq :
    slurmHeader spec = [shebang] ++ spec.identityLines ++ spec.slurmOptions.map slurmLine ++ [[]] := by
  have part : filled (some spec.queue) (fun queue => ["#SBATCH --partition=".toList ++ queue.toList]) =
      (given (some spec.queue) fun queue => [("partition", queue)]).map slurmLine :=
    filled_map _ fun _ => congrArg (fun line => [line]) (slurmLine_eq (by decide +kernel) _)
  have mail : filled (some spec.mailUser) (fun user => ["#SBATCH --mail-user=".toList ++ user.toList,
      "#SBATCH --mail-type=".toList ++ (mapMail spec.mailEvents).toList]) = (given (some spec.mailUser) fun user =>
        [("mail-user", user), ("mail-type", mapMail spec.mailEvents)]).map slurmLine :=
    filled_map _ fun _ => congrArg₂ (fun user events => [user, events]) (slurmLine_eq (by decide +kernel) _)
      (slurmLine_eq (by decide +kernel) _)
  have tasks : "#SBATCH --ntasks-per-node=1".toList = slurmLine ("ntasks-per-node", "1") := by decide +kernel
  have path : ∀ {front name : String} (text ending : String),
      front.toList = "#SBATCH --".toList ++ name.toList ++ ['='] →
      front.toList ++ text.toList ++ ending.toList = slurmLine (name, text ++ ending) := by
    intro front name text ending same
    rw [← slurmLine_eq same, String.toList_append, List.append_assoc]
  rw [slurmHeader, JobSpec.slurmOptions, part, mail, tasks, @slurmLine_eq "#SBATCH --job-name=".toList "job-name"
    (by decide +kernel), @slurmLine_eq "#SBATCH --account=".toList "account" (by decide +kernel),
    @slurmLine_eq "#SBATCH --nodes=".toList "nodes" (by decide +kernel),
    @slurmLine_eq "#SBATCH --time=".toList "time" (by decide +kernel),
    @slurmLine_eq "#SBATCH --gpus-per-node=".toList "gpus-per-node" (by decide +kernel),
    @path "#SBATCH --output=" "output" _ _ (by decide +kernel),
    @path "#SBATCH --error=" "error" _ _ (by decide +kernel)]
  split_ifs
  · simp only [List.map_append, List.map_cons, List.map_nil, List.append_assoc]
  · simp only [List.map_append, List.map_cons, List.map_nil, List.append_assoc]

end Options

section Lines

variable {options : List (String × String)} {identity : List (List Char)} {rest : List Char}

/-- A line that belongs to a header: it is empty or a comment, and is one line. -/
def HeaderLine (line : List Char) : Prop := line.head?.getD '#' = '#' ∧ '\n' ∉ line

/-- A script's leading lines are its header's. -/
theorem leadingLines_eq {header : List (List Char)} (all : ∀ line ∈ header, HeaderLine line) {command : List Char}
    (other : command.head?.getD '#' ≠ '#') (whole : '\n' ∉ command) :
    leadingLines (textOf header ++ (command ++ '\n' :: rest)) = header := by
  have cut : ∀ {line : List Char}, '\n' ∉ line → ∀ text, linesBy (fun c => decide (c = '\n')) (line ++ '\n' :: text) =
      line :: linesBy (fun c => decide (c = '\n')) text := by
    intro line plain_line text
    have one := @linesFrom_line (fun c => decide (c = '\n')) line
      (fun c member => decide_eq_false fun same => plain_line (same ▸ member)) '\n' (by decide) [] text
    rwa [List.nil_append] at one
  have lines : linesBy (fun c => decide (c = '\n')) (textOf header ++ (command ++ '\n' :: rest)) =
      header ++ command :: linesBy (fun c => decide (c = '\n')) rest := by
    induction header with
    | nil => exact cut whole rest
    | cons line header ih =>
      rw [textOf, List.flatMap_cons, List.append_assoc, List.append_assoc, List.singleton_append,
        cut (all line List.mem_cons_self).2]
      exact congrArg (line :: ·) (ih fun other member => all other (List.mem_cons_of_mem _ member))
  rw [leadingLines, lines, List.takeWhile_append_of_pos]
  · rw [List.takeWhile_cons_of_neg (by simpa using other), List.append_nil]
  · intro line member
    exact decide_eq_true (all line member).1

theorem filter_options {marker : List Char} {line : String × String → List Char}
    (marked : ∀ option, marker.isPrefixOf (line option) = true)
    (plain_identity : ∀ text ∈ identity, marker.isPrefixOf text = false)
    (others : marker.isPrefixOf shebang = false ∧ marker.isPrefixOf [] = false) :
    ([shebang] ++ identity ++ options.map line ++ [[]]).filter (fun text => marker.isPrefixOf text) =
      options.map line := by
  have none_identity : identity.filter (fun text => marker.isPrefixOf text) = [] := by
    rw [List.filter_eq_nil_iff]
    intro text member
    rw [plain_identity text member]
    exact Bool.false_ne_true
  have all_options : (options.map line).filter (fun text => marker.isPrefixOf text) = options.map line := by
    rw [List.filter_eq_self]
    intro text member
    obtain ⟨option, -, rfl⟩ := List.mem_map.mp member
    exact marked option
  rw [List.filter_append, List.filter_append, List.filter_append, none_identity, all_options]
  simp [others.1, others.2]

/-- A text that schedulers read as one word. -/
def OneWord (text : List Char) : Prop := text ≠ [] ∧ ∀ c ∈ text, isBlank c = false

theorem wordsBy_blank (text : List Char) : wordsBy isBlank (' ' :: text) = wordsBy isBlank text := rfl

theorem pbsLine_words {option : String × String} (flag : OneWord option.1.toList) (value : OneWord option.2.toList) :
    wordsBy isBlank ((pbsLine option).drop "#PBS".toList.length) = [option.1.toList, option.2.toList] := by
  change wordsBy isBlank (' ' :: (option.1.toList ++ ' ' :: option.2.toList)) = _
  rw [wordsBy_blank, wordsBy_cons flag.2 flag.1 (by decide), wordsBy_single value.2 value.1]

theorem slurmLine_words {option : String × String} (name : ∀ c ∈ option.1.toList, isBlank c = false)
    (value : ∀ c ∈ option.2.toList, isBlank c = false) :
    wordsBy isBlank ((slurmLine option).drop "#SBATCH".toList.length) =
      ['-' :: '-' :: (option.1.toList ++ '=' :: option.2.toList)] := by
  change wordsBy isBlank (' ' :: '-' :: '-' :: (option.1.toList ++ '=' :: option.2.toList)) = _
  rw [wordsBy_blank, wordsBy_single _ (List.cons_ne_nil _ _)]
  intro c member
  simp only [List.mem_cons, List.mem_append] at member
  rcases member with rfl | rfl | front | rfl | back
  · decide
  · decide
  · exact name c front
  · decide
  · exact value c back

end Lines

end ExaServe.Schedulers
