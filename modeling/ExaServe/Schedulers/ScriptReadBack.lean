import ExaServe.Schedulers.ScriptDirectives

namespace ExaServe.Schedulers

open Lib Shell

section Checked

variable {spec : JobSpec}

/-- What the checks of a job say about the texts in its script. -/
structure Checked (spec : JobSpec) : Prop where
  body : BodyFit spec
  fields : ∀ field ∈ spec.directiveFields, ∀ value ∈ field.2, value.toList.all isSafeDirective = true
  folders : ∀ folder ∈ [spec.stdoutDir, spec.stderrDir], folder.toList.all isSafeDirective = true
  named : ∀ field ∈ [spec.walltime, spec.account, spec.jobName], field ≠ ""
  values : ∀ entry ∈ spec.environment, holdsNul entry.2 = false
  command : ∀ arg ∈ spec.commandArgv, holdsNul arg = false

theorem checked_of_validate (accepted : spec.validate = .ok ()) : Checked spec := by
  simp only [JobSpec.validate, seq_ok_iff, ensure_ok_iff, forM_ok_iff, JobSpec.validateEntry, validateDirectiveField,
    JobSpec.validateFilled] at accepted
  obtain ⟨argv, _, _, fields, named, _, outDir, errDir, unset, _, _, entries, _, command⟩ := accepted
  constructor
  case body => exact ⟨unset, fun entry member => (entries entry member).1, argv⟩
  case fields =>
    intro field member value given
    have passed := fields field member
    rw [JobSpec.validateField, Option.mem_def.mp given] at passed
    exact ensure_holds passed
  case folders => exact List.forall_mem_cons.mpr ⟨outDir, List.forall_mem_singleton.mpr errDir⟩
  case named =>
    intro field member
    simp only [List.mem_cons, List.not_mem_nil, or_false] at member
    rcases member with rfl | rfl | rfl
    · exact named ("walltime", spec.walltime) (by simp)
    · exact named ("account", spec.account) (by simp)
    · exact named ("job_name", spec.jobName) (by simp)
  case values => exact fun entry member => (entries entry member).2
  case command => exact command

end Checked

section Safe

variable {spec : JobSpec}

/-- The characters of an option's value; only the mail types hold commas. -/
def isOptionChar (c : Char) : Bool := isSafeDirective c || c = ','

theorem safe_option {text : String} (safe : text.toList.all isSafeDirective = true) :
    text.toList.all isOptionChar = true := by
  rw [List.all_eq_true] at safe ⊢
  intro c member
  rw [isOptionChar, safe c member, Bool.true_or]

theorem digit_safe {c : Char} (digit : c.isDigit = true) : isOptionChar c = true := by
  rw [isOptionChar, isSafeDirective, Char.isAlphanum, digit, Bool.or_true, Bool.true_or, Bool.true_or]

theorem safe_append {left right : String} (first : left.toList.all isOptionChar = true)
    (second : right.toList.all isOptionChar = true) : (left ++ right).toList.all isOptionChar = true := by
  rw [String.toList_append, List.all_append, first, second]
  rfl

theorem safe_repr (count : Nat) : count.repr.toList.all isOptionChar = true := by
  rw [Nat.toList_repr, List.all_eq_true]
  intro c member
  exact digit_safe (Nat.isDigit_of_mem_toDigits (by decide) (by decide) member)

theorem safe_count (count : Int) : (toString count).toList.all isOptionChar = true := by
  cases count with
  | ofNat count => exact safe_repr count
  | negSucc count => exact @safe_append "-" _ (by decide) (safe_repr (count + 1))

theorem mem_given {field : Option String} {options : String → List (String × String)} {option : String × String}
    (member : option ∈ given field options) : ∃ value ∈ field, option ∈ options value := by
  rw [given] at member
  cases field with
  | none => cases member
  | some value =>
    split_ifs at member
    · cases member
    · exact ⟨value, rfl, member⟩

theorem mapMail_safe (events : String) : (mapMail events).toList.all isOptionChar = true := by
  rw [mapMail]
  cases events.toList.contains 'b' <;> cases events.toList.contains 'e' <;> cases events.toList.contains 'a' <;>
    decide +kernel

def pbsFlags : List String := ["-N", "-A", "-m", "-M", "-k", "-l", "-q", "-o", "-e"]

/-- The PBS options of a checked job have flags of one letter and plain values. -/
theorem pbsOptions_plain (checked : Checked spec) :
    ∀ option ∈ spec.pbsOptions, option.1 ∈ pbsFlags ∧ option.2.toList.all isOptionChar = true := by
  have field := checked.fields
  simp only [JobSpec.directiveFields, List.forall_mem_cons, Option.mem_def, Option.some.injEq, forall_eq'] at field
  obtain ⟨walltime, account, jobName, queue, systems, keep, user, events, _⟩ := field
  have folder := checked.folders
  rw [List.forall_mem_cons, List.forall_mem_singleton] at folder
  intro option member
  simp only [JobSpec.pbsOptions, List.mem_append, List.mem_cons, List.not_mem_nil, or_false] at member
  rcases member with ((((rfl | rfl) | mail) | kept) | filed) | rfl | rfl | rfl | rfl | rfl
  · exact ⟨by simp [pbsFlags], safe_option jobName⟩
  · exact ⟨by simp [pbsFlags], safe_option account⟩
  · obtain ⟨value, same, inside⟩ := mem_given mail
    cases same
    simp only [List.mem_cons, List.not_mem_nil, or_false] at inside
    rcases inside with rfl | rfl
    · exact ⟨by simp [pbsFlags], safe_option events⟩
    · exact ⟨by simp [pbsFlags], safe_option user⟩
  · obtain ⟨value, same, inside⟩ := mem_given kept
    rw [List.mem_singleton.mp inside]
    exact ⟨by simp [pbsFlags], safe_option (keep value same)⟩
  · obtain ⟨value, same, inside⟩ := mem_given filed
    rw [List.mem_singleton.mp inside]
    exact ⟨by simp [pbsFlags], safe_append (by decide) (safe_option (systems value same))⟩
  · exact ⟨by simp [pbsFlags], safe_append (by decide) (safe_count _)⟩
  · exact ⟨by simp [pbsFlags], safe_append (by decide) (safe_option walltime)⟩
  · exact ⟨by simp [pbsFlags], safe_option queue⟩
  · exact ⟨by simp [pbsFlags], safe_append (safe_option folder.1) (by decide)⟩
  · exact ⟨by simp [pbsFlags], safe_append (safe_option folder.2) (by decide)⟩

def slurmNames : List String :=
  ["job-name", "account", "partition", "nodes", "ntasks-per-node", "gpus-per-node", "time", "output", "error",
    "mail-user", "mail-type"]

theorem slurmOptions_plain (checked : Checked spec) :
    ∀ option ∈ spec.slurmOptions, option.1 ∈ slurmNames ∧ option.2.toList.all isOptionChar = true := by
  have field := checked.fields
  simp only [JobSpec.directiveFields, List.forall_mem_cons, Option.mem_def, Option.some.injEq, forall_eq'] at field
  obtain ⟨walltime, account, jobName, queue, _, _, user, _, _⟩ := field
  have folder := checked.folders
  rw [List.forall_mem_cons, List.forall_mem_singleton] at folder
  intro option member
  simp only [JobSpec.slurmOptions, List.mem_append, List.mem_cons, List.not_mem_nil, or_false] at member
  rcases member with (((((rfl | rfl) | part) | rfl | rfl) | gpus) | rfl | rfl | rfl) | mail
  · exact ⟨by simp [slurmNames], safe_option jobName⟩
  · exact ⟨by simp [slurmNames], safe_option account⟩
  · obtain ⟨value, same, inside⟩ := mem_given part
    cases same
    rw [List.mem_singleton.mp inside]
    exact ⟨by simp [slurmNames], safe_option queue⟩
  · exact ⟨by simp [slurmNames], safe_count _⟩
  · decide
  · split_ifs at gpus
    · cases gpus
    · rw [List.mem_singleton.mp gpus]
      exact ⟨by simp [slurmNames], safe_count _⟩
  · exact ⟨by simp [slurmNames], safe_option walltime⟩
  · exact ⟨by simp [slurmNames], safe_append (safe_option folder.1) (by decide)⟩
  · exact ⟨by simp [slurmNames], safe_append (safe_option folder.2) (by decide)⟩
  · obtain ⟨value, same, inside⟩ := mem_given mail
    cases same
    simp only [List.mem_cons, List.not_mem_nil, or_false] at inside
    rcases inside with rfl | rfl
    · exact ⟨by simp [slurmNames], safe_option user⟩
    · exact ⟨by simp [slurmNames], mapMail_safe _⟩

end Safe

section Headers

variable {spec : JobSpec} {options : List (String × String)}

theorem optionChar_line {c : Char} (safe : isOptionChar c = true) : c ≠ '\n' ∧ c ≠ '\t' := by
  refine ⟨?_, ?_⟩
  all_goals
    rintro rfl
    exact absurd safe (by decide)

theorem no_newline {text : List Char} (safe : text.all isOptionChar = true) : '\n' ∉ text :=
  fun member => (optionChar_line (List.all_eq_true.mp safe _ member)).1 rfl

theorem no_blank {text : List Char} (safe : text.all isOptionChar = true) (blank : ' ' ∉ text) :
    ∀ c ∈ text, isBlank c = false := by
  intro c member
  have tab := (optionChar_line (List.all_eq_true.mp safe c member)).2
  have space : c ≠ ' ' := fun same => blank (same ▸ member)
  rw [isBlank, decide_eq_false space, decide_eq_false tab]
  rfl

/-- The lines of a header, with its options written by the given function, are comments or empty. -/
theorem header_lines {line : String × String → List Char} (checked : Checked spec)
    (each : ∀ option ∈ options, HeaderLine (line option)) :
    ∀ text ∈ [shebang] ++ spec.identityLines ++ options.map line ++ [[]], HeaderLine text := by
  have field := checked.fields
  simp only [JobSpec.directiveFields, List.forall_mem_cons, Option.mem_def, Option.some.injEq, forall_eq'] at field
  obtain ⟨_, _, _, _, _, _, _, _, identity, _⟩ := field
  intro text member
  simp only [List.mem_append, List.mem_singleton, List.mem_map] at member
  rcases member with ((rfl | identified) | ⟨option, inside, rfl⟩) | rfl
  · exact ⟨by decide, by decide⟩
  · rw [JobSpec.identityLines] at identified
    split_ifs at identified
    · cases identified
    · rw [List.mem_singleton.mp identified]
      refine ⟨rfl, ?_⟩
      rw [List.mem_append, not_or]
      exact ⟨by decide, no_newline (safe_option identity)⟩
  · exact each option inside
  · exact ⟨rfl, List.not_mem_nil⟩

theorem identity_unmarked {marker : List Char} (known : marker = "#PBS".toList ∨ marker = "#SBATCH".toList) :
    ∀ text ∈ spec.identityLines, marker.isPrefixOf text = false := by
  intro text member
  rw [JobSpec.identityLines] at member
  split_ifs at member
  · cases member
  · rw [List.mem_singleton.mp member]
    rcases known with rfl | rfl
    · rfl
    · rfl

theorem body_starts : ∃ rest, spec.body = "set -eo pipefail".toList ++ '\n' :: rest := by
  have first : preambleLines = "set -eo pipefail".toList :: preambleLines.tail := rfl
  rw [JobSpec.body, first, List.cons_append, List.cons_append, List.cons_append, textOf, List.flatMap_cons,
    List.append_assoc, List.singleton_append]
  exact ⟨_, rfl⟩

theorem leadingLines_script {line : String × String → List Char} (checked : Checked spec)
    (each : ∀ option ∈ options, HeaderLine (line option)) :
    leadingLines (textOf ([shebang] ++ spec.identityLines ++ options.map line ++ [[]]) ++ spec.body) =
      [shebang] ++ spec.identityLines ++ options.map line ++ [[]] := by
  obtain ⟨rest, same⟩ := @body_starts spec
  rw [same]
  exact leadingLines_eq (header_lines checked each) (by decide) (by decide)

end Headers

section Options

variable {spec : JobSpec} {options : List (String × String)} {script : List Char}

/-- A name that a scheduler reads as a word without an equals sign. -/
def isOptionName (name : String) : Bool := name.toList.all fun c => !isBlank c && (c ≠ '=' && c ≠ '\n')

theorem optionName_chars {name : String} (fit : isOptionName name = true) :
    (∀ c ∈ name.toList, isBlank c = false ∧ decide (c ≠ '=') = true) ∧ '\n' ∉ name.toList := by
  simp only [isOptionName, List.all_eq_true, Bool.and_eq_true, Bool.not_eq_true', decide_eq_true_eq] at fit
  constructor
  · intro c member
    exact ⟨(fit c member).1, decide_eq_true (fit c member).2.1⟩
  · intro member
    exact (fit _ member).2.2 rfl

theorem pbsFlags_fit {flag : String} (known : flag ∈ pbsFlags) :
    OneWord flag.toList ∧ '\n' ∉ flag.toList ∧ flag.toList.head? = some '-' := by
  have all : (pbsFlags.all fun flag => isOptionName flag && flag.toList.head? = some '-') = true := by decide +kernel
  have fit := List.all_eq_true.mp all flag known
  rw [Bool.and_eq_true, decide_eq_true_eq] at fit
  obtain ⟨chars, line⟩ := optionName_chars fit.1
  refine ⟨⟨?_, fun c member => (chars c member).1⟩, line, fit.2⟩
  intro empty
  rw [empty] at fit
  cases fit.2

theorem slurmNames_fit {name : String} (known : name ∈ slurmNames) :
    (∀ c ∈ name.toList, isBlank c = false ∧ decide (c ≠ '=') = true) ∧ '\n' ∉ name.toList := by
  have all : slurmNames.all isOptionName = true := by decide +kernel
  exact optionName_chars (List.all_eq_true.mp all name known)

theorem pbsLine_header {option : String × String} (known : option.1 ∈ pbsFlags)
    (plain : option.2.toList.all isOptionChar = true) : HeaderLine (pbsLine option) := by
  refine ⟨rfl, ?_⟩
  have marker : '\n' ∉ "#PBS ".toList := by decide
  unfold pbsLine
  simp only [List.mem_append, List.mem_cons, not_or]
  exact ⟨⟨marker, (pbsFlags_fit known).2.1⟩, by decide, no_newline plain⟩

theorem slurmLine_header {option : String × String} (known : option.1 ∈ slurmNames)
    (plain : option.2.toList.all isOptionChar = true) : HeaderLine (slurmLine option) := by
  refine ⟨rfl, ?_⟩
  have marker : '\n' ∉ "#SBATCH --".toList := by decide
  unfold slurmLine
  simp only [List.mem_append, List.mem_cons, not_or]
  exact ⟨⟨marker, (slurmNames_fit known).2⟩, by decide, no_newline plain⟩

/-- The directives of a script are the options of its header, a line each. -/
theorem directives_script {marker : List Char} {line : String × String → List Char} (checked : Checked spec)
    (known : marker = "#PBS".toList ∨ marker = "#SBATCH".toList)
    (marked : ∀ option, marker.isPrefixOf (line option) = true)
    (each : ∀ option ∈ options, HeaderLine (line option)) :
    directives marker (textOf ([shebang] ++ spec.identityLines ++ options.map line ++ [[]]) ++ spec.body) =
      options.map fun option => wordsBy isBlank ((line option).drop marker.length) := by
  have unmarked : marker.isPrefixOf shebang = false ∧ marker.isPrefixOf [] = false := by
    rcases known with rfl | rfl
    · decide
    · decide
  rw [directives, leadingLines_script checked each, filter_options marked (identity_unmarked known) unmarked,
    List.map_map]
  rfl

theorem shortOptions_all (flags : ∀ option ∈ options, option.1.toList.head? = some '-') :
    (options.map fun option => [option.1.toList, option.2.toList]).mapM shortOptions =
      some (options.map fun option => [option]) := by
  induction options with
  | nil => rfl
  | cons option rest ih =>
    have later := ih fun other member => flags other (List.mem_cons_of_mem _ member)
    have here : shortOptions [option.1.toList, option.2.toList] = some [option] := by
      rw [shortOptions, if_pos (flags option List.mem_cons_self), shortOptions]
      simp
    rw [List.map_cons, List.mapM_cons, here, later]
    rfl

theorem longOption_all (names : ∀ option ∈ options, ∀ c ∈ option.1.toList, decide (c ≠ '=') = true) :
    (options.map fun option => '-' :: '-' :: (option.1.toList ++ '=' :: option.2.toList)).mapM longOption =
      some options := by
  induction options with
  | nil => rfl
  | cons option rest ih =>
    have later := ih fun other member => names other (List.mem_cons_of_mem _ member)
    rw [List.map_cons, List.mapM_cons, longOption, assignment_of (names option List.mem_cons_self), later]
    rfl

/-- PBS reads the options of a checked job, if it can read each value as one word. -/
theorem readPbs_script (checked : Checked spec)
    (words : ∀ option ∈ spec.pbsOptions, option.2 ≠ "" ∧ ' ' ∉ option.2.toList) :
    readPbs (textOf (pbsHeader spec) ++ spec.body) = some spec.pbsOptions := by
  have plain := pbsOptions_plain checked
  have each : ∀ option ∈ spec.pbsOptions, HeaderLine (pbsLine option) :=
    fun option member => pbsLine_header (plain option member).1 (plain option member).2
  have split : ∀ option ∈ spec.pbsOptions, wordsBy isBlank ((pbsLine option).drop "#PBS".toList.length) =
      [option.1.toList, option.2.toList] := by
    intro option member
    obtain ⟨some_value, blank⟩ := words option member
    have value : OneWord option.2.toList :=
      ⟨fun empty => some_value (String.toList_eq_nil_iff.mp empty), no_blank (plain option member).2 blank⟩
    exact pbsLine_words (pbsFlags_fit (plain option member).1).1 value
  rw [readPbs, pbsHeader_eq, directives_script checked (.inl rfl) (fun _ => rfl) each, List.map_congr_left split,
    shortOptions_all fun option member => (pbsFlags_fit (plain option member).1).2.2,
    Option.map_some, ← List.flatMap_def, List.flatMap_singleton']

theorem readSlurm_script (checked : Checked spec) (words : ∀ option ∈ spec.slurmOptions, ' ' ∉ option.2.toList) :
    readSlurm (textOf (slurmHeader spec) ++ spec.body) = some spec.slurmOptions := by
  have plain := slurmOptions_plain checked
  have each : ∀ option ∈ spec.slurmOptions, HeaderLine (slurmLine option) :=
    fun option member => slurmLine_header (plain option member).1 (plain option member).2
  have names : ∀ option ∈ spec.slurmOptions, ∀ c ∈ option.1.toList, isBlank c = false ∧ decide (c ≠ '=') = true :=
    fun option member => (slurmNames_fit (plain option member).1).1
  have split : ∀ option ∈ spec.slurmOptions, wordsBy isBlank ((slurmLine option).drop "#SBATCH".toList.length) =
      ['-' :: '-' :: (option.1.toList ++ '=' :: option.2.toList)] := by
    intro option member
    exact slurmLine_words (fun c inside => (names option member c inside).1)
      (no_blank (plain option member).2 (words option member))
  have long := @longOption_all spec.slurmOptions fun option member c inside => (names option member c inside).2
  rw [readSlurm, slurmHeader_eq, directives_script checked (.inr rfl) (fun _ => rfl) each, List.map_congr_left split,
    ← List.flatMap_def, ← List.map_eq_flatMap, long]

/-- What an option asks for: its name and, for a resource, the resource's. -/
def asked (option : String × String) : String × List Char :=
  (option.1, if option.1 = "-l" then option.2.toList.takeWhile (· ≠ '=') else [])

/-- What is asked only when a field is given is a part of what is asked at most. -/
theorem given_sublist {β : Type} (field : Option String) (options : String → List (String × String))
    (key : String × String → β) {keys : List β} (at_most : (options (field.getD "")).map key = keys) :
    ((given field options).map key).Sublist keys := by
  rw [given, ← at_most]
  split_ifs
  · exact List.nil_sublist _
  · exact List.Sublist.refl _

theorem pbsOptions_once : (spec.pbsOptions.map asked).Nodup := by
  have select : asked ("-l", "select=" ++ toString spec.numNodes) = ("-l", "select".toList) := by
    rw [asked, if_pos rfl, String.toList_append]
    rfl
  have walltime : asked ("-l", "walltime=" ++ spec.walltime) = ("-l", "walltime".toList) := by
    rw [asked, if_pos rfl, String.toList_append]
    rfl
  have systems : ∀ text, asked ("-l", "filesystems=" ++ text) = ("-l", "filesystems".toList) := by
    intro text
    rw [asked, if_pos rfl, String.toList_append]
    rfl
  have other : ∀ {flag : String} (text : String), flag ≠ "-l" → asked (flag, text) = (flag, []) :=
    fun _ different => congrArg (Prod.mk _) (if_neg different)
  have all : ([("-N", []), ("-A", [])] ++ [("-m", []), ("-M", [])] ++ [("-k", [])] ++
      [("-l", "filesystems".toList)] ++ [("-l", "select".toList), ("-l", "walltime".toList), ("-q", []), ("-o", []),
        ("-e", [])] : List (String × List Char)).Nodup := by decide +kernel
  refine List.Nodup.sublist ?_ all
  rw [JobSpec.pbsOptions]
  simp only [List.map_append]
  apply List.Sublist.append
  · apply List.Sublist.append
    · apply List.Sublist.append
      · apply List.Sublist.append
        · simp (disch := decide) only [List.map_cons, List.map_nil, other, List.Sublist.refl]
        · apply given_sublist
          simp (disch := decide) only [List.map_cons, List.map_nil, other]
      · apply given_sublist
        simp (disch := decide) only [List.map_cons, List.map_nil, other]
    · apply given_sublist
      rw [List.map_cons, List.map_nil, systems]
  · simp (disch := decide) only [List.map_cons, List.map_nil, select, walltime, other, List.Sublist.refl]

theorem slurmOptions_once : (spec.slurmOptions.map Prod.fst).Nodup := by
  have all : (["job-name", "account"] ++ ["partition"] ++ ["nodes", "ntasks-per-node"] ++ ["gpus-per-node"] ++
      ["time", "output", "error"] ++ ["mail-user", "mail-type"]).Nodup := by decide +kernel
  refine List.Nodup.sublist ?_ all
  rw [JobSpec.slurmOptions]
  simp only [List.map_append]
  apply List.Sublist.append
  · apply List.Sublist.append
    · apply List.Sublist.append
      · apply List.Sublist.append
        · apply List.Sublist.append
          · exact List.Sublist.refl _
          · exact given_sublist _ _ _ rfl
        · exact List.Sublist.refl _
      · split_ifs
        · exact List.nil_sublist _
        · exact List.Sublist.refl _
    · exact List.Sublist.refl _
  · exact given_sublist _ _ _ rfl

end Options

section Scripts

variable {spec : JobSpec}

/-- What a shell reads in a script: comments, the fixed start, the site's own bootstrap, and then
    commands that export the job's environment and become its command. -/
structure BodyReads (spec : JobSpec) (header : List (List Char)) (script : List Char) : Prop where
  parts : script = textOf header ++ (textOf preambleLines ++ (textOf spec.bootstrapLines ++
    textOf (spec.pathLines ++ spec.commandLines)))
  comments : ∀ line ∈ header, HeaderLine line
  preamble : commands (textOf preambleLines) = some preambleCommands
  rest : commands (textOf (spec.pathLines ++ spec.commandLines)) = some (spec.pathCommands ++ spec.finalCommands)
  command : readCommands (afterSetU (spec.pathCommands ++ spec.finalCommands)) =
    some (spec.sortedEnvironment, spec.commandArgv)
  environment : spec.sortedEnvironment.Perm spec.environment

theorem textOf_append (left right : List (List Char)) : textOf (left ++ right) = textOf left ++ textOf right :=
  List.flatMap_append

theorem body_reads (checked : Checked spec) {header : List (List Char)} (comments : ∀ line ∈ header, HeaderLine line)
    (command : ∀ first ∈ spec.commandArgv.head?, first.toList.head? ≠ some '-')
    (paths : ∀ path ∈ spec.cwd.toList ++ spec.sourceEnvScript.toList ++ spec.pythonpath, holdsNul path = false) :
    BodyReads spec header (textOf header ++ spec.body) := by
  have clean : NulFree spec := ⟨paths, checked.values, checked.command⟩
  constructor
  case parts => rw [JobSpec.body, List.append_assoc, List.append_assoc, textOf_append, textOf_append _ (_ ++ _)]
  case comments => exact comments
  case preamble => exact commands_textOf (by decide +kernel) preamble_reads
  case rest =>
    apply commands_textOf _ (List.rel_append path_reads (final_reads checked.body))
    intro line member
    rcases List.mem_append.mp member with path | final
    · exact noNul_pathLines clean line path
    · exact noNul_commandLines checked.body clean line final
  case command => exact commands_read_back checked.body command
  case environment => exact List.perm_insertionSort _ _

/-- Read back, the script of an accepted job says what the job says, under both schedulers. -/
theorem scripts_read_back (accepted : spec.validate = .ok ())
    (command : ∀ first ∈ spec.commandArgv.head?, first.toList.head? ≠ some '-')
    (paths : ∀ path ∈ spec.cwd.toList ++ spec.sourceEnvScript.toList ++ spec.pythonpath, holdsNul path = false) :
    (∀ script, renderPbs spec = .ok script → (∀ option ∈ spec.pbsOptions, option.2 ≠ "" ∧ ' ' ∉ option.2.toList) →
      readPbs script = some spec.pbsOptions ∧ (spec.pbsOptions.map asked).Nodup ∧
        BodyReads spec (pbsHeader spec) script) ∧
    ∀ script, renderSlurm spec = .ok script → (∀ option ∈ spec.slurmOptions, ' ' ∉ option.2.toList) →
      readSlurm script = some spec.slurmOptions ∧ (spec.slurmOptions.map Prod.fst).Nodup ∧
        BodyReads spec (slurmHeader spec) script := by
  have checked := checked_of_validate accepted
  constructor
  · intro script rendered words
    have plain := pbsOptions_plain checked
    have comments : ∀ line ∈ pbsHeader spec, HeaderLine line := by
      rw [pbsHeader_eq]
      exact header_lines checked fun option member => pbsLine_header (plain option member).1 (plain option member).2
    rw [renderPbs] at rendered
    split_ifs at rendered
    cases rendered
    exact ⟨readPbs_script checked words, pbsOptions_once, body_reads checked comments command paths⟩
  · intro script rendered words
    have plain := slurmOptions_plain checked
    have comments : ∀ line ∈ slurmHeader spec, HeaderLine line := by
      rw [slurmHeader_eq]
      exact header_lines checked fun option member =>
        slurmLine_header (plain option member).1 (plain option member).2
    cases rendered
    exact ⟨readSlurm_script checked words, slurmOptions_once, body_reads checked comments command paths⟩

/-- A job whose command and environment hold blanks, quotes and dollar signs. -/
def sampleJob : JobSpec where
  jobName := "serve-1"
  numNodes := 2
  walltime := "01:30:00"
  account := "Project"
  stdoutDir := "/runs/out"
  stderrDir := "/runs/err"
  commandArgv := ["python3", "-m", "it's $HOME", ""]
  queue := "debug"
  cwd := some "/runs/my run"
  environment := [("MODEL", "a \"b\""), ("LIMIT", "3")]
  bootstrapScript := "module load frameworks\n"
  sourceEnvScript := none
  pythonpath := ["/src"]
  environmentUnset := ["HTTP_PROXY"]
  filesystems := some "home"
  keepFlag := none
  gpusPerNode := some 6
  mailUser := "user@host"
  mailEvents := "be"
  runIdentity := "run 7"
  distinctNames := by decide

theorem sample_read_back : ∃ pbs slurm, renderPbs sampleJob = .ok pbs ∧ readPbs pbs = some sampleJob.pbsOptions ∧
    BodyReads sampleJob (pbsHeader sampleJob) pbs ∧ renderSlurm sampleJob = .ok slurm ∧
    readSlurm slurm = some sampleJob.slurmOptions ∧ BodyReads sampleJob (slurmHeader sampleJob) slurm := by
  have rendered : renderPbs sampleJob = .ok (textOf (pbsHeader sampleJob) ++ sampleJob.body) := rfl
  obtain ⟨pbs, slurm⟩ := @scripts_read_back sampleJob (by decide +kernel) (by decide +kernel) (by decide +kernel)
  obtain ⟨pbsRead, -, pbsBody⟩ := pbs _ rendered (by decide +kernel)
  obtain ⟨slurmRead, -, slurmBody⟩ := slurm _ rfl (by decide +kernel)
  exact ⟨_, _, rendered, pbsRead, pbsBody, rfl, slurmRead, slurmBody⟩

/-- The options of Slurm that have a field of the job. -/
def slurmFields : List String :=
  ["job-name", "account", "partition", "nodes", "gpus-per-node", "time", "output", "error", "mail-user", "mail-type"]

/-- Slurm is asked for one task on each node, which no field of a job says. -/
theorem tasks_unasked : ¬ ∀ spec : JobSpec, spec.validate = .ok () → ∀ script, renderSlurm spec = .ok script →
    ∀ options, readSlurm script = some options → ∀ option ∈ options, option.1 ∈ slurmFields := by
  intro claimed
  have accepted : sampleJob.validate = .ok () := by decide +kernel
  have read := readSlurm_script (checked_of_validate accepted) (by decide +kernel)
  have asked_for : ("ntasks-per-node", "1") ∈ sampleJob.slurmOptions := by decide +kernel
  exact absurd (claimed sampleJob accepted _ rfl _ read _ asked_for) (by decide)

end Scripts

end ExaServe.Schedulers
