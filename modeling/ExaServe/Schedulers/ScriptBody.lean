import ExaServe.Schedulers.JobSpec

namespace ExaServe.Schedulers

open Lib Shell

section Reading

/-- The text of a word that holds no variable. -/
def wordText : Word → Option (List Char)
  | [] => some []
  | .char c :: rest => (wordText rest).map (c :: ·)
  | .expand _ :: _ => none

/-- An assignment's name and value. -/
def assignment (text : List Char) : Option (String × String) :=
  match text.dropWhile (· ≠ '=') with
  | [] => none
  | _ :: value => some (String.ofList (text.takeWhile (· ≠ '=')), String.ofList value)

/-- The variables that the last commands export, and the arguments of the program that the shell
    becomes; an argument in front that starts with a dash would be an option of `exec`. -/
def readCommands : List (List Word) → Option (List (String × String) × List String)
  | [] => none
  | [command] => do
    let words ← command.mapM wordText
    match words with
    | name :: first :: rest =>
      if name = "exec".toList ∧ first.head? ≠ some '-' then some ([], (first :: rest).map String.ofList) else none
    | _ => none
  | command :: others => do
    let words ← command.mapM wordText
    let (exported, argv) ← readCommands others
    match words with
    | [name, text] =>
      if name = "export".toList then (assignment text).map fun entry => (entry :: exported, argv) else none
    | _ => none

/-- The commands after the shell is told to refuse unset variables. -/
def afterSetU (commands : List (List Word)) : List (List Word) :=
  (commands.dropWhile (· ≠ [literal "set".toList, literal "-u".toList])).tail

end Reading

section Commands

variable (spec : JobSpec)

def words (texts : List String) : List Word := texts.map fun text => literal text.toList

/-- The commands a body starts with. -/
def preambleCommands : List (List Word) :=
  [words ["set", "-eo", "pipefail"],
    words ["unset", "VIRTUAL_ENV", "PYTHONHOME", "CONDA_DEFAULT_ENV", "CONDA_PREFIX", "CONDA_PROMPT_MODIFIER",
      "_CE_CONDA", "_CE_M", "PYTHONPYCACHEPREFIX"],
    words ["export", "PYTHONNOUSERSITE=1"], words ["export", "PYTHONSAFEPATH=1"],
    words ["export", "PYTHONDONTWRITEBYTECODE=1"]]

def JobSpec.pathCommands : List (List Word) :=
  (match spec.cwd with
    | some cwd => [words ["cd", cwd]]
    | none => []) ++
  (if spec.pythonpath = [] then []
    else [words ["unset", "PYTHONPATH"],
      [literal ("_ES_PYTHONPATH=".toList ++ (":".intercalate spec.pythonpath).toList)],
      [literal "export".toList, literal "PYTHONPATH=".toList ++ [Element.expand "_ES_PYTHONPATH".toList]]]) ++
  match spec.sourceEnvScript with
  | some script => [words ["source", script]]
  | none => []

def exportCommand (entry : String × String) : List Word :=
  [literal "export".toList, literal (entry.1.toList ++ '=' :: entry.2.toList)]

def JobSpec.finalCommands : List (List Word) :=
  [words ["export", "PYTHONNOUSERSITE=1"], words ["export", "PYTHONSAFEPATH=1"]] ++
  (spec.environmentUnset.map fun name => words ["unset", name]) ++ [words ["set", "-u"]] ++
  spec.sortedEnvironment.map exportCommand ++ [words ("exec" :: spec.commandArgv)]

end Commands

section Lexing

theorem plain_parts {texts : List String} (safe : ∀ text ∈ texts, text.toList.all plain = true ∧ text ≠ "") :
    List.Forall₂ Reads (texts.map String.toList) (words texts) := by
  induction texts with
  | nil => exact .nil
  | cons text rest ih =>
    obtain ⟨here, some_text⟩ := safe text List.mem_cons_self
    refine .cons (reads_plain here ?_) (ih fun other member => safe other (List.mem_cons_of_mem _ member))
    exact fun empty => some_text (String.toList_eq_nil_iff.mp empty)

/-- A line of plain words. -/
theorem plain_line {line : List Char} (texts : List String)
    (safe : ∀ text ∈ texts, text.toList.all plain = true ∧ text ≠ "") (some_text : texts ≠ [])
    (same : line = joinWith ' ' (texts.map String.toList)) : LineReads line (words texts) :=
  ⟨_, by simpa using some_text, same, plain_parts safe⟩

theorem nameChar_plain {c : Char} (valid : isNameChar c = true) : plain c = true := by
  simp only [isNameChar, Bool.or_eq_true, decide_eq_true_eq] at valid
  rcases valid with letter | mark
  · rw [plain, letter, Bool.true_or]
  · rw [mark]
    decide

theorem isEnvName_chars {name : String} (valid : isEnvName name = true) :
    name.toList ≠ [] ∧ ∀ c ∈ name.toList, isNameChar c = true := by
  rw [isEnvName] at valid
  cases chars : name.toList with
  | nil =>
    rw [chars] at valid
    cases valid
  | cons first rest =>
    rw [chars] at valid
    simp only [Bool.and_eq_true, Bool.not_eq_true', List.all_eq_true] at valid
    exact ⟨List.cons_ne_nil _ _, List.forall_mem_cons.mpr ⟨valid.1.1, valid.2⟩⟩

theorem isEnvName_plain {name : String} (valid : isEnvName name = true) :
    name.toList.all plain = true ∧ name.toList ≠ [] := by
  obtain ⟨some_name, chars⟩ := isEnvName_chars valid
  exact ⟨List.all_eq_true.mpr fun c member => nameChar_plain (chars c member), some_name⟩

theorem preamble_reads : List.Forall₂ LineReads preambleLines preambleCommands := by
  refine .cons (plain_line _ ?_ (by simp) ?_)
    (.cons (plain_line _ ?_ (by simp) ?_) (.cons (plain_line _ ?_ (by simp) ?_)
    (.cons (plain_line _ ?_ (by simp) ?_) (.cons (plain_line _ ?_ (by simp) ?_) .nil))))
  all_goals decide +kernel

end Lexing

section Final

variable {spec : JobSpec}

/-- What the checks of a job leave for its body. -/
structure BodyFit (spec : JobSpec) : Prop where
  unset : ∀ name ∈ spec.environmentUnset, isEnvName name = true
  names : ∀ entry ∈ spec.environment, isEnvName entry.1 = true
  command : spec.commandArgv ≠ []

/-- A line of a plain word and a quoted one. -/
theorem quoted_line {front text : List Char} (safe : front.all plain = true) (some_front : front ≠ []) :
    LineReads (front ++ ' ' :: quote text) [literal front, literal text] :=
  ⟨[front, quote text], List.cons_ne_nil _ _, rfl,
    .cons (reads_plain safe some_front) (.cons (reads_quote text) .nil)⟩

theorem assigned_reads {name value : List Char} (safe : name.all plain = true) :
    Reads (name ++ '=' :: quote value) (literal (name ++ '=' :: value)) := by
  have front : (name ++ ['=']).all plain = true := by
    rw [List.all_append, safe]
    decide
  have whole := (reads_plain front (by simp)).append (continues_quote value)
  simpa [literal] using whole

theorem export_reads (fit : BodyFit spec) : List.Forall₂ LineReads (spec.sortedEnvironment.map exportOf)
    (spec.sortedEnvironment.map exportCommand) := by
  rw [List.forall₂_map_left_iff, List.forall₂_map_right_iff, List.forall₂_same]
  intro entry member
  have valid := fit.names entry ((List.mem_insertionSort _).mp member)
  refine ⟨["export".toList, entry.1.toList ++ '=' :: quote entry.2.toList], List.cons_ne_nil _ _, ?_, ?_⟩
  · rfl
  · exact .cons (reads_plain (by decide) (by decide)) (.cons (assigned_reads (isEnvName_plain valid).1) .nil)

theorem exec_reads (fit : BodyFit spec) :
    LineReads ("exec ".toList ++ joinWith ' ' (spec.commandArgv.map shellQuote))
      (words ("exec" :: spec.commandArgv)) := by
  refine ⟨"exec".toList :: spec.commandArgv.map shellQuote, List.cons_ne_nil _ _, ?_, ?_⟩
  · cases argv : spec.commandArgv with
    | nil => exact absurd argv fit.command
    | cons first rest => rfl
  · refine .cons (reads_plain (by decide) (by decide)) ?_
    rw [List.forall₂_map_left_iff, List.forall₂_map_right_iff, List.forall₂_same]
    intro arg _
    exact reads_quote arg.toList

theorem unset_reads (fit : BodyFit spec) :
    List.Forall₂ LineReads (spec.environmentUnset.map fun name => "unset ".toList ++ name.toList)
      (spec.environmentUnset.map fun name => words ["unset", name]) := by
  rw [List.forall₂_map_left_iff, List.forall₂_map_right_iff, List.forall₂_same]
  intro name member
  obtain ⟨safe, some_name⟩ := isEnvName_plain (fit.unset name member)
  apply plain_line ["unset", name]
  · intro text inside
    rcases List.mem_cons.mp inside with rfl | inside
    · decide
    · rw [List.mem_singleton.mp inside]
      exact ⟨safe, fun empty => some_name (by rw [empty]; rfl)⟩
  · exact List.cons_ne_nil _ _
  · rfl

theorem pythonpath_reads : Reads "PYTHONPATH=\"$_ES_PYTHONPATH\"".toList
    (literal "PYTHONPATH=".toList ++ [Element.expand "_ES_PYTHONPATH".toList]) := by
  have expands : Continues "\"$_ES_PYTHONPATH\"".toList [.expand "_ES_PYTHONPATH".toList] := by
    intro word command rest
    rfl
  exact (@reads_plain "PYTHONPATH=".toList (by decide) (by decide)).append expands

theorem pythonpath_export : LineReads "export PYTHONPATH=\"$_ES_PYTHONPATH\"".toList
    [literal "export".toList, literal "PYTHONPATH=".toList ++ [Element.expand "_ES_PYTHONPATH".toList]] := by
  have split : "export PYTHONPATH=\"$_ES_PYTHONPATH\"".toList =
      joinWith ' ' ["export".toList, "PYTHONPATH=\"$_ES_PYTHONPATH\"".toList] := by
    decide +kernel
  have word : Reads "export".toList (literal "export".toList) := reads_plain (by decide +kernel) (by decide +kernel)
  exact ⟨_, List.cons_ne_nil _ _, split, .cons word (.cons pythonpath_reads .nil)⟩

theorem joined_reads {text : List Char} :
    LineReads ("_ES_PYTHONPATH=".toList ++ quote text) [literal ("_ES_PYTHONPATH=".toList ++ text)] := by
  have split : "_ES_PYTHONPATH=".toList = "_ES_PYTHONPATH".toList ++ ['='] := by decide +kernel
  rw [split, List.append_assoc, List.append_assoc, List.singleton_append, List.singleton_append]
  exact ⟨[_], List.cons_ne_nil _ _, rfl, .cons (assigned_reads (by decide +kernel)) .nil⟩

theorem path_reads : List.Forall₂ LineReads spec.pathLines spec.pathCommands := by
  refine List.rel_append (List.rel_append ?_ ?_) ?_
  · cases spec.cwd with
    | none => exact .nil
    | some cwd => exact .cons (@quoted_line "cd".toList _ (by decide) (by decide)) .nil
  · split_ifs
    · exact .nil
    · have unset : LineReads "unset PYTHONPATH".toList (words ["unset", "PYTHONPATH"]) :=
        plain_line ["unset", "PYTHONPATH"] (by decide +kernel) (by decide) rfl
      exact .cons unset (.cons joined_reads (.cons pythonpath_export .nil))
  · cases spec.sourceEnvScript with
    | none => exact .nil
    | some script => exact .cons (@quoted_line "source".toList _ (by decide) (by decide)) .nil

theorem final_reads (fit : BodyFit spec) : List.Forall₂ LineReads spec.commandLines spec.finalCommands := by
  have export_one : ∀ text : String, text.toList.all plain = true → text ≠ "" →
      LineReads ("export ".toList ++ text.toList) (words ["export", text]) := by
    intro text safe some_text
    apply plain_line ["export", text]
    · intro other inside
      rcases List.mem_cons.mp inside with rfl | inside
      · decide
      · rw [List.mem_singleton.mp inside]
        exact ⟨safe, some_text⟩
    · exact List.cons_ne_nil _ _
    · rfl
  refine List.rel_append (List.rel_append (List.rel_append (List.rel_append ?_ (unset_reads fit)) ?_)
    (export_reads fit)) ?_
  · exact .cons (export_one "PYTHONNOUSERSITE=1" (by decide) (by decide))
      (.cons (export_one "PYTHONSAFEPATH=1" (by decide) (by decide)) .nil)
  · exact .cons (plain_line ["set", "-u"] (by decide) (by decide) rfl) .nil
  · exact .cons (exec_reads fit) .nil

end Final

section Nul

variable {spec : JobSpec}

def NoNul (text : List Char) : Prop := Char.ofNat 0 ∉ text

instance (text : List Char) : Decidable (NoNul text) := inferInstanceAs (Decidable (_ ∉ _))

theorem noNul_quote {text : List Char} (clean : NoNul text) : NoNul (quote text) := by
  intro member
  rcases mem_quote member with same | same | inside
  · exact absurd same (by decide)
  · exact absurd same (by decide)
  · exact clean inside

theorem noNul_append {left right : List Char} (first : NoNul left) (second : NoNul right) :
    NoNul (left ++ right) := by
  intro member
  rcases List.mem_append.mp member with front | back
  · exact first front
  · exact second back

theorem noNul_plain {text : List Char} (safe : text.all plain = true) : NoNul text := by
  intro member
  exact absurd (List.all_eq_true.mp safe _ member) (by decide)

theorem noNul_holds {text : String} (clean : holdsNul text = false) : NoNul text.toList := by
  simpa [holdsNul, NoNul] using clean

theorem noNul_joinWith {parts : List (List Char)} (each : ∀ part ∈ parts, NoNul part) :
    NoNul (joinWith ' ' parts) := by
  induction parts with
  | nil => exact List.not_mem_nil
  | cons part rest ih =>
    cases rest with
    | nil => exact each part List.mem_cons_self
    | cons next rest =>
      rw [joinWith]
      · apply noNul_append (each part List.mem_cons_self)
        intro member
        rcases List.mem_cons.mp member with same | later
        · exact absurd same (by decide)
        · exact ih (fun other inside => each other (List.mem_cons_of_mem _ inside)) later
      · simp

theorem noNul_textOf {lines : List (List Char)} (each : ∀ line ∈ lines, NoNul line) : NoNul (textOf lines) := by
  intro member
  obtain ⟨line, inside, here⟩ := List.mem_flatMap.mp member
  rcases List.mem_append.mp here with front | last
  · exact each line inside front
  · exact absurd (List.mem_singleton.mp last) (by decide)

/-- No NUL in the texts that are quoted into the body. -/
structure NulFree (spec : JobSpec) : Prop where
  paths : ∀ path ∈ spec.cwd.toList ++ spec.sourceEnvScript.toList ++ spec.pythonpath, holdsNul path = false
  values : ∀ entry ∈ spec.environment, holdsNul entry.2 = false
  command : ∀ arg ∈ spec.commandArgv, holdsNul arg = false

theorem noNul_intercalate {paths : List String} (each : ∀ path ∈ paths, holdsNul path = false) :
    NoNul (":".intercalate paths).toList := by
  induction paths with
  | nil => exact List.not_mem_nil
  | cons path rest ih =>
    have here := noNul_holds (each path List.mem_cons_self)
    cases rest with
    | nil => rwa [String.intercalate_singleton]
    | cons next rest =>
      rw [String.intercalate_cons_of_ne_nil (List.cons_ne_nil _ _), String.toList_append, String.toList_append]
      exact noNul_append (noNul_append here (by decide))
        (ih fun other member => each other (List.mem_cons_of_mem _ member))

theorem noNul_pathLines (clean : NulFree spec) : ∀ line ∈ spec.pathLines, NoNul line := by
  intro line member
  rw [JobSpec.pathLines, List.mem_append, List.mem_append] at member
  rcases member with (here | here) | here
  · cases cwd : spec.cwd with
    | none =>
      rw [cwd] at here
      cases here
    | some path =>
      rw [cwd] at here
      rw [List.mem_singleton.mp here]
      exact noNul_append (by decide) (noNul_quote (noNul_holds (clean.paths path (by simp [cwd]))))
  · split_ifs at here
    · cases here
    · simp only [List.mem_cons, List.not_mem_nil, or_false] at here
      rcases here with rfl | rfl | rfl
      · decide
      · exact noNul_append (by decide) (noNul_quote (noNul_intercalate fun path inside =>
          clean.paths path (List.mem_append_right _ inside)))
      · decide
  · cases script : spec.sourceEnvScript with
    | none =>
      rw [script] at here
      cases here
    | some path =>
      rw [script] at here
      rw [List.mem_singleton.mp here]
      exact noNul_append (by decide) (noNul_quote (noNul_holds (clean.paths path (by simp [script]))))

theorem noNul_commandLines (fit : BodyFit spec) (clean : NulFree spec) : ∀ line ∈ spec.commandLines, NoNul line := by
  intro line member
  simp only [JobSpec.commandLines, List.mem_append, List.mem_map, List.mem_cons, List.not_mem_nil, or_false] at member
  rcases member with ((((rfl | rfl) | ⟨name, inside, rfl⟩) | rfl) | ⟨entry, inside, rfl⟩) | rfl
  · decide
  · decide
  · exact noNul_append (by decide) (noNul_plain (isEnvName_plain (fit.unset name inside)).1)
  · decide
  · have held := (List.mem_insertionSort _).mp inside
    apply noNul_append (noNul_append (by decide) (noNul_plain (isEnvName_plain (fit.names entry held)).1))
    intro nul
    rcases List.mem_cons.mp nul with same | later
    · exact absurd same (by decide)
    · exact noNul_quote (noNul_holds (clean.values entry held)) later
  · apply noNul_append (by decide) (noNul_joinWith _)
    intro part inside
    obtain ⟨arg, held, rfl⟩ := List.mem_map.mp inside
    exact noNul_quote (noNul_holds (clean.command arg held))

theorem commands_textOf {lines : List (List Char)} {found : List (List Word)}
    (clean : ∀ line ∈ lines, NoNul line) (all : List.Forall₂ LineReads lines found) :
    commands (textOf lines) = some found := by
  have kept : (textOf lines).filter (· ≠ Char.ofNat 0) = textOf lines := by
    rw [List.filter_eq_self]
    intro c member
    simp only [decide_eq_true_eq]
    rintro rfl
    exact noNul_textOf clean member
  rw [commands, kept]
  exact lex_lines all

end Nul

section ReadBack

variable {spec : JobSpec}

theorem wordText_literal (text : List Char) : wordText (literal text) = some text := by
  induction text with
  | nil => rfl
  | cons c rest ih =>
    rw [literal, List.map_cons, wordText]
    change (wordText (literal rest)).map (c :: ·) = _
    rw [ih]
    rfl

theorem mapM_words (texts : List String) : (words texts).mapM wordText = some (texts.map String.toList) := by
  induction texts with
  | nil => rfl
  | cons text rest ih =>
    rw [words, List.map_cons, List.mapM_cons, wordText_literal]
    change (some text.toList >>= fun first => (words rest).mapM wordText >>= fun others => some (first :: others)) = _
    rw [ih]
    rfl

theorem assignment_of {entry : String × String} (name : ∀ c ∈ entry.1.toList, decide (c ≠ '=') = true) :
    assignment (entry.1.toList ++ '=' :: entry.2.toList) = some entry := by
  rw [assignment, List.dropWhile_append_of_pos name, List.takeWhile_append_of_pos name]
  simp

theorem assignment_entry {entry : String × String} (valid : isEnvName entry.1 = true) :
    assignment (entry.1.toList ++ '=' :: entry.2.toList) = some entry := by
  apply assignment_of
  intro c member
  have safe := (isEnvName_chars valid).2 c member
  rw [decide_eq_true_eq]
  rintro rfl
  exact absurd safe (by decide)

theorem readCommands_exports {entries : List (String × String)} (valid : ∀ entry ∈ entries, isEnvName entry.1 = true)
    {last : List (List Word)} {exported : List (String × String)} {argv : List String} (some_last : last ≠ [])
    (read : readCommands last = some (exported, argv)) :
    readCommands (entries.map exportCommand ++ last) = some (entries ++ exported, argv) := by
  induction entries with
  | nil => exact read
  | cons entry rest ih =>
    have later := ih fun other member => valid other (List.mem_cons_of_mem _ member)
    have words_read : (exportCommand entry).mapM wordText =
        some ["export".toList, entry.1.toList ++ '=' :: entry.2.toList] := by
      simp [exportCommand, List.mapM_cons, wordText_literal]
    rw [List.map_cons, List.cons_append, readCommands]
    · rw [words_read, later]
      change (if "export".toList = "export".toList then (assignment (entry.1.toList ++ '=' :: entry.2.toList)).map
        fun entry => (entry :: (rest ++ exported), argv) else none) = _
      rw [if_pos rfl, assignment_entry (valid entry List.mem_cons_self)]
      rfl
    · simp [some_last]

/-- A command line is read as the program's arguments, unless the first could be an option. -/
theorem readCommands_exec {first : String} {rest : List String} (plain_first : first.toList.head? ≠ some '-') :
    readCommands [words ("exec" :: first :: rest)] = some ([], first :: rest) := by
  rw [readCommands, mapM_words]
  simp [plain_first, Function.comp_def]

theorem not_setU {front : String} {rest : List Word} (other : front.toList ≠ "set".toList) :
    literal front.toList :: rest ≠ [literal "set".toList, literal "-u".toList] := by
  intro same
  have texts := congrArg wordText (List.cons.inj same).1
  rw [wordText_literal, wordText_literal] at texts
  exact other (Option.some.inj texts)

theorem pathCommands_other :
    ∀ command ∈ spec.pathCommands, command ≠ [literal "set".toList, literal "-u".toList] := by
  intro command member
  rw [JobSpec.pathCommands, List.mem_append, List.mem_append] at member
  rcases member with (here | here) | here
  · cases cwd : spec.cwd with
    | none =>
      rw [cwd] at here
      cases here
    | some path =>
      rw [cwd] at here
      rw [List.mem_singleton.mp here]
      exact @not_setU "cd" _ (by decide)
  · split_ifs at here
    · cases here
    · simp only [List.mem_cons, List.not_mem_nil, or_false] at here
      rcases here with rfl | rfl | rfl
      · exact @not_setU "unset" _ (by decide)
      · simp
      · exact @not_setU "export" _ (by decide)
  · cases script : spec.sourceEnvScript with
    | none =>
      rw [script] at here
      cases here
    | some path =>
      rw [script] at here
      rw [List.mem_singleton.mp here]
      exact @not_setU "source" _ (by decide)

/-- The commands after the trusted scripts hold the environment and the argument vector. -/
theorem commands_read_back (fit : BodyFit spec)
    (plain_first : ∀ first ∈ spec.commandArgv.head?, first.toList.head? ≠ some '-') :
    readCommands (afterSetU (spec.pathCommands ++ spec.finalCommands)) =
      some (spec.sortedEnvironment, spec.commandArgv) := by
  have front : ∀ command ∈ spec.pathCommands ++ ([words ["export", "PYTHONNOUSERSITE=1"],
      words ["export", "PYTHONSAFEPATH=1"]] ++ spec.environmentUnset.map fun name => words ["unset", name]),
      decide (command ≠ [literal "set".toList, literal "-u".toList]) = true := by
    intro command member
    rw [decide_eq_true_eq]
    rcases List.mem_append.mp member with early | later
    · exact pathCommands_other command early
    · rcases List.mem_append.mp later with fixed | unset
      · simp only [List.mem_cons, List.not_mem_nil, or_false] at fixed
        rcases fixed with rfl | rfl
        · exact @not_setU "export" _ (by decide)
        · exact @not_setU "export" _ (by decide)
      · obtain ⟨name, -, rfl⟩ := List.mem_map.mp unset
        exact @not_setU "unset" _ (by decide)
  have whole : spec.pathCommands ++ spec.finalCommands =
      (spec.pathCommands ++ ([words ["export", "PYTHONNOUSERSITE=1"],
      words ["export", "PYTHONSAFEPATH=1"]] ++ spec.environmentUnset.map fun name => words ["unset", name])) ++
      ([literal "set".toList, literal "-u".toList] ::
        (spec.sortedEnvironment.map exportCommand ++ [words ("exec" :: spec.commandArgv)])) := by
    simp [JobSpec.finalCommands, words]
  have names : ∀ entry ∈ spec.sortedEnvironment, isEnvName entry.1 = true :=
    fun entry member => fit.names entry ((List.mem_insertionSort _).mp member)
  rw [afterSetU, whole, List.dropWhile_append_of_pos front, List.dropWhile_cons_of_neg (by simp), List.tail_cons]
  cases argv : spec.commandArgv with
  | nil => exact absurd argv fit.command
  | cons first rest =>
    have head : first.toList.head? ≠ some '-' := plain_first first (by rw [argv]; rfl)
    rw [readCommands_exports names (List.cons_ne_nil _ _) (readCommands_exec head), List.append_nil]

end ReadBack

end ExaServe.Schedulers
