import Mathlib.Tactic.Tauto
import ExaServe.Lib.Words

namespace Lib.Shell

/-- What a word is made of: characters, and values of variables. -/
inductive Element where
  | char (value : Char)
  | expand (name : List Char)
  deriving DecidableEq

abbrev Word := List Element

def literal (text : List Char) : Word := text.map .char

/-- Characters that stand for themselves outside quotes. -/
def plain (c : Char) : Bool := c.isAlphanum || "_@%+=:,./-".toList.contains c

def isNameChar (c : Char) : Bool := c.isAlphanum || c = '_'

/-- Where the reader is: outside quotes, in single or double quotes, or in a variable's name. -/
inductive Mode where
  | bare
  | single
  | double
  | name (read : List Char)

/-- The command that ends here, unless it is empty. -/
def ended (word : Option Word) (command : List Word) : List (List Word) :=
  if command ++ word.toList = [] then [] else [command ++ word.toList]

/-- The commands of a script, one on a line, and the words of each. Text outside this fragment of
    the shell's language is not read. -/
def lex : Mode → Option Word → List Word → List Char → Option (List (List Word))
  | .bare, word, command, [] => some (ended word command)
  | .bare, word, command, c :: rest =>
    if c = '\n' then (lex .bare none [] rest).map (ended word command ++ ·)
    else if c = ' ' then lex .bare none (command ++ word.toList) rest
    else if c = '\'' then lex .single (some (word.getD [])) command rest
    else if c = '"' then lex .double (some (word.getD [])) command rest
    else if plain c then lex .bare (some (word.getD [] ++ [Element.char c])) command rest
    else none
  | .single, word, command, c :: rest =>
    if c = '\'' then lex .bare word command rest
    else lex .single (some (word.getD [] ++ [Element.char c])) command rest
  | .double, word, command, c :: rest =>
    if c = '"' then lex .bare word command rest
    else if c = '$' then lex (.name []) word command rest
    else if c = '\\' ∨ c = Char.ofNat 96 then none
    else lex .double (some (word.getD [] ++ [Element.char c])) command rest
  | .name read, word, command, c :: rest =>
    if isNameChar c ∧ (read ≠ [] ∨ ¬ c.isDigit) then lex (.name (read ++ [c])) word command rest
    else if read ≠ [] ∧ c = '"' then lex .bare (some (word.getD [] ++ [Element.expand read])) command rest
    else none
  | _, _, _, [] => none

/-- A shell drops the NUL characters of a script. -/
def commands (text : List Char) : Option (List (List Word)) :=
  lex .bare none [] (text.filter (· ≠ Char.ofNat 0))

def escapeQuote (c : Char) : List Char := if c = '\'' then ['\'', '"', '\'', '"', '\''] else [c]

/-- `shlex.quote`. -/
def quote (text : List Char) : List Char :=
  if text = [] then ['\'', '\'']
  else if text.all plain then text
  else '\'' :: (text.flatMap escapeQuote ++ ['\''])

section Words

variable {text part : List Char} {word : Word}

/-- A piece of text that goes on a word. -/
def Continues (text : List Char) (piece : Word) : Prop :=
  ∀ word command rest, lex .bare (some word) command (text ++ rest) = lex .bare (some (word ++ piece)) command rest

/-- A piece of text that is a word. -/
def Reads (text : List Char) (word : Word) : Prop :=
  ∀ command rest, lex .bare none command (text ++ rest) = lex .bare (some word) command rest

theorem plain_bare {c : Char} (safe : plain c = true) : c ≠ '\n' ∧ c ≠ ' ' ∧ c ≠ '\'' ∧ c ≠ '"' := by
  refine ⟨?_, ?_, ?_, ?_⟩
  all_goals
    rintro rfl
    exact absurd safe (by decide)

attribute [local simp] lex in
theorem continues_plain (safe : text.all plain = true) : Continues text (literal text) := by
  induction text with
  | nil =>
    intro word command rest
    rw [literal, List.map_nil, List.append_nil, List.nil_append]
  | cons c text ih =>
    rw [List.all_cons, Bool.and_eq_true] at safe
    intro word command rest
    obtain ⟨line, blank, single, double⟩ := plain_bare safe.1
    rw [List.cons_append, lex, if_neg line, if_neg blank, if_neg single, if_neg double, if_pos safe.1,
      ih safe.2, Option.getD_some, List.append_assoc]
    rfl

/-- In single quotes, with its own quotes replaced, a text is read as it is. -/
theorem lex_single (text : List Char) (word : Word) (command : List Word) (rest : List Char) :
    lex .single (some word) command (text.flatMap escapeQuote ++ '\'' :: rest) =
      lex .bare (some (word ++ literal text)) command rest := by
  induction text generalizing word with
  | nil => simp [lex, literal]
  | cons c text ih =>
    rw [List.flatMap_cons, List.append_assoc]
    by_cases quoted : c = '\''
    · subst quoted
      have step : lex .single (some word) command (escapeQuote '\'' ++ (text.flatMap escapeQuote ++ '\'' :: rest)) =
          lex .single (some (word ++ [Element.char '\''])) command (text.flatMap escapeQuote ++ '\'' :: rest) := by
        simp [escapeQuote, lex]
      rw [step, ih, List.append_assoc]
      rfl
    · rw [escapeQuote, if_neg quoted, List.singleton_append, lex, if_neg quoted, ih,
        Option.getD_some, List.append_assoc]
      rfl

theorem continues_quote (text : List Char) : Continues (quote text) (literal text) := by
  unfold quote
  split_ifs with empty safe
  · subst empty
    intro word command rest
    simp [lex, literal]
  · exact continues_plain safe
  · intro word command rest
    rw [List.cons_append, List.append_assoc, List.singleton_append, lex, if_neg (by decide), if_neg (by decide),
      if_pos rfl, Option.getD_some, lex_single]

/-- A piece that goes on a word and starts with neither a blank nor a line end is one. -/
theorem Continues.reads (continues : Continues text word) {c : Char} {tail : List Char} (starts : text = c :: tail)
    (line : c ≠ '\n') (blank : c ≠ ' ') : Reads text word := by
  intro command rest
  have same := continues [] command rest
  rw [List.nil_append] at same
  rw [← same, starts, List.cons_append, lex, lex, if_neg line, if_neg line, if_neg blank, if_neg blank]
  rfl

theorem reads_plain (safe : text.all plain = true) (some_text : text ≠ []) : Reads text (literal text) := by
  cases text with
  | nil => exact absurd rfl some_text
  | cons c tail =>
    have head : plain c = true := List.all_eq_true.mp safe c List.mem_cons_self
    exact (continues_plain safe).reads rfl (plain_bare head).1 (plain_bare head).2.1

theorem reads_quote (text : List Char) : Reads (quote text) (literal text) := by
  have continues := continues_quote text
  unfold quote at continues ⊢
  split_ifs at continues ⊢ with empty safe
  · exact continues.reads rfl (by decide) (by decide)
  · exact reads_plain safe empty
  · exact continues.reads rfl (by decide) (by decide)

theorem mem_quote {c : Char} {text : List Char} (member : c ∈ quote text) : c = '\'' ∨ c = '"' ∨ c ∈ text := by
  unfold quote at member
  split_ifs at member with empty safe
  · simp only [List.mem_cons, List.not_mem_nil, or_false, or_self] at member
    exact .inl member
  · exact .inr (.inr member)
  · rcases List.mem_cons.mp member with front | inner
    · exact .inl front
    · rcases List.mem_append.mp inner with text_char | last
      · obtain ⟨d, inside, here⟩ := List.mem_flatMap.mp text_char
        unfold escapeQuote at here
        split_ifs at here
        · simp only [List.mem_cons, List.not_mem_nil, or_false] at here
          tauto
        · exact .inr (.inr (List.mem_singleton.mp here ▸ inside))
      · exact .inl (List.mem_singleton.mp last)

theorem Reads.append {piece : Word} (reads : Reads part word) (continues : Continues text piece) :
    Reads (part ++ text) (word ++ piece) := by
  intro command rest
  rw [List.append_assoc, reads, continues]

end Words

section Lines

/-- A line of words is read as one command. -/
theorem lex_line {parts : List (List Char)} {words : List Word} (all : List.Forall₂ Reads parts words)
    (some_word : parts ≠ []) (command : List Word) (rest : List Char) :
    lex .bare none command (joinWith ' ' parts ++ '\n' :: rest) =
      (lex .bare none [] rest).map ((command ++ words) :: ·) := by
  induction all generalizing command with
  | nil => exact absurd rfl some_word
  | @cons part word parts words first later ih =>
    cases later with
    | nil =>
      rw [joinWith, first, lex, if_pos rfl]
      simp [ended]
    | @cons next other parts words second later =>
      rw [joinWith, List.append_assoc, first, List.cons_append, lex, if_neg (by decide), if_pos rfl,
        ih (List.cons_ne_nil _ _), Option.toList_some, List.append_assoc, List.singleton_append]
      simp

/-- A line that is one command. -/
def LineReads (line : List Char) (command : List Word) : Prop :=
  ∃ parts, parts ≠ [] ∧ line = joinWith ' ' parts ∧ List.Forall₂ Reads parts command

/-- A script whose lines are commands is read as them. -/
theorem lex_lines {lines : List (List Char)} {found : List (List Word)} (all : List.Forall₂ LineReads lines found) :
    lex .bare none [] (lines.flatMap (· ++ ['\n'])) = some found := by
  induction all with
  | nil => rfl
  | cons first rest ih =>
    obtain ⟨parts, some_word, same, words⟩ := first
    rw [List.flatMap_cons, same, List.append_assoc, List.singleton_append, lex_line words some_word, ih,
      Option.map_some, List.nil_append]

end Lines

end Lib.Shell
