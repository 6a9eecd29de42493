import Mathlib.Data.List.Basic

namespace Lib

section Lines

variable (stops : Char → Bool)

/-- The text cut after each stop, without the stops; what follows the last one only if
    there is something. -/
def linesFrom (line : List Char) : List Char → List (List Char)
  | [] => if line = [] then [] else [line]
  | c :: rest => if stops c then line :: linesFrom [] rest else linesFrom (line ++ [c]) rest

def linesBy (text : List Char) : List (List Char) := linesFrom stops [] text

/-- The maximal runs without a stop. -/
def wordsFrom (word : List Char) : List Char → List (List Char)
  | [] => if word = [] then [] else [word]
  | c :: rest =>
    if stops c then
      if word = [] then wordsFrom [] rest else word :: wordsFrom [] rest
    else wordsFrom (word ++ [c]) rest

def wordsBy (text : List Char) : List (List Char) := wordsFrom stops [] text

variable {stops}

theorem linesFrom_line {line : List Char} (plain : ∀ c ∈ line, stops c = false) {stop : Char}
    (ends : stops stop = true) (before rest : List Char) :
    linesFrom stops before (line ++ stop :: rest) = (before ++ line) :: linesBy stops rest := by
  induction line generalizing before with
  | nil =>
    rw [List.nil_append, linesFrom, if_pos ends, List.append_nil]
    rfl
  | cons c line ih =>
    have kept : ¬ stops c = true := by simp [plain c List.mem_cons_self]
    rw [List.cons_append, linesFrom, if_neg kept, ih (fun d member => plain d (List.mem_cons_of_mem _ member)),
      List.append_assoc, List.singleton_append]

/-- Texts that hold no stop, each ended by one, are the lines of their concatenation. -/
theorem linesBy_flatMap {α : Type} {items : List α} {line : α → List Char} {stop : Char} (ends : stops stop = true)
    (plain : ∀ item ∈ items, ∀ c ∈ line item, stops c = false) :
    linesBy stops (items.flatMap fun item => line item ++ [stop]) = items.map line := by
  induction items with
  | nil => rfl
  | cons item rest ih =>
    rw [List.flatMap_cons, List.append_assoc, List.singleton_append, linesBy,
      linesFrom_line (plain item List.mem_cons_self) ends, List.nil_append, List.map_cons,
      ih fun other member => plain other (List.mem_cons_of_mem _ member)]

theorem wordsFrom_word {word : List Char} (plain : ∀ c ∈ word, stops c = false) (before rest : List Char) :
    wordsFrom stops before (word ++ rest) = wordsFrom stops (before ++ word) rest := by
  induction word generalizing before with
  | nil => rw [List.nil_append, List.append_nil]
  | cons c word ih =>
    have kept : ¬ stops c = true := by simp [plain c List.mem_cons_self]
    rw [List.cons_append, wordsFrom, if_neg kept, ih (fun d member => plain d (List.mem_cons_of_mem _ member)),
      List.append_assoc, List.singleton_append]

theorem wordsBy_cons {word : List Char} (plain : ∀ c ∈ word, stops c = false) (nonempty : word ≠ []) {stop : Char}
    (ends : stops stop = true) (rest : List Char) :
    wordsBy stops (word ++ stop :: rest) = word :: wordsBy stops rest := by
  rw [wordsBy, wordsFrom_word plain, List.nil_append, wordsFrom, if_pos ends, if_neg nonempty]
  rfl

theorem wordsBy_single {word : List Char} (plain : ∀ c ∈ word, stops c = false) (nonempty : word ≠ []) :
    wordsBy stops word = [word] := by
  have whole := wordsFrom_word plain [] []
  rw [List.append_nil, List.nil_append] at whole
  rw [wordsBy, whole, wordsFrom, if_neg nonempty]

end Lines

/-- Words with a mark between each two. -/
def joinWith (mark : Char) : List (List Char) → List Char
  | [] => []
  | [word] => word
  | word :: rest => word ++ mark :: joinWith mark rest

/-- A word that is not empty and holds no stop. -/
structure Word (stops : Char → Bool) (word : List Char) : Prop where
  nonempty : word ≠ []
  plain : ∀ c ∈ word, stops c = false

instance (stops : Char → Bool) (word : List Char) : Decidable (Word stops word) :=
  decidable_of_iff (word ≠ [] ∧ (word.all fun c => !stops c) = true)
    ⟨fun proper => ⟨proper.1, by simpa only [List.all_eq_true, Bool.not_eq_true'] using proper.2⟩,
      fun proper => ⟨proper.nonempty, by simpa only [List.all_eq_true, Bool.not_eq_true'] using proper.plain⟩⟩

theorem wordsBy_joinWith {stops : Char → Bool} {mark : Char} (marks : stops mark = true) {words : List (List Char)}
    (each : ∀ word ∈ words, Word stops word) : wordsBy stops (joinWith mark words) = words := by
  induction words with
  | nil => rfl
  | cons word rest ih =>
    have first := each word List.mem_cons_self
    cases rest with
    | nil => exact wordsBy_single first.plain first.nonempty
    | cons next more =>
      rw [joinWith, wordsBy_cons first.plain first.nonempty marks,
        ih fun other member => each other (List.mem_cons_of_mem _ member)]
      exact List.cons_ne_nil _ _

section Partition

variable (separator : List Char)

/-- The text before and after the first separator. -/
def partitionAt : List Char → Option (List Char × List Char)
  | [] => if separator = [] then some ([], []) else none
  | c :: rest =>
    if separator <+: c :: rest then some ([], (c :: rest).drop separator.length)
    else (partitionAt rest).map fun parts => (c :: parts.1, parts.2)

variable {separator}

theorem partitionAt_here (nonempty : separator ≠ []) (rest : List Char) :
    partitionAt separator (separator ++ rest) = some ([], rest) := by
  cases separator with
  | nil => exact absurd rfl nonempty
  | cons c more =>
    rw [List.cons_append, partitionAt, ← List.cons_append, if_pos (List.prefix_append _ _), List.drop_left]

theorem partitionAt_skip {c : Char} {rest : List Char} (other : ¬ separator <+: c :: rest)
    {parts : List Char × List Char} (found : partitionAt separator rest = some parts) :
    partitionAt separator (c :: rest) = some (c :: parts.1, parts.2) := by
  rw [partitionAt, if_neg other, found]
  rfl

/-- A word without the separator's first character is skipped. -/
theorem partitionAt_word {first : Char} {more word rest : List Char} (plain : first ∉ word)
    {parts : List Char × List Char} (found : partitionAt (first :: more) rest = some parts) :
    partitionAt (first :: more) (word ++ rest) = some (word ++ parts.1, parts.2) := by
  induction word with
  | nil => exact found
  | cons c word ih =>
    rw [List.mem_cons, not_or] at plain
    have other : ¬ first :: more <+: c :: (word ++ rest) := by
      intro starts
      exact plain.1 (List.cons_prefix_cons.mp starts).1
    rw [List.cons_append, partitionAt_skip other (ih plain.2)]
    rfl

end Partition

section Replace

variable (code replacement : List Char)

/-- `str.replace`: every occurrence from the left, the rest of one skipped after its first
    character. -/
def replaceFrom : Nat → List Char → List Char
  | _, [] => []
  | 0, c :: rest =>
    if code <+: c :: rest then replacement ++ replaceFrom (code.length - 1) rest else c :: replaceFrom 0 rest
  | skip + 1, _ :: rest => replaceFrom skip rest

def replaceAll (text : List Char) : List Char := replaceFrom code replacement 0 text

variable {code replacement}

theorem replaceFrom_skip (skipped rest : List Char) :
    replaceFrom code replacement skipped.length (skipped ++ rest) = replaceFrom code replacement 0 rest := by
  induction skipped with
  | nil => rfl
  | cons c skipped ih => exact ih

theorem replaceAll_code (nonempty : code ≠ []) (rest : List Char) :
    replaceAll code replacement (code ++ rest) = replacement ++ replaceAll code replacement rest := by
  cases code with
  | nil => exact absurd rfl nonempty
  | cons c more =>
    rw [replaceAll, List.cons_append, replaceFrom, ← List.cons_append, if_pos (List.prefix_append _ _)]
    congr 1
    exact replaceFrom_skip more rest

theorem replaceAll_other {c : Char} {rest : List Char} (other : ¬ code <+: c :: rest) :
    replaceAll code replacement (c :: rest) = c :: replaceAll code replacement rest := by
  rw [replaceAll, replaceFrom, if_neg other]
  rfl

/-- A word without the code's first character stays. -/
theorem replaceAll_word {first : Char} {more word : List Char} (plain : first ∉ word) (rest : List Char) :
    replaceAll (first :: more) replacement (word ++ rest) = word ++ replaceAll (first :: more) replacement rest := by
  induction word with
  | nil => rfl
  | cons c word ih =>
    rw [List.mem_cons, not_or] at plain
    have other : ¬ first :: more <+: c :: (word ++ rest) := fun starts => plain.1 (List.cons_prefix_cons.mp starts).1
    rw [List.cons_append, replaceAll_other other, ih plain.2, List.cons_append]

end Replace

end Lib
