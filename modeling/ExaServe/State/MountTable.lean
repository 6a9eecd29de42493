import Mathlib.Data.List.Basic
import Mathlib.Order.Lattice
import ExaServe.State.Mounts

namespace ExaServe.State.Mounts

open Lib Control

section Kernel

def escapedChars : List Char := [' ', '\t', '\n', '\\']

def octalCode : Char → List Char
  | ' ' => ['\\', '0', '4', '0']
  | '\t' => ['\\', '0', '1', '1']
  | '\n' => ['\\', '0', '1', '2']
  | '\\' => ['\\', '1', '3', '4']
  | c => [c]

/-- The text with the listed characters as their octal codes. -/
def encode (listed text : List Char) : List Char := text.flatMap fun c => if c ∈ listed then octalCode c else [c]

/-- One mount of the kernel's table. -/
structure MountEntry where
  mountId : List Char
  parentId : List Char
  device : List Char
  root : List Char
  mountPoint : List (List Char)
  options : List Char
  tags : List (List Char)
  fstype : List Char
  source : List Char
  superOptions : List Char

namespace MountEntry

variable (entry : MountEntry)

def mountWord : List Char := encode escapedChars (pathText entry.mountPoint)

def leftWords : List (List Char) :=
  [entry.mountId, entry.parentId, entry.device, encode escapedChars entry.root, entry.mountWord, entry.options] ++
    entry.tags

def rightText : List Char := entry.fstype ++ ' ' :: (encode escapedChars entry.source ++ ' ' :: entry.superOptions)

/-- The line the kernel writes for a mount. -/
def line : List Char := joinWith ' ' entry.leftWords ++ (dashMark ++ entry.rightText)

/-- The names of a mount point hold no blank but those the kernel escapes, and neither do
    the other words of its line. -/
structure WellNamed (decimal : Char → Option Nat) : Prop where
  number : (readSigned decimal entry.mountId).isSome = true
  words : ∀ word ∈ [entry.mountId, entry.parentId, entry.device, encode escapedChars entry.root, entry.options] ++
    entry.tags, Word Plan.isSpace word ∧ word ≠ ['-']
  fstype : Word Plan.isSpace entry.fstype
  names : ∀ name ∈ entry.mountPoint, name ≠ [] ∧ name ≠ ['.'] ∧ '/' ∉ name
  blanks : ∀ name ∈ entry.mountPoint, ∀ c ∈ name, Plan.isSpace c = true → c ∈ escapedChars
  tail : ∀ c ∈ encode escapedChars entry.source ++ entry.superOptions, isLineBreak c = false

end MountEntry

def mountTable (entries : List MountEntry) : List Char := entries.flatMap fun entry => entry.line ++ ['\n']

end Kernel

section Escaping

theorem encode_nil (text : List Char) : encode [] text = text := by
  rw [encode, List.flatMap_congr fun c _ => if_neg List.not_mem_nil, List.flatMap_singleton']

/-- Replacing one code undoes one of the escapes, where the backslash is still escaped. -/
theorem replaceAll_encode {c : Char} {listed : List Char} (escaped : ∀ d ∈ c :: listed, d ∈ escapedChars)
    (fresh : c ∉ listed) (backslash : '\\' ∈ c :: listed) (text : List Char) :
    replaceAll (octalCode c) [c] (encode (c :: listed) text) = encode listed text := by
  have shape : ∀ d ∈ escapedChars, ∃ tail, octalCode d = '\\' :: tail ∧ '\\' ∉ tail ∧
      ∀ e ∈ escapedChars, ∀ rest, octalCode e <+: octalCode d ++ rest → e = d := by
    intro d member
    simp only [escapedChars, List.mem_cons, List.not_mem_nil, or_false] at member
    rcases member with rfl | rfl | rfl | rfl
    all_goals
      refine ⟨_, rfl, by decide, ?_⟩
      intro e among rest starts
      simp only [escapedChars, List.mem_cons, List.not_mem_nil, or_false] at among
      rcases among with rfl | rfl | rfl | rfl
      all_goals simp [octalCode, List.cons_prefix_cons] at starts ⊢
  obtain ⟨code, coded, -, -⟩ := shape c (escaped c List.mem_cons_self)
  induction text with
  | nil => rfl
  | cons d rest ih =>
    simp only [encode, List.flatMap_cons] at ih ⊢
    by_cases same : d = c
    · subst same
      rw [if_pos List.mem_cons_self, if_neg fresh, replaceAll_code (by rw [coded]; exact List.cons_ne_nil _ _), ih]
    · by_cases other : d ∈ listed
      · obtain ⟨tail, spelled, plain, distinct⟩ := shape d (escaped d (List.mem_cons_of_mem _ other))
        rw [if_pos (List.mem_cons_of_mem _ other), if_pos other]
        have apart : ¬ octalCode c <+:
            octalCode d ++ (rest.flatMap fun e => if e ∈ c :: listed then octalCode e else [e]) :=
          fun starts => same (distinct c (escaped c List.mem_cons_self) _ starts).symm
        rw [spelled, List.cons_append] at apart ⊢
        rw [replaceAll_other apart, coded, replaceAll_word plain, ← coded, ih, List.cons_append]
      · have unlisted : d ∉ c :: listed := fun member => (List.mem_cons.mp member).elim same other
        have plain : '\\' ∉ [d] := by
          intro member
          rw [List.mem_singleton.mp member] at backslash
          exact unlisted backslash
        rw [if_neg unlisted, if_neg other, coded, replaceAll_word plain, ← coded, ih]

theorem mountinfoUnescape_encode (text : List Char) : mountinfoUnescape (encode escapedChars text) = text := by
  have spaces := @replaceAll_encode ' ' ['\t', '\n', '\\'] (by simp [escapedChars]) (by simp) (by simp) text
  have tabs := @replaceAll_encode '\t' ['\n', '\\'] (by simp [escapedChars]) (by simp) (by simp) text
  have newlines := @replaceAll_encode '\n' ['\\'] (by simp [escapedChars]) (by simp) (by simp) text
  have backslashes := @replaceAll_encode '\\' [] (by simp [escapedChars]) (by simp) (by simp) text
  simp only [octalCode] at spaces tabs newlines backslashes
  rw [mountinfoUnescape, escapedChars, spaces, tabs, newlines, backslashes, encode_nil]

end Escaping

section Paths

variable {names others : List (List Char)}

/-- Names of a path, as components hold them. -/
def Named (names : List (List Char)) : Prop := ∀ name ∈ names, name ≠ [] ∧ name ≠ ['.'] ∧ '/' ∉ name

theorem pathText_cons (name : List Char) (rest : List (List Char)) :
    pathText (name :: rest) = '/' :: (name ++ rest.flatMap fun name => '/' :: name) := rfl

theorem splitOn_names {name : List Char} (free : '/' ∉ name) (named : Named names) :
    (name ++ names.flatMap fun name => '/' :: name).splitOn '/' = name :: names := by
  induction names generalizing name with
  | nil =>
    rw [List.flatMap_nil, List.append_nil]
    exact List.splitOn_eq_singleton free
  | cons next rest ih =>
    have later := ih (named next List.mem_cons_self).2.2 fun other member =>
      named other (List.mem_cons_of_mem _ member)
    rw [List.flatMap_cons, List.cons_append, List.splitOn_append_cons_self, List.splitOn_eq_singleton free, later,
      List.singleton_append]

theorem readPath_pathText (named : Named names) : readPath (pathText names) = ⟨1, names⟩ := by
  cases names with
  | nil => decide
  | cons name rest =>
    have first := named name List.mem_cons_self
    have whole := splitOn_names first.2.2 fun other member => named other (List.mem_cons_of_mem _ member)
    have root : rootOf (pathText (name :: rest)) = 1 := by
      obtain ⟨c, more, letters⟩ := List.exists_cons_of_ne_nil first.1
      have other : c ≠ '/' := by
        rintro rfl
        exact first.2.2 (by rw [letters]; exact List.mem_cons_self)
      rw [pathText_cons, letters, List.cons_append]
      unfold rootOf
      split
      · rename_i same
        exact absurd (List.cons.inj (List.cons.inj same).2).1 other
      · rename_i same
        exact absurd (List.cons.inj (List.cons.inj same).2).1 other
      · rfl
      · rename_i absent
        exact absurd rfl (absent _)
    have parts : ((pathText (name :: rest)).splitOn '/').filter (fun part => part ≠ [] ∧ part ≠ ['.']) =
        name :: rest := by
      rw [pathText_cons, show '/' :: (name ++ rest.flatMap fun name => '/' :: name) =
        [] ++ '/' :: (name ++ rest.flatMap fun name => '/' :: name) from rfl, List.splitOn_append_cons_self, whole]
      rw [List.splitOn_eq_singleton List.not_mem_nil, List.singleton_append, List.filter_cons_of_neg (by simp)]
      apply List.filter_eq_self.mpr
      intro other member
      have kept := named other member
      simpa using ⟨kept.1, kept.2.1⟩
    rw [readPath, root, parts]

end Paths

section Lines

theorem universalNewlines_eq {text : List Char} (free : '\r' ∉ text) : universalNewlines text = text := by
  induction text with
  | nil => rfl
  | cons c rest ih =>
    rw [List.mem_cons, not_or] at free
    rw [universalNewlines, ih free.2]
    · rintro more rfl
      exact absurd rfl free.1
    · rintro rfl
      exact absurd rfl free.1

theorem isSpace_of_isLineBreak {c : Char} (breaks : isLineBreak c = true) : Plan.isSpace c = true := by
  simp only [isLineBreak, Plan.isSpace, Bool.or_eq_true, Bool.and_eq_true, decide_eq_true_eq] at breaks ⊢
  omega

theorem not_isLineBreak {c : Char} (plain : Plan.isSpace c = false) : isLineBreak c = false := by
  by_contra breaks
  rw [isSpace_of_isLineBreak (Bool.not_eq_false _ ▸ breaks)] at plain
  exact Bool.noConfusion plain

theorem strip_word {word : List Char} (plain : ∀ c ∈ word, Plan.isSpace c = false) : Plan.strip word = word := by
  have kept : ∀ text : List Char, (∀ c ∈ text, Plan.isSpace c = false) → text.dropWhile Plan.isSpace = text := by
    intro text each
    cases text with
    | nil => rfl
    | cons c rest => rw [List.dropWhile_cons_of_neg (by simp [each c List.mem_cons_self])]
  rw [Plan.strip, kept word plain, kept word.reverse fun c member => plain c (List.mem_reverse.mp member),
    List.reverse_reverse]

/-- The dash that parts a line is the first word that is a dash alone. -/
theorem partitionAt_joinWith {words : List (List Char)} (some_word : words ≠ [])
    (each : ∀ word ∈ words, Word Plan.isSpace word ∧ word ≠ ['-']) (rest : List Char) :
    partitionAt dashMark (joinWith ' ' words ++ (dashMark ++ rest)) = some (joinWith ' ' words, rest) := by
  have spaceless : ∀ word : List Char, Word Plan.isSpace word → ' ' ∉ word := by
    intro word proper member
    exact absurd (proper.plain ' ' member) (by decide)
  induction words with
  | nil => exact absurd rfl some_word
  | cons word others ih =>
    have plain := spaceless word (each word List.mem_cons_self).1
    cases others with
    | nil =>
      have here := @partitionAt_here dashMark (by decide) rest
      have found := partitionAt_word plain here
      rw [List.append_nil] at found
      exact found
    | cons next more =>
      have later := ih (List.cons_ne_nil _ _) fun other member => each other (List.mem_cons_of_mem _ member)
      have other : ¬ dashMark <+: ' ' :: (joinWith ' ' (next :: more) ++ (dashMark ++ rest)) := by
        intro starts
        have proper := each next (List.mem_cons_of_mem _ List.mem_cons_self)
        have open_next : ∃ tail, joinWith ' ' (next :: more) ++ (dashMark ++ rest) = next ++ ' ' :: tail := by
          cases more with
          | nil => exact ⟨_, rfl⟩
          | cons third more =>
            refine ⟨joinWith ' ' (third :: more) ++ (dashMark ++ rest), ?_⟩
            rw [joinWith, List.append_assoc, List.cons_append]
            exact List.cons_ne_nil _ _
        obtain ⟨tail, opened⟩ := open_next
        rw [opened] at starts
        obtain ⟨first, letters, spelled⟩ := List.exists_cons_of_ne_nil proper.1.nonempty
        rw [spelled, dashMark, List.cons_append, List.cons_prefix_cons, List.cons_prefix_cons] at starts
        have dash := starts.2.1
        cases letters with
        | nil => exact proper.2 (by rw [spelled, ← dash])
        | cons second letters =>
          rw [List.cons_append, List.cons_prefix_cons] at starts
          apply spaceless next proper.1
          rw [spelled, starts.2.2.1]
          exact List.mem_cons_of_mem _ List.mem_cons_self
      have found := partitionAt_word plain (partitionAt_skip other later)
      rw [joinWith, List.append_assoc, List.cons_append]
      · exact found
      · exact List.cons_ne_nil _ _

variable {decimal : Char → Option Nat} {entry : MountEntry}

namespace MountEntry

theorem mountWord_word (named : entry.WellNamed decimal) :
    Word Plan.isSpace entry.mountWord ∧ entry.mountWord ≠ ['-'] := by
  have opens : ∃ rest, entry.mountWord = '/' :: rest := by
    unfold mountWord encode pathText
    split
    · exact ⟨[], by decide⟩
    · rename_i names some_name
      obtain ⟨name, more, spelled⟩ := List.exists_cons_of_ne_nil some_name
      rw [spelled, List.flatMap_cons, List.cons_append, List.flatMap_cons]
      exact ⟨_, rfl⟩
  obtain ⟨rest, opened⟩ := opens
  refine ⟨⟨by rw [opened]; exact List.cons_ne_nil _ _, ?_⟩, by rw [opened]; simp⟩
  intro c member
  have letter : ∀ d ∈ pathText entry.mountPoint, Plan.isSpace d = true → d ∈ escapedChars := by
    intro d inside blank
    unfold pathText at inside
    split at inside
    · rw [List.mem_singleton.mp inside] at blank
      exact absurd blank (by decide)
    · obtain ⟨name, among, letters⟩ := List.mem_flatMap.mp inside
      rcases List.mem_cons.mp letters with rfl | letters
      · exact absurd blank (by decide)
      · exact named.blanks name among d letters blank
  obtain ⟨d, inside, coded⟩ := List.mem_flatMap.mp member
  by_cases listed : d ∈ escapedChars
  · rw [if_pos listed] at coded
    simp only [escapedChars, List.mem_cons, List.not_mem_nil, or_false] at listed
    rcases listed with rfl | rfl | rfl | rfl
    all_goals
      simp only [octalCode, List.mem_cons, List.not_mem_nil, or_false] at coded
      rcases coded with rfl | rfl | rfl | rfl
      all_goals decide
  · rw [if_neg listed, List.mem_singleton] at coded
    subst coded
    cases blank : Plan.isSpace c with
    | false => rfl
    | true => exact absurd (letter c inside blank) listed

theorem leftWords_words (named : entry.WellNamed decimal) :
    ∀ word ∈ entry.leftWords, Word Plan.isSpace word ∧ word ≠ ['-'] := by
  intro word member
  by_cases mount : word = entry.mountWord
  · rw [mount]
    exact mountWord_word named
  · apply named.words
    simp only [leftWords, List.cons_append, List.nil_append, List.mem_cons] at member ⊢
    tauto

variable (entry) in
/-- What is read of the line of a mount. -/
def info (decimal : Char → Option Nat) : MountInfo where
  mountId := (readSigned decimal entry.mountId).getD 0
  mountPoint := ⟨1, entry.mountPoint⟩
  fstype := entry.fstype
  readonly := ['r', 'o'] ∈ entry.options.splitOn ',' ∨
    ['r', 'o'] ∈ (((wordsBy Plan.isSpace (encode escapedChars entry.source ++ ' ' :: entry.superOptions))[1]?.map
      fun set => set.splitOn ',').getD [])

theorem partitionAt_line (named : entry.WellNamed decimal) :
    partitionAt dashMark entry.line = some (joinWith ' ' entry.leftWords, entry.rightText) :=
  partitionAt_joinWith (by simp [leftWords]) (leftWords_words named) _

theorem words_leftWords (named : entry.WellNamed decimal) :
    wordsBy Plan.isSpace (joinWith ' ' entry.leftWords) = entry.leftWords :=
  wordsBy_joinWith (by decide) fun word member => (leftWords_words named word member).1

theorem words_rightText (named : entry.WellNamed decimal) : wordsBy Plan.isSpace entry.rightText =
    entry.fstype :: wordsBy Plan.isSpace (encode escapedChars entry.source ++ ' ' :: entry.superOptions) :=
  wordsBy_cons named.fstype.plain named.fstype.nonempty (by decide) _

theorem matchLine_line (named : entry.WellNamed decimal) :
    matchLine entry.line = some (pathText entry.mountPoint, entry.fstype) := by
  rw [matchLine, partitionAt_line named]
  simp only
  rw [words_leftWords named, words_rightText named]
  simp only [leftWords, List.cons_append]
  rw [mountWord, mountinfoUnescape_encode]

theorem readMountLine_line (named : entry.WellNamed decimal) :
    readMountLine decimal entry.line = some (entry.info decimal) := by
  have number : readSigned decimal (Plan.strip entry.mountId) = some ((readSigned decimal entry.mountId).getD 0) := by
    rw [strip_word (named.words entry.mountId (by simp)).1.plain]
    obtain ⟨value, read⟩ := Option.isSome_iff_exists.mp named.number
    rw [read, Option.getD_some]
  rw [readMountLine, partitionAt_line named]
  simp only
  rw [words_leftWords named, words_rightText named]
  simp only [leftWords, List.cons_append]
  rw [number, mountWord, mountinfoUnescape_encode, readPath_pathText named.names]
  rfl

theorem line_unbroken (named : entry.WellNamed decimal) : ∀ c ∈ entry.line, isLineBreak c = false := by
  have joined : ∀ words : List (List Char), (∀ word ∈ words, Word Plan.isSpace word ∧ word ≠ ['-']) →
      ∀ c ∈ joinWith ' ' words, isLineBreak c = false := by
    intro words each
    induction words with
    | nil => exact fun c member => absurd member List.not_mem_nil
    | cons word rest ih =>
      intro c member
      have plain := (each word List.mem_cons_self).1.plain
      cases rest with
      | nil => exact not_isLineBreak (plain c member)
      | cons next more =>
        rw [joinWith, List.mem_append, List.mem_cons] at member
        · rcases member with inside | rfl | inside
          · exact not_isLineBreak (plain c inside)
          · decide
          · exact ih (fun other among => each other (List.mem_cons_of_mem _ among)) c inside
        · exact List.cons_ne_nil _ _
  intro c member
  simp only [line, rightText, List.mem_append, List.mem_cons] at member
  rcases member with inside | dash | inside | rfl | inside | rfl | inside
  · exact joined _ (leftWords_words named) c inside
  · simp only [dashMark, List.mem_cons, List.not_mem_nil, or_false] at dash
    rcases dash with rfl | rfl | rfl
    all_goals decide
  · exact not_isLineBreak (named.fstype.plain c inside)
  · decide
  · exact named.tail c (List.mem_append_left _ inside)
  · decide
  · exact named.tail c (List.mem_append_right _ inside)

end MountEntry

variable {entries : List MountEntry}

theorem universalNewlines_mountTable (named : ∀ entry ∈ entries, entry.WellNamed decimal) :
    universalNewlines (mountTable entries) = mountTable entries := by
  apply universalNewlines_eq
  intro member
  obtain ⟨entry, among, inside⟩ := List.mem_flatMap.mp member
  rcases List.mem_append.mp inside with inside | newline
  · exact absurd (MountEntry.line_unbroken (named entry among) _ inside) (by decide)
  · exact absurd newline (by decide)

theorem matched_mountTable (named : ∀ entry ∈ entries, entry.WellNamed decimal) :
    (linesBy (· = '\n') (universalNewlines (mountTable entries))).filterMap matchLine =
      entries.map fun entry => (pathText entry.mountPoint, entry.fstype) := by
  have lines : linesBy (· = '\n') (mountTable entries) = entries.map MountEntry.line := by
    apply linesBy_flatMap (by decide)
    intro entry among c inside
    rw [decide_eq_false_iff_not]
    rintro rfl
    exact absurd (MountEntry.line_unbroken (named entry among) _ inside) (by decide)
  rw [universalNewlines_mountTable named, lines, List.filterMap_map, ← List.filterMap_eq_map]
  apply List.filterMap_congr
  intro entry among
  exact MountEntry.matchLine_line (named entry among)

theorem read_mountTable (named : ∀ entry ∈ entries, entry.WellNamed decimal) :
    (linesBy isLineBreak (universalNewlines (mountTable entries))).filterMap (readMountLine decimal) =
      entries.map fun entry => entry.info decimal := by
  have lines : linesBy isLineBreak (mountTable entries) = entries.map MountEntry.line :=
    linesBy_flatMap (by decide) fun entry among => MountEntry.line_unbroken (named entry among)
  rw [universalNewlines_mountTable named, lines, List.filterMap_map, ← List.filterMap_eq_map]
  apply List.filterMap_congr
  intro entry among
  exact MountEntry.readMountLine_line (named entry among)

end Lines

end ExaServe.State.Mounts
