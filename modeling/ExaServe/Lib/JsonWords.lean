import ExaServe.Lib.JsonRoundTrip

namespace Lib.Json

section QuotedWord

/-- A word between two quotes. -/
def quotedWord (word : List Char) : List Char := '"' :: (word ++ ['"'])

variable {word segment rest : List Char}

theorem quotedWord_skip (plain : '"' ∉ segment) :
    quotedWord word <:+: segment ++ '"' :: rest ↔ quotedWord word <:+: '"' :: rest := by
  induction segment with
  | nil => rfl
  | cons c segment ih =>
    rw [List.mem_cons, not_or] at plain
    rw [List.cons_append, List.infix_cons_iff, ih plain.2, quotedWord, List.cons_prefix_cons]
    exact or_iff_right fun start => plain.1 start.1

theorem quoted_prefix_iff (free : '"' ∉ word) (plain : '"' ∉ segment) :
    word ++ ['"'] <+: segment ++ '"' :: rest ↔ segment = word := by
  induction word generalizing segment with
  | nil =>
    cases segment with
    | nil => simp
    | cons c segment =>
      rw [List.mem_cons, not_or] at plain
      simp [plain.1]
  | cons c word ih =>
    rw [List.mem_cons, not_or] at free
    cases segment with
    | nil => simp [Ne.symm free.1]
    | cons d segment =>
      rw [List.mem_cons, not_or] at plain
      rw [List.cons_append, List.cons_append, List.cons_prefix_cons, ih free.2 plain.2, List.cons_eq_cons]
      exact and_congr_left' eq_comm

/-- Between two quotes without another in between stands the word, or it stands behind them. -/
theorem quotedWord_segment (free : '"' ∉ word) (plain : '"' ∉ segment) :
    quotedWord word <:+: '"' :: (segment ++ '"' :: rest) ↔ segment = word ∨ quotedWord word <:+: '"' :: rest := by
  rw [List.infix_cons_iff, quotedWord_skip plain, quotedWord, List.cons_prefix_cons, quoted_prefix_iff free plain]
  simp

theorem quotedWord_last (rest : List Char) (plain : '"' ∉ rest) : ¬ quotedWord word <:+: '"' :: rest := by
  intro inside
  have quotes := inside.sublist.count_le '"'
  have one : ('"' :: rest).count '"' = 1 := by
    rw [List.count_cons_self, List.count_eq_zero.mpr plain]
  have two : 2 ≤ (quotedWord word).count '"' := by
    rw [quotedWord, List.count_cons_self, List.count_append, List.count_singleton_self]
    omega
  omega

end QuotedWord

section Escaped

theorem escapeChar_cases (c : Char) : escapeChar c = [c] ∨ ∃ tail, escapeChar c = '\\' :: tail := by
  have shape := escapeChar_shape c
  generalize escapeChar c = text at shape ⊢
  cases shape with
  | plain => exact .inl rfl
  | quoted => exact .inr ⟨_, rfl⟩
  | letter => exact .inr ⟨_, rfl⟩
  | unit => exact .inr ⟨_, rfl⟩
  | pair => exact .inr ⟨_, rfl⟩

theorem hexDigit_plain : ∀ n < 16, hexDigit n ≠ '"' := by decide

theorem unicodeEscape_plain (n : Nat) : '"' ∉ unicodeEscape n := by
  have digit (m : Nat) : '"' ≠ hexDigit (m % 16) := Ne.symm (hexDigit_plain _ (Nat.mod_lt _ (by decide)))
  simp [unicodeEscape, hex4, digit]

theorem escapeChar_plain {c : Char} (other : c ≠ '"') : '"' ∉ escapeChar c := by
  have shape := escapeChar_shape c
  generalize escapeChar c = text at shape ⊢
  cases shape with
  | plain => exact fun listed => other (List.mem_singleton.mp listed).symm
  | quoted same => exact absurd same other
  | letter d listed =>
    have free : ['\\', 'n', 'r', 't', 'f', 'b'].all (fun d => decide ('"' ∉ ['\\', d])) = true := by decide
    exact of_decide_eq_true (List.all_eq_true.mp free d listed)
  | unit n => exact unicodeEscape_plain n
  | pair high low =>
    rw [List.mem_append, not_or]
    exact ⟨unicodeEscape_plain high, unicodeEscape_plain low⟩

theorem escaped_plain {text : List Char} (plain : '"' ∉ text) : '"' ∉ text.flatMap escapeChar := by
  rw [List.mem_flatMap]
  rintro ⟨c, listed, quoted⟩
  exact escapeChar_plain (fun same => plain (same ▸ listed)) quoted

/-- A word of characters that stand for themselves. -/
def PlainWord (word : List Char) : Prop := ∀ c ∈ word, escapeChar c = [c] ∧ c ≠ '\\' ∧ c ≠ '"'

instance (word : List Char) : Decidable (PlainWord word) := List.decidableBAll _ word

theorem escaped_eq_word {word : List Char} (plain : PlainWord word) (text : List Char) :
    text.flatMap escapeChar = word ↔ text = word := by
  induction text generalizing word with
  | nil => rfl
  | cons c rest ih =>
    rw [List.flatMap_cons]
    cases word with
    | nil =>
      have some_char := escapeChar_nonempty c
      constructor
      · intro empty
        rw [(List.append_eq_nil_iff.mp empty).1] at some_char
        exact absurd some_char (by decide)
      · intro same
        cases same
    | cons d word =>
      obtain ⟨⟨kept, bare, -⟩, others⟩ := List.forall_mem_cons.mp plain
      rcases escapeChar_cases c with single | ⟨tail, escaped⟩
      · rw [single, List.singleton_append, List.cons_eq_cons, List.cons_eq_cons, ih others]
      · constructor
        · intro same
          rw [escaped, List.cons_append] at same
          exact absurd (List.cons.inj same).1.symm bare
        · intro same
          obtain ⟨rfl, -⟩ := List.cons.inj same
          rw [kept] at escaped
          exact absurd (List.cons.inj escaped).1 bare

/-- What follows the last quote of a text. -/
def lastSegment (text : List Char) : List Char := (text.reverse.takeWhile (· ≠ '"')).reverse

theorem lastSegment_plain {text : List Char} (plain : '"' ∉ text) : lastSegment text = text := by
  rw [lastSegment, List.takeWhile_eq_self_iff.mpr, List.reverse_reverse]
  intro c listed
  exact decide_eq_true fun same => plain (same ▸ List.mem_reverse.mp listed)

theorem lastSegment_quote (before after : List Char) : lastSegment (before ++ '"' :: after) = lastSegment after := by
  have stops : ∀ text : List Char, (text ++ '"' :: before.reverse).takeWhile (· ≠ '"') = text.takeWhile (· ≠ '"') := by
    intro text
    induction text with
    | nil => simp
    | cons c rest ih =>
      rw [List.cons_append, List.takeWhile_cons, List.takeWhile_cons, ih]
  unfold lastSegment
  rw [List.reverse_append, List.reverse_cons, List.append_assoc, List.singleton_append, stops]

/-- A quoted word is seen in a string of a text exactly when the string is the word, or ends with a quote and it. -/
theorem quotedWord_string {word : List Char} (plain : PlainWord word) (text rest : List Char) :
    quotedWord word <:+: '"' :: (text.flatMap escapeChar ++ '"' :: rest) ↔
      lastSegment text = word ∨ quotedWord word <:+: '"' :: rest := by
  have free : '"' ∉ word := fun listed => (plain '"' listed).2.2 rfl
  have bare : '\\' ∉ word := fun listed => (plain '\\' listed).2.1 rfl
  induction hlen : text.length using Nat.strong_induction_on generalizing text with
  | h size ih =>
    by_cases quoted : '"' ∈ text
    · obtain ⟨before, after, rfl, first⟩ := List.eq_append_cons_of_mem quoted
      have shorter : after.length < size := by
        rw [← hlen, List.length_append, List.length_cons]
        omega
      have escaped : (before ++ '"' :: after).flatMap escapeChar ++ '"' :: rest =
          (before.flatMap escapeChar ++ ['\\']) ++ '"' :: (after.flatMap escapeChar ++ '"' :: rest) := by
        rw [List.flatMap_append, List.flatMap_cons, show escapeChar '"' = ['\\', '"'] from rfl]
        simp only [List.append_assoc, List.cons_append, List.nil_append]
      have open_ : '"' ∉ before.flatMap escapeChar ++ ['\\'] := by
        rw [List.mem_append, not_or]
        exact ⟨escaped_plain first, by decide⟩
      have other : before.flatMap escapeChar ++ ['\\'] ≠ word := by
        intro same
        exact bare (same ▸ List.mem_append_right _ (List.mem_singleton_self _))
      have tail : quotedWord word <:+: '"' :: (after.flatMap escapeChar ++ '"' :: rest) ↔
          lastSegment after = word ∨ quotedWord word <:+: '"' :: rest := ih after.length shorter after rfl
      rw [escaped, quotedWord_segment free open_, lastSegment_quote, ← tail]
      exact or_iff_right other
    · rw [quotedWord_segment free (escaped_plain quoted), escaped_eq_word plain, lastSegment_plain quoted]

end Escaped

end Lib.Json
