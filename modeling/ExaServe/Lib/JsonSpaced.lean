import ExaServe.Lib.JsonWords

namespace Lib.Json

/-- The fields of an object, with the default separators. -/
def spacedFields : List (String × Json) → List Char
  | [] => []
  | [field] => quote field.1 ++ ':' :: ' ' :: dumps field.2
  | field :: rest => quote field.1 ++ ':' :: ' ' :: (dumps field.2 ++ ',' :: ' ' :: spacedFields rest)

/-- `json.dumps` of an object of texts and numbers, in the order of its fields. -/
def dumpsSpaced (fields : List (String × Json)) : List Char := '\x7b' :: (spacedFields fields ++ ['\x7d'])

theorem skipSpace_blank (rest : List Char) : skipSpace (' ' :: rest) = skipSpace rest := by
  rw [skipSpace, if_pos (Or.inl rfl)]

theorem opens_spacedFields (field : String × Json) (rest : List (String × Json)) :
    opens (spacedFields (field :: rest)) := by
  cases rest with
  | nil => exact ⟨'"', _, rfl, by decide⟩
  | cons next rest => exact ⟨'"', _, rfl, by decide⟩

theorem parseFields_spaced {fields : List (String × Json)} (nonempty : fields ≠ [])
    (reads : ∀ field ∈ fields, Reads field.2) (rest : List Char) {fuel : Nat}
    (enough : 2 * (spacedFields fields).length + 1 ≤ fuel) :
    parseFields fuel (spacedFields fields ++ '\x7d' :: rest) =
      some (fields.map fun field => (field.1, canonical field.2), rest) := by
  induction fields generalizing fuel with
  | nil => exact absurd rfl nonempty
  | cons field fields ih =>
    obtain ⟨fuel, rfl⟩ : ∃ less, fuel = less + 1 := ⟨fuel - 1, by omega⟩
    have first := reads field List.mem_cons_self
    have key_text : ∀ after, quote field.1 ++ after =
        '"' :: (field.1.toList.flatMap escapeChar ++ '"' :: after) := by
      intro after
      simp [quote]
    cases fields with
    | nil =>
      simp only [spacedFields, List.length_append, List.length_cons] at enough ⊢
      rw [parseFields, List.append_assoc, List.cons_append, List.cons_append, key_text]
      simp only [Option.bind_eq_bind, expect_same, Option.bind_some, parseChars_quote,
        skipSpace_mark _ (c := ':') (by decide), skipSpace_blank, skipSpace_opens (opens_append (opens_dumps field.2) _)]
      rw [first _ fuel (stops_mark _ (by decide)) (by omega)]
      simp only [Option.bind_some, skipSpace_mark _ (c := '\x7d') (by decide),
        expect_other rest (show '\x7d' ≠ ',' by decide), expect_same, String.ofList_toList, List.map_cons, List.map_nil]
    | cons next fields =>
      have tail := fun enough => @ih (List.cons_ne_nil _ _)
        (fun other member => reads other (List.mem_cons_of_mem _ member)) fuel enough
      have open_ := opens_append (opens_spacedFields next fields) ('\x7d' :: rest)
      rw [spacedFields] at enough ⊢
      · simp only [List.length_append, List.length_cons] at enough
        rw [parseFields, List.append_assoc, List.cons_append, List.cons_append, List.append_assoc, List.cons_append,
          List.cons_append, key_text]
        simp only [Option.bind_eq_bind, expect_same, Option.bind_some, parseChars_quote,
          skipSpace_mark _ (c := ':') (by decide), skipSpace_blank, skipSpace_opens (opens_append (opens_dumps field.2) _)]
        rw [first _ fuel (stops_mark _ (by decide)) (by omega)]
        simp only [Option.bind_some, skipSpace_mark _ (c := ',') (by decide), expect_same, skipSpace_blank,
          skipSpace_opens open_, tail (by omega), String.ofList_toList, List.map_cons]
      all_goals simp

/-- An object printed with the default separators is read back, its fields in their order. -/
theorem loads_spaced {fields : List (String × Json)} (nonempty : fields ≠ []) (distinct : (fieldNames fields).Nodup)
    (reads : ∀ field ∈ fields, Reads field.2) :
    loads (dumpsSpaced fields) = some (.obj (fields.map fun field => (field.1, canonical field.2))) := by
  have names : fieldNames (fields.map fun field => (field.1, canonical field.2)) = fieldNames fields := by
    simp [fieldNames, Function.comp_def]
  have parsed := @parseFields_spaced fields nonempty reads [] (2 * (dumpsSpaced fields).length + 1) (by
    simp only [dumpsSpaced, List.length_cons, List.length_append]
    omega)
  have inside : opens (spacedFields fields ++ ['\x7d']) := by
    cases fields with
    | nil => exact absurd rfl nonempty
    | cons field rest => exact opens_append (opens_spacedFields field rest) _
  have outside : opens (dumpsSpaced fields) := ⟨'\x7b', _, rfl, by decide⟩
  have close : expect '\x7d' (spacedFields fields ++ ['\x7d']) = none := by
    obtain ⟨c, tail, same, plain⟩ := inside
    rw [same, expect_other tail plain.2.1]
  unfold loads
  rw [skipSpace_opens outside, dumpsSpaced, parseValue, if_neg (by decide), if_neg (by decide), if_pos rfl,
    skipSpace_opens inside, close]
  simp only [Option.bind_eq_bind]
  rw [← dumpsSpaced, parsed]
  simp only [Option.bind_some]
  rw [if_pos (names ▸ distinct)]
  rfl

section Visible

/-- A text without control characters, which is therefore one line. -/
def Visible (text : List Char) : Prop := ∀ c ∈ text, 32 ≤ c.toNat

theorem Visible.append {left right : List Char} (first : Visible left) (second : Visible right) :
    Visible (left ++ right) := by
  intro c member
  rcases List.mem_append.mp member with inside | inside
  · exact first c inside
  · exact second c inside

theorem Visible.cons {c : Char} {text : List Char} (head : 32 ≤ c.toNat) (tail : Visible text) : Visible (c :: text) := by
  intro d member
  rcases List.mem_cons.mp member with rfl | inside
  · exact head
  · exact tail d inside

theorem visible_nil : Visible [] := fun _ member => by cases member

theorem Visible.one_line {text : List Char} (visible : Visible text) : '\n' ∉ text ∧ '\r' ∉ text := by
  constructor
  · intro listed
    exact absurd (visible _ listed) (by decide)
  · intro listed
    exact absurd (visible _ listed) (by decide)

theorem hexDigit_visible : ∀ n < 16, 32 ≤ (hexDigit n).toNat := by decide

theorem unicodeEscape_visible (n : Nat) : Visible (unicodeEscape n) := by
  have digit : ∀ m, 32 ≤ (hexDigit (m % 16)).toNat := fun m => hexDigit_visible _ (Nat.mod_lt _ (by decide))
  exact .cons (by decide) (.cons (by decide) (.cons (digit _) (.cons (digit _) (.cons (digit _)
    (.cons (digit _) visible_nil)))))

theorem escapeChar_visible (c : Char) : Visible (escapeChar c) := by
  have shape := escapeChar_shape c
  generalize escapeChar c = text at shape ⊢
  cases shape with
  | plain printable => exact .cons printable.1 visible_nil
  | quoted => exact .cons (by decide) (.cons (by decide) visible_nil)
  | letter d listed =>
    have shown : ['\\', 'n', 'r', 't', 'f', 'b'].all (fun d => decide (32 ≤ d.toNat)) = true := by decide
    exact .cons (by decide) (.cons (of_decide_eq_true (List.all_eq_true.mp shown d listed)) visible_nil)
  | unit n => exact unicodeEscape_visible n
  | pair high low => exact (unicodeEscape_visible high).append (unicodeEscape_visible low)

theorem quote_visible (text : String) : Visible (quote text) := by
  refine .cons (by decide) (.append ?_ (.cons (by decide) visible_nil))
  intro c member
  obtain ⟨source, _, inside⟩ := List.mem_flatMap.mp member
  exact escapeChar_visible source c inside

theorem isNumberChar_visible {c : Char} (number : isNumberChar c = true) : 32 ≤ c.toNat := by
  simp only [isNumberChar, Bool.or_eq_true, decide_eq_true_eq] at number
  rcases number with ((((digit | rfl) | rfl) | rfl) | rfl) | rfl
  · have zero := (Char.isDigit_iff_toNat.mp digit).1
    have space : 32 ≤ '0'.toNat := by decide
    omega
  all_goals decide

theorem number_visible {text : List Char} (number : ∀ c ∈ text, isNumberChar c = true) : Visible text :=
  fun c member => isNumberChar_visible (number c member)

theorem spacedFields_visible {fields : List (String × Json)} (visible : ∀ field ∈ fields, Visible (dumps field.2)) :
    Visible (spacedFields fields) := by
  induction fields with
  | nil => exact visible_nil
  | cons field rest ih =>
    obtain ⟨here, others⟩ := List.forall_mem_cons.mp visible
    cases rest with
    | nil => exact (quote_visible _).append (.cons (by decide) (.cons (by decide) here))
    | cons next rest =>
      exact (quote_visible _).append (.cons (by decide) (.cons (by decide)
        (here.append (.cons (by decide) (.cons (by decide) (ih others))))))

theorem dumpsSpaced_visible {fields : List (String × Json)} (visible : ∀ field ∈ fields, Visible (dumps field.2)) :
    Visible (dumpsSpaced fields) :=
  .cons (by decide) ((spacedFields_visible visible).append (.cons (by decide) visible_nil))

end Visible

section Words

variable {word : List Char}

/-- A text or a number, as a field of a row. -/
inductive Leaf : Json → Prop where
  | text (text : String) : Leaf (.str text)
  | number {value : Json} : (∀ c ∈ dumps value, isNumberChar c = true) → (∀ text, value ≠ .str text) → Leaf value

/-- A text that a search for the quoted word finds. -/
def Shows (word : List Char) (value : Json) : Prop := ∃ text, value = .str text ∧ lastSegment text.toList = word

theorem number_unquoted {text : List Char} (number : ∀ c ∈ text, isNumberChar c = true) : '"' ∉ text := by
  intro listed
  exact absurd (number _ listed) (by decide)

theorem quotedWord_field (plain : PlainWord word) (colon : ':' ∉ word) {field : String × Json} (leaf : Leaf field.2)
    {rest : List Char} {later : Prop}
    (tail : ∀ lead : List Char, '"' ∉ lead → (quotedWord word <:+: '"' :: (lead ++ rest) ↔ later)) :
    quotedWord word <:+: quote field.1 ++ ':' :: ' ' :: (dumps field.2 ++ rest) ↔
      (lastSegment field.1.toList = word ∨ Shows word field.2) ∨ later := by
  have free : '"' ∉ word := fun listed => (plain '"' listed).2.2 rfl
  have key : quote field.1 ++ ':' :: ' ' :: (dumps field.2 ++ rest) =
      '"' :: (field.1.toList.flatMap escapeChar ++ '"' :: (':' :: ' ' :: (dumps field.2 ++ rest))) := by
    simp [quote]
  rw [key, quotedWord_string plain, or_assoc]
  apply or_congr_right
  generalize field.2 = value at leaf ⊢
  cases leaf with
  | text text =>
    have mark : [':', ' '] ≠ word := fun same => colon (same ▸ List.mem_cons_self)
    have shows : Shows word (.str text) ↔ lastSegment text.toList = word := by
      constructor
      · intro shown
        obtain ⟨other, same, last⟩ := shown
        cases same
        exact last
      · intro last
        exact ⟨text, rfl, last⟩
    have value : ':' :: ' ' :: (dumps (.str text) ++ rest) =
        [':', ' '] ++ '"' :: (text.toList.flatMap escapeChar ++ '"' :: rest) := by
      simp [dumps, quote]
    rw [value, quotedWord_segment free (by decide), quotedWord_string plain, shows, ← tail [] List.not_mem_nil]
    exact or_iff_right mark
  | number chars other =>
    have hidden : ¬ Shows word value := fun shown => other _ shown.choose_spec.1
    have bare : '"' ∉ ':' :: ' ' :: dumps value := by
      rw [List.mem_cons, List.mem_cons, not_or, not_or]
      exact ⟨by decide, by decide, number_unquoted chars⟩
    rw [or_iff_right hidden, ← tail _ bare]
    rfl

def spacedTail : List (String × Json) → List Char
  | [] => []
  | field :: rest => ',' :: ' ' :: spacedFields (field :: rest)

theorem spacedFields_cons (field : String × Json) (rest : List (String × Json)) :
    spacedFields (field :: rest) = quote field.1 ++ ':' :: ' ' :: (dumps field.2 ++ spacedTail rest) := by
  cases rest with
  | nil => simp [spacedFields, spacedTail]
  | cons next rest => rfl

theorem quotedWord_tail (plain : PlainWord word) (colon : ':' ∉ word) (comma : ',' ∉ word)
    {fields : List (String × Json)} (leaves : ∀ field ∈ fields, Leaf field.2) {lead : List Char} (unquoted : '"' ∉ lead) :
    quotedWord word <:+: '"' :: (lead ++ (spacedTail fields ++ ['\x7d'])) ↔
      ∃ field ∈ fields, lastSegment field.1.toList = word ∨ Shows word field.2 := by
  have free : '"' ∉ word := fun listed => (plain '"' listed).2.2 rfl
  induction fields generalizing lead with
  | nil =>
    simp only [spacedTail, List.nil_append, List.not_mem_nil, false_and, exists_false, iff_false]
    apply quotedWord_last
    rw [List.mem_append, not_or]
    exact ⟨unquoted, by decide⟩
  | cons field rest ih =>
    obtain ⟨here, others⟩ := List.forall_mem_cons.mp leaves
    have between : '"' ∉ lead ++ [',', ' '] := by
      rw [List.mem_append, not_or]
      exact ⟨unquoted, by decide⟩
    have apart : lead ++ [',', ' '] ≠ word := fun same => comma (same ▸ by simp)
    have next := @quotedWord_field _ plain colon _ here (spacedTail rest ++ ['\x7d']) _ fun lead bare => ih others bare
    have text : lead ++ (spacedTail (field :: rest) ++ ['\x7d']) = (lead ++ [',', ' ']) ++
        '"' :: (field.1.toList.flatMap escapeChar ++ '"' :: (':' :: ' ' :: (dumps field.2 ++ (spacedTail rest ++ ['\x7d'])))) := by
      rw [spacedTail, spacedFields_cons]
      simp [quote]
    have opened : quote field.1 ++ ':' :: ' ' :: (dumps field.2 ++ (spacedTail rest ++ ['\x7d'])) =
        '"' :: (field.1.toList.flatMap escapeChar ++ '"' :: (':' :: ' ' :: (dumps field.2 ++ (spacedTail rest ++ ['\x7d'])))) := by
      simp [quote]
    rw [text, quotedWord_segment free between, or_iff_right apart, ← opened, next, List.exists_mem_cons_iff]

/-- A quoted word is seen in a row exactly when it is the end of a key or of a text. -/
theorem quotedWord_spaced (plain : PlainWord word) (colon : ':' ∉ word) (comma : ',' ∉ word)
    {fields : List (String × Json)} (nonempty : fields ≠ []) (leaves : ∀ field ∈ fields, Leaf field.2) :
    quotedWord word <:+: dumpsSpaced fields ↔
      ∃ field ∈ fields, lastSegment field.1.toList = word ∨ Shows word field.2 := by
  obtain ⟨field, rest, rfl⟩ := List.exists_cons_of_ne_nil nonempty
  obtain ⟨here, others⟩ := List.forall_mem_cons.mp leaves
  have next := @quotedWord_field _ plain colon _ here (spacedTail rest ++ ['\x7d']) _
    fun lead bare => quotedWord_tail plain colon comma others bare
  have text : dumpsSpaced (field :: rest) = ['\x7b'] ++
      '"' :: (field.1.toList.flatMap escapeChar ++ '"' :: (':' :: ' ' :: (dumps field.2 ++ (spacedTail rest ++ ['\x7d'])))) := by
    rw [dumpsSpaced, spacedFields_cons]
    simp [quote]
  have opened : quote field.1 ++ ':' :: ' ' :: (dumps field.2 ++ (spacedTail rest ++ ['\x7d'])) =
      '"' :: (field.1.toList.flatMap escapeChar ++ '"' :: (':' :: ' ' :: (dumps field.2 ++ (spacedTail rest ++ ['\x7d'])))) := by
    simp [quote]
  rw [text, quotedWord_skip (by decide), ← opened, next, List.exists_mem_cons_iff]

end Words

end Lib.Json
