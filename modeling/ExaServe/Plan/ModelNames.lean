import ExaServe.Plan.Applications
import ExaServe.Plan.PlacementSound

namespace ExaServe.Plan

open Lib Control

section Served

def getModelStorageName (modelId : String) : String :=
  String.ofList (modelId.toList.flatMap fun c => if c = '/' then ['-', '-'] else [c])

def replaceDots (name : String) : String := String.ofList (name.toList.map fun c => if c = '.' then '-' else c)

def getModelRouteName (modelId : String) : String := replaceDots (getModelStorageName modelId)

/-- The names a replica of the model answers to. -/
def servedModelNames (modelId : String) : List String :=
  [modelId, getModelStorageName modelId, replaceDots (getModelStorageName modelId)]

/-- The names of the plan are served, and every module derives the same route. -/
structure NamesAgree (modelId : String) : Prop where
  storage : storageName modelId ∈ servedModelNames modelId
  route : routeName (storageName modelId) ∈ servedModelNames modelId
  derived : getModelRouteName modelId = routeName (storageName modelId)

/-- Neither an uppercase letter nor a dot or dash at the end. -/
structure PlainModelId (modelId : String) : Prop where
  lower : ∀ c ∈ modelId.toList, c.isUpper = false
  last : modelId.toList.getLast? ≠ some '-' ∧ modelId.toList.getLast? ≠ some '.'

end Served

section Letters

theorem toLower_eq_iff (c : Char) : c.toLower = c ↔ c.isUpper = false := by
  unfold Char.toLower
  by_cases upper : c.val ≥ 'A'.val ∧ c.val ≤ 'Z'.val
  · have capital : c.isUpper = true := decide_eq_true upper
    have least : 65 ≤ c.toNat := upper.1
    have most : c.toNat ≤ 90 := upper.2
    rw [dif_pos upper, capital]
    constructor
    · intro same
      have code := congrArg Char.toNat same
      have shift : ('a'.val - 'A'.val).toNat = 32 := by decide
      simp only [Char.toNat, Char.reduceVal, UInt32.toNat_add] at code least most shift
      omega
    · intro lower
      cases lower
  · have small : c.isUpper = false := decide_eq_false upper
    rw [dif_neg upper, small]
    exact ⟨fun _ => rfl, fun _ => rfl⟩

/-- Lowering a letter gives a letter again, and what is not one stays. -/
theorem toLower_cases (c : Char) : c.toLower = c ∨ 97 ≤ c.toLower.toNat ∧ c.toLower.toNat ≤ 122 := by
  unfold Char.toLower
  by_cases upper : c.val ≥ 'A'.val ∧ c.val ≤ 'Z'.val
  · right
    have least : 65 ≤ c.toNat := upper.1
    have most : c.toNat ≤ 90 := upper.2
    have shift : ('a'.val - 'A'.val).toNat = 32 := by decide
    rw [dif_pos upper]
    simp only [Char.toNat, Char.reduceVal, UInt32.toNat_add] at least most shift ⊢
    omega
  · exact .inl (dif_neg upper)

theorem isUpper_code {c : Char} (upper : c.isUpper = true) : 65 ≤ c.toNat ∧ c.toNat ≤ 90 :=
  of_decide_eq_true upper

theorem lower_letter {c : Char} (letter : 97 ≤ c.toNat ∧ c.toNat ≤ 122) : c.isLower = true := by
  have first : c.val ≥ 'a'.val := UInt32.le_iff_toNat_le.mpr letter.1
  have last : c.val ≤ 'z'.val := UInt32.le_iff_toNat_le.mpr letter.2
  exact Bool.and_eq_true_iff.mpr ⟨decide_eq_true first, decide_eq_true last⟩

@[simp] theorem toLower_toLower (c : Char) : c.toLower.toLower = c.toLower := by
  rw [toLower_eq_iff]
  cases upper : c.toLower.isUpper with
  | false => rfl
  | true =>
    have code := isUpper_code upper
    rcases toLower_cases c with same | letter
    · rw [same] at upper
      rw [(toLower_eq_iff c).mp same] at upper
      cases upper
    · omega

theorem toLower_eq_dash {c : Char} : c.toLower = '-' ↔ c = '-' := by
  constructor
  · intro low
    rcases toLower_cases c with same | letter
    · rw [← same, low]
    · rw [low] at letter
      exact absurd letter (by decide)
  · rintro rfl
    decide

/-- A character `_route_name` keeps. -/
def isRouteChar (c : Char) : Bool := c.isAlphanum || c = '_' || c = '-'

theorem isRouteChar_lower {c : Char} (kept : isRouteChar c = true) : isRouteChar c.toLower = true := by
  rcases toLower_cases c with same | letter
  · rw [same]
    exact kept
  · have letters : c.toLower.isAlphanum = true := by
      change ((c.toLower.isUpper || c.toLower.isLower) || c.toLower.isDigit) = true
      rw [lower_letter letter, Bool.or_true, Bool.true_or]
    simp [isRouteChar, letters]

end Letters

section Dashes

theorem stripDashes_sublist (text : List Char) : (stripDashes text).Sublist text := by
  unfold stripDashes
  have inner := (List.dropWhile_suffix (p := fun c => decide (c = '-')) (l := text)).sublist
  have outer := (List.dropWhile_suffix (p := fun c => decide (c = '-'))
    (l := (text.dropWhile fun c => decide (c = '-')).reverse)).sublist
  have turned := outer.reverse
  rw [List.reverse_reverse] at turned
  exact turned.trans inner

theorem dropWhile_dash_eq {text : List Char} : text.dropWhile (fun c => decide (c = '-')) = text ↔
    text.head? ≠ some '-' := by
  cases text with
  | nil => simp
  | cons c rest =>
    by_cases dash : c = '-'
    · subst dash
      rw [List.dropWhile_cons_of_pos (by rfl)]
      have shorter := (List.dropWhile_suffix (p := fun c => decide (c = '-')) (l := rest)).length_le
      constructor
      · intro same
        have lengths := congrArg List.length same
        rw [List.length_cons] at lengths
        omega
      · intro differs
        exact absurd rfl differs
    · rw [List.dropWhile_cons_of_neg (by simpa using dash)]
      simp [dash]

/-- Stripping leaves a text as it is exactly when neither end is a dash. -/
theorem stripDashes_eq_iff {text : List Char} :
    stripDashes text = text ↔ text.head? ≠ some '-' ∧ text.getLast? ≠ some '-' := by
  constructor
  · intro same
    have left_kept : text.dropWhile (fun c => decide (c = '-')) = text := by
      have inner := (List.dropWhile_suffix (p := fun c => decide (c = '-')) (l := text)).sublist
      have outer := (List.dropWhile_suffix (p := fun c => decide (c = '-'))
        (l := (text.dropWhile fun c => decide (c = '-')).reverse)).length_le
      have lengths := congrArg List.length same
      rw [stripDashes, List.length_reverse] at lengths
      rw [List.length_reverse] at outer
      exact inner.eq_of_length_le (by omega)
    rw [stripDashes, left_kept, List.reverse_eq_iff, dropWhile_dash_eq, List.head?_reverse] at same
    exact ⟨dropWhile_dash_eq.mp left_kept, same⟩
  · rintro ⟨first, last⟩
    rw [stripDashes, dropWhile_dash_eq.mpr first, List.reverse_eq_iff, dropWhile_dash_eq, List.head?_reverse]
    exact last

theorem dropWhile_head (text : List Char) : (text.dropWhile fun c => decide (c = '-')).head? ≠ some '-' := by
  induction text with
  | nil => simp
  | cons c rest ih =>
    by_cases dash : c = '-'
    · rw [List.dropWhile_cons_of_pos (by simpa using dash)]
      exact ih
    · rw [List.dropWhile_cons_of_neg (by simpa using dash)]
      simpa using dash

theorem stripDashes_stripDashes (text : List Char) : stripDashes (stripDashes text) = stripDashes text := by
  rw [stripDashes_eq_iff]
  constructor
  · intro first
    unfold stripDashes at first
    rw [List.head?_reverse] at first
    have kept := dropWhile_head text
    generalize text.dropWhile (fun c => decide (c = '-')) = front at first kept
    obtain ⟨dropped, split⟩ := List.dropWhile_suffix (p := fun c => decide (c = '-')) (l := front.reverse)
    have last := congrArg List.getLast? split
    rw [List.getLast?_append, first, List.getLast?_reverse] at last
    exact kept (by simpa using last.symm)
  · rw [stripDashes, List.getLast?_reverse]
    exact dropWhile_head _

theorem stripDashes_map {text : List Char} {f : Char → Char} (kept : ∀ c ∈ text, (f c = '-' ↔ c = '-')) :
    stripDashes (text.map f) = (stripDashes text).map f := by
  have drop : ∀ part : List Char, (∀ c ∈ part, (f c = '-' ↔ c = '-')) →
      (part.map f).dropWhile (fun c => decide (c = '-')) = (part.dropWhile fun c => decide (c = '-')).map f := by
    intro part
    induction part with
    | nil => simp
    | cons c rest ih =>
      intro each
      have first := each c List.mem_cons_self
      by_cases dash : c = '-'
      · rw [List.map_cons, List.dropWhile_cons_of_pos (by simpa using first.mpr dash),
          List.dropWhile_cons_of_pos (by simpa using dash)]
        exact ih fun other member => each other (List.mem_cons_of_mem _ member)
      · rw [List.map_cons, List.dropWhile_cons_of_neg (by simpa using fun low => dash (first.mp low)),
          List.dropWhile_cons_of_neg (by simpa using dash), List.map_cons]
  unfold stripDashes
  rw [drop text kept, ← List.map_reverse, drop, List.map_reverse]
  intro c member
  exact kept c ((List.dropWhile_suffix _).subset (List.mem_reverse.mp member))

end Dashes

section Characters

theorem mem_splitOn {stop c : Char} {text : List Char} (member : c ∈ text) (other : c ≠ stop) :
    ∃ segment ∈ splitOn stop text, c ∈ segment := by
  induction text with
  | nil => cases member
  | cons head rest ih =>
    rw [splitOn]
    by_cases stops : head = stop
    · rw [if_pos stops]
      rcases List.mem_cons.mp member with same | later
      · exact absurd (same.trans stops) other
      · obtain ⟨segment, among, inside⟩ := ih later
        exact ⟨segment, List.mem_cons_of_mem _ among, inside⟩
    · rw [if_neg stops]
      cases others : splitOn stop rest with
      | nil =>
        rcases List.mem_cons.mp member with rfl | later
        · exact ⟨[c], by simp, by simp⟩
        · obtain ⟨segment, among, -⟩ := ih later
          rw [others] at among
          cases among
      | cons first more =>
        rcases List.mem_cons.mp member with rfl | later
        · exact ⟨c :: first, by simp, by simp⟩
        · obtain ⟨segment, among, inside⟩ := ih later
          rw [others] at among
          rcases List.mem_cons.mp among with rfl | among
          · exact ⟨head :: segment, by simp, by simp [inside]⟩
          · exact ⟨segment, by simp [among], inside⟩

theorem splitOn_ne_nil (stop : Char) (text : List Char) : splitOn stop text ≠ [] := by
  cases text with
  | nil => exact List.cons_ne_nil _ _
  | cons head rest =>
    rw [splitOn]
    split
    · exact List.cons_ne_nil _ _
    · split
      all_goals exact List.cons_ne_nil _ _

theorem splitOn_append (stop : Char) (front back : List Char) :
    splitOn stop (front ++ stop :: back) = splitOn stop front ++ splitOn stop back := by
  induction front with
  | nil => simp [splitOn]
  | cons head rest ih =>
    rw [List.cons_append, splitOn, splitOn, ih]
    by_cases stops : head = stop
    · rw [if_pos stops, if_pos stops, List.cons_append]
    · rw [if_neg stops, if_neg stops]
      cases segments : splitOn stop rest with
      | nil => exact absurd segments (splitOn_ne_nil stop rest)
      | cons first more => rfl

/-- The characters of a model id: slashes and those of its segments. -/
theorem SafeModelId.chars {modelId : String} (safe : SafeModelId modelId) :
    ∀ c ∈ modelId.toList, c = '/' ∨ isIdChar c = true := by
  intro c member
  by_cases slash : c = '/'
  · exact .inl slash
  · right
    obtain ⟨segment, among, inside⟩ := mem_splitOn member slash
    have valid := List.all_eq_true.mp safe.segments segment among
    cases segment with
    | nil => cases inside
    | cons first rest =>
      rw [isIdSegment, Bool.and_eq_true] at valid
      rcases List.mem_cons.mp inside with rfl | later
      · simp [isIdChar, valid.1]
      · exact List.all_eq_true.mp valid.2 c later

theorem SafeModelId.last {modelId : String} (safe : SafeModelId modelId) :
    modelId.toList.getLast? ≠ some '/' := by
  intro last
  obtain ⟨front, split⟩ := List.getLast?_eq_some_iff.mp last
  have segments := safe.segments
  rw [split, splitOn_append, List.all_append, Bool.and_eq_true] at segments
  exact absurd segments.2 (by decide)

end Characters

section Names

variable {modelId : String}

theorem storage_chars (modelId : String) : ∀ c ∈ (storageName modelId).toList, c ≠ '/' := by
  intro c member
  rw [storageName, String.toList_ofList] at member
  obtain ⟨d, -, inside⟩ := List.mem_flatMap.mp member
  split at inside
  · rw [List.mem_cons, List.mem_singleton, or_self] at inside
    rw [inside]
    decide
  · rw [List.mem_singleton] at inside
    rw [inside]
    assumption

theorem storageName_free {name : String} (free : ∀ c ∈ name.toList, c ≠ '/') : storageName name = name := by
  have same : name.toList.flatMap (fun c => if c = '/' then ['-', '-'] else [c]) = name.toList.flatMap fun c => [c] :=
    List.flatMap_congr fun c member => if_neg (free c member)
  rw [storageName, same, List.flatMap_singleton', String.ofList_toList]

theorem storageName_storageName (modelId : String) : storageName (storageName modelId) = storageName modelId :=
  storageName_free (storage_chars modelId)

/-- What `_route_name` puts for a character. -/
def routeChar (c : Char) : Char := if isRouteChar c then c else '-'

theorem routeName_toList (name : String) :
    (routeName name).toList = (stripDashes (name.toList.map routeChar)).map Char.toLower := by
  rw [routeName, String.toList_ofList]
  rfl

theorem routeChar_dots (c : Char) : routeChar (if c = '.' then '-' else c) = routeChar c := by
  by_cases dot : c = '.'
  · subst dot
    decide
  · rw [if_neg dot]

theorem routeName_replaceDots (name : String) : routeName (replaceDots name) = routeName name := by
  apply String.ext
  rw [routeName_toList, routeName_toList, replaceDots, String.toList_ofList, List.map_map]
  congr 2
  exact List.map_congr_left fun c _ => routeChar_dots c

theorem isRouteChar_routeChar (c : Char) : isRouteChar (routeChar c) = true := by
  unfold routeChar
  split
  · assumption
  · decide

theorem routeChar_kept {c : Char} (kept : isRouteChar c = true) : routeChar c = c := if_pos kept

theorem route_chars (name : String) : ∀ c ∈ (routeName name).toList, isRouteChar c = true := by
  intro c member
  rw [routeName_toList] at member
  obtain ⟨d, inside, rfl⟩ := List.mem_map.mp member
  obtain ⟨e, -, rfl⟩ := List.mem_map.mp ((stripDashes_sublist _).subset inside)
  exact isRouteChar_lower (isRouteChar_routeChar e)

/-- A route is its own route. -/
theorem routeName_routeName (name : String) : routeName (routeName name) = routeName name := by
  have unchanged : (routeName name).toList.map routeChar = (routeName name).toList :=
    (List.map_congr_left fun c member => routeChar_kept (route_chars name c member)).trans (List.map_id _)
  apply String.ext
  rw [routeName_toList, unchanged, routeName_toList, stripDashes_map fun c _ => toLower_eq_dash,
    stripDashes_stripDashes, List.map_map]
  exact List.map_congr_left fun c _ => toLower_toLower c

theorem route_free (name : String) : ∀ c ∈ (routeName name).toList, c ≠ '/' := by
  intro c member slash
  have kept := route_chars name c member
  rw [slash] at kept
  exact absurd kept (by decide)

theorem replaceDots_route (name : String) : replaceDots (routeName name) = routeName name := by
  have undotted : ∀ c ∈ (routeName name).toList, (if c = '.' then '-' else c) = id c := by
    intro c member
    apply if_neg
    intro dot
    have kept := route_chars name c member
    rw [dot] at kept
    exact absurd kept (by decide)
  rw [replaceDots, List.map_congr_left undotted, List.map_id, String.ofList_toList]

/-- The route of any name of a model is the route of the model. -/
theorem served_route {name : String} (served : name ∈ servedModelNames modelId) :
    routeName (storageName name) = routeName (storageName modelId) := by
  have same_storage : getModelStorageName modelId = storageName modelId := rfl
  rw [servedModelNames, List.mem_cons, List.mem_cons, List.mem_singleton, same_storage] at served
  rcases served with rfl | rfl | rfl
  · rfl
  · rw [storageName_storageName]
  · have free : ∀ c ∈ (replaceDots (storageName modelId)).toList, c ≠ '/' := by
      intro c member
      rw [replaceDots, String.toList_ofList] at member
      obtain ⟨d, inside, rfl⟩ := List.mem_map.mp member
      split
      · decide
      · exact storage_chars modelId d inside
    rw [storageName_free free, routeName_replaceDots]

theorem route_route (modelId : String) :
    routeName (storageName (routeName (storageName modelId))) = routeName (storageName modelId) := by
  rw [storageName_free (route_free _), routeName_routeName]

/-- The route `get_model_route_name` gives, from the characters of the id. -/
theorem getModelRouteName_toList (modelId : String) : (getModelRouteName modelId).toList =
    (storageName modelId).toList.map fun c => if c = '.' then '-' else c := by
  rw [getModelRouteName, replaceDots, String.toList_ofList]
  rfl

theorem routeChar_safe (safe : SafeModelId modelId) :
    (storageName modelId).toList.map routeChar = (getModelRouteName modelId).toList := by
  rw [getModelRouteName_toList]
  apply List.map_congr_left
  intro c member
  rw [storageName, String.toList_ofList] at member
  obtain ⟨d, inside, among⟩ := List.mem_flatMap.mp member
  by_cases slash : d = '/'
  · rw [if_pos slash, List.mem_cons, List.mem_singleton, or_self] at among
    rw [among]
    decide
  · rw [if_neg slash, List.mem_singleton] at among
    have valid := (safe.chars d inside).resolve_left slash
    rw [among]
    by_cases dot : d = '.'
    · subst dot
      decide
    · rw [if_neg dot]
      apply routeChar_kept
      simp only [isIdChar, isRouteChar, Bool.or_eq_true, decide_eq_true_eq] at valid ⊢
      tauto

theorem routeName_safe (safe : SafeModelId modelId) : (routeName (storageName modelId)).toList =
    (stripDashes (getModelRouteName modelId).toList).map Char.toLower := by
  rw [routeName_toList, routeChar_safe safe]

theorem getModelRouteName_head (safe : SafeModelId modelId) : (getModelRouteName modelId).toList.head? ≠ some '-' := by
  obtain ⟨c, rest, letters, plain⟩ := safe.head
  have kept : c ≠ '/' ∧ c ≠ '-' ∧ c ≠ '.' := by
    refine ⟨?_, ?_, ?_⟩
    all_goals
      rintro rfl
      revert plain
      decide
  rw [getModelRouteName_toList, storageName, String.toList_ofList, letters, List.flatMap_cons, if_neg kept.1,
    List.singleton_append, List.map_cons, if_neg kept.2.2, List.head?_cons]
  simpa using kept.2.1

theorem getModelRouteName_last (safe : SafeModelId modelId) :
    (getModelRouteName modelId).toList.getLast? = some '-' ↔
      modelId.toList.getLast? = some '-' ∨ modelId.toList.getLast? = some '.' := by
  rcases List.eq_nil_or_concat modelId.toList with empty | ⟨front, c, split⟩
  · exact absurd (String.ext empty) safe.bounded.1
  · have other := safe.last
    rw [List.concat_eq_append] at split
    rw [split, List.getLast?_concat, Ne, Option.some.injEq] at other
    rw [getModelRouteName_toList, storageName, String.toList_ofList, split, List.flatMap_append, List.flatMap_singleton,
      if_neg other, List.map_append, List.map_singleton, List.getLast?_concat, List.getLast?_concat]
    simp only [Option.some.injEq]
    by_cases dot : c = '.'
    · simp [dot]
    · simp [dot]

theorem getModelRouteName_lower :
    (∀ c ∈ (getModelRouteName modelId).toList, c.isUpper = false) ↔ ∀ c ∈ modelId.toList, c.isUpper = false := by
  rw [getModelRouteName_toList]
  constructor
  · intro low c member
    by_cases plain : c = '/' ∨ c = '.'
    · rcases plain with rfl | rfl
      · decide
      · decide
    · rw [not_or] at plain
      apply low c
      refine List.mem_map.mpr ⟨c, ?_, if_neg plain.2⟩
      rw [storageName, String.toList_ofList]
      exact List.mem_flatMap.mpr ⟨c, member, by rw [if_neg plain.1]; exact List.mem_singleton.mpr rfl⟩
  · intro low c member
    obtain ⟨d, inside, rfl⟩ := List.mem_map.mp member
    split
    · decide
    · rw [storageName, String.toList_ofList] at inside
      obtain ⟨e, among, inside⟩ := List.mem_flatMap.mp inside
      split at inside
      · rw [List.mem_cons, List.mem_singleton, or_self] at inside
        rw [inside]
        decide
      · rw [List.mem_singleton] at inside
        rw [inside]
        exact low e among

/-- The compiler's route is the derived one exactly for plain ids. -/
theorem routeName_eq_iff (safe : SafeModelId modelId) :
    getModelRouteName modelId = routeName (storageName modelId) ↔ PlainModelId modelId := by
  rw [← String.toList_inj, routeName_safe safe]
  constructor
  · intro same
    have lengths := congrArg List.length same
    rw [List.length_map] at lengths
    have kept := (stripDashes_sublist (getModelRouteName modelId).toList).eq_of_length lengths.symm
    rw [kept] at same
    have low : ∀ c ∈ (getModelRouteName modelId).toList, c.isUpper = false := by
      intro c member
      rw [← toLower_eq_iff]
      rw [← List.map_id (getModelRouteName modelId).toList, List.map_map] at same
      exact (List.map_inj_left.mp same c member).symm
    have ends := (stripDashes_eq_iff.mp kept).2
    rw [Ne, getModelRouteName_last safe, not_or] at ends
    exact ⟨getModelRouteName_lower.mp low, ends⟩
  · intro plain
    have kept := stripDashes_eq_iff.mpr ⟨getModelRouteName_head safe, by
      rw [Ne, getModelRouteName_last safe, not_or]
      exact plain.last⟩
    rw [kept]
    refine ((List.map_congr_left fun c member => ?_).trans (List.map_id _)).symm
    exact (toLower_eq_iff c).mpr (getModelRouteName_lower.mpr plain.lower c member)

/-- A route among the served names of its model is the derived one. -/
theorem routeName_served (modelId : String) :
    routeName (storageName modelId) ∈ servedModelNames modelId ↔
      getModelRouteName modelId = routeName (storageName modelId) := by
  constructor
  · intro served
    rw [servedModelNames, List.mem_cons, List.mem_cons, List.mem_singleton] at served
    have stored : routeName (storageName modelId) = storageName modelId →
        getModelRouteName modelId = routeName (storageName modelId) := by
      intro own
      have dots := replaceDots_route (storageName modelId)
      rw [own] at dots ⊢
      exact dots
    rcases served with own | own | own
    · apply stored
      have free := storageName_free (route_free (storageName modelId))
      rw [own] at free ⊢
      exact free.symm
    · exact stored own
    · exact own.symm
  · intro same
    rw [← same]
    simp [servedModelNames, getModelRouteName]

theorem namesAgree_iff (safe : SafeModelId modelId) : NamesAgree modelId ↔ PlainModelId modelId := by
  rw [← routeName_eq_iff safe]
  constructor
  · exact NamesAgree.derived
  · intro same
    exact ⟨by simp [servedModelNames, getModelStorageName, storageName], (routeName_served modelId).mpr same, same⟩

end Names

section Plans

/-- An intent carries the names the compiler derives from an accepted id. -/
structure ModelIntent.Derived (intent : ModelIntent) : Prop where
  safe : SafeModelId intent.modelId
  storage : intent.storageName = storageName intent.modelId
  route : intent.routeName = routeName (storageName intent.modelId)

theorem compileSettings_storage {path : String} {raw : List (String × Json)} {modelId : String} {sizes : Nat × Nat}
    {intent : ModelIntent} (done : compileSettings path raw modelId sizes = .ok intent) :
    intent.storageName = storageName modelId := by
  unfold compileSettings at done
  obtain ⟨_, -, done⟩ := bind_ok done
  obtain ⟨_, -, done⟩ := bind_ok done
  obtain ⟨_, -, done⟩ := bind_ok done
  obtain ⟨_, -, done⟩ := bind_ok done
  obtain ⟨_, -, done⟩ := bind_ok done
  obtain ⟨_, -, done⟩ := bind_ok done
  obtain ⟨_, -, done⟩ := bind_ok done
  obtain ⟨_, -, done⟩ := bind_ok done
  cases done
  rfl

theorem compileModelId_safe {path : String} {earlier : List ModelIntent} {raw : List (String × Json)}
    {modelId : String} (done : compileModelId path earlier raw = .ok modelId) : SafeModelId modelId := by
  unfold compileModelId at done
  obtain ⟨_, -, done⟩ := bind_ok done
  obtain ⟨given, -, done⟩ := bind_ok done
  obtain ⟨safe, -, done⟩ := bind_ok done
  obtain ⟨_, -, done⟩ := bind_ok done
  obtain ⟨_, -, done⟩ := bind_ok done
  obtain ⟨_, -, done⟩ := bind_ok done
  cases done
  exact safe.down

theorem compileIntentsFrom_derived {numNodes gpusPerNode : Nat} {earlier : List ModelIntent} {items : List Json}
    {intents : List ModelIntent} (done : compileIntentsFrom numNodes gpusPerNode earlier items = .ok intents)
    (before : ∀ intent ∈ earlier, intent.Derived) : ∀ intent ∈ intents, intent.Derived := by
  induction items generalizing earlier with
  | nil =>
    cases done
    exact before
  | cons item rest ih =>
    obtain ⟨next, compiled, done⟩ := bind_ok done
    obtain ⟨_, -, compiled⟩ := bind_ok compiled
    obtain ⟨modelId, identified, compiled⟩ := bind_ok compiled
    obtain ⟨_, -, compiled⟩ := bind_ok compiled
    have fields := compileSettings_fields compiled
    have stored := compileSettings_storage compiled
    apply ih done
    intro intent member
    rcases List.mem_append.mp member with member | member
    · exact before intent member
    · rw [List.mem_singleton.mp member]
      refine ⟨?_, ?_, ?_⟩
      · rw [fields.1]
        exact compileModelId_safe identified
      · rw [fields.1, stored]
      · rw [fields.1, fields.2]

variable {rawModels : Option Json} {numNodes gpusPerNode : Nat} {intents : List ModelIntent}

theorem compileModelIntents_derived (compiled : compileModelIntents rawModels numNodes gpusPerNode = .ok intents) :
    (∀ intent ∈ intents, intent.Derived) ∧ (intents.map fun intent => intent.modelId).Nodup ∧
      (intents.map fun intent => intent.routeName).Nodup := by
  unfold compileModelIntents at compiled
  split at compiled
  · have distinct := compileIntentsFrom_distinct compiled List.nodup_nil List.nodup_nil
    exact ⟨compileIntentsFrom_derived compiled nofun, distinct⟩
  · cases compiled

/-- Models of one plan with the same route are the same model. -/
theorem same_route (compiled : compileModelIntents rawModels numNodes gpusPerNode = .ok intents)
    {one other : ModelIntent} (listed : one ∈ intents) (among : other ∈ intents)
    (same : routeName (storageName one.modelId) = routeName (storageName other.modelId)) : one = other := by
  obtain ⟨derived, -, routes⟩ := compileModelIntents_derived compiled
  apply List.inj_on_of_nodup_map routes listed among
  rw [(derived one listed).route, (derived other among).route, same]

/-- Every name of a model leads to its replicas and to those of no other model. -/
def NamesResolve (intents : List ModelIntent) : Prop :=
  ∀ intent ∈ intents, ∀ name ∈ [intent.modelId, intent.storageName, intent.routeName],
    ∀ other ∈ intents, name ∈ servedModelNames other.modelId ↔ other = intent

theorem name_route (compiled : compileModelIntents rawModels numNodes gpusPerNode = .ok intents)
    {intent : ModelIntent} (listed : intent ∈ intents) {name : String}
    (named : name ∈ [intent.modelId, intent.storageName, intent.routeName]) :
    routeName (storageName name) = routeName (storageName intent.modelId) := by
  have derived := (compileModelIntents_derived compiled).1 intent listed
  rw [List.mem_cons, List.mem_cons, List.mem_singleton, derived.storage, derived.route] at named
  rcases named with rfl | rfl | rfl
  · rfl
  · rw [storageName_storageName]
  · exact route_route intent.modelId

theorem namesResolve_iff (compiled : compileModelIntents rawModels numNodes gpusPerNode = .ok intents) :
    NamesResolve intents ↔ ∀ intent ∈ intents, PlainModelId intent.modelId := by
  have derived := (compileModelIntents_derived compiled).1
  constructor
  · intro resolve intent listed
    have served := (resolve intent listed intent.routeName (by simp) intent listed).mpr rfl
    rw [(derived intent listed).route] at served
    exact (routeName_eq_iff (derived intent listed).safe).mp
      ((routeName_served intent.modelId).mp served)
  · intro plain intent listed name named other among
    constructor
    · intro served
      apply same_route compiled among listed
      rw [← served_route served, name_route compiled listed named]
    · rintro rfl
      have agree := (namesAgree_iff (derived other listed).safe).mpr (plain other listed)
      rw [List.mem_cons, List.mem_cons, List.mem_singleton, (derived other listed).storage,
        (derived other listed).route] at named
      rcases named with rfl | rfl | rfl
      · exact List.mem_cons_self
      · exact agree.storage
      · exact agree.route

/-- For an accepted id the names agree exactly when it is plain; two models of a plan never
    share a served name; and the names of a plan's models resolve exactly when all ids are
    plain. -/
theorem model_names_agree_iff {rawModels : Option Json} {numNodes gpusPerNode : Nat} {intents : List ModelIntent}
    (compiled : compileModelIntents rawModels numNodes gpusPerNode = .ok intents) :
    (∀ modelId, SafeModelId modelId → (NamesAgree modelId ↔ PlainModelId modelId)) ∧
    (∀ one ∈ intents, ∀ other ∈ intents, ∀ name ∈ servedModelNames one.modelId,
      name ∈ servedModelNames other.modelId → one = other) ∧
    (NamesResolve intents ↔ ∀ intent ∈ intents, PlainModelId intent.modelId) := by
  refine ⟨fun modelId safe => namesAgree_iff safe, ?_, namesResolve_iff compiled⟩
  intro one listed other among name served shared
  apply same_route compiled listed among
  rw [← served_route served, served_route shared]

theorem model_names_agree_small :
    NamesAgree "qwen/qwen3-0.6b" ∧ ∃ intents,
      compileModelIntents (some (.arr [.obj [("model_id", .str "qwen/qwen3-0.6b")]])) 1 1 = .ok intents ∧
        NamesResolve intents := by
  have lower : ("qwen/qwen3-0.6b".toList.all fun c => !c.isUpper) = true := by decide +kernel
  have plain : PlainModelId "qwen/qwen3-0.6b" := ⟨by simpa only [List.all_eq_true, Bool.not_eq_true'] using lower,
    by decide +kernel⟩
  obtain ⟨intents, compiled, named⟩ := ok_of_toOption (show ((compileModelIntents
    (some (.arr [.obj [("model_id", .str "qwen/qwen3-0.6b")]])) 1 1).toOption.map
      fun intents => intents.map fun intent => intent.modelId) = some ["qwen/qwen3-0.6b"] by decide +kernel)
  obtain ⟨agree, -, resolve⟩ := model_names_agree_iff compiled
  refine ⟨(agree _ ⟨by decide +kernel, by decide +kernel, by decide +kernel⟩).mpr plain, intents, compiled,
    resolve.mpr ?_⟩
  intro intent listed
  have member : intent.modelId ∈ ["qwen/qwen3-0.6b"] := named ▸ List.mem_map_of_mem listed
  rw [List.mem_singleton.mp member]
  exact plain

/-- The compiler lowers the route; the replica does not serve it. -/
theorem capital_route_not_served :
    SafeModelId "meta-llama/Llama-3.1-8B" ∧
      routeName (storageName "meta-llama/Llama-3.1-8B") = "meta-llama--llama-3-1-8b" ∧
      getModelRouteName "meta-llama/Llama-3.1-8B" = "meta-llama--Llama-3-1-8B" ∧
      ¬ NamesAgree "meta-llama/Llama-3.1-8B" := by
  refine ⟨⟨by decide +kernel, by decide +kernel, by decide +kernel⟩, by decide +kernel, by decide +kernel, ?_⟩
  intro agree
  exact absurd agree.route (by decide +kernel)

end Plans

end ExaServe.Plan
