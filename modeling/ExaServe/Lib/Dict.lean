import Mathlib.Data.List.Nodup
import Mathlib.Data.List.Basic

namespace Lib

variable {α β γ : Type} [DecidableEq α]

def putEntry (key : α) (value : β) : List (α × β) → List (α × β)
  | [] => [(key, value)]
  | entry :: rest => if entry.1 = key then (key, value) :: rest else entry :: putEntry key value rest

def findEntry (key : α) : List (α × β) → Option β
  | [] => none
  | entry :: rest => if entry.1 = key then some entry.2 else findEntry key rest

theorem putEntry_keys (key : α) (value : β) (entries : List (α × β)) :
    (putEntry key value entries).map Prod.fst =
      if key ∈ entries.map Prod.fst then entries.map Prod.fst else entries.map Prod.fst ++ [key] := by
  induction entries with
  | nil => simp [putEntry]
  | cons entry rest ih =>
    by_cases same : entry.1 = key
    · simp [putEntry, same]
    · have other : key ≠ entry.1 := fun h => same h.symm
      simp only [putEntry, same, if_false, List.map_cons, ih, List.mem_cons, other, false_or]
      split <;> rfl

theorem putEntry_fresh {key : α} {entries : List (α × β)} (value : β)
    (fresh : key ∉ entries.map Prod.fst) : putEntry key value entries = entries ++ [(key, value)] := by
  induction entries with
  | nil => rfl
  | cons entry rest ih =>
    rw [List.map_cons, List.mem_cons, not_or] at fresh
    have other : entry.1 ≠ key := fun same => fresh.1 same.symm
    simp only [putEntry, other, if_false, ih fresh.2, List.cons_append]

theorem findEntry_isSome (key : α) (entries : List (α × β)) :
    (findEntry key entries).isSome ↔ key ∈ entries.map Prod.fst := by
  induction entries with
  | nil => simp [findEntry]
  | cons entry rest ih =>
    by_cases same : entry.1 = key
    · simp [findEntry, same]
    · have other : key ≠ entry.1 := fun h => same h.symm
      simp only [findEntry, same, if_false, ih, List.map_cons, List.mem_cons, other, false_or]

theorem findEntry_put (key probe : α) (value : β) (entries : List (α × β)) :
    findEntry probe (putEntry key value entries) =
      if key = probe then some value else findEntry probe entries := by
  induction entries with
  | nil => simp [putEntry, findEntry]
  | cons entry rest ih =>
    by_cases same : entry.1 = key
    · by_cases hit : key = probe <;> simp [putEntry, findEntry, same, hit]
    · simp only [putEntry, same, if_false, findEntry, ih]
      by_cases hit : entry.1 = probe
      · have other : key ≠ probe := fun h => same (hit.trans h.symm)
        simp [hit, other]
      · simp [hit]

/-- `entries.setdefault(key, []).append(item)`. -/
def appendEntry (key : α) (item : β) (entries : List (α × List β)) : List (α × List β) :=
  putEntry key ((findEntry key entries).getD [] ++ [item]) entries

/-- Grouping moves items and loses none. -/
theorem appendEntry_items (key : α) (item : β) (entries : List (α × List β)) :
    ((appendEntry key item entries).flatMap Prod.snd).Perm (entries.flatMap Prod.snd ++ [item]) := by
  induction entries with
  | nil => simp [appendEntry, putEntry, findEntry]
  | cons entry rest ih =>
    by_cases same : entry.1 = key
    · simp only [appendEntry, putEntry, findEntry, same, if_true, Option.getD_some, List.flatMap_cons,
        List.append_assoc]
      exact List.Perm.append_left _ List.perm_append_comm
    · simp only [appendEntry, putEntry, findEntry, same, if_false, List.flatMap_cons, List.append_assoc]
      exact List.Perm.append_left _ ih

theorem findEntry_mem {key : α} {value : β} {entries : List (α × β)}
    (found : findEntry key entries = some value) : (key, value) ∈ entries := by
  induction entries with
  | nil => simp [findEntry] at found
  | cons entry rest ih =>
    simp only [findEntry] at found
    split at found
    · rename_i same
      cases found
      exact List.mem_cons.mpr (.inl (by rw [← same]))
    · exact List.mem_cons_of_mem _ (ih found)

theorem findEntry_of_mem {key : α} {value : β} {entries : List (α × β)}
    (nodup : (entries.map Prod.fst).Nodup) (member : (key, value) ∈ entries) :
    findEntry key entries = some value := by
  induction entries with
  | nil => cases member
  | cons entry rest ih =>
    rw [List.map_cons, List.nodup_cons] at nodup
    rcases List.mem_cons.mp member with rfl | member
    · simp [findEntry]
    · have other : entry.1 ≠ key := by
        rintro rfl
        exact nodup.1 (List.mem_map.mpr ⟨_, member, rfl⟩)
      simp only [findEntry, other, if_false]
      exact ih nodup.2 member

theorem findEntry_map (f : α → β → γ) (key : α) (entries : List (α × β)) :
    findEntry key (entries.map fun entry => (entry.1, f entry.1 entry.2)) =
      (findEntry key entries).map (f key) := by
  induction entries with
  | nil => rfl
  | cons entry rest ih =>
    simp only [List.map_cons, findEntry]
    split
    · rename_i same
      simp [same]
    · exact ih

theorem findEntry_filter (keep : α → Bool) (key : α) (entries : List (α × β)) :
    findEntry key (entries.filter fun entry => keep entry.1) =
      if keep key then findEntry key entries else none := by
  induction entries with
  | nil => simp [findEntry]
  | cons entry rest ih =>
    by_cases same : entry.1 = key
    · cases kept : keep key <;> simp [findEntry, same, kept, ih]
    · cases kept : keep entry.1 <;> simp [findEntry, same, kept, ih]

/-- With distinct keys, a filter on the entries filters what a key finds. -/
theorem findEntry_filter_of_nodup (keep : α × β → Bool) (key : α) {entries : List (α × β)}
    (nodup : (entries.map Prod.fst).Nodup) :
    findEntry key (entries.filter keep) = (findEntry key entries).filter fun value => keep (key, value) := by
  induction entries with
  | nil => rfl
  | cons entry rest ih =>
    rw [List.map_cons, List.nodup_cons] at nodup
    have later := ih nodup.2
    by_cases same : entry.1 = key
    · have absent : findEntry key rest = none := by
        rw [← Option.not_isSome_iff_eq_none, findEntry_isSome, ← same]
        exact nodup.1
      have whole : (key, entry.2) = entry := by rw [← same]
      cases kept : keep entry
      · simp [findEntry, same, kept, later, absent, whole, Option.filter]
      · simp [findEntry, same, kept, whole, Option.filter]
    · cases kept : keep entry <;> simp [findEntry, same, kept, later]

/-- An insertion-ordered dictionary: replacing a value keeps its position, a new
    key goes to the end. -/
structure Dict (α β : Type) where
  entries : List (α × β)
  nodup : (entries.map Prod.fst).Nodup

namespace Dict

omit [DecidableEq α] in
@[ext] theorem ext {left right : Dict α β} (same : left.entries = right.entries) : left = right := by
  cases left; cases right; cases same; rfl

instance [DecidableEq β] : DecidableEq (Dict α β) := fun left right =>
  decidable_of_iff (left.entries = right.entries) ⟨ext, fun same => by rw [same]⟩

def empty : Dict α β := ⟨[], List.nodup_nil⟩

instance : Inhabited (Dict α β) := ⟨empty⟩

def get? (d : Dict α β) (key : α) : Option β := findEntry key d.entries

def keys (d : Dict α β) : List α := d.entries.map Prod.fst

def values (d : Dict α β) : List β := d.entries.map Prod.snd

def size (d : Dict α β) : Nat := d.entries.length

def insert (d : Dict α β) (key : α) (value : β) : Dict α β where
  entries := putEntry key value d.entries
  nodup := by
    rw [putEntry_keys]
    split
    · exact d.nodup
    · rename_i absent
      refine List.nodup_append.mpr ⟨d.nodup, List.nodup_singleton key, ?_⟩
      intro left member right single same
      rw [List.mem_singleton.mp single] at same
      exact absent (same ▸ member)

def filterKeys (d : Dict α β) (keep : α → Bool) : Dict α β where
  entries := d.entries.filter fun entry => keep entry.1
  nodup := d.nodup.sublist (List.filter_sublist.map Prod.fst)

def erase (d : Dict α β) (key : α) : Dict α β := d.filterKeys fun other => decide (other ≠ key)

def mapValues (d : Dict α β) (f : α → β → γ) : Dict α γ where
  entries := d.entries.map fun entry => (entry.1, f entry.1 entry.2)
  nodup := by
    have same : (d.entries.map fun entry => (entry.1, f entry.1 entry.2)).map Prod.fst =
        d.entries.map Prod.fst := by simp [List.map_map, Function.comp_def]
    rw [same]
    exact d.nodup

/-- Drops the oldest entries until at most `limit` remain. -/
def dropOldest (d : Dict α β) (limit : Nat) : Dict α β where
  entries := d.entries.drop (d.entries.length - limit)
  nodup := d.nodup.sublist ((List.drop_sublist _ _).map Prod.fst)

/-- The comprehension `{key: f key for key in keys}`. -/
def ofKeys (keys : List α) (f : α → β) : Dict α β :=
  keys.foldl (fun d key => d.insert key (f key)) empty

@[simp] theorem get?_empty (key : α) : (empty : Dict α β).get? key = none := rfl

omit [DecidableEq α] in
@[simp] theorem size_empty : (empty : Dict α β).size = 0 := rfl

theorem get?_insert (d : Dict α β) (key probe : α) (value : β) :
    (d.insert key value).get? probe = if key = probe then some value else d.get? probe :=
  findEntry_put key probe value d.entries

@[simp] theorem get?_insert_self (d : Dict α β) (key : α) (value : β) :
    (d.insert key value).get? key = some value := by simp [get?_insert]

theorem get?_insert_ne (d : Dict α β) {key probe : α} (value : β) (other : key ≠ probe) :
    (d.insert key value).get? probe = d.get? probe := by simp [get?_insert, other]

theorem get?_filterKeys (d : Dict α β) (keep : α → Bool) (key : α) :
    (d.filterKeys keep).get? key = if keep key then d.get? key else none :=
  findEntry_filter keep key d.entries

theorem get?_erase (d : Dict α β) (key probe : α) :
    (d.erase key).get? probe = if probe = key then none else d.get? probe := by
  rw [erase, get?_filterKeys]
  by_cases same : probe = key <;> simp [same]

@[simp] theorem get?_erase_self (d : Dict α β) (key : α) : (d.erase key).get? key = none := by
  simp [get?_erase]

theorem get?_erase_ne (d : Dict α β) {key probe : α} (other : probe ≠ key) :
    (d.erase key).get? probe = d.get? probe := by simp [get?_erase, other]

@[simp] theorem get?_mapValues (d : Dict α β) (f : α → β → γ) (key : α) :
    (d.mapValues f).get? key = (d.get? key).map (f key) := findEntry_map f key d.entries

theorem get?_eq_some_iff (d : Dict α β) (key : α) (value : β) :
    d.get? key = some value ↔ (key, value) ∈ d.entries :=
  ⟨findEntry_mem, findEntry_of_mem d.nodup⟩

theorem isSome_get?_iff (d : Dict α β) (key : α) : (d.get? key).isSome ↔ key ∈ d.keys :=
  findEntry_isSome key d.entries

theorem get?_eq_none_iff (d : Dict α β) (key : α) : d.get? key = none ↔ key ∉ d.keys := by
  rw [← isSome_get?_iff, Bool.not_eq_true, Option.isSome_eq_false_iff, Option.isNone_iff_eq_none]

theorem mem_values_iff (d : Dict α β) (value : β) :
    value ∈ d.values ↔ ∃ key, d.get? key = some value := by
  simp only [values, List.mem_map, get?_eq_some_iff]
  constructor
  · rintro ⟨⟨key, found⟩, member, rfl⟩
    exact ⟨key, member⟩
  · rintro ⟨key, member⟩
    exact ⟨(key, value), member, rfl⟩

theorem keys_insert (d : Dict α β) (key : α) (value : β) :
    (d.insert key value).keys = if key ∈ d.keys then d.keys else d.keys ++ [key] :=
  putEntry_keys key value d.entries

theorem entries_insert_fresh (d : Dict α β) {key : α} (value : β) (fresh : key ∉ d.keys) :
    (d.insert key value).entries = d.entries ++ [(key, value)] :=
  putEntry_fresh value fresh

omit [DecidableEq α] in
theorem size_eq_keys_length (d : Dict α β) : d.size = d.keys.length := by simp [size, keys]

theorem size_insert (d : Dict α β) (key : α) (value : β) :
    (d.insert key value).size = if (d.get? key).isSome then d.size else d.size + 1 := by
  rw [size_eq_keys_length, keys_insert, size_eq_keys_length]
  by_cases present : key ∈ d.keys
  · simp [present, (isSome_get?_iff d key).mpr present]
  · have missing : (d.get? key).isSome = false := by
      rw [(get?_eq_none_iff d key).mpr present]; rfl
    simp [present, missing]

omit [DecidableEq α] in
theorem size_dropOldest_le (d : Dict α β) (limit : Nat) : (d.dropOldest limit).size ≤ limit := by
  simp only [size, dropOldest, List.length_drop]
  omega

theorem get?_of_dropOldest {d : Dict α β} {limit : Nat} {key : α} {value : β}
    (found : (d.dropOldest limit).get? key = some value) : d.get? key = some value := by
  rw [get?_eq_some_iff] at found ⊢
  exact List.mem_of_mem_drop found

theorem get?_foldl_insert_mem {items : List γ} {key : γ → α} (value : γ → β)
    (distinct : (items.map key).Nodup) (d : Dict α β) {item : γ} (member : item ∈ items) :
    (items.foldl (fun d item => d.insert (key item) (value item)) d).get? (key item) = some (value item) := by
  induction items generalizing d with
  | nil => cases member
  | cons head rest ih =>
    rw [List.map_cons, List.nodup_cons] at distinct
    rw [List.foldl_cons]
    rcases List.mem_cons.mp member with rfl | member
    · have kept : ∀ (rest : List γ) (d : Dict α β), key item ∉ rest.map key →
          d.get? (key item) = some (value item) →
          (rest.foldl (fun d item => d.insert (key item) (value item)) d).get? (key item) =
            some (value item) := by
        intro rest
        induction rest with
        | nil => exact fun _ _ found => found
        | cons other rest ih =>
          intro d absent found
          rw [List.map_cons, List.mem_cons, not_or] at absent
          have apart : key other ≠ key item := fun same => absent.1 same.symm
          exact ih _ absent.2 ((get?_insert_ne d _ apart).trans found)
      exact kept rest _ distinct.1 (get?_insert_self _ _ _)
    · exact ih distinct.2 _ member

theorem size_foldl_insert_le (items : List γ) (key : γ → α) (value : γ → β) (d : Dict α β) :
    (items.foldl (fun d item => d.insert (key item) (value item)) d).size ≤ d.size + items.length := by
  induction items generalizing d with
  | nil => exact Nat.le_refl _
  | cons head rest ih =>
    rw [List.foldl_cons, List.length_cons]
    have grown : (d.insert (key head) (value head)).size ≤ d.size + 1 := by
      rw [size_insert]
      split <;> omega
    have rest_grown := ih (d.insert (key head) (value head))
    omega

theorem get?_foldl_insert (keys : List α) (f : α → β) (d : Dict α β) (key : α) :
    (keys.foldl (fun d key => d.insert key (f key)) d).get? key =
      if key ∈ keys then some (f key) else d.get? key := by
  induction keys generalizing d with
  | nil => simp
  | cons head rest ih =>
    rw [List.foldl_cons, ih, get?_insert]
    by_cases later : key ∈ rest
    · simp [later]
    · by_cases same : head = key
      · simp [same]
      · have other : key ≠ head := fun h => same h.symm
        simp [later, same, other]

/-- What a key finds after inserting entries of distinct keys. -/
theorem get?_foldl_insert_entries {entries : List (α × β)} (distinct : (entries.map Prod.fst).Nodup)
    (d : Dict α β) (key : α) :
    (entries.foldl (fun d entry => d.insert entry.1 entry.2) d).get? key =
      (findEntry key entries).or (d.get? key) := by
  induction entries generalizing d with
  | nil => rfl
  | cons entry rest ih =>
    rw [List.map_cons, List.nodup_cons] at distinct
    rw [List.foldl_cons, ih distinct.2, get?_insert, findEntry]
    by_cases same : entry.1 = key
    · have absent : findEntry key rest = none := by
        rw [← Option.not_isSome_iff_eq_none, findEntry_isSome, ← same]
        exact distinct.1
      simp [same, absent]
    · simp [same]

theorem get?_foldl_erase (items : List γ) (key : γ → α) (d : Dict α β) (probe : α) :
    (items.foldl (fun d item => d.erase (key item)) d).get? probe =
      if probe ∈ items.map key then none else d.get? probe := by
  induction items generalizing d with
  | nil => simp
  | cons item rest ih =>
    rw [List.foldl_cons, ih, get?_erase, List.map_cons]
    by_cases later : probe ∈ rest.map key
    · simp only [later, List.mem_cons, or_true, if_true]
    · simp only [later, List.mem_cons, or_false, if_false]

@[simp] theorem get?_ofKeys (keys : List α) (f : α → β) (key : α) :
    (ofKeys keys f).get? key = if key ∈ keys then some (f key) else none := by
  rw [ofKeys, get?_foldl_insert, get?_empty]

end Dict

end Lib
