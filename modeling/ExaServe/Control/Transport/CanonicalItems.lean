import ExaServe.Control.Transport.Snapshot

namespace ExaServe.Control

open Lib Plan

namespace SnapshotItem

theorem ofJson_toJson (item : SnapshotItem) : ofJson item.toJson = .ok item := by
  obtain ⟨kind, body⟩ := item
  cases kind <;> simp [ofJson, toJson, Json.sameNames, Json.fieldNames, Json.lookup, ItemKind.ofValue,
    ItemKind.value]

theorem key_kind {item : SnapshotItem} {key : List String} (keyed : item.key = .ok key) :
    ∃ parts, key = item.kind.value :: parts := by
  unfold SnapshotItem.key at keyed
  split at keyed
  · exact ⟨_, (Except.ok.inj keyed).symm⟩
  · cases keyed

end SnapshotItem

/-- Items with their keys, in strictly increasing key order. -/
def KeySorted (items : List SnapshotItem) (keys : List (List String)) : Prop :=
  items.map SnapshotItem.key = keys.map .ok ∧ keys.Pairwise (· < ·)

/-- Every collected entry is stored under its own key with its own encoding. -/
def Collected (unique : UniqueItems) : Prop :=
  ∀ key entry, unique.get? key = some entry → entry.2.key = .ok key ∧ entry.1 = entry.2.encoded

theorem collected_insert {unique : UniqueItems} {key : List String} {item : SnapshotItem}
    (collected : Collected unique) (keyed : item.key = .ok key) :
    Collected (unique.insert key (item.encoded, item)) := by
  intro probe entry found
  rw [Dict.get?_insert] at found
  split at found
  · rename_i same
    cases found
    exact ⟨same ▸ keyed, rfl⟩
  · exact collected probe entry found

theorem collectItems_collected {items : List Json} {unique result : UniqueItems}
    (collected : Collected unique) (ended : collectItems unique items = .ok result) :
    Collected result := by
  induction items generalizing unique with
  | nil =>
    cases ended
    exact collected
  | cons item rest ih =>
    unfold collectItems at ended
    cases decoded : SnapshotItem.ofJson item with
    | error error => simp [decoded] at ended
    | ok found =>
      cases keyed : found.key with
      | error error => simp [decoded, keyed] at ended
      | ok key =>
        simp only [decoded, keyed] at ended
        split at ended
        · cases ended
        · exact ih (collected_insert collected keyed) ended

theorem sortedItems_keySorted {unique : UniqueItems} (collected : Collected unique) :
    KeySorted (sortedItems unique) (unique.keys.insertionSort (· ≤ ·)) := by
  have member : ∀ key ∈ unique.keys.insertionSort (· ≤ ·), (unique.get? key).isSome := by
    intro key inside
    exact (Dict.isSome_get?_iff _ _).mpr ((List.mem_insertionSort _).mp inside)
  have nodup : (unique.keys.insertionSort (· ≤ ·)).Nodup :=
    (List.perm_insertionSort _ _).nodup_iff.mpr unique.nodup
  constructor
  · unfold sortedItems
    generalize unique.keys.insertionSort (· ≤ ·) = keys at member
    induction keys with
    | nil => rfl
    | cons key rest ih =>
      obtain ⟨entry, found⟩ := Option.isSome_iff_exists.mp (member key List.mem_cons_self)
      have tail := ih fun other inside => member other (List.mem_cons_of_mem _ inside)
      simp only [List.filterMap_cons, found, Option.map_some, List.map_cons, tail,
        (collected key entry found).1]
  · have sorted := List.pairwise_insertionSort (· ≤ ·) unique.keys
    exact (sorted.and nodup).imp fun both => lt_of_le_of_ne both.1 both.2

theorem canonical_keySorted {items : List Json} {canonical : List SnapshotItem}
    (ended : canonicalSnapshotItems items = .ok canonical) : ∃ keys, KeySorted canonical keys := by
  unfold canonicalSnapshotItems at ended
  cases collection : collectItems Dict.empty items with
  | error error => simp [collection] at ended
  | ok unique =>
    rw [collection] at ended
    cases ended
    have start : Collected (Dict.empty : UniqueItems) := by
      intro key entry found
      cases found
    exact ⟨_, sortedItems_keySorted (collectItems_collected start collection)⟩

/-- Collecting takes its entries from the items and leaves no item's key out. -/
theorem collectItems_mem {items : List SnapshotItem} {unique result : UniqueItems}
    (ended : collectItems unique (items.map SnapshotItem.toJson) = .ok result) :
    (∀ key entry, result.get? key = some entry → unique.get? key = some entry ∨ entry.2 ∈ items) ∧
      (∀ key, (unique.get? key).isSome → (result.get? key).isSome) ∧
      ∀ item ∈ items, ∃ key, item.key = .ok key ∧ (result.get? key).isSome := by
  induction items generalizing unique with
  | nil =>
    cases ended
    exact ⟨fun _ _ found => .inl found, fun _ there => there, by simp⟩
  | cons item rest ih =>
    rw [List.map_cons, collectItems, SnapshotItem.ofJson_toJson] at ended
    cases keyed : item.key with
    | error error => simp [keyed] at ended
    | ok key =>
      simp only [keyed] at ended
      split at ended
      · cases ended
      · obtain ⟨sources, kept, covered⟩ := ih ended
        have inserted : ((unique.insert key (item.encoded, item)).get? key).isSome := by
          rw [Dict.get?_insert_self]
          rfl
        refine ⟨?_, ?_, ?_⟩
        · intro probe entry found
          rcases sources probe entry found with earlier | later
          · rw [Dict.get?_insert] at earlier
            split at earlier
            · cases earlier
              exact .inr List.mem_cons_self
            · exact .inl earlier
          · exact .inr (List.mem_cons_of_mem _ later)
        · intro probe there
          apply kept
          rw [Dict.get?_insert]
          split
          · rfl
          · exact there
        · intro other member
          rcases List.mem_cons.mp member with rfl | member
          · exact ⟨key, keyed, kept key inserted⟩
          · exact covered other member

theorem mem_sortedItems {unique : UniqueItems} {item : SnapshotItem} :
    item ∈ sortedItems unique ↔ ∃ key entry, unique.get? key = some entry ∧ entry.2 = item := by
  rw [sortedItems, List.mem_filterMap]
  constructor
  · rintro ⟨key, _, found⟩
    obtain ⟨entry, held, same⟩ := Option.map_eq_some_iff.mp found
    exact ⟨key, entry, held, same⟩
  · rintro ⟨key, entry, held, same⟩
    refine ⟨key, ?_, by rw [held, Option.map_some, same]⟩
    rw [List.mem_insertionSort, ← Dict.isSome_get?_iff, held]
    rfl

/-- The canonical items are among the given ones and cover all their keys. -/
theorem mem_canonical {items canonical : List SnapshotItem}
    (ended : canonicalSnapshotItems (items.map SnapshotItem.toJson) = .ok canonical) :
    (∀ item ∈ canonical, item ∈ items) ∧
      ∀ item ∈ items, ∃ other ∈ canonical, ∃ key, item.key = .ok key ∧ other.key = .ok key := by
  unfold canonicalSnapshotItems at ended
  cases collection : collectItems Dict.empty (items.map SnapshotItem.toJson) with
  | error error => simp [collection] at ended
  | ok unique =>
    rw [collection] at ended
    cases ended
    have start : Collected (Dict.empty : UniqueItems) := by
      intro key entry found
      cases found
    have collected := collectItems_collected start collection
    obtain ⟨sources, -, covered⟩ := collectItems_mem collection
    refine ⟨?_, ?_⟩
    · intro item member
      obtain ⟨key, entry, held, rfl⟩ := mem_sortedItems.mp member
      exact (sources key entry held).resolve_left (by simp)
    · intro item member
      obtain ⟨key, keyed, there⟩ := covered item member
      obtain ⟨entry, held⟩ := Option.isSome_iff_exists.mp there
      exact ⟨entry.2, mem_sortedItems.mpr ⟨key, entry, held, rfl⟩, key, keyed, (collected key entry held).1⟩

theorem collectItems_fresh {items : List SnapshotItem} {keys : List (List String)} {unique : UniqueItems}
    (keyed : items.map SnapshotItem.key = keys.map .ok) (nodup : keys.Nodup)
    (fresh : ∀ key ∈ keys, key ∉ unique.keys) :
    ∃ result, collectItems unique (items.map SnapshotItem.toJson) = .ok result ∧
      result.entries = unique.entries ++ keys.zip (items.map fun item => (item.encoded, item)) := by
  induction items generalizing keys unique with
  | nil =>
    have none_left : keys = [] := by simpa using keyed.symm
    exact ⟨unique, rfl, by simp [none_left]⟩
  | cons item rest ih =>
    cases keys with
    | nil => simp at keyed
    | cons key keys =>
      obtain ⟨head, tail⟩ := List.cons.inj keyed
      rw [List.nodup_cons] at nodup
      have missing : key ∉ unique.keys := fresh key List.mem_cons_self
      have absent : unique.get? key = none := (Dict.get?_eq_none_iff _ _).mpr missing
      have later : ∀ other ∈ keys, other ∉ (unique.insert key (item.encoded, item)).keys := by
        intro other inside
        rw [Dict.keys_insert, if_neg missing, List.mem_append, not_or, List.mem_singleton]
        exact ⟨fresh other (List.mem_cons_of_mem _ inside), fun same => nodup.1 (same ▸ inside)⟩
      obtain ⟨result, ended, entries⟩ := ih tail nodup.2 later
      refine ⟨result, ?_, ?_⟩
      · rw [List.map_cons, collectItems]
        simp only [SnapshotItem.ofJson_toJson, head, absent, Option.any_none, Bool.false_eq_true, if_false]
        exact ended
      · rw [entries, Dict.entries_insert_fresh _ _ missing]
        simp

/-- Canonical items are a fixed point of the canonicalisation. -/
theorem canonical_fixed {items : List SnapshotItem} {keys : List (List String)}
    (sorted : KeySorted items keys) :
    canonicalSnapshotItems (items.map SnapshotItem.toJson) = .ok items := by
  obtain ⟨keyed, increasing⟩ := sorted
  have nodup : keys.Nodup := increasing.imp fun less => ne_of_lt less
  have fresh : ∀ key ∈ keys, key ∉ (Dict.empty : UniqueItems).keys := by simp [Dict.keys, Dict.empty]
  obtain ⟨result, ended, entries⟩ := collectItems_fresh keyed nodup fresh
  have same_length : keys.length = items.length := by
    have := congrArg List.length keyed
    simpa using this.symm
  have zipped : result.entries = keys.zip (items.map fun item => (item.encoded, item)) := by
    simpa [Dict.empty] using entries
  have result_keys : result.keys = keys := by
    rw [Dict.keys, zipped, List.map_fst_zip (by simp [same_length])]
  have in_order : keys.insertionSort (· ≤ ·) = keys := (increasing.imp le_of_lt).insertionSort_eq
  unfold canonicalSnapshotItems
  rw [ended]
  simp only [sortedItems, result_keys, in_order, Except.ok.injEq]
  have lookups : ∀ pair ∈ keys.zip (items.map fun item => (item.encoded, item)),
      result.get? pair.1 = some pair.2 := by
    intro pair member
    exact (Dict.get?_eq_some_iff _ _ _).mpr (zipped ▸ member)
  clear ended entries result_keys in_order increasing zipped keyed nodup fresh
  induction keys generalizing items with
  | nil =>
    have none_left : items = [] := List.length_eq_zero_iff.mp same_length.symm
    simp [none_left]
  | cons key keys ih =>
    cases items with
    | nil => simp at same_length
    | cons item rest =>
      have here := lookups (key, item.encoded, item) (by simp)
      have rest_length : keys.length = rest.length := by simpa using same_length
      have tail := ih rest_length fun pair member =>
        lookups pair (by simp only [List.map_cons, List.zip_cons_cons]; exact List.mem_cons_of_mem _ member)
      simp only [List.filterMap_cons, here, Option.map_some, tail]

theorem setHash_fixed {items : List SnapshotItem} {keys : List (List String)} (sorted : KeySorted items keys) :
    snapshotSetHash (items.map SnapshotItem.toJson) = .ok (canonicalHash (itemsJson items)) := by
  unfold snapshotSetHash
  rw [canonical_fixed sorted]

/-- A receipt is never followed by an observation. -/
def ObservationsFirst (items : List SnapshotItem) : Prop :=
  items.Pairwise fun left right => left.kind = .receipt → right.kind = .receipt

theorem KeySorted.observationsFirst {items : List SnapshotItem} {keys : List (List String)}
    (sorted : KeySorted items keys) : ObservationsFirst items := by
  obtain ⟨keyed, increasing⟩ := sorted
  induction items generalizing keys with
  | nil => exact List.Pairwise.nil
  | cons item rest ih =>
    cases keys with
    | nil => simp at keyed
    | cons key keys =>
      obtain ⟨head, tail⟩ := List.cons.inj keyed
      rw [List.pairwise_cons] at increasing
      refine List.pairwise_cons.mpr ⟨?_, ih tail increasing.2⟩
      intro other member is_receipt
      obtain ⟨other_key, other_member, other_keyed⟩ : ∃ k ∈ keys, other.key = .ok k := by
        have inside : other.key ∈ rest.map SnapshotItem.key := List.mem_map_of_mem member
        rw [tail] at inside
        obtain ⟨k, k_member, same⟩ := List.mem_map.mp inside
        exact ⟨k, k_member, same.symm⟩
      obtain ⟨parts, rfl⟩ := SnapshotItem.key_kind head
      obtain ⟨other_parts, rfl⟩ := SnapshotItem.key_kind other_keyed
      have less := increasing.1 _ other_member
      cases other_kind : other.kind with
      | receipt => rfl
      | observation =>
        rw [is_receipt, other_kind] at less
        have : ("receipt" :: parts) < ("observation" :: other_parts) := less
        rw [List.cons_lt_cons_iff] at this
        rcases this with smaller | ⟨same, _⟩
        · exact absurd smaller (by decide)
        · exact absurd same (by decide)

theorem split_merge {items : List SnapshotItem} (first : ObservationsFirst items) :
    (items.filter fun item => item.kind = .observation) ++ (items.filter fun item => item.kind = .receipt) =
      items := by
  induction items with
  | nil => rfl
  | cons item rest ih =>
    obtain ⟨later, tail⟩ := List.pairwise_cons.mp first
    cases kind : item.kind with
    | observation => simpa [kind] using ih tail
    | receipt =>
      have all_receipts : ∀ other ∈ rest, other.kind = .receipt := fun other member => later other member kind
      have no_observation : (rest.filter fun item => item.kind = .observation) = [] := by
        rw [List.filter_eq_nil_iff]
        intro other member
        simp [all_receipts other member]
      have every_receipt : (rest.filter fun item => item.kind = .receipt) = rest := by
        rw [List.filter_eq_self]
        intro other member
        simp [all_receipts other member]
      simp [kind, no_observation, every_receipt]

end ExaServe.Control
