import ExaServe.Control.Transport.CanonicalItems
import ExaServe.Control.Transport.NodeChannel

namespace ExaServe.Control

open Lib Plan

/-- The answers of the listener to chunk payloads that arrive in order. -/
def feedChunks (limits : DefaultLimits) (rank : Int) :
    Dict Int SnapshotBuffer → List (Time × List (String × Json)) → List AssembleResult
  | _, [] => []
  | snapshots, (clock, payload) :: rest =>
    let answer := assembleSnapshot limits clock snapshots rank payload
    answer.2 :: feedChunks limits rank answer.1 rest

def agreedResults (count : Nat) (items : List SnapshotItem) : List AssembleResult :=
  List.replicate (count - 1) AssembleResult.owed ++ [AssembleResult.complete items]

def chunkBytes (chunk : List SnapshotItem) : Nat := (Json.dumps (itemsJson chunk)).length

def indexedChunks (chunks : List (List SnapshotItem)) : List (Int × List Json) :=
  chunks.zipIdx.map fun entry => ((entry.2 : Int), entry.1.map SnapshotItem.toJson)

theorem indexedChunks_concat (chunks : List (List SnapshotItem)) (chunk : List SnapshotItem) :
    indexedChunks (chunks ++ [chunk]) =
      indexedChunks chunks ++ [((chunks.length : Int), chunk.map SnapshotItem.toJson)] := by
  simp [indexedChunks, List.zipIdx_append]

theorem indexedChunks_keys (chunks : List (List SnapshotItem)) :
    (indexedChunks chunks).map Prod.fst = (List.range chunks.length).map Int.ofNat := by
  simp only [indexedChunks, List.map_map]
  rw [List.range_eq_range', ← List.zipIdx_map_snd 0 chunks, List.map_map]
  rfl

theorem indexedChunks_values (chunks : List (List SnapshotItem)) :
    (indexedChunks chunks).map Prod.snd = chunks.map (List.map SnapshotItem.toJson) := by
  simp only [indexedChunks, List.map_map]
  conv_rhs => rw [← List.zipIdx_map_fst 0 chunks, List.map_map]
  rfl

/-- The buffer holds exactly the first chunks of a snapshot, each once. -/
structure Holding (buffer : SnapshotBuffer) (snapshotId hash : String) (total : Nat) (start : Time)
    (chunks : List (List SnapshotItem)) : Prop where
  snapshotId_eq : buffer.snapshotId = snapshotId
  hash_eq : buffer.hash = hash
  total_eq : buffer.total = total
  start_eq : buffer.startedAt = start
  entries_eq : buffer.chunks.entries = indexedChunks chunks
  bytes_eq : buffer.bytes = (chunks.map chunkBytes).sum

namespace Holding

variable {buffer : SnapshotBuffer} {snapshotId hash : String} {total : Nat} {start : Time}
  {chunks : List (List SnapshotItem)}

theorem keys_eq (held : Holding buffer snapshotId hash total start chunks) :
    buffer.chunks.keys = (List.range chunks.length).map Int.ofNat := by
  rw [Dict.keys, held.entries_eq, indexedChunks_keys]

theorem fresh (held : Holding buffer snapshotId hash total start chunks) :
    (chunks.length : Int) ∉ buffer.chunks.keys := by
  rw [held.keys_eq]
  simp

theorem itemCount_eq (held : Holding buffer snapshotId hash total start chunks) :
    buffer.itemCount = chunks.flatten.length := by
  rw [SnapshotBuffer.itemCount, Dict.values, held.entries_eq, indexedChunks_values]
  simp [List.length_flatten, Function.comp_def]

theorem size_eq (held : Holding buffer snapshotId hash total start chunks) :
    buffer.chunks.size = chunks.length := by
  rw [Dict.size, held.entries_eq]
  simp [indexedChunks]

theorem assembled_eq (held : Holding buffer snapshotId hash total start chunks) :
    buffer.assembled = chunks.flatten.map SnapshotItem.toJson := by
  have sorted : ((List.range chunks.length).map Int.ofNat).Pairwise (· ≤ ·) := by
    rw [List.pairwise_map]
    exact List.pairwise_lt_range.imp fun less => by simpa using less.le
  have lookups : ∀ entry ∈ indexedChunks chunks, buffer.chunks.get? entry.1 = some entry.2 := by
    intro entry member
    exact (Dict.get?_eq_some_iff _ _ _).mpr (held.entries_eq ▸ member)
  rw [SnapshotBuffer.assembled, held.keys_eq, sorted.insertionSort_eq, ← indexedChunks_keys,
    List.flatMap_map, List.map_flatten, ← indexedChunks_values]
  generalize indexedChunks chunks = entries at lookups
  induction entries with
  | nil => rfl
  | cons entry rest ih =>
    have here := lookups entry List.mem_cons_self
    have tail := ih fun other member => lookups other (List.mem_cons_of_mem _ member)
    rw [List.flatMap_cons, List.map_cons, List.flatten_cons, here, tail]
    rfl

theorem store (held : Holding buffer snapshotId hash total start chunks) (chunk : List SnapshotItem) :
    Holding { buffer with
        bytes := buffer.bytes + chunkBytes chunk
        chunks := buffer.chunks.insert chunks.length (chunk.map SnapshotItem.toJson) }
      snapshotId hash total start (chunks ++ [chunk]) where
  snapshotId_eq := held.snapshotId_eq
  hash_eq := held.hash_eq
  total_eq := held.total_eq
  start_eq := held.start_eq
  entries_eq := by
    rw [Dict.entries_insert_fresh _ _ held.fresh, held.entries_eq, indexedChunks_concat]
  bytes_eq := by
    simp [held.bytes_eq]

end Holding

theorem chunkHeader_ok {limits : DefaultLimits} {payload : List (String × Json)} {snapshotId hash : String}
    {total index : Int} (version : payloadVersionOne payload = true)
    (names : Json.sameNames payload snapshotFields = true)
    (count : Json.lookup "chunk_count" payload = some (.int total))
    (position : Json.lookup "chunk_index" payload = some (.int index))
    (identity : Json.lookup "snapshot_id" payload = some (.str snapshotId))
    (digest : Json.lookup "complete_set_hash" payload = some (.str hash))
    (named : snapshotId ≠ "") (hex : isSha256Hex hash = true)
    (inside : ¬ (total < 1 ∨ index < 0 ∨ total ≤ index))
    (fits : ¬ (limits.maxSnapshotChunks : Int) < total) :
    chunkHeader limits payload = .ok { snapshotId, hash, total, index } := by
  unfold chunkHeader
  rw [version, names, count, position]
  dsimp only
  rw [identity]
  dsimp only
  rw [digest, if_neg named]
  dsimp only
  rw [hex, if_neg inside, if_neg fits]
  rfl

/-- What the listener needs of a whole snapshot apart from its size in bytes. -/
structure Deliverable (limits : DefaultLimits) (snapshotId hash : String)
    (chunks : List (List SnapshotItem)) : Prop where
  named : snapshotId ≠ ""
  hash_eq : hash = canonicalHash (itemsJson chunks.flatten)
  sorted : ∃ keys, KeySorted chunks.flatten keys
  few_chunks : chunks.length ≤ limits.maxSnapshotChunks
  few_items : chunks.flatten.length ≤ limits.maxSnapshotItems

namespace Deliverable

variable {limits : DefaultLimits} {snapshotId hash : String} {done rest : List (List SnapshotItem)}
  {chunk : List SnapshotItem}

theorem chunkHeader_eq (ready : Deliverable limits snapshotId hash (done ++ chunk :: rest)) :
    chunkHeader limits (NodeChannel.chunkPayload snapshotId hash (done ++ chunk :: rest).length
        done.length chunk) =
      .ok { snapshotId, hash, total := (done ++ chunk :: rest).length, index := done.length } := by
  have hex : isSha256Hex hash = true := by
    rw [ready.hash_eq]
    exact isSha256Hex_canonicalHash _
  have later : done.length < (done ++ chunk :: rest).length := by simp
  have few := ready.few_chunks
  apply chunkHeader_ok
  · simp [NodeChannel.chunkPayload, payloadVersionOne, Json.lookup]
  · simp [NodeChannel.chunkPayload, Json.sameNames, Json.fieldNames, snapshotFields]
  · simp [NodeChannel.chunkPayload, Json.lookup]
  · simp [NodeChannel.chunkPayload, Json.lookup]
  · simp [NodeChannel.chunkPayload, Json.lookup]
  · simp [NodeChannel.chunkPayload, Json.lookup]
  · exact ready.named
  · exact hex
  · omega
  · omega

theorem rawItems_eq (ready : Deliverable limits snapshotId hash (done ++ chunk :: rest)) :
    rawItems
        ((chunk.filter fun item => item.kind = .observation).map fun item => .obj item.body)
        ((chunk.filter fun item => item.kind = .receipt).map fun item => .obj item.body) =
      chunk.map SnapshotItem.toJson := by
  obtain ⟨keys, sorted⟩ := ready.sorted
  have part : chunk.Sublist (done ++ chunk :: rest).flatten := by
    rw [List.flatten_append, List.flatten_cons]
    exact (List.sublist_append_left _ _).trans (List.sublist_append_right _ _)
  have first : ObservationsFirst chunk := sorted.observationsFirst.sublist part
  have tagged : ∀ kind, ((chunk.filter fun item => item.kind = kind).map fun item =>
      rawItem kind (.obj item.body)) =
      (chunk.filter fun item => item.kind = kind).map SnapshotItem.toJson := by
    intro kind
    apply List.map_congr_left
    intro item member
    have same : item.kind = kind := by simpa using (List.mem_filter.mp member).2
    rw [SnapshotItem.toJson, same]
    rfl
  conv_rhs => rw [← split_merge first, List.map_append, ← tagged, ← tagged]
  simp [rawItems, Function.comp_def]

theorem assembleSnapshot_eq (ready : Deliverable limits snapshotId hash (done ++ chunk :: rest))
    {snapshots : Dict Int SnapshotBuffer} {rank : Int} {clock start : Time}
    (held : Holding ((snapshots.get? rank).getD
        { snapshotId, total := (done ++ chunk :: rest).length, hash, startedAt := clock })
      snapshotId hash (done ++ chunk :: rest).length start done)
    (within : clock - start ≤ limits.snapshotAssemblyDeadlineS) :
    assembleSnapshot limits clock snapshots rank (NodeChannel.chunkPayload snapshotId hash
        (done ++ chunk :: rest).length done.length chunk) =
      storeChunk limits snapshots rank ((snapshots.get? rank).getD
          { snapshotId, total := (done ++ chunk :: rest).length, hash, startedAt := clock })
        { snapshotId, hash, total := (done ++ chunk :: rest).length, index := done.length }
        (chunk.map SnapshotItem.toJson) := by
  unfold assembleSnapshot
  rw [ready.chunkHeader_eq]
  dsimp only
  rw [if_neg (by rw [held.snapshotId_eq, held.total_eq, held.hash_eq]; simp), held.start_eq,
    if_neg (not_lt.mpr within), ← ready.rawItems_eq]
  rfl

theorem finishAssembly_eq {chunks : List (List SnapshotItem)}
    (ready : Deliverable limits snapshotId hash chunks) {buffer : SnapshotBuffer} {total : Nat}
    {start : Time} (held : Holding buffer snapshotId hash total start chunks)
    (snapshots : Dict Int SnapshotBuffer) (rank : Int) :
    finishAssembly snapshots rank buffer hash = (snapshots.erase rank, .complete chunks.flatten) := by
  obtain ⟨keys, sorted⟩ := ready.sorted
  unfold finishAssembly
  rw [held.assembled_eq, canonical_fixed sorted]
  dsimp only
  rw [setHash_fixed sorted]
  simp [ready.hash_eq]

theorem keepChunk_spec (ready : Deliverable limits snapshotId hash (done ++ chunk :: rest))
    {buffer : SnapshotBuffer} {start : Time}
    (held : Holding buffer snapshotId hash (done ++ chunk :: rest).length start (done ++ [chunk]))
    (snapshots : Dict Int SnapshotBuffer) (rank : Int) :
    if rest = [] then
      (keepChunk limits snapshots rank buffer hash).2 = .complete (done ++ [chunk]).flatten
    else (keepChunk limits snapshots rank buffer hash).2 = .owed ∧
      ∃ stored, (keepChunk limits snapshots rank buffer hash).1.get? rank = some stored ∧
        Holding stored snapshotId hash (done ++ chunk :: rest).length start (done ++ [chunk]) := by
  have few : ¬ limits.maxSnapshotItems < (done ++ [chunk]).flatten.length := by
    have := ready.few_items
    simp only [List.flatten_append, List.flatten_cons, List.length_append, List.flatten_nil,
      List.length_nil] at this ⊢
    omega
  unfold keepChunk
  rw [held.itemCount_eq, if_neg few, held.size_eq, held.total_eq]
  cases rest with
  | nil =>
    rw [if_pos rfl, if_neg (lt_irrefl _), finishAssembly_eq ready held]
  | cons next later =>
    rw [if_neg (List.cons_ne_nil _ _), if_pos (by simp)]
    exact ⟨rfl, buffer, Dict.get?_insert_self _ _ _, held⟩

/-- The listener takes the chunk unless it passes the byte limit, and completes on
    the last one. -/
theorem storeChunk_spec (ready : Deliverable limits snapshotId hash (done ++ chunk :: rest))
    {buffer : SnapshotBuffer} {start : Time}
    (held : Holding buffer snapshotId hash (done ++ chunk :: rest).length start done)
    (snapshots : Dict Int SnapshotBuffer) (rank : Int) :
    let answer := storeChunk limits snapshots rank buffer
      { snapshotId, hash, total := (done ++ chunk :: rest).length, index := done.length }
      (chunk.map SnapshotItem.toJson)
    if limits.maxSnapshotBytes < ((done ++ [chunk]).map chunkBytes).sum then
      ∃ reason, answer.2 = .refused reason
    else if rest = [] then answer.2 = .complete (done ++ [chunk]).flatten
    else answer.2 = .owed ∧ ∃ stored, answer.1.get? rank = some stored ∧
      Holding stored snapshotId hash (done ++ chunk :: rest).length start (done ++ [chunk]) := by
  have stored := held.store chunk
  have missing : buffer.chunks.get? done.length = none := (Dict.get?_eq_none_iff _ _).mpr held.fresh
  have counted : buffer.bytes + (Json.dumps (.arr (chunk.map SnapshotItem.toJson))).length =
      ((done ++ [chunk]).map chunkBytes).sum := stored.bytes_eq
  dsimp only
  unfold storeChunk
  rw [missing]
  dsimp only
  rw [← counted]
  by_cases exceeded : limits.maxSnapshotBytes <
      buffer.bytes + (Json.dumps (.arr (chunk.map SnapshotItem.toJson))).length
  · simp only [exceeded, if_true]
    exact ⟨_, rfl⟩
  · simp only [exceeded, if_false]
    exact keepChunk_spec ready stored snapshots rank

/-- Fed in order from the chunk after those already held, the listener agrees
    exactly when the bytes it counts stay within the limit. -/
theorem feedChunks_iff (ready : Deliverable limits snapshotId hash (done ++ chunk :: rest))
    {snapshots : Dict Int SnapshotBuffer} {rank : Int} {clock start : Time} {clocks : List Time}
    (held : Holding ((snapshots.get? rank).getD
        { snapshotId, total := (done ++ chunk :: rest).length, hash, startedAt := clock })
      snapshotId hash (done ++ chunk :: rest).length start done)
    (as_many : clocks.length = rest.length)
    (within : ∀ time ∈ clock :: clocks, time - start ≤ limits.snapshotAssemblyDeadlineS) :
    feedChunks limits rank snapshots ((clock :: clocks).zip (NodeChannel.chunkPayloads snapshotId hash
        (done ++ chunk :: rest).length done.length (chunk :: rest))) =
        agreedResults (rest.length + 1) (done ++ chunk :: rest).flatten ↔
      ((done ++ chunk :: rest).map chunkBytes).sum ≤ limits.maxSnapshotBytes := by
  induction rest generalizing done chunk snapshots clock clocks with
  | nil =>
    have spec := ready.storeChunk_spec held snapshots rank
    have no_clocks : clocks = [] := List.length_eq_zero_iff.mp as_many
    rw [no_clocks]
    simp only [NodeChannel.chunkPayloads, List.zip_cons_cons, List.zip_nil_left, feedChunks,
      ready.assembleSnapshot_eq held (within clock List.mem_cons_self)]
    dsimp only at spec
    split at spec
    · rename_i exceeded
      obtain ⟨reason, answer⟩ := spec
      rw [answer]
      simp only [agreedResults, List.length_nil, Nat.zero_add, Nat.sub_self, List.replicate_zero,
        List.nil_append, List.cons.injEq, reduceCtorEq, false_and, false_iff, not_le]
      exact exceeded
    · rename_i fits
      rw [if_pos rfl] at spec
      rw [spec]
      simp only [agreedResults, List.length_nil, Nat.zero_add, Nat.sub_self, List.replicate_zero,
        List.nil_append, true_iff]
      exact not_lt.mp fits
  | cons next later ih =>
    have spec := ready.storeChunk_spec held snapshots rank
    obtain ⟨time, times, rfl⟩ : ∃ time times, clocks = time :: times := by
      cases clocks with
      | nil => simp at as_many
      | cons time times => exact ⟨time, times, rfl⟩
    have regroup : done ++ chunk :: next :: later = (done ++ [chunk]) ++ next :: later := by simp
    have unfolded : NodeChannel.chunkPayloads snapshotId hash (done ++ chunk :: next :: later).length
        done.length (chunk :: next :: later) =
        NodeChannel.chunkPayload snapshotId hash (done ++ chunk :: next :: later).length done.length chunk ::
          NodeChannel.chunkPayloads snapshotId hash (done ++ chunk :: next :: later).length
            (done ++ [chunk]).length (next :: later) := by
      simp [NodeChannel.chunkPayloads]
    rw [unfolded, List.zip_cons_cons, feedChunks, ready.assembleSnapshot_eq held (within clock List.mem_cons_self)]
    dsimp only at spec
    generalize storeChunk limits snapshots rank _ _ _ = answer at spec ⊢
    split at spec
    · rename_i exceeded
      obtain ⟨reason, refused⟩ := spec
      rw [refused]
      simp only [agreedResults, List.length_cons, Nat.add_sub_cancel, List.replicate_succ,
        List.cons_append, List.cons.injEq, reduceCtorEq, false_and, false_iff, not_le]
      rw [regroup, List.map_append, List.sum_append]
      omega
    · rw [if_neg (List.cons_ne_nil _ _)] at spec
      obtain ⟨owed, stored, kept, holding⟩ := spec
      rw [owed]
      have next_held : Holding ((answer.1.get? rank).getD
          { snapshotId, total := ((done ++ [chunk]) ++ next :: later).length, hash, startedAt := time })
          snapshotId hash ((done ++ [chunk]) ++ next :: later).length start (done ++ [chunk]) := by
        rw [kept, Option.getD_some, ← regroup]
        exact holding
      have tail := ih (regroup ▸ ready) next_held (by simpa using as_many)
        fun moment member => within moment (List.mem_cons_of_mem _ member)
      rw [← regroup] at tail
      rw [← tail]
      simp only [agreedResults, List.length_cons, Nat.add_sub_cancel, List.replicate_succ,
        List.cons_append, List.cons.injEq, true_and]

end Deliverable

namespace NodeChannel

theorem writeChunks_payloads {sockets : Nat → Socket} {channel : NodeChannel} {index : Nat}
    {payloads : List (List (String × Json))}
    (sent : (writeChunks sockets channel index payloads).2.2 = .ok ()) :
    (writeChunks sockets channel index payloads).2.1.map Envelope.payload = payloads := by
  induction payloads generalizing channel index with
  | nil => rfl
  | cons payload rest ih =>
    unfold writeChunks at sent ⊢
    have single : ∀ after written, channel.write (sockets index) .snapshot payload = (after, written, .ok ()) →
        written.map Envelope.payload = [payload] := by
      intro after written wrote
      unfold write at wrote
      split at wrote
      · cases wrote
      · split at wrote
        · cases wrote
        · cases wrote
          rfl
      · split at wrote
        · cases wrote
        · cases wrote
    generalize outcome : channel.write (sockets index) .snapshot payload = result at sent ⊢
    obtain ⟨after, written, ending⟩ := result
    cases ending with
    | error error => cases sent
    | ok done =>
      dsimp only at sent ⊢
      rw [List.map_append, single after written outcome, ih sent]
      rfl

theorem snapshotChunks_flatten {chunkItems : Nat} (positive : 0 < chunkItems) (items : List SnapshotItem) :
    (snapshotChunks chunkItems items).flatten = items := by
  have joined := flatten_slices positive items
  unfold snapshotChunks
  split
  · rename_i none_left
    rw [none_left] at joined
    exact joined
  · exact joined

/-- The listener counts one bracket pair for every chunk, the sender one for the
    whole list. -/
theorem snapshotChunks_bytes {chunkItems : Nat} (positive : 0 < chunkItems) (items : List SnapshotItem) :
    ((snapshotChunks chunkItems items).map chunkBytes).sum =
      chunkBytes items + ((snapshotChunks chunkItems items).length - 1) := by
  have width : ∀ chunk : List SnapshotItem, chunk ≠ [] →
      chunkBytes chunk = Json.itemsWidth (chunk.map SnapshotItem.toJson) + 1 :=
    fun chunk nonempty => Json.dumps_arr_length (by simpa using nonempty)
  have total : ∀ chunks : List (List SnapshotItem), (∀ chunk ∈ chunks, chunk ≠ []) →
      (chunks.map chunkBytes).sum =
        Json.itemsWidth (chunks.flatten.map SnapshotItem.toJson) + chunks.length := by
    intro chunks nonempty
    induction chunks with
    | nil => rfl
    | cons chunk rest ih =>
      rw [List.map_cons, List.sum_cons, width chunk (nonempty chunk List.mem_cons_self),
        ih fun other member => nonempty other (List.mem_cons_of_mem _ member), List.flatten_cons,
        List.map_append, Json.itemsWidth_append, List.length_cons]
      omega
  have joined := flatten_slices positive items
  unfold snapshotChunks
  split
  · rename_i none_left
    rw [none_left] at joined
    rw [← joined]
    rfl
  · rename_i some_left
    have counted := total _ (slices_nonempty positive items)
    rw [joined] at counted
    have nonempty : items ≠ [] := by
      intro empty
      apply some_left
      have zero : (items.length + chunkItems - 1) / chunkItems = 0 := by
        rw [empty, List.length_nil, Nat.zero_add]
        exact Nat.div_eq_of_lt (by omega)
      rw [slices, zero, chunksOf]
    have chunk_count : 0 < (slices chunkItems items).length := List.length_pos_iff.mpr some_left
    rw [counted, width items nonempty]
    omega

theorem snapshotRefusal_none {channel : NodeChannel} {items : List SnapshotItem}
    {snapshotId hash : String} {chunkItems : Int}
    (passed : channel.snapshotRefusal items snapshotId hash chunkItems = none) :
    0 < chunkItems.toNat ∧ items.length ≤ channel.limits.maxSnapshotItems ∧
      (snapshotChunks chunkItems.toNat items).length ≤ channel.limits.maxSnapshotChunks := by
  unfold snapshotRefusal at passed
  dsimp only at passed
  split at passed
  · cases passed
  · split at passed
    · cases passed
    · split at passed
      · cases passed
      · split at passed
        · cases passed
        · omega

theorem defaultSnapshotId_named (channel : NodeChannel) (snapshotId hash : String) :
    channel.defaultSnapshotId snapshotId hash ≠ "" := by
  unfold defaultSnapshotId
  dsimp only
  split
  · intro empty
    have parts := congrArg String.length empty
    simp at parts
    exact absurd parts.1.2 (by decide)
  · assumption

theorem snapshotChunks_nonempty (chunkItems : Nat) (items : List SnapshotItem) :
    snapshotChunks chunkItems items ≠ [] := by
  unfold snapshotChunks
  split
  · exact List.cons_ne_nil _ _
  · assumption

theorem chunkPayloads_length (snapshotId hash : String) (count index : Nat)
    (chunks : List (List SnapshotItem)) :
    (chunkPayloads snapshotId hash count index chunks).length = chunks.length := by
  induction chunks generalizing index with
  | nil => rfl
  | cons chunk rest ih => simp [chunkPayloads, ih]

theorem chunkPayloads_hash {snapshotId hash : String} {count index : Nat}
    {chunks : List (List SnapshotItem)} :
    ∀ payload ∈ chunkPayloads snapshotId hash count index chunks,
      Json.lookup "complete_set_hash" payload = some (.str hash) := by
  induction chunks generalizing index with
  | nil => simp [chunkPayloads]
  | cons chunk rest ih =>
    intro payload member
    rcases List.mem_cons.mp member with rfl | later
    · simp [chunkPayload, Json.lookup]
    · exact ih payload later

theorem sendSnapshot_ok {sockets : Nat → Socket} {channel : NodeChannel}
    {observations : List ComponentObservation} {receipts : List (List (String × Json))}
    {snapshotId : String} {chunkItems : Int}
    (sent : (channel.sendSnapshot sockets observations receipts snapshotId chunkItems).2.2.isOk = true) :
    ∃ items name, canonicalSnapshotItems (snapshotItems observations receipts) = .ok items ∧
      Deliverable channel.limits name (canonicalHash (itemsJson items))
        (snapshotChunks chunkItems.toNat items) ∧
      0 < chunkItems.toNat ∧
      (channel.sendSnapshot sockets observations receipts snapshotId chunkItems).2.1.map Envelope.payload =
        chunkPayloads name (canonicalHash (itemsJson items)) (snapshotChunks chunkItems.toNat items).length 0
          (snapshotChunks chunkItems.toNat items) := by
  unfold sendSnapshot prepareSnapshot at sent ⊢
  cases canonical : canonicalSnapshotItems (snapshotItems observations receipts) with
  | error error =>
    rw [canonical] at sent
    cases sent
  | ok items =>
    obtain ⟨keys, sorted⟩ := canonical_keySorted canonical
    simp only [canonical, setHash_fixed sorted] at sent ⊢
    generalize named : channel.defaultSnapshotId snapshotId (canonicalHash (itemsJson items)) = name at sent ⊢
    cases passed : channel.snapshotRefusal items name (canonicalHash (itemsJson items)) chunkItems with
    | some reason =>
      rw [passed] at sent
      cases sent
    | none =>
      obtain ⟨positive, few_items, few_chunks⟩ := snapshotRefusal_none passed
      have joined := snapshotChunks_flatten positive items
      simp only [passed] at sent ⊢
      refine ⟨items, name, rfl, ?_, positive, ?_⟩
      · exact
          { named := named ▸ defaultSnapshotId_named _ _ _
            hash_eq := by rw [joined]
            sorted := ⟨keys, joined.symm ▸ sorted⟩
            few_chunks := few_chunks
            few_items := by rw [joined]; exact few_items }
      · generalize chunkPayloads name _ _ 0 _ = payloads at sent ⊢
        generalize outcome : writeChunks sockets _ 0 payloads = result at sent ⊢
        obtain ⟨after, written, ending⟩ := result
        cases ending with
        | error error => cases sent
        | ok done =>
          have all := writeChunks_payloads (by rw [outcome])
          rw [outcome] at all
          exact all

/-- When `send_snapshot` writes every chunk, the listener accepts the sender's
    canonical items on the last one exactly if the encoded list leaves room for a
    further byte per chunk after the first. -/
theorem sent_snapshot_accepted_iff (sockets : Nat → Socket) (channel : NodeChannel)
    (observations : List ComponentObservation) (receipts : List (List (String × Json)))
    (snapshotId : String) (chunkItems : Int)
    (sent : (channel.sendSnapshot sockets observations receipts snapshotId chunkItems).2.2.isOk = true)
    (rank : Int) (snapshots : Dict Int SnapshotBuffer) (idle : snapshots.get? rank = none)
    (start : Time) (clocks : List Time)
    (as_many : (start :: clocks).length =
      (channel.sendSnapshot sockets observations receipts snapshotId chunkItems).2.1.length)
    (within : ∀ clock ∈ clocks, clock - start ≤ channel.limits.snapshotAssemblyDeadlineS) :
    let written := (channel.sendSnapshot sockets observations receipts snapshotId chunkItems).2.1
    ∃ items, canonicalSnapshotItems (snapshotItems observations receipts) = .ok items ∧
      (∀ env ∈ written, Json.lookup "complete_set_hash" env.payload =
        some (.str (canonicalHash (itemsJson items)))) ∧
      (feedChunks channel.limits rank snapshots
          ((start :: clocks).zip (written.map Envelope.payload)) = agreedResults written.length items ↔
        (Json.dumps (itemsJson items)).length + ((snapshotChunks chunkItems.toNat items).length - 1) ≤
          channel.limits.maxSnapshotBytes) := by
  obtain ⟨items, name, canonical, ready, positive, payloads⟩ := sendSnapshot_ok sent
  dsimp only
  generalize (channel.sendSnapshot sockets observations receipts snapshotId chunkItems).2.1 = written
    at as_many payloads ⊢
  have count : written.length = (snapshotChunks chunkItems.toNat items).length := by
    rw [← chunkPayloads_length name (canonicalHash (itemsJson items)) _ 0, ← payloads, List.length_map]
  have bytes := snapshotChunks_bytes positive items
  have joined := snapshotChunks_flatten positive items
  refine ⟨items, canonical, ?_, ?_⟩
  · intro env member
    exact chunkPayloads_hash env.payload (payloads ▸ List.mem_map_of_mem member)
  · have nonempty := snapshotChunks_nonempty chunkItems.toNat items
    change _ ↔ chunkBytes items + _ ≤ _
    rw [payloads, count, ← bytes]
    rw [count] at as_many
    generalize snapshotChunks chunkItems.toNat items = chunks at ready joined as_many nonempty
    cases chunks with
    | nil => exact absurd rfl nonempty
    | cons chunk rest =>
      have held : Holding ((snapshots.get? rank).getD
          { snapshotId := name, total := (chunk :: rest).length, hash := canonicalHash (itemsJson items)
            startedAt := start }) name (canonicalHash (itemsJson items)) (chunk :: rest).length start [] := by
        rw [idle, Option.getD_none]
        exact ⟨rfl, rfl, rfl, rfl, rfl, rfl⟩
      have in_time : ∀ time ∈ start :: clocks,
          time - start ≤ channel.limits.snapshotAssemblyDeadlineS := by
        intro time member
        rcases List.mem_cons.mp member with rfl | later
        · rw [sub_self]
          exact channel.limits.deadlines_positive.2.2.2.2.1.le
        · exact within time later
      have fed := @Deliverable.feedChunks_iff _ _ _ [] _ _ ready _ _ _ _ _ held (by simpa using as_many) in_time
      rw [List.nil_append, joined] at fed
      exact fed

/-- Two receipts in chunks of one, in a channel whose byte limit is the given one. -/
def twoReceiptChannel (maxSnapshotBytes : Nat) (positive : 0 < maxSnapshotBytes) : NodeChannel :=
  { secret := List.replicate 32 0, deploymentId := "d", planHash := "p", generation := 1, rank := 0
    nodeId := "n0"
    limits := { maxSnapshotBytes, bounds_positive := by simpa using positive } }

def twoReceipts : List (List (String × Json)) :=
  ["a", "b"].map fun name =>
    [("receipt_requirement_id", .str name), ("component_id", .str "c"), ("instance_id", .str "i")]

def sendTwoReceipts (maxSnapshotBytes : Nat) (positive : 0 < maxSnapshotBytes) :
    NodeChannel × List Envelope × Except Raised String :=
  (twoReceiptChannel maxSnapshotBytes positive).sendSnapshot (fun _ => .ready) [] twoReceipts "s" 1

/-- The listener's answers one second apart. -/
def assembleTwoReceipts (maxSnapshotBytes : Nat) (positive : 0 < maxSnapshotBytes) : List AssembleResult :=
  feedChunks (twoReceiptChannel maxSnapshotBytes positive).limits 0 Dict.empty
    ([0, 1].zip ((sendTwoReceipts maxSnapshotBytes positive).2.1.map Envelope.payload))

theorem two_receipts_accepted_at_190_bytes :
    (sendTwoReceipts 190 (by decide)).2.2.isOk = true ∧
      ∃ items, assembleTwoReceipts 190 (by decide) = agreedResults 2 items := by
  obtain ⟨sent, count⟩ : (sendTwoReceipts 190 (by decide)).2.2.isOk = true ∧
      (sendTwoReceipts 190 (by decide)).2.1.length = 2 := by decide +kernel
  have room : (canonicalSnapshotItems (snapshotItems [] twoReceipts)).toOption.all (fun items =>
      decide ((Json.dumps (itemsJson items)).length + ((snapshotChunks 1 items).length - 1) ≤ 190)) = true := by
    decide +kernel
  refine ⟨sent, ?_⟩
  unfold assembleTwoReceipts
  unfold sendTwoReceipts at sent count ⊢
  obtain ⟨items, canonical, _, agreed⟩ := sent_snapshot_accepted_iff (fun _ => .ready)
    (twoReceiptChannel 190 (by decide)) [] twoReceipts "s" 1 sent 0 Dict.empty rfl 0 [1] count.symm
    (by decide +kernel)
  rw [canonical] at room
  rw [count] at agreed
  exact ⟨items, agreed.mpr (of_decide_eq_true room)⟩

def isComplete : AssembleResult → Bool
  | .complete _ => true
  | _ => false

theorem two_receipts_refused_at_189_bytes :
    (sendTwoReceipts 189 (by decide)).2.2.isOk = true ∧
      ¬ ∃ items, assembleTwoReceipts 189 (by decide) = agreedResults 2 items := by
  obtain ⟨sent, answers⟩ : (sendTwoReceipts 189 (by decide)).2.2.isOk = true ∧
      (assembleTwoReceipts 189 (by decide)).map isComplete = [false, false] := by decide +kernel
  refine ⟨sent, ?_⟩
  rintro ⟨items, agreed⟩
  rw [agreed] at answers
  cases answers

end NodeChannel

end ExaServe.Control
