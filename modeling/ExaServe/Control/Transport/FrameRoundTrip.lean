import ExaServe.Lib.JsonRoundTrip
import ExaServe.Control.Transport.Frame

namespace ExaServe.Control

open Lib Plan

/-- No float of the value is beyond the range of a double. -/
def Finite (value : Json) : Prop := ∀ path, nonFinite path value = none

theorem finite_items {items : List Json} (path : String) (index : Nat) :
    (∀ item ∈ items, Finite item) → nonFiniteItems path index items = none := by
  intro all
  induction items generalizing index with
  | nil => rfl
  | cons item rest ih =>
    rw [nonFiniteItems, all item List.mem_cons_self _,
      ih (index + 1) fun other member => all other (List.mem_cons_of_mem _ member)]
    rfl

theorem finite_fields {fields : List (String × Json)} (path : String) :
    (∀ field ∈ fields, Finite field.2) → nonFiniteFields path fields = none := by
  intro all
  induction fields with
  | nil => rfl
  | cons field rest ih =>
    obtain ⟨key, value⟩ := field
    rw [nonFiniteFields, all (key, value) List.mem_cons_self _,
      ih fun other member => all other (List.mem_cons_of_mem _ member)]
    rfl

theorem items_none {items : List Json} {path : String} {index : Nat}
    (clear : nonFiniteItems path index items = none) :
    ∀ item ∈ items, ∃ inner, nonFinite inner item = none := by
  induction items generalizing index with
  | nil => simp
  | cons head rest ih =>
    simp only [nonFiniteItems, Option.orElse_eq_orElse, Option.orElse_eq_or, Option.or_eq_none_iff] at clear
    intro item member
    rcases List.mem_cons.mp member with rfl | later
    · exact ⟨_, clear.1⟩
    · exact ih clear.2 item later

theorem fields_none {fields : List (String × Json)} {path : String}
    (clear : nonFiniteFields path fields = none) :
    ∀ field ∈ fields, ∃ inner, nonFinite inner field.2 = none := by
  induction fields with
  | nil => simp
  | cons head rest ih =>
    obtain ⟨key, value⟩ := head
    simp only [nonFiniteFields, Option.orElse_eq_orElse, Option.orElse_eq_or, Option.or_eq_none_iff] at clear
    intro field member
    rcases List.mem_cons.mp member with rfl | later
    · exact ⟨_, clear.1⟩
    · exact ih clear.2 field later

theorem finite_of_none (value : Json) : ∀ path, nonFinite path value = none → Finite value := by
  induction value using Json.induction with
  | null => exact fun _ _ _ => rfl
  | bool value => exact fun _ _ _ => rfl
  | int value => exact fun _ _ _ => rfl
  | str value => exact fun _ _ _ => rfl
  | float value =>
    intro path clear other
    rw [nonFinite] at clear ⊢
    split at clear
    · cases clear
    · rename_i inside
      rw [if_neg inside]
  | arr items ih =>
    intro path clear other
    apply finite_items
    intro item member
    obtain ⟨inner, none_here⟩ := items_none clear item member
    exact ih item member inner none_here
  | obj fields ih =>
    intro path clear other
    apply finite_fields
    intro field member
    obtain ⟨inner, none_here⟩ := fields_none clear field member
    exact ih field member inner none_here

theorem finite_canonical (value : Json) : Finite value → Finite (Json.canonical value) := by
  induction value using Json.induction with
  | null => exact id
  | bool value => exact id
  | int value => exact id
  | str value => exact id
  | float value => exact id
  | arr items ih =>
    intro finite path
    apply finite_items
    intro item member
    rw [Json.canonicalItems_eq_map] at member
    obtain ⟨source, inside, rfl⟩ := List.mem_map.mp member
    obtain ⟨inner, clear⟩ := items_none (finite path) source inside
    exact ih source inside (finite_of_none source inner clear)
  | obj fields ih =>
    intro finite path
    apply finite_fields
    intro field member
    rw [Json.mem_sortFields, Json.canonicalFields_eq_map] at member
    obtain ⟨source, inside, rfl⟩ := List.mem_map.mp member
    obtain ⟨inner, clear⟩ := fields_none (finite path) source inside
    exact ih source inside (finite_of_none source.2 inner clear)

namespace Envelope

/-- The same envelope with the objects of its payload in key order. -/
def canonical (env : Envelope) : Envelope :=
  { env with payload := Json.sortFields (Json.canonicalFields env.payload) }

structure Valid (env : Envelope) : Prop where
  deployment_named : env.deploymentId ≠ ""
  plan_named : env.planHash ≠ ""
  node_named : env.senderNode ≠ ""
  generation_bound : 0 ≤ env.generation
  rank_bound : -1 ≤ env.senderRank
  seq_bound : 0 ≤ env.seq
  finite : Finite (.obj env.payload)

/-- The object has exactly the fields of the envelope. -/
structure Fields (env : Envelope) (data : List (String × Json)) : Prop where
  v : Json.lookup "v" data = some (.int 1)
  kind : Json.lookup "kind" data = some (.str env.kind.value)
  deploymentId : Json.lookup "deployment_id" data = some (.str env.deploymentId)
  planHash : Json.lookup "plan_hash" data = some (.str env.planHash)
  generation : Json.lookup "generation" data = some (.int env.generation)
  senderRank : Json.lookup "sender_rank" data = some (.int env.senderRank)
  senderNode : Json.lookup "sender_node" data = some (.str env.senderNode)
  seq : Json.lookup "seq" data = some (.int env.seq)
  payload : Json.lookup "payload" data = some (.obj env.payload)

theorem fields_toDict (env : Envelope) : env.Fields env.toDict := by
  constructor <;> simp [toDict, Json.lookup]

theorem Fields.text {data : List (String × Json)} {name text : String}
    (found : Json.lookup name data = some (.str text)) :
    textField data name = if text = "" then .error (malformed name) else .ok text := by
  rw [textField, found]

theorem Fields.number {data : List (String × Json)} {name : String} {value minimum : Int}
    (found : Json.lookup name data = some (.int value)) :
    intField data name minimum = if value < minimum then .error (malformed name) else .ok value := by
  rw [intField, found]

theorem Fields.schema {env : Envelope} {data : List (String × Json)} (fields : env.Fields data) :
    schemaField data "v" = .ok () := by
  rw [schemaField, fields.v]
  rfl

theorem Fields.kindField_eq {env : Envelope} {data : List (String × Json)} (fields : env.Fields data) :
    kindField data = .ok env.kind := by
  rw [kindField, fields.kind]
  simp only [EnvelopeKind.ofValue_value]

theorem Fields.payloadField_eq {env : Envelope} {data : List (String × Json)} (fields : env.Fields data) :
    payloadField data = .ok env.payload := by
  rw [payloadField, fields.payload]
  rfl

theorem validate_ok {env : Envelope} {data : List (String × Json)} (fields : env.Fields data)
    (valid : env.Valid) : validateEnvelope data = .ok env := by
  unfold validateEnvelope
  rw [fields.schema, fields.kindField_eq, Fields.text fields.deploymentId, Fields.text fields.planHash,
    Fields.text fields.senderNode, Fields.number fields.generation, Fields.number fields.senderRank,
    Fields.number fields.seq, fields.payloadField_eq, if_neg valid.deployment_named,
    if_neg valid.plan_named, if_neg valid.node_named, if_neg (not_lt.mpr valid.generation_bound),
    if_neg (not_lt.mpr valid.rank_bound), if_neg (not_lt.mpr valid.seq_bound)]
  simp only [Except.bind, bind, validateJsonValue, valid.finite "payload"]

theorem valid_of_ok {env : Envelope} {data : List (String × Json)} (fields : env.Fields data)
    {result : Envelope} (passed : validateEnvelope data = .ok result) : env.Valid := by
  unfold validateEnvelope at passed
  rw [fields.schema, fields.kindField_eq, Fields.text fields.deploymentId, Fields.text fields.planHash,
    Fields.text fields.senderNode, Fields.number fields.generation, Fields.number fields.senderRank,
    Fields.number fields.seq, fields.payloadField_eq] at passed
  simp only [Except.bind, bind, validateJsonValue] at passed
  by_cases deployment : env.deploymentId = ""
  · simp [deployment] at passed
  by_cases plan : env.planHash = ""
  · simp [deployment, plan] at passed
  by_cases node : env.senderNode = ""
  · simp [deployment, plan, node] at passed
  by_cases generation : env.generation < 0
  · simp [deployment, plan, node, generation] at passed
  by_cases rank : env.senderRank < -1
  · simp [deployment, plan, node, generation, rank] at passed
  by_cases seq : env.seq < 0
  · simp [deployment, plan, node, generation, rank, seq] at passed
  cases clear : nonFinite "payload" (.obj env.payload) with
  | some path => simp [deployment, plan, node, generation, rank, seq, clear] at passed
  | none =>
    exact ⟨deployment, plan, node, not_lt.mp generation, not_lt.mp rank, not_lt.mp seq,
      finite_of_none _ _ clear⟩

/-- What `json.loads` returns for the text of an envelope. -/
def sortedDict (env : Envelope) : List (String × Json) :=
  [("deployment_id", .str env.deploymentId), ("generation", .int env.generation),
    ("kind", .str env.kind.value), ("payload", .obj env.payload), ("plan_hash", .str env.planHash),
    ("sender_node", .str env.senderNode), ("sender_rank", .int env.senderRank), ("seq", .int env.seq),
    ("v", .int 1)]

theorem canonical_toDict (env : Envelope) :
    Json.canonical (.obj env.toDict) = .obj env.canonical.sortedDict := by
  rw [Json.canonical, Json.canonicalFields_eq_map]
  simp [toDict, Json.canonical, Json.sortFields, List.orderedInsert, sortedDict, Envelope.canonical]

theorem fields_sortedDict (env : Envelope) : env.Fields env.sortedDict := by
  constructor <;> simp [sortedDict, Json.lookup]

theorem constructed_sortedDict (env : Envelope) :
    constructed "Envelope" requiredFields ["payload"] env.sortedDict = .ok () := by
  simp [constructed, constructorError, sortedDict, requiredFields, Json.fieldNames]

theorem Valid.canonical {env : Envelope} (valid : env.Valid) : env.canonical.Valid :=
  { valid with finite := finite_canonical _ valid.finite }

theorem wellKeyed_toDict {env : Envelope} (keyed : Json.wellKeyed (.obj env.payload) = true) :
    Json.wellKeyed (.obj env.toDict) = true := by
  simp only [Json.wellKeyed, toDict, Json.fieldNames, Json.wellKeyedFields, List.map_cons, List.map_nil,
    Bool.true_and, Bool.and_true] at keyed ⊢
  rw [keyed, Bool.and_true]
  decide

end Envelope

theorem encode_decode {env : Envelope} {body : List UInt8} (keyed : Json.wellKeyed (.obj env.payload) = true)
    (encoded : encodeEnvelope env = .ok body) : decodeEnvelope body = .ok env.canonical := by
  unfold encodeEnvelope at encoded
  cases checked : validateEnvelope env.toDict with
  | error error =>
    rw [checked] at encoded
    cases encoded
  | ok result =>
    have valid := Envelope.valid_of_ok env.fields_toDict checked
    rw [checked] at encoded
    simp only [bind, Except.bind] at encoded
    split at encoded
    · cases encoded
    · rename_i fits
      cases encoded
      have text := decodeUtf8_ascii (Json.dumps (.obj env.toDict)) (Json.dumps_ascii _)
      unfold decodeEnvelope
      rw [if_neg fits, asciiBytes, text, Option.bind_some, Json.loads_dumps (Envelope.wellKeyed_toDict keyed),
        Envelope.canonical_toDict]
      simp only [Envelope.constructed_sortedDict, bind, Except.bind]
      exact Envelope.validate_ok env.canonical.fields_sortedDict valid.canonical

theorem unpack_bigEndian {n : Nat} (small : n < 4294967296) : unpackLength (Sha256.bigEndian 4 n) = n := by
  simp only [Sha256.bigEndian, unpackLength, List.foldl_cons, List.foldl_nil, UInt8.toNat_ofNat']
  omega

theorem encodeEnvelope_length {env : Envelope} {body : List UInt8} (encoded : encodeEnvelope env = .ok body) :
    body.length ≤ maxMessageBytes := by
  unfold encodeEnvelope at encoded
  cases checked : validateEnvelope env.toDict with
  | error error =>
    rw [checked] at encoded
    cases encoded
  | ok result =>
    rw [checked] at encoded
    simp only [bind, Except.bind] at encoded
    split at encoded
    · cases encoded
    · cases encoded
      omega

/-- A written frame is a header of four bytes that announces the rest, and the
    rest opens to the envelope that was written. -/
theorem writeFrame_opens {secret bytes : List UInt8} {maxFrameBytes : Nat} {env : Envelope}
    (keyed : Json.wellKeyed (.obj env.payload) = true)
    (written : writeFrame secret maxFrameBytes env = .ok bytes) :
    ∃ header rest, bytes = header ++ rest ∧ header.length = 4 ∧
      frameLength maxFrameBytes header = .ok rest.length ∧ openFrame secret rest = .ok env.canonical := by
  unfold writeFrame at written
  cases encoded : encodeEnvelope env with
  | error error =>
    rw [encoded] at written
    cases written
  | ok body =>
    rw [encoded] at written
    simp only [bind, Except.bind] at written
    split at written
    · cases written
    · rename_i fits
      cases written
      have mac_length : (mac secret body).length = 32 := Sha256.hmac_length secret body
      have bounded := encodeEnvelope_length encoded
      have width : (mac secret body ++ body).length = 32 + body.length := by
        rw [List.length_append, mac_length]
      unfold maxMessageBytes at bounded
      refine ⟨_, _, rfl, rfl, ?_, ?_⟩
      · unfold frameLength macBytes
        rw [width, unpack_bigEndian (by omega)]
        simp only
        rw [if_neg (by omega)]
      · have taken : (mac secret body ++ body).take macBytes = mac secret body :=
          List.take_left' mac_length
        have dropped : (mac secret body ++ body).drop macBytes = body := List.drop_left' mac_length
        unfold openFrame
        rw [taken, dropped]
        simp only [ne_eq, not_true_eq_false, if_false]
        exact encode_decode keyed encoded

end ExaServe.Control
