import ExaServe.State.Bindings
import ExaServe.Lib.Except

namespace ExaServe.State

open Lib Plan Control Compat

def numberInRange : Number → Prop
  | .int value => |(value : ℚ)| < floatLimit ∧ 0 ≤ value
  | .float value => |value.value| < floatLimit ∧ 0 ≤ value.value

namespace ComponentInstanceBinding

/-- What the constructor requires of a binding. -/
structure Valid (event : ComponentInstanceBinding) : Prop where
  deployment : event.identity.deploymentId ≠ ""
  slot : event.receiptRequirementId ≠ ""
  component : event.componentId ≠ ""
  instance_named : event.instanceId ≠ ""
  node : event.nodeId ≠ ""
  plan_digest : isSha256Hex event.identity.deploymentPlanHash = true
  site_digest : isSha256Hex event.identity.siteProfileHash = true
  binding_digest : isSha256Hex event.identity.allocationBindingHash = true
  own_digest : event.componentInstanceBindingHash = "" ∨ isSha256Hex event.componentInstanceBindingHash = true
  generation : 0 ≤ event.identity.generation
  bound_at : numberInRange event.boundAt
  owner : match event.ownerScope with
    | .global => event.ownerRank = none
    | .rank => ∃ rank, event.ownerRank = some rank ∧ 0 ≤ rank
  supersedes : ∀ other, event.supersedesInstanceId = some other → other ≠ "" ∧ other ≠ event.instanceId

/-- The arguments are those of the binding. -/
structure Reads (field : String → Json) (event : ComponentInstanceBinding) : Prop where
  schema : field "schema_version" = .int 3
  deployment : field "deployment_id" = .str event.identity.deploymentId
  generation : field "generation" = .int event.identity.generation
  plan : field "deployment_plan_hash" = .str event.identity.deploymentPlanHash
  site : field "site_profile_hash" = .str event.identity.siteProfileHash
  allocation : field "allocation_binding_hash" = .str event.identity.allocationBindingHash
  slot : field "receipt_requirement_id" = .str event.receiptRequirementId
  component : field "component_id" = .str event.componentId
  instance_named : field "instance_id" = .str event.instanceId
  scope : field "owner_scope" = .str event.ownerScope.value
  owner : field "owner_rank" = rankJson event.ownerRank
  node : field "node_id" = .str event.nodeId
  bound_at : field "bound_at" = event.boundAt.toJson
  state : field "state" = .str event.state.value
  sequence : field "binding_sequence" = .int event.bindingSequence
  supersedes : field "supersedes_instance_id" = optionalJson event.supersedesInstanceId
  hash : field "component_instance_binding_hash" = .str event.componentInstanceBindingHash

theorem reads_asdict (event : ComponentInstanceBinding) : Reads (argument event.asdict) event := by
  constructor <;> rfl

theorem asdict_names (event : ComponentInstanceBinding) : Json.fieldNames event.asdict = fieldNames := rfl

theorem fieldNames_nodup : fieldNames.Nodup := by decide

variable {field : String → Json} {event : ComponentInstanceBinding}

theorem requireText_eq {name text result : String} (found : field name = .str text) :
    requireText field name = .ok result ↔ result = text ∧ text ≠ "" := by
  unfold requireText
  rw [found]
  by_cases empty : text = ""
  · simp [empty]
  · simp [empty, eq_comm]

theorem requireDigest_eq {name text result : String} {allowEmpty : Bool} (found : field name = .str text) :
    requireDigest field name allowEmpty = .ok result ↔
      result = text ∧ ((allowEmpty = true ∧ text = "") ∨ isSha256Hex text = true) := by
  unfold requireDigest
  rw [found]
  by_cases formed : ((allowEmpty && decide (text = "")) || isSha256Hex text) = true
  · simp only [formed, if_true, Except.ok.injEq]
    simp only [Bool.or_eq_true, Bool.and_eq_true, decide_eq_true_eq] at formed
    constructor
    · intro same
      exact ⟨same.symm, formed⟩
    · intro ⟨same, _⟩
      exact same.symm
  · simp only [formed]
    simp only [Bool.or_eq_true, Bool.and_eq_true, decide_eq_true_eq] at formed
    simp [formed]

theorem requireCount_eq {name message : String} {value result : Int} (found : field name = .int value) :
    requireCount field name message = .ok result ↔ result = value ∧ 0 ≤ value := by
  unfold requireCount
  rw [found]
  by_cases negative : value < 0
  · have not_le : ¬0 ≤ value := by omega
    simp [negative, not_le]
  · have le : 0 ≤ value := by omega
    simp [negative, le, eq_comm]

theorem requireBoundAt_eq {value result : Number} (found : field "bound_at" = value.toJson) :
    requireBoundAt field = .ok result ↔ result = value ∧ numberInRange value := by
  unfold requireBoundAt
  rw [found]
  cases value with
  | int value =>
    simp only [Number.toJson, numberInRange]
    by_cases large : floatLimit ≤ |(value : ℚ)|
    · simp [large, not_lt.mpr large]
    · by_cases negative : value < 0
      · simp [large, negative]
      · simp [large, negative, not_le.mp large, not_lt.mp negative, eq_comm]
  | float value =>
    simp only [Number.toJson, numberInRange]
    by_cases refused : floatLimit ≤ |value.value| ∨ value.value < 0
    · simp only [refused, if_true]
      have out : ¬(|value.value| < floatLimit ∧ 0 ≤ value.value) := by
        rintro ⟨small, nonneg⟩
        rcases refused with large | negative
        · exact absurd small (not_lt.mpr large)
        · exact absurd nonneg (not_le.mpr negative)
      simp [out]
    · simp only [refused, if_false]
      rw [not_or, not_le, not_lt] at refused
      simp [refused, eq_comm]

theorem requireOneOf_eq {β : Type} {ofValue : String → Option β} {message text : String} {member result : β}
    (known : ofValue text = some member) :
    requireOneOf ofValue message (.str text) = .ok result ↔ result = member := by
  simp only [requireOneOf, known, Except.ok.injEq, eq_comm]

theorem scope_known (scope : OwnerScope) : OwnerScope.ofValue scope.value = some scope := by
  cases scope <;> decide

theorem state_known (state : BindingState) : BindingState.ofValue state.value = some state := by
  cases state <;> decide

theorem requireOwner_eq {owner result : Option Int} {scope : OwnerScope} (found : field "owner_rank" = rankJson owner) :
    requireOwner field scope = .ok result ↔ result = owner ∧ (match scope with
      | .global => owner = none
      | .rank => ∃ rank, owner = some rank ∧ 0 ≤ rank) := by
  unfold requireOwner
  rw [found]
  cases scope with
  | global => cases owner <;> simp [rankJson, eq_comm]
  | rank =>
    cases owner with
    | none => simp [rankJson]
    | some rank =>
      by_cases negative : rank < 0
      · have not_le : ¬0 ≤ rank := by omega
        simp [rankJson, negative, not_le]
      · have le : 0 ≤ rank := by omega
        simp [rankJson, negative, le, eq_comm]

theorem requireSupersedes_eq {other result : Option String} {instanceId : String}
    (found : field "supersedes_instance_id" = optionalJson other) :
    requireSupersedes field instanceId = .ok result ↔
      result = other ∧ ∀ text, other = some text → text ≠ "" ∧ text ≠ instanceId := by
  unfold requireSupersedes
  rw [found]
  cases other with
  | none => simp [optionalJson, eq_comm]
  | some text =>
    by_cases refused : text = "" ∨ text = instanceId
    · have out : ¬(text ≠ "" ∧ text ≠ instanceId) := by tauto
      simp [optionalJson, refused, out]
    · have fine : text ≠ "" ∧ text ≠ instanceId := by tauto
      simp only [optionalJson, refused, if_false, Except.ok.injEq, Option.some.injEq]
      constructor
      · intro same
        exact ⟨same.symm, fun named same => same ▸ fine⟩
      · intro ⟨same, _⟩
        exact same.symm

/-- The constructor accepts exactly the valid bindings, and returns them. -/
theorem make_eq_ok_iff (reads : Reads field event) {result : ComponentInstanceBinding} :
    make field = .ok result ↔ result = event ∧ event.Valid := by
  constructor
  · intro made
    unfold make at made
    obtain ⟨_, _, made⟩ := bind_ok made
    obtain ⟨_, read_deployment, made⟩ := bind_ok made
    obtain ⟨_, read_slot, made⟩ := bind_ok made
    obtain ⟨_, read_component, made⟩ := bind_ok made
    obtain ⟨_, read_instance_named, made⟩ := bind_ok made
    obtain ⟨_, read_node, made⟩ := bind_ok made
    obtain ⟨_, read_plan, made⟩ := bind_ok made
    obtain ⟨_, read_site, made⟩ := bind_ok made
    obtain ⟨_, read_allocation, made⟩ := bind_ok made
    obtain ⟨_, read_own, made⟩ := bind_ok made
    obtain ⟨_, read_generation, made⟩ := bind_ok made
    obtain ⟨_, read_sequence, made⟩ := bind_ok made
    obtain ⟨_, read_bound_at, made⟩ := bind_ok made
    obtain ⟨_, read_scope, made⟩ := bind_ok made
    obtain ⟨_, read_owner, made⟩ := bind_ok made
    obtain ⟨_, read_state, made⟩ := bind_ok made
    obtain ⟨_, read_supersedes, made⟩ := bind_ok made
    obtain ⟨rfl, deployment⟩ := (requireText_eq reads.deployment).mp read_deployment
    obtain ⟨rfl, slot⟩ := (requireText_eq reads.slot).mp read_slot
    obtain ⟨rfl, component⟩ := (requireText_eq reads.component).mp read_component
    obtain ⟨rfl, instance_named⟩ := (requireText_eq reads.instance_named).mp read_instance_named
    obtain ⟨rfl, node⟩ := (requireText_eq reads.node).mp read_node
    obtain ⟨rfl, plan⟩ := (requireDigest_eq reads.plan).mp read_plan
    obtain ⟨rfl, site⟩ := (requireDigest_eq reads.site).mp read_site
    obtain ⟨rfl, allocation⟩ := (requireDigest_eq reads.allocation).mp read_allocation
    obtain ⟨rfl, own⟩ := (requireDigest_eq reads.hash).mp read_own
    obtain ⟨rfl, generation⟩ := (requireCount_eq reads.generation).mp read_generation
    obtain ⟨rfl, sequence⟩ := (requireCount_eq reads.sequence).mp read_sequence
    obtain ⟨rfl, bound_at⟩ := (requireBoundAt_eq reads.bound_at).mp read_bound_at
    rw [reads.scope] at read_scope
    obtain rfl := (requireOneOf_eq (scope_known _)).mp read_scope
    obtain ⟨rfl, owner⟩ := (requireOwner_eq reads.owner).mp read_owner
    rw [reads.state] at read_state
    obtain rfl := (requireOneOf_eq (state_known _)).mp read_state
    obtain ⟨rfl, supersedes⟩ := (requireSupersedes_eq reads.supersedes).mp read_supersedes
    cases made
    exact ⟨rfl, ⟨deployment, slot, component, instance_named, node, by simpa using plan, by simpa using site,
      by simpa using allocation, by simpa using own, generation, bound_at, owner, supersedes⟩⟩
  · intro ⟨same, valid⟩
    subst same
    have schema : requireSchema field = .ok () := by
      simp [requireSchema, reads.schema]
    unfold make
    rw [ok_bind schema,
      ok_bind ((requireText_eq reads.deployment).mpr ⟨rfl, valid.deployment⟩),
      ok_bind ((requireText_eq reads.slot).mpr ⟨rfl, valid.slot⟩),
      ok_bind ((requireText_eq reads.component).mpr ⟨rfl, valid.component⟩),
      ok_bind ((requireText_eq reads.instance_named).mpr ⟨rfl, valid.instance_named⟩),
      ok_bind ((requireText_eq reads.node).mpr ⟨rfl, valid.node⟩),
      ok_bind ((requireDigest_eq reads.plan).mpr ⟨rfl, .inr valid.plan_digest⟩),
      ok_bind ((requireDigest_eq reads.site).mpr ⟨rfl, .inr valid.site_digest⟩),
      ok_bind ((requireDigest_eq reads.allocation).mpr ⟨rfl, .inr valid.binding_digest⟩),
      ok_bind ((requireDigest_eq reads.hash).mpr ⟨rfl, by simpa using valid.own_digest⟩),
      ok_bind ((requireCount_eq reads.generation).mpr ⟨rfl, valid.generation⟩),
      ok_bind ((requireCount_eq reads.sequence).mpr ⟨rfl, Int.natCast_nonneg _⟩),
      ok_bind ((requireBoundAt_eq reads.bound_at).mpr ⟨rfl, valid.bound_at⟩), reads.scope,
      ok_bind ((requireOneOf_eq (scope_known _)).mpr rfl), ok_bind ((requireOwner_eq reads.owner).mpr ⟨rfl, valid.owner⟩),
      reads.state, ok_bind ((requireOneOf_eq (state_known _)).mpr rfl),
      ok_bind ((requireSupersedes_eq reads.supersedes).mpr ⟨rfl, valid.supersedes⟩)]
    rfl

theorem rebuilt_eq_ok_iff {result : ComponentInstanceBinding} :
    event.rebuilt = .ok result ↔ result = event ∧ event.Valid :=
  make_eq_ok_iff (reads_asdict event)

/-- The fields as they are read back from a file. -/
def stored (event : ComponentInstanceBinding) : List (String × Json) :=
  Json.sortFields (Json.canonicalFields event.asdict)

theorem canonical_asdict (event : ComponentInstanceBinding) :
    Json.canonical (.obj event.asdict) = .obj event.stored := by
  simp only [Json.canonical, stored]

theorem argument_stored (event : ComponentInstanceBinding) (name : String) :
    argument event.stored name = Json.canonical (argument event.asdict name) := by
  have nodup : (Json.fieldNames event.asdict).Nodup := by
    rw [asdict_names]
    exact fieldNames_nodup
  unfold argument stored
  rw [Json.lookup_stored nodup]
  cases Json.lookup name event.asdict with
  | none => rfl
  | some value => rfl

theorem canonical_rankJson (owner : Option Int) : Json.canonical (rankJson owner) = rankJson owner := by
  cases owner <;> rfl

theorem canonical_optionalJson (text : Option String) : Json.canonical (optionalJson text) = optionalJson text := by
  cases text <;> rfl

theorem canonical_number (value : Number) : Json.canonical value.toJson = value.toJson := by cases value <;> rfl

theorem reads_stored (event : ComponentInstanceBinding) : Reads (argument event.stored) event := by
  have reads := reads_asdict event
  constructor
  case owner => rw [argument_stored, reads.owner, canonical_rankJson]
  case bound_at => rw [argument_stored, reads.bound_at, canonical_number]
  case supersedes => rw [argument_stored, reads.supersedes, canonical_optionalJson]
  all_goals
    rw [argument_stored]
    rfl

theorem stored_names (event : ComponentInstanceBinding) : (Json.fieldNames event.stored).Perm fieldNames := by
  have sorted := Json.fieldNames_sortFields (Json.canonicalFields event.asdict)
  rwa [Json.fieldNames_canonicalFields, asdict_names] at sorted

/-- An event that a store of this identity may append. -/
structure Sealed (config : StoreConfig) (event : ComponentInstanceBinding) : Prop where
  identity : event.identity = config.identity
  valid : event.Valid
  finalized : event.componentInstanceBindingHash = event.computeHash

theorem Sealed.finalize_eq {config : StoreConfig} (closed : Sealed config event) : event.finalize = event := by
  unfold finalize
  rw [← closed.finalized]

theorem fromDict_stored {config : StoreConfig} (closed : Sealed config event) :
    fromDict (.obj event.stored) = .ok event := by
  have names : Json.sameNames event.stored fieldNames = true := by
    have same : Json.sameNames event.asdict fieldNames = true := by
      rw [Json.sameNames, asdict_names]
      decide
    rw [← same]
    exact Json.sameNames_congr ((stored_names event).trans (by rw [asdict_names]))
  have made : make (argument event.stored) = .ok event :=
    (make_eq_ok_iff (reads_stored event)).mpr ⟨rfl, closed.valid⟩
  simp only [fromDict, names, Bool.not_true, Bool.false_eq_true, if_false, made, (reads_stored event).hash,
    closed.finalize_eq, if_true]

end ComponentInstanceBinding

namespace StoreConfig

open ComponentInstanceBinding

variable {config : StoreConfig} {events : List ComponentInstanceBinding}

theorem decodeEvents_stored (path : String) (sealed : ∀ event ∈ events, Sealed config event) :
    decodeEvents path (events.map fun event => .obj event.stored) = .ok events := by
  induction events with
  | nil => rfl
  | cons event rest ih =>
    have later := ih fun other member => sealed other (List.mem_cons_of_mem _ member)
    rw [List.map_cons, decodeEvents, fromDict_stored (sealed event List.mem_cons_self)]
    simp only [later, Except.map]

theorem batchPayload_names (config : StoreConfig) (events : List ComponentInstanceBinding) :
    Json.fieldNames (config.batchPayload events) = batchFields := rfl

theorem batchFields_nodup : batchFields.Nodup := by decide

/-- The fields of a batch as they are read back from its file. -/
def storedBatch (config : StoreConfig) (events : List ComponentInstanceBinding) : List (String × Json) :=
  Json.sortFields (Json.canonicalFields (config.batchPayload events))

theorem batchFile_eq (config : StoreConfig) (events : List ComponentInstanceBinding) :
    config.batchFile events = (config.batchName events, .obj (config.storedBatch events)) := by
  simp only [batchFile, storedBatch, Json.canonical]

theorem lookup_storedBatch (config : StoreConfig) (events : List ComponentInstanceBinding) (name : String) :
    Json.lookup name (config.storedBatch events) =
      (Json.lookup name (config.batchPayload events)).map Json.canonical := by
  apply Json.lookup_stored
  rw [batchPayload_names]
  exact batchFields_nodup

/-- Without its own hash a stored batch is written as the body that was hashed. -/
theorem storedBatch_hash (config : StoreConfig) (events : List ComponentInstanceBinding) :
    canonicalHash (.obj ((config.storedBatch events).filter fun field => field.1 ≠ "batch_hash")) =
      config.batchHash events := by
  have body : (Json.canonicalFields (config.batchPayload events)).filter (fun field => field.1 ≠ "batch_hash") =
      Json.canonicalFields (config.batchBody events) := rfl
  have kept : ((config.storedBatch events).filter fun field => field.1 ≠ "batch_hash").Perm
      (Json.canonicalFields (config.batchBody events)) := by
    rw [← body]
    exact (Json.sortFields_perm _).filter _
  have sorted := kept.trans (Json.sortFields_perm (Json.canonicalFields (config.batchBody events))).symm
  have nodup : (Json.fieldNames ((config.storedBatch events).filter fun field => field.1 ≠ "batch_hash")).Nodup := by
    refine (kept.map Prod.fst).nodup_iff.mpr ?_
    have names : (Json.canonicalFields (config.batchBody events)).map Prod.fst = batchFields.dropLast := rfl
    rw [names]
    decide
  have written := Json.dumps_obj_perm sorted nodup
  have whole : Json.obj (Json.sortFields (Json.canonicalFields (config.batchBody events))) =
      Json.canonical (.obj (config.batchBody events)) := by simp only [Json.canonical]
  unfold batchHash canonicalHash
  rw [written, whole, Json.dumps_canonical]

end StoreConfig

end ExaServe.State
