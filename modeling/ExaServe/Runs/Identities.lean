import ExaServe.Lib.JsonCanonical
import ExaServe.Lib.JsonRoundTrip
import ExaServe.Lib.Dict
import ExaServe.Lib.Except
import ExaServe.Plan.Deployment

namespace ExaServe.Runs

open Lib Plan

section Slug

def isSlugChar (c : Char) : Bool := ('a' ≤ c && c ≤ 'z') || ('0' ≤ c && c ≤ '9')

/-- `str.lower`, of which the slug sees ASCII. The Kelvin sign and the dotted capital I
    are the only other characters that lower to a slug character. -/
def lower (c : Char) : List Char :=
  if c.toNat = 0x212a then ['k'] else if c.toNat = 0x130 then ['i', Char.ofNat 0x307] else [c.toLower]

/-- `re.sub(r"[^a-z0-9]+", "-", text)`; `gap` inside a run that is being replaced. -/
def dashRuns (gap : Bool) : List Char → List Char
  | [] => if gap then ['-'] else []
  | c :: rest =>
    if isSlugChar c then if gap then '-' :: c :: dashRuns false rest else c :: dashRuns false rest
    else dashRuns true rest

def slugify (value : List Char) : List Char :=
  let text := stripDashes (dashRuns false ((strip value).flatMap lower))
  if text = [] then "value".toList else text

def joinDash (parts : List (List Char)) : List Char := ['-'].intercalate parts

end Slug

/-- What names one materialization: a spec name that the loader accepts, a group `runN`
    and a run id that is a slug. -/
structure Materialized where
  specName : String
  runGroupId : String
  runId : String
  named : specName ≠ ""
  grouped : ∃ index : Nat, runGroupId = "run" ++ toString index
  slugged : slugify runId.toList = runId.toList

def deploymentIdLegacy : String := "legacy_truncate_v1"

def deploymentIdBounded : String := "bounded_hash_v2"

def deploymentIdMax : Nat := 40

section Identity

variable (specName runGroupId runId : String)

def fullSlug : List Char := slugify (joinDash [specName.toList, runGroupId.toList, runId.toList])

def idSuffix : List Char :=
  let slug := slugify (joinDash [runGroupId.toList, runId.toList])
  slug.drop (slug.length - 16)

def idPayload : Json :=
  .obj [("run_group_id", .str runGroupId), ("run_id", .str runId), ("spec_name", .str specName)]

def idDigest : List Char := (canonicalHash (idPayload specName runGroupId runId)).toList.take 12

def idPrefix : List Char :=
  let budget := deploymentIdMax - (idSuffix runGroupId runId).length - (idDigest specName runGroupId runId).length - 2
  let text := (((slugify specName.toList).take budget).reverse.dropWhile (· = '-')).reverse
  if text = [] then "deployment".toList else text

/-- A truncated prefix and suffix with the digest of the whole. -/
def boundedText : List Char :=
  joinDash [idPrefix specName runGroupId runId, idSuffix runGroupId runId, idDigest specName runGroupId runId]

def materializedDeploymentId (scheme : String) : Except String (List Char) :=
  if scheme = deploymentIdLegacy then .ok ((fullSlug specName runGroupId runId).take deploymentIdMax)
  else if scheme ≠ deploymentIdBounded then .error s!"unknown deployment_id_scheme {quotedText scheme}"
  else if (fullSlug specName runGroupId runId).length ≤ deploymentIdMax then .ok (fullSlug specName runGroupId runId)
  else if deploymentIdMax < (boundedText specName runGroupId runId).length then
    .error "bounded deployment identity exceeds its contract"
  else .ok (boundedText specName runGroupId runId)

end Identity

namespace Materialized

variable (item : Materialized)

def slug : List Char := fullSlug item.specName item.runGroupId item.runId

/-- The slug is short enough to be the identity itself. -/
def Fits : Prop := item.slug.length ≤ deploymentIdMax

instance : Decidable item.Fits := inferInstanceAs (Decidable (_ ≤ _))

def bounded : List Char := boundedText item.specName item.runGroupId item.runId

def payload : List Char := Json.dumps (idPayload item.specName item.runGroupId item.runId)

def digest : List Char := idDigest item.specName item.runGroupId item.runId

def deploymentId : Except String (List Char) :=
  materializedDeploymentId item.specName item.runGroupId item.runId deploymentIdBounded

end Materialized

/-- `DeploymentPlan` takes it as its `deployment_id`, and it is within the bound. -/
def Accepted (id : List Char) : Prop :=
  (∃ deploymentId : Text, deploymentId.val = String.ofList id) ∧ id.length ≤ deploymentIdMax

/-- The two have identities, and they differ. -/
def DistinctIds (item other : Materialized) : Prop :=
  ∃ left right, item.deploymentId = .ok left ∧ other.deploymentId = .ok right ∧ left ≠ right ∧
    Accepted left ∧ Accepted right

/-- Short slugs differ, and neither is the other's bounded text. -/
def Apart (item other : Materialized) : Prop :=
  if item.Fits then if other.Fits then item.slug ≠ other.slug else item.slug ≠ other.bounded
  else other.Fits → other.slug ≠ item.bounded

section Bounds

variable {specName runGroupId runId : String}

theorem slugify_nonempty (value : List Char) : slugify value ≠ [] := by
  unfold slugify
  dsimp only
  split_ifs with empty
  · decide
  · exact empty

theorem idDigest_length : (idDigest specName runGroupId runId).length = 12 := by
  rw [idDigest, List.length_take, canonicalHash, Sha256.hexdigest_length]
  rfl

theorem idSuffix_length : (idSuffix runGroupId runId).length ≤ 16 := by
  rw [idSuffix, List.length_drop]
  omega

theorem idPrefix_length :
    (idPrefix specName runGroupId runId).length ≤ 26 - (idSuffix runGroupId runId).length := by
  have suffix := @idSuffix_length runGroupId runId
  unfold idPrefix
  dsimp only
  rw [idDigest_length]
  split_ifs
  · have : "deployment".toList.length = 10 := by decide +kernel
    omega
  · rw [List.length_reverse]
    apply (List.length_dropWhile_le _ _).trans
    rw [List.length_reverse, List.length_take, deploymentIdMax]
    omega

theorem boundedText_eq :
    boundedText specName runGroupId runId =
      (idPrefix specName runGroupId runId ++ '-' :: idSuffix runGroupId runId ++ ['-']) ++
        idDigest specName runGroupId runId := by
  simp [boundedText, joinDash, List.intercalate]

theorem boundedText_length : (boundedText specName runGroupId runId).length ≤ deploymentIdMax := by
  have front := @idPrefix_length specName runGroupId runId
  have suffix := @idSuffix_length runGroupId runId
  rw [boundedText_eq, List.length_append, List.length_append, List.length_append, List.length_cons,
    idDigest_length, List.length_singleton, deploymentIdMax]
  omega

end Bounds

namespace Materialized

variable {item : Materialized}

/-- The identity is made for every name: no text is too long for it. -/
theorem deploymentId_eq : item.deploymentId = .ok (if item.Fits then item.slug else item.bounded) := by
  rw [deploymentId, materializedDeploymentId, if_neg (by decide +kernel), if_neg (not_not.mpr rfl),
    if_neg (not_lt.mpr boundedText_length)]
  by_cases fits : item.Fits
  · rw [if_pos fits]
    exact if_pos fits
  · rw [if_neg fits]
    exact if_neg fits

theorem slug_nonempty : item.slug ≠ [] := by
  rw [slug, fullSlug]
  exact slugify_nonempty _

theorem bounded_nonempty : item.bounded ≠ [] := by
  rw [bounded, boundedText_eq]
  simp

theorem deploymentId_accepted {id : List Char} (made : item.deploymentId = .ok id) : Accepted id := by
  rw [deploymentId_eq] at made
  rw [← Except.ok.inj made]
  have held : ∀ {text : List Char}, text ≠ [] → String.ofList text ≠ "" := by
    intro text nonempty empty
    exact nonempty (String.ofList_injective empty)
  split_ifs with fits
  · exact ⟨⟨⟨_, held slug_nonempty⟩, rfl⟩, fits⟩
  · exact ⟨⟨⟨_, held bounded_nonempty⟩, rfl⟩, boundedText_length⟩

variable {other : Materialized}

/-- The payload holds the three names apart. -/
theorem payload_injective (same : item.payload = other.payload) :
    item.specName = other.specName ∧ item.runGroupId = other.runGroupId ∧ item.runId = other.runId := by
  have distinct : ∀ item : Materialized, (Json.fieldNames [("run_group_id", .str item.runGroupId),
      ("run_id", .str item.runId), ("spec_name", .str item.specName)]).Nodup := by
    intro item
    exact (by decide +kernel : ["run_group_id", "run_id", "spec_name"].Nodup)
  have keyed : ∀ item : Materialized,
      Json.wellKeyed (idPayload item.specName item.runGroupId item.runId) = true := by
    intro item
    simp [idPayload, Json.wellKeyed, Json.wellKeyedFields, distinct item]
  have read := Json.loads_dumps (keyed item)
  rw [show Json.dumps (idPayload item.specName item.runGroupId item.runId) = item.payload from rfl, same] at read
  rw [show other.payload = Json.dumps (idPayload other.specName other.runGroupId other.runId) from rfl,
    Json.loads_dumps (keyed other)] at read
  have held := Option.some.inj read
  rw [idPayload, idPayload, Json.canonical, Json.canonical] at held
  have looked := fun key => congrArg (Json.lookup key) (Json.obj.inj held)
  simp only [Json.lookup_stored (distinct _)] at looked
  refine ⟨?_, ?_, ?_⟩
  · simpa [Json.lookup, Json.canonical] using (looked "spec_name").symm
  · simpa [Json.lookup, Json.canonical] using (looked "run_group_id").symm
  · simpa [Json.lookup, Json.canonical] using (looked "run_id").symm

theorem digest_injective (apart : item.payload ≠ other.payload → item.digest ≠ other.digest)
    (same : item.digest = other.digest) :
    item.specName = other.specName ∧ item.runGroupId = other.runGroupId ∧ item.runId = other.runId := by
  apply payload_injective
  by_contra different
  exact apart different same

/-- Two identities that carry their digests differ as the digests do. -/
theorem bounded_digest (same : item.bounded = other.bounded) : item.digest = other.digest := by
  rw [bounded, bounded, boundedText_eq, boundedText_eq] at same
  exact (List.append_inj' same (by rw [idDigest_length, idDigest_length])).2

theorem distinct_iff (named : ¬ (item.specName = other.specName ∧ item.runGroupId = other.runGroupId ∧
    item.runId = other.runId)) (apart : item.payload ≠ other.payload → item.digest ≠ other.digest) :
    DistinctIds item other ↔ Apart item other := by
  have different : item.bounded ≠ other.bounded := fun same => named (digest_injective apart (bounded_digest same))
  have made : DistinctIds item other ↔
      (if item.Fits then item.slug else item.bounded) ≠ if other.Fits then other.slug else other.bounded := by
    constructor
    · rintro ⟨left, right, leftMade, rightMade, differ, _⟩
      rw [deploymentId_eq] at leftMade rightMade
      rwa [← Except.ok.inj leftMade, ← Except.ok.inj rightMade] at differ
    · intro differ
      exact ⟨_, _, deploymentId_eq, deploymentId_eq, differ, deploymentId_accepted deploymentId_eq,
        deploymentId_accepted deploymentId_eq⟩
  rw [made, Apart]
  split_ifs with short long long
  · exact Iff.rfl
  · exact Iff.rfl
  · exact ⟨fun differ _ => differ.symm, fun differ => (differ long).symm⟩
  · exact ⟨fun _ fits => absurd fits long, fun _ => different⟩

end Materialized

section Matrix

inductive MatrixError where
  | value (message : String)
  | other (type message : String)

structure Axis (Value : Type) where
  name : String
  values : List Value
  labelTemplate : String

structure Matrix (Value : Type) where
  axes : List (Axis Value)
  combine : String
  nameTemplate : String

structure Variant (Value Spec : Type) where
  spec : Spec
  variantName : String
  axisValues : List (String × Value)

/-- `itertools.product`. -/
def product {α : Type} : List (List α) → List (List α)
  | [] => [[]]
  | values :: rest => values.flatMap fun value => (product rest).map (value :: ·)

variable {Value Spec : Type} (matrix : Matrix Value) (base : Spec)

-- `str.format`, and what makes the spec of a combination: its copy with the targets set,
-- the derived fields, and its validation
variable (format : String → List (String × Value) → Except MatrixError String)
  (prepare : List (String × Value) → Except MatrixError Spec)

def shownLengths : String :=
  "\x7b" ++ ", ".intercalate (matrix.axes.map fun axis => s!"{quotedText axis.name}: {axis.values.length}") ++ "\x7d"

def combinations : Except MatrixError (List (List Value)) :=
  let values := matrix.axes.map Axis.values
  if matrix.combine = "zip" then
    if (values.map List.length).dedup.length ≠ 1 then
      .error (.value ("matrix combine=zip requires all axes to have equal-length values lists, " ++
        s!"got lengths {shownLengths matrix}"))
    else .ok values.transpose
  else .ok (product values)

def axisLabel (values : List (String × Value)) (axis : Axis Value) : Except MatrixError String := do
  let own := (findEntry axis.name values).toList.map fun value => ("value", value)
  let label ← format axis.labelTemplate (own ++ values)
  .ok (String.ofList (slugify label.toList))

def variantName (values : List (String × Value)) : Except MatrixError String :=
  if matrix.nameTemplate ≠ "" then format matrix.nameTemplate values
  else do
    let labels ← matrix.axes.mapM (axisLabel format values)
    .ok ("__".intercalate labels)

def expandOne (combination : List Value) : Except MatrixError (Variant Value Spec) := do
  let values := (matrix.axes.map Axis.name).zip combination
  let spec ← prepare values
  let name ← variantName matrix format values
  .ok ⟨spec, name, values⟩

def expandMatrix : Except MatrixError (List (Variant Value Spec)) :=
  if matrix.axes = [] then .ok [⟨base, "default", []⟩]
  else do (← combinations matrix).mapM (expandOne matrix format prepare)

def runIdOf (variant : Variant Value Spec) : List Char := slugify variant.variantName.toList

def collisionText (prior name : String) (runId : List Char) : String :=
  "variant names collide after filesystem-safe normalization: " ++
    s!"{quotedText prior} and {quotedText name} both map to {quotedText (String.ofList runId)}"

def claimRunId (runIds : Dict (List Char) String) (variant : Variant Value Spec) :
    Except MatrixError (Dict (List Char) String) :=
  match runIds.get? (runIdOf variant) with
  | some prior => .error (.value (collisionText prior variant.variantName (runIdOf variant)))
  | none => .ok (runIds.insert (runIdOf variant) variant.variantName)

/-- The directories that were created, and of each combination its run directory. -/
structure Outcome (Value : Type) where
  created : List String
  runs : List (List (String × Value) × String)
  raised : Option MatrixError

def runDirectory (groupRoot : String) (variant : Variant Value Spec) : String :=
  groupRoot ++ "/" ++ String.ofList (runIdOf variant)

/-- `claimed` is what checking the repository, its snapshot and claiming the group made,
    and the root of the group or the exception. -/
def materializeRunBundles (claimed : List String × Except MatrixError String) : Outcome Value :=
  match expandMatrix matrix base format prepare with
  | .error error => ⟨[], [], some error⟩
  | .ok variants =>
    match variants.foldlM claimRunId Dict.empty with
    | .error error => ⟨[], [], some error⟩
    | .ok _ =>
      match claimed.2 with
      | .error error => ⟨claimed.1, [], some error⟩
      | .ok groupRoot =>
        let runs := variants.map fun variant => (variant.axisValues, runDirectory groupRoot variant)
        ⟨claimed.1 ++ runs.map Prod.snd, runs, none⟩

/-- Each run has a directory of its own, or no directory was made and the names are refused. -/
structure RunsApart (claimed : List String × Except MatrixError String) : Prop where
  made : (materializeRunBundles matrix base format prepare claimed).raised = none →
    ∃ variants, expandMatrix matrix base format prepare = .ok variants ∧
      (materializeRunBundles matrix base format prepare claimed).runs.map Prod.fst = variants.map Variant.axisValues ∧
      ((materializeRunBundles matrix base format prepare claimed).runs.map Prod.snd).Nodup
  refused : ∀ variants, expandMatrix matrix base format prepare = .ok variants → ¬ (variants.map runIdOf).Nodup →
    (∃ message, (materializeRunBundles matrix base format prepare claimed).raised = some (.value message)) ∧
      (materializeRunBundles matrix base format prepare claimed).created = []

/-- The check passes on distinct run ids, and refuses any others. -/
theorem claimRunIds (variants : List (Variant Value Spec)) (runIds : Dict (List Char) String) :
    if (variants.map runIdOf).Nodup ∧ ∀ variant ∈ variants, runIdOf variant ∉ runIds.keys then
      ∃ claimed, variants.foldlM claimRunId runIds = .ok claimed
    else ∃ message, variants.foldlM claimRunId runIds = .error (.value message) := by
  induction variants generalizing runIds with
  | nil =>
    rw [if_pos ⟨List.nodup_nil, fun _ member => by cases member⟩]
    exact ⟨runIds, rfl⟩
  | cons variant rest ih =>
    rw [List.foldlM_cons, claimRunId]
    cases prior : runIds.get? (runIdOf variant) with
    | some name =>
      have taken : runIdOf variant ∈ runIds.keys := by
        rw [← Dict.isSome_get?_iff, prior]
        rfl
      rw [if_neg fun fresh => fresh.2 variant List.mem_cons_self taken]
      exact ⟨_, rfl⟩
    | none =>
      have fresh := (Dict.get?_eq_none_iff _ _).mp prior
      have later := ih (runIds.insert (runIdOf variant) variant.variantName)
      have same : ((rest.map runIdOf).Nodup ∧ ∀ other ∈ rest,
          runIdOf other ∉ (runIds.insert (runIdOf variant) variant.variantName).keys) ↔
          (((variant :: rest).map runIdOf).Nodup ∧ ∀ other ∈ variant :: rest, runIdOf other ∉ runIds.keys) := by
        rw [Dict.keys_insert, if_neg fresh, List.map_cons, List.nodup_cons, List.mem_map, List.forall_mem_cons]
        simp only [List.mem_append, List.mem_singleton, not_or]
        constructor
        · rintro ⟨nodup, apart⟩
          exact ⟨⟨fun ⟨other, member, same⟩ => (apart other member).2 same, nodup⟩, fresh,
            fun other member => (apart other member).1⟩
        · rintro ⟨⟨first, nodup⟩, _, apart⟩
          exact ⟨nodup, fun other member => ⟨apart other member, fun same => first ⟨other, member, same⟩⟩⟩
      split_ifs at later with clear
      · rw [if_pos (same.mp clear)]
        exact later
      · rw [if_neg fun whole => clear (same.mpr whole)]
        exact later

theorem runDirectory_injective {groupRoot : String} {left right : Variant Value Spec}
    (same : runDirectory groupRoot left = runDirectory groupRoot right) : runIdOf left = runIdOf right := by
  unfold runDirectory at same
  have texts := congrArg String.toList same
  simpa using texts

theorem runs_apart (claimed : List String × Except MatrixError String) :
    RunsApart matrix base format prepare claimed := by
  constructor
  · intro completes
    unfold materializeRunBundles at completes ⊢
    cases expanded : expandMatrix matrix base format prepare with
    | error error =>
      rw [expanded] at completes
      cases completes
    | ok variants =>
      rw [expanded] at completes
      refine ⟨variants, rfl, ?_⟩
      have check := claimRunIds variants Dict.empty
      split_ifs at check with distinct
      · obtain ⟨claims, checked⟩ := check
        dsimp only at completes ⊢
        rw [checked] at completes ⊢
        cases root : claimed.2 with
        | error error =>
          rw [root] at completes
          cases completes
        | ok groupRoot =>
          dsimp only
          rw [List.map_map, List.map_map]
          refine ⟨rfl, ?_⟩
          have apart := distinct.1
          rw [List.Nodup, List.pairwise_map] at apart ⊢
          exact apart.imp fun differ same => differ (runDirectory_injective same)
      · obtain ⟨message, checked⟩ := check
        dsimp only at completes
        rw [checked] at completes
        cases completes
  · intro variants expanded collide
    have check := claimRunIds variants Dict.empty
    rw [if_neg fun distinct => collide distinct.1] at check
    obtain ⟨message, checked⟩ := check
    unfold materializeRunBundles
    rw [expanded]
    dsimp only
    rw [checked]
    exact ⟨⟨message, rfl⟩, rfl⟩

end Matrix

section Sample

def sampleItem : Materialized where
  specName := "a"
  runGroupId := "run1"
  runId := "run1-b"
  named := by decide
  grouped := ⟨1, by decide +kernel⟩
  slugged := by decide +kernel

def sampleOther : Materialized where
  specName := "a-run1"
  runGroupId := "run1"
  runId := "b"
  named := by decide
  grouped := ⟨1, by decide +kernel⟩
  slugged := by decide +kernel

end Sample

end ExaServe.Runs
