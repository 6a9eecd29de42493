import ExaServe.Plan.Frozen

namespace ExaServe.Plan

open Lib Control

def optionalJson {α : Type} (print : α → Json) : Option α → Json
  | none => .null
  | some value => print value

def countJson (count : Nat) : Json := .int count

abbrev Text := { text : String // text ≠ "" }

abbrev Count := { count : Nat // 1 ≤ count }

abbrev Port := { port : Nat // 1 ≤ port ∧ port ≤ 65535 }

abbrev Digest := { text : String // isSha256Hex text = true }

/-- A digest, or the empty text of an artifact that was not finalized. -/
abbrev OwnDigest := { text : String // text = "" ∨ isSha256Hex text = true }

abbrev PositiveNumber := { number : Number // isFinite number = true ∧ 0 < numberValue number }

abbrev NonNegativeNumber := { number : Number // isFinite number = true ∧ 0 ≤ numberValue number }

def isPathChar (c : Char) : Bool := c.isAlphanum || c = '_' || c = '.' || c = '+' || c = '-'

/-- `PATH:<name>`, or an absolute path. -/
def isExecutableRef (text : String) : Bool :=
  match "PATH:".toList.isPrefixOf text.toList with
  | true => 5 < text.toList.length && (text.toList.drop 5).all isPathChar
  | false => text.toList.head? == some '/'

structure GatewayPlan where
  kind : GatewayKind
  port : Port
  backendPort : Port
  executableRef : { text : String // isExecutableRef text = true }
  workerCount : Count
  options : FrozenMap

def GatewayPlan.asdict (gateway : GatewayPlan) : Json :=
  .obj [("kind", .str gateway.kind.value), ("port", countJson gateway.port.val),
    ("backend_port", countJson gateway.backendPort.val), ("executable_ref", .str gateway.executableRef.val),
    ("worker_count", countJson gateway.workerCount.val), ("options", gateway.options.toJson)]

/-- The scheme, path, boundary and authentication have one value in this release. -/
structure ExposurePlan where
  mode : ExposureMode
  requestBodyLimitBytes : Option { limit : Nat // 1 ≤ limit ∧ limit ≤ 1099511627776 }
  servePort : Port

def ExposurePlan.asdict (exposure : ExposurePlan) : Json :=
  .obj [("mode", .str exposure.mode.value), ("advertised_scheme", .str "http"), ("advertised_path", .str "/v1"),
    ("network_boundary", .str "trusted_allocation"), ("auth_policy_ref", .null),
    ("request_body_limit_bytes", optionalJson (fun limit => countJson limit.val) exposure.requestBodyLimitBytes),
    ("serve_port", countJson exposure.servePort.val)]

/-- The deadlines and bounds of the control plane as the plan writes them. -/
structure Artifact.ControlLimits where
  registrationDeadlineS : PositiveNumber
  reconnectGraceS : PositiveNumber
  heartbeatIntervalS : PositiveNumber
  leaseTimeoutS : PositiveNumber
  snapshotAssemblyDeadlineS : PositiveNumber
  watchdogCleanupDeadlineS : PositiveNumber
  maxFrameBytes : Count
  maxSnapshotChunks : Count
  maxSnapshotBytes : Count
  maxSnapshotItems : Count
  evidenceBacked : Bool
  leased : 3 * numberValue heartbeatIntervalS.val ≤ numberValue leaseTimeoutS.val

def Artifact.ControlLimits.asdict (control : Artifact.ControlLimits) : Json :=
  .obj [("registration_deadline_s", control.registrationDeadlineS.val.toJson),
    ("reconnect_grace_s", control.reconnectGraceS.val.toJson),
    ("heartbeat_interval_s", control.heartbeatIntervalS.val.toJson),
    ("lease_timeout_s", control.leaseTimeoutS.val.toJson),
    ("snapshot_assembly_deadline_s", control.snapshotAssemblyDeadlineS.val.toJson),
    ("watchdog_cleanup_deadline_s", control.watchdogCleanupDeadlineS.val.toJson),
    ("max_frame_bytes", countJson control.maxFrameBytes.val),
    ("max_snapshot_chunks", countJson control.maxSnapshotChunks.val),
    ("max_snapshot_bytes", countJson control.maxSnapshotBytes.val),
    ("max_snapshot_items", countJson control.maxSnapshotItems.val), ("evidence_backed", .bool control.evidenceBacked)]

structure ReadinessLimits where
  initialDeadlineS : PositiveNumber
  recoveryDeadlineS : PositiveNumber
  validationIntervalS : PositiveNumber
  observationFreshnessS : PositiveNumber
  gatewayStartDeadlineS : PositiveNumber
  canaryTimeoutS : PositiveNumber
  serveStartProxyTimeoutS : PositiveNumber
  serveProxyHealthCheckTimeoutS : PositiveNumber
  serveProxyReadyCheckTimeoutS : PositiveNumber
  serveReplicaHealthCheckPeriodS : PositiveNumber
  serveReplicaHealthCheckTimeoutS : PositiveNumber
  allowExcessResources : Bool
  evidenceBacked : Bool
  fresh : 3 * numberValue validationIntervalS.val ≤ numberValue observationFreshnessS.val
  patient : numberValue initialDeadlineS.val ≤ numberValue serveProxyHealthCheckTimeoutS.val

def ReadinessLimits.asdict (readiness : ReadinessLimits) : Json :=
  .obj [("initial_deadline_s", readiness.initialDeadlineS.val.toJson),
    ("recovery_deadline_s", readiness.recoveryDeadlineS.val.toJson),
    ("validation_interval_s", readiness.validationIntervalS.val.toJson),
    ("observation_freshness_s", readiness.observationFreshnessS.val.toJson),
    ("gateway_start_deadline_s", readiness.gatewayStartDeadlineS.val.toJson),
    ("canary_timeout_s", readiness.canaryTimeoutS.val.toJson),
    ("serve_start_proxy_timeout_s", readiness.serveStartProxyTimeoutS.val.toJson),
    ("serve_proxy_health_check_timeout_s", readiness.serveProxyHealthCheckTimeoutS.val.toJson),
    ("serve_proxy_ready_check_timeout_s", readiness.serveProxyReadyCheckTimeoutS.val.toJson),
    ("serve_replica_health_check_period_s", readiness.serveReplicaHealthCheckPeriodS.val.toJson),
    ("serve_replica_health_check_timeout_s", readiness.serveReplicaHealthCheckTimeoutS.val.toJson),
    ("allow_excess_resources", .bool readiness.allowExcessResources),
    ("evidence_backed", .bool readiness.evidenceBacked)]

structure RuntimePolicy where
  nullCompute : Bool
  nullComputeLatencyS : NonNegativeNumber
  instrumentation : Bool
  ppShardAware : Bool
  cleanStage : Bool
  statsRetention : { count : Nat // 1 ≤ count ∧ count ≤ 10000 }
  statsPushPeriodS : PositiveNumber
  statsSampleCap : { count : Nat // 1 ≤ count ∧ count ≤ 10000 }

def RuntimePolicy.asdict (runtime : RuntimePolicy) : Json :=
  .obj [("null_compute", .bool runtime.nullCompute),
    ("null_compute_latency_s", runtime.nullComputeLatencyS.val.toJson),
    ("instrumentation", .bool runtime.instrumentation), ("pp_shard_aware", .bool runtime.ppShardAware),
    ("clean_stage", .bool runtime.cleanStage), ("stats_retention", countJson runtime.statsRetention.val),
    ("stats_push_period_s", runtime.statsPushPeriodS.val.toJson),
    ("stats_sample_cap", countJson runtime.statsSampleCap.val)]

/-- One independently qualified support combination. -/
structure ScaleEnvelope where
  envelopeId : Text
  siteId : Text
  schedulerType : Text
  vendor : Text
  accelerator : Text
  engine : Text
  compatibilityProfileRef : Text
  gatewayKind : Option GatewayKind
  exposureMode : ExposureMode
  requestMode : Text
  streamingMode : Text
  minNodes : Count
  supportedMaxNodes : Count
  qualificationTargetNodes : Count
  qualificationTargetApproved : Bool
  maxReplicasPerModel : Count
  maxTotalReplicas : Count
  maxModels : Count
  validationTier : Text
  validationMode : Bool
  evidenceRefs : List Text
  direct : gatewayKind = none → exposureMode ≠ .proxiedInternal ∧ validationMode = true
  proxied : gatewayKind ≠ none → exposureMode = .proxiedInternal
  production : gatewayKind ≠ none → validationMode = false → gatewayKind = some .haproxy
  supported : minNodes.val ≤ supportedMaxNodes.val
  targeted : supportedMaxNodes.val ≤ qualificationTargetNodes.val
  totalled : maxReplicasPerModel.val ≤ maxTotalReplicas.val

def schemaVersion : Int := 3

def ScaleEnvelope.asdict (envelope : ScaleEnvelope) : Json :=
  .obj [("schema_version", .int schemaVersion), ("envelope_id", .str envelope.envelopeId.val),
    ("site_id", .str envelope.siteId.val), ("scheduler_type", .str envelope.schedulerType.val),
    ("vendor", .str envelope.vendor.val), ("accelerator", .str envelope.accelerator.val),
    ("engine", .str envelope.engine.val), ("compatibility_profile_ref", .str envelope.compatibilityProfileRef.val),
    ("gateway_kind", optionalJson (fun kind => .str kind.value) envelope.gatewayKind),
    ("exposure_mode", .str envelope.exposureMode.value), ("request_mode", .str envelope.requestMode.val),
    ("streaming_mode", .str envelope.streamingMode.val), ("min_nodes", countJson envelope.minNodes.val),
    ("supported_max_nodes", countJson envelope.supportedMaxNodes.val),
    ("qualification_target_nodes", countJson envelope.qualificationTargetNodes.val),
    ("qualification_target_approved", .bool envelope.qualificationTargetApproved),
    ("max_replicas_per_model", countJson envelope.maxReplicasPerModel.val),
    ("max_total_replicas", countJson envelope.maxTotalReplicas.val), ("max_models", countJson envelope.maxModels.val),
    ("validation_tier", .str envelope.validationTier.val), ("validation_mode", .bool envelope.validationMode),
    ("evidence_refs", .arr (envelope.evidenceRefs.map fun reference => .str reference.val))]

end ExaServe.Plan
