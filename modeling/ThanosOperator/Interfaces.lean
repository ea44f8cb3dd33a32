import ThanosOperator.Kube.Client

/-! # The manifests packages, at their interface

The `manifests`, `manifests/query` and `manifests/receive` packages are not part of this source.
The controllers use their label constants, their option records and a handful of their
functions; the constants and functions are parameters here, gathered in `ManifestLabels` and
`Manifests`, so every result holds whatever they are. The one exception is
`ingesterNameFromParent`, whose result the spec fixes. -/

namespace ThanosOperator.Interfaces
open ThanosOperator.Kube.Meta ThanosOperator.Kube.Objects ThanosOperator.Kube.Client

/-- The label keys and values the controllers select on. -/
structure ManifestLabels where
  partOfLabel : String
  defaultPartOfLabel : String
  defaultStoreAPILabel : String
  defaultStoreAPIValue : String
  componentLabel : String
  /-- `receive.IngestComponentName`. -/
  ingestComponentName : String
  /-- `discoveryv1.LabelServiceName`, the label Kubernetes puts on an endpoint slice. -/
  labelServiceName : String
  /-- The label keys of `manifestquery.StrictLabel`, `GroupStrictLabel` and `GroupLabel`. -/
  strictLabel : String
  groupStrictLabel : String
  groupLabel : String

/-- `manifestquery.EndpointType`. -/
inductive EndpointType
  | regularLabel
  | strictLabel
  | groupStrictLabel
  | groupLabel
  deriving DecidableEq, Repr, Inhabited

/-- `manifestquery.Endpoint`; the port is an `int32`, zero unless set. -/
structure Endpoint where
  serviceName : String
  «namespace» : String
  type : EndpointType
  port : Int := 0
  deriving DecidableEq, Repr, Inhabited

/-- `manifests.Options`. -/
structure Options where
  name : String
  «namespace» : String
  replicas : Int
  labels : StringMap
  image : Option String
  logLevel : Option String
  logFormat : Option String
  deriving DecidableEq

/-- `manifestquery.QuerierOptions`. -/
structure QuerierOptions where
  options : Options
  replicaLabels : List String
  timeout : String
  lookbackDelta : String
  maxConcurrent : Int
  endpoints : List Endpoint
  deriving DecidableEq

/-- `receive.IngesterOptions`; the storage size is the string `resource.MustParse` reads. -/
structure IngesterOptions where
  options : Options
  retention : String
  storageSize : String
  objStoreSecret : ObjectStorageConfig
  externalLabels : StringMap
  deriving DecidableEq

/-- `receive.HashringMeta`. -/
structure HashringMeta where
  desiredReplicasReplicas : Int
  originalName : String
  tenants : List String
  tenantMatcherType : String
  associatedEndpointSlices : List EndpointSlice
  priority : Int
  deriving DecidableEq

/-- `receive.HashringOptions`. -/
structure HashringOptions where
  options : Options
  desiredReplicationFactor : Int
  hashringSettings : GoMap HashringMeta
  deriving DecidableEq

/-- The functions of the manifests packages the controllers call. `buildHashrings` answers
Go's `(client.Object, error)` pair; its object is the hashring ConfigMap. -/
structure Manifests where
  isNamespacedResource : Object → Bool
  /-- `MutateFuncFor(obj, desired)` run on `obj` once it holds the stored object. -/
  mutateFuncFor : Object → Object → Except Error Object
  applyDefaults : Options → Options
  mergeLabels : StringMap → StringMap → StringMap
  buildQuerier : QuerierOptions → List Object
  buildIngesters : List IngesterOptions → List Object
  buildHashrings : ConfigMap → HashringOptions → Object × Option Error

/-- Modelled from the spec: `receive.IngesterNameFromParent` is not part of this source; the
spec names a shard's workload `<subject-name>-<shard-name>`. -/
def ingesterNameFromParent (parent name : String) : String := parent ++ "-" ++ name

theorem ingesterNameFromParent_injective (parent : String) :
    Function.Injective (ingesterNameFromParent parent) := by
  intro a b h
  have hl := congrArg String.data h
  simp only [ingesterNameFromParent, String.data_append, List.append_assoc] at hl
  exact String.ext (List.append_cancel_left (List.append_cancel_left hl))

/-- Label constants for concrete runs; every result holds for all of them. -/
def sampleLabels : ManifestLabels where
  partOfLabel := "part-of"
  defaultPartOfLabel := "thanos-operator"
  defaultStoreAPILabel := "store-api"
  defaultStoreAPIValue := "true"
  componentLabel := "component"
  ingestComponentName := "ingester"
  labelServiceName := "service-name"
  strictLabel := "strict"
  groupStrictLabel := "group-strict"
  groupLabel := "group"

/-- Manifests functions for concrete runs: nothing is namespaced or merged, and the builders
build nothing but the hashring ConfigMap, named after the receiver and holding the data read. -/
def sampleManifests : Manifests where
  isNamespacedResource _ := false
  mutateFuncFor _ desired := .ok desired
  applyDefaults opts := opts
  mergeLabels base _ := base
  buildQuerier _ := []
  buildIngesters _ := []
  buildHashrings cm opts :=
    (.configMap ⟨{ name := opts.options.name, «namespace» := opts.options.namespace }, cm.data⟩,
      none)

end ThanosOperator.Interfaces
