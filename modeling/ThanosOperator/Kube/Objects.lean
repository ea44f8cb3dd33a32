import ThanosOperator.Kube.Meta

/-! # The objects the controllers read and write

The API types the two reconcilers read (`corev1.Service`, `discoveryv1.EndpointSlice`,
`corev1.ConfigMap`, `ThanosQuery`, `ThanosReceive`) with the fields they use, and `Object`, the
`client.Object` interface over all of them. The workloads the manifests builders produce
(`ServiceAccount`, `Deployment`, `StatefulSet`) are never read by a controller; they carry their
kind, their metadata and an opaque body. -/

namespace ThanosOperator.Kube.Objects
open ThanosOperator.Kube.Meta

/-- `corev1.ServicePort`; the port is an `int32` that is only copied. -/
structure ServicePort where
  name : String
  port : Int
  deriving DecidableEq, Repr

structure Service where
  meta : ObjectMeta
  ports : List ServicePort
  deriving DecidableEq

/-- `discoveryv1.EndpointConditions`: each condition is a `*bool`. -/
structure EndpointConditions where
  ready : Option Bool
  serving : Option Bool
  terminating : Option Bool
  deriving DecidableEq, Repr

/-- `discoveryv1.Endpoint`. -/
structure SliceEndpoint where
  addresses : List String
  hostname : Option String
  conditions : EndpointConditions
  deriving DecidableEq, Repr

structure EndpointSlice where
  meta : ObjectMeta
  endpoints : List SliceEndpoint
  deriving DecidableEq

structure ConfigMap where
  meta : ObjectMeta
  data : StringMap
  deriving DecidableEq

structure ThanosQuerySpec where
  image : Option String
  logLevel : Option String
  logFormat : Option String
  replicas : Int
  querierReplicaLabels : List String
  storeLabelSelector : LabelSelector
  deriving DecidableEq

structure ThanosQuery where
  meta : ObjectMeta
  spec : ThanosQuerySpec
  deriving DecidableEq

/-- A key of an object storage secret (`ToSecretKeySelector` reads it as one). -/
structure ObjectStorageConfig where
  name : String
  key : String
  deriving DecidableEq, Repr

structure IngestorHashringSpec where
  name : String
  labels : StringMap
  externalLabels : StringMap
  replicas : Int
  retention : String
  storageSize : String
  objectStorageConfig : Option ObjectStorageConfig
  tenants : List String
  tenantMatcherType : String
  deriving DecidableEq

structure ThanosReceiveSpec where
  image : Option String
  logLevel : Option String
  logFormat : Option String
  replicationFactor : Int
  defaultObjectStorageConfig : ObjectStorageConfig
  hashrings : List IngestorHashringSpec
  deriving DecidableEq

structure ThanosReceive where
  meta : ObjectMeta
  spec : ThanosReceiveSpec
  deriving DecidableEq

inductive Kind
  | service
  | endpointSlice
  | configMap
  | thanosQuery
  | thanosReceive
  | workload (name : String)
  deriving DecidableEq, Repr

/-- `client.Object`. -/
inductive Object
  | service (s : Service)
  | endpointSlice (e : EndpointSlice)
  | configMap (c : ConfigMap)
  | thanosQuery (q : ThanosQuery)
  | thanosReceive (r : ThanosReceive)
  | workload (kind : String) (meta : ObjectMeta) (body : String)
  deriving DecidableEq

namespace Object

def kind : Object → Kind
  | .service _ => .service
  | .endpointSlice _ => .endpointSlice
  | .configMap _ => .configMap
  | .thanosQuery _ => .thanosQuery
  | .thanosReceive _ => .thanosReceive
  | .workload k _ _ => .workload k

def meta : Object → ObjectMeta
  | .service s => s.meta
  | .endpointSlice e => e.meta
  | .configMap c => c.meta
  | .thanosQuery q => q.meta
  | .thanosReceive r => r.meta
  | .workload _ m _ => m

/-- Replace the metadata, as the setters of `client.Object` do. -/
def setMeta (o : Object) (m : ObjectMeta) : Object :=
  match o with
  | .service s => .service { s with meta := m }
  | .endpointSlice e => .endpointSlice { e with meta := m }
  | .configMap c => .configMap { c with meta := m }
  | .thanosQuery q => .thanosQuery { q with meta := m }
  | .thanosReceive r => .thanosReceive { r with meta := m }
  | .workload k _ b => .workload k m b

/-- `obj.SetNamespace(ns)`. -/
def setNamespace (o : Object) (ns : String) : Object := o.setMeta { o.meta with «namespace» := ns }

/-- Where the store keeps an object: its kind and `client.ObjectKeyFromObject`. -/
def key (o : Object) : Kind × NamespacedName := (o.kind, o.meta.key)

def asService? : Object → Option Service
  | .service s => some s
  | _ => none

def asEndpointSlice? : Object → Option EndpointSlice
  | .endpointSlice e => some e
  | _ => none

def asConfigMap? : Object → Option ConfigMap
  | .configMap c => some c
  | _ => none

def asThanosQuery? : Object → Option ThanosQuery
  | .thanosQuery q => some q
  | _ => none

def asThanosReceive? : Object → Option ThanosReceive
  | .thanosReceive r => some r
  | _ => none

@[simp] theorem kind_setMeta (o : Object) (m : ObjectMeta) : (o.setMeta m).kind = o.kind := by
  cases o <;> rfl

@[simp] theorem meta_setMeta (o : Object) (m : ObjectMeta) : (o.setMeta m).meta = m := by
  cases o <;> rfl

@[simp] theorem key_setNamespace (o : Object) (ns : String) :
    (o.setNamespace ns).key = (o.kind, ⟨ns, o.meta.name⟩) := by
  simp [setNamespace, key, ObjectMeta.key]

end Object

end ThanosOperator.Kube.Objects
