import Mathlib.Data.List.Basic

set_option autoImplicit false

/-!
# Kubernetes objects

The part of the Kubernetes object model that the rsync transfer library writes and reads:
object metadata (name, namespace, labels, owner references), pod specs with their
containers, volumes and mounts, config maps, secrets, load-balancer services, routes, and
the two kinds the cleanup sweeper deletes but the library never builds (claims and
snapshots).

A Go `map[string]string` is the list of its bindings (`StrMap`); `m[k] = v` is
`StrMap.set` and `client.MatchingLabels` is `StrMap.matchingLabels`. A Go `int32` port is an
`Int`: the code only copies ports and prints them in decimal, so no width matters.

Fields that no modelled function reads are left out (container images, port protocols,
resource requests); `MODEL_MAP.json` lists them.
-/

namespace VolSync

/-- A Go `map[string]string`, as the list of its bindings. -/
abbrev StrMap := List (String × String)

namespace StrMap

/-- `m[k] = v`: the binding of `k` is overwritten in place, or added at the end. -/
def set : StrMap → String → String → StrMap
  | [], k, v => [(k, v)]
  | p :: m, k, v => if p.1 = k then (k, v) :: m else p :: set m k v

@[simp] theorem lookup_set_self (m : StrMap) (k v : String) : (m.set k v).lookup k = some v := by
  induction m with
  | nil => simp [set]
  | cons p m ih =>
    obtain ⟨k', v'⟩ := p
    by_cases h : k' = k
    · simp [set, h]
    · have : (k == k') = false := beq_false_of_ne (Ne.symm h)
      simp [set, h, List.lookup_cons, this, ih]

/-- `client.MatchingLabels(sel)`: every binding of `sel` is a binding of `m`. -/
def matchingLabels (sel m : StrMap) : Bool :=
  sel.all fun p => m.lookup p.1 == some p.2

/-- In a map with distinct keys, as a Go map is, every binding is found. -/
theorem lookup_of_mem {m : StrMap} (h : (m.map Prod.fst).Nodup) {p : String × String}
    (hp : p ∈ m) : m.lookup p.1 = some p.2 := by
  induction m with
  | nil => cases hp
  | cons q m ih =>
    obtain ⟨hq, hm⟩ := List.nodup_cons.mp h
    rcases List.mem_cons.mp hp with rfl | hp
    · exact List.lookup_cons_self
    · have hne : p.1 ≠ q.1 := fun he => hq (he ▸ List.mem_map_of_mem _ hp)
      rw [List.lookup_cons, beq_false_of_ne hne]
      exact ih hm hp

theorem matchingLabels_self {m : StrMap} (h : (m.map Prod.fst).Nodup) : matchingLabels m m = true :=
  List.all_eq_true.mpr fun _ hp => beq_iff_eq.mpr (lookup_of_mem h hp)

end StrMap

/-- `metav1.OwnerReference`. -/
structure OwnerReference where
  apiVersion : String
  kind : String
  name : String
  uid : String
  deriving DecidableEq, Repr

/-- `metav1.ObjectMeta` as the mover builds it for the meta mutations (`Mover.metaObject`). -/
structure ObjectMeta where
  name : String
  ns : String
  labels : StrMap
  ownerReferences : List OwnerReference
  deriving DecidableEq, Repr

/-! ### Pods -/

/-- `corev1.SecurityContext`, the fields `getRsyncTransferContainerMutation` sets. -/
structure SecurityContext where
  privileged : Option Bool
  runAsUser : Option Int
  readOnlyRootFilesystem : Option Bool
  dropCapabilities : List String
  deriving DecidableEq, Repr

/-- `corev1.VolumeMount`. -/
structure VolumeMount where
  name : String
  mountPath : String
  subPath : String
  deriving DecidableEq, Repr

/-- `corev1.ContainerPort`. -/
structure ContainerPort where
  name : String
  containerPort : Int
  deriving DecidableEq, Repr

/-- `corev1.EnvVar`. -/
structure EnvVar where
  name : String
  value : String
  deriving DecidableEq, Repr

/-- `corev1.Container`. `resources` holds the resource limits, carried and never read. -/
structure Container where
  name : String
  command : List String
  ports : List ContainerPort
  env : List EnvVar
  volumeMounts : List VolumeMount
  securityContext : Option SecurityContext
  resources : StrMap
  deriving DecidableEq, Repr

/-- `corev1.VolumeSource`, the four sources the code uses. -/
inductive VolumeSource
  | configMap (name : String)
  | secret (secretName : String) (defaultMode : Option Nat) (items : List (String × String))
  | persistentVolumeClaim (claimName : String)
  | emptyDir
  deriving DecidableEq, Repr

/-- `corev1.Volume`. -/
structure Volume where
  name : String
  source : VolumeSource
  deriving DecidableEq, Repr

/-- `corev1.PodSpec`. The pod security context is carried and never read, so it is kept
as the bindings it was given. -/
structure PodSpec where
  containers : List Container
  volumes : List Volume
  restartPolicy : String
  nodeSelector : StrMap
  securityContext : Option StrMap
  nodeName : String
  deriving DecidableEq, Repr

/-- `corev1.ContainerStatus`: `terminated` is `State.Terminated != nil`. -/
structure ContainerStatus where
  name : String
  ready : Bool
  terminated : Bool
  deriving DecidableEq, Repr

/-! ### Services and routes -/

/-- `corev1.ServicePort`: `targetPort` is the `intstr.Int` target. -/
structure ServicePort where
  name : String
  port : Int
  targetPort : Int
  deriving DecidableEq, Repr

/-- `corev1.ServiceSpec`. -/
structure ServiceSpec where
  ports : List ServicePort
  selector : StrMap
  type : String
  deriving DecidableEq, Repr

/-- One `corev1.LoadBalancerIngress` record of a service's status. -/
structure LoadBalancerIngress where
  hostname : String
  ip : String
  deriving DecidableEq, Repr

/-! ### Objects -/

/-- The kinds of object the code creates, reads or deletes. -/
inductive Kind
  | pod | configMap | secret | service | route | persistentVolumeClaim | volumeSnapshot
  deriving DecidableEq, Repr

/-- The kind-specific part of an object: its spec or data, and the status the external
controllers publish (`Status` of pods and services, the assigned host of a route). -/
inductive Body
  | pod (spec : PodSpec) (status : List ContainerStatus)
  | configMap (data : StrMap)
  | secret (data : StrMap)
  | service (spec : ServiceSpec) (ingress : List LoadBalancerIngress)
  | route (backendPort : Int) (host : String)
  | persistentVolumeClaim
  | volumeSnapshot
  deriving DecidableEq, Repr

def Body.kind : Body → Kind
  | .pod .. => .pod
  | .configMap .. => .configMap
  | .secret .. => .secret
  | .service .. => .service
  | .route .. => .route
  | .persistentVolumeClaim => .persistentVolumeClaim
  | .volumeSnapshot => .volumeSnapshot

/-- An object of the store. `created` is `!CreationTimestamp.IsZero()`: the API server
sets it on every object it stores, and the code's builders leave it unset. -/
structure Object where
  name : String
  ns : String
  labels : StrMap
  ownerReferences : List OwnerReference
  created : Bool
  body : Body
  deriving DecidableEq, Repr

/-- `client.ObjectKey` together with the kind: what names one object of the store. -/
structure Key where
  kind : Kind
  ns : String
  name : String
  deriving DecidableEq, Repr

namespace Object

def kind (o : Object) : Kind := o.body.kind

def key (o : Object) : Key := ⟨o.kind, o.ns, o.name⟩

end Object

end VolSync
