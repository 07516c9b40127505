import VolSync.Kube.Client
import VolSync.Meta

set_option autoImplicit false

/-!
# Endpoints

An endpoint publishes a (hostname, port) to the peer and reports readiness. The
load-balancer variant (`loadbalancer.go`) is translated from the source: `newEndpoint`
creates or updates a `LoadBalancer` service forwarding `ingressPort` to `backendPort`,
`isHealthy` reads the first ingress record of the service's status, and `markForCleanup`
labels the service.

`loadbalancer.go` holds two versions of the endpoint. The model follows the second, the
one with `MarkForCleanup`, whose `createService` goes through
`controllerutil.CreateOrUpdate`: an existing service keeps its spec (the mutate function
sets it only while `CreationTimestamp` is zero) but gets the endpoint's labels and owner
references written over its own.

The route variant and `utils.UpdateWithLabel` are missing from src/ and are modelled from
the spec.
-/

namespace VolSync

/-- `types.NamespacedName`. -/
structure NamespacedName where
  ns : String
  name : String
  deriving DecidableEq, Repr

/-- Constants the code uses whose declarations are missing from src/: the names of the
stunnel config map and secret (package `lib/transport/stunnel`) and the backend port of a
passthrough route (package `lib/endpoint/route`). Every result holds for all values. -/
structure Constants where
  stunnelConfig : String
  stunnelSecret : String
  routeBackendPort : Int
  deriving DecidableEq, Repr

/-- An `endpoint.Endpoint`: both variants carry these fields. -/
structure Endpoint where
  hostname : String
  ingressPort : Int
  backendPort : Int
  namespacedName : NamespacedName
  objMeta : Option ObjectMetaMutation
  deriving DecidableEq, Repr

/-- `controllerutil.CreateOrUpdate` on the object `fresh` names: `Get` it; if it is absent,
create `mutate fresh`; if it is there, update it to `mutate` of what was read, unless that
changes nothing. -/
def createOrUpdate (fresh : Object) (mutate : Object → Object) : Cmd (Option Error) := do
  match ← get fresh.key with
  | .error e => if e.isNotFound then create (mutate fresh) else pure (some e)
  | .ok existing =>
    let obj := mutate existing
    if obj = existing then pure none else update obj

/-- Modelled from the spec: `utils.UpdateWithLabel` (package `lib/utils`, missing from
src/): read the object, set the label `key = value`, write it back. -/
def updateWithLabel (k : Key) (key value : String) : Cmd (Option Error) := do
  match ← get k with
  | .error e => pure (some e)
  | .ok obj => update { obj with labels := obj.labels.set key value }

namespace LoadBalancer

/-- The service `createService` starts from: name and namespace, nothing else. -/
def serviceObject (e : Endpoint) : Object :=
  ⟨e.namespacedName.name, e.namespacedName.ns, [], [], false,
    .service ⟨[], [], ""⟩ []⟩

/-- The spec of the `LoadBalancer` service: one TCP port `ingressPort → backendPort`. -/
def serviceSpec (e : Endpoint) (serviceSelector : StrMap) : ServiceSpec :=
  ⟨[⟨e.namespacedName.name, e.ingressPort, e.backendPort⟩], serviceSelector, "LoadBalancer"⟩

/-- The mutate function of `createService`: the spec only on a new service, the labels and
owner references always. -/
def mutateService (e : Endpoint) (m : ObjectMetaMutation) (serviceSelector : StrMap)
    (service : Object) : Object :=
  let body := match service.body with
    | .service _ ingress => if service.created then service.body
        else .service (serviceSpec e serviceSelector) ingress
    | b => b
  { service with body := body, labels := m.labels, ownerReferences := m.ownerReferences }

theorem mutateService_created {e : Endpoint} {m : ObjectMetaMutation} {sel : StrMap}
    {svc : Object} (h : svc.created = true) :
    mutateService e m sel svc =
      { svc with labels := m.labels, ownerReferences := m.ownerReferences } := by
  unfold mutateService
  split <;> simp [h]

def createService (e : Endpoint) : Cmd (Option Error) :=
  match e.objMeta with
  | none => pure (some (.panic "nil meta.ObjectMetaMutation"))
  | some m => createOrUpdate (serviceObject e) (mutateService e m m.labels)

/-- `loadbalancer.NewEndpoint`. -/
def newEndpoint (name : NamespacedName) (metaMutation : Option ObjectMetaMutation)
    (backendPort ingressPort : Int) : Cmd (Except Error Endpoint) := do
  let s : Endpoint := ⟨"", ingressPort, backendPort, name, metaMutation⟩
  match ← createService s with
  | some err => pure (.error err)
  | none => pure (.ok s)

/-- `Endpoint.IsHealthy`: the endpoint with the hostname it refreshed, whether it is ready,
and the error. -/
def isHealthy (e : Endpoint) : Cmd (Endpoint × Bool × Option Error) := do
  match ← get ⟨.service, e.namespacedName.ns, e.namespacedName.name⟩ with
  | .error err => pure (e, false, some err)
  | .ok svc =>
    match svc.body with
    | .service _ (ing :: _) =>
      let h₁ := if ing.hostname ≠ "" then ing.hostname else e.hostname
      let h₂ := if ing.ip ≠ "" then ing.ip else h₁
      pure ({ e with hostname := h₂ }, true, none)
    | _ => pure (e, false, none)

def markForCleanup (e : Endpoint) (key value : String) : Cmd (Option Error) :=
  updateWithLabel ⟨.service, e.namespacedName.ns, e.namespacedName.name⟩ key value

end LoadBalancer

namespace Route

/-- Modelled from the spec: `route.IngressPort` (package `lib/endpoint/route`, missing
from src/), the well-known port of a passthrough route. -/
def ingressPort : Int := 443

/-- Modelled from the spec: the route a passthrough route endpoint publishes (missing
from src/), mapped to `backendPort`, with no host assigned yet. -/
def routeObject (c : Constants) (nn : NamespacedName) (m : ObjectMetaMutation) : Object :=
  ⟨nn.name, nn.ns, m.labels, m.ownerReferences, false, .route c.routeBackendPort ""⟩

/-- Modelled from the spec: `route.NewEndpoint` with `EndpointTypePassthrough` (missing
from src/). It creates the route unless it exists ("already exists" is not an error). -/
def newEndpoint (c : Constants) (nn : NamespacedName) (metaMutation : Option ObjectMetaMutation) :
    Cmd (Except Error Endpoint) :=
  match metaMutation with
  | none => pure (.error (.panic "nil meta.ObjectMetaMutation"))
  | some m => do
    let err ← create (routeObject c nn m)
    match err with
    | some e =>
      if e.isAlreadyExists then pure (.ok ⟨"", ingressPort, c.routeBackendPort, nn, some m⟩)
      else pure (.error e)
    | none => pure (.ok ⟨"", ingressPort, c.routeBackendPort, nn, some m⟩)

/-- Modelled from the spec: the route endpoint's `IsHealthy` (missing from src/). It is
ready when the route reports an assigned host, which becomes the endpoint's hostname. -/
def isHealthy (e : Endpoint) : Cmd (Endpoint × Bool × Option Error) := do
  match ← get ⟨.route, e.namespacedName.ns, e.namespacedName.name⟩ with
  | .error err => pure (e, false, some err)
  | .ok r =>
    match r.body with
    | .route _ host =>
      if host ≠ "" then pure ({ e with hostname := host }, true, none)
      else pure (e, false, none)
    | _ => pure (e, false, none)

end Route

end VolSync
