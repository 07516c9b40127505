import VolSync.Transport

set_option autoImplicit false

/-!
# The transfer package

`transfer.PVC` and `transfer.PVCList` (`pvc.go`), and the pod readers the transfers share
(`transfer.go`): `isPodHealthy` and `isPodCompleted`. The implementations of the PVC
interfaces are missing from src/; a PVC is modelled as what its methods return, and a
list as the list of its PVCs, with `getNamespaces` and `inNamespace` modelled from the
spec ("filtered views (`in-namespace(ns)`) and distinct-namespace enumeration").
-/

namespace VolSync

/-- A `transfer.PVC`: the namespace and name of its `Claim()` and its `LabelSafeName()`. -/
structure PVC where
  ns : String
  name : String
  labelSafeName : String
  deriving DecidableEq, Repr

/-- A `transfer.PVCList`, as the list of its PVCs. -/
abbrev PVCList := List PVC

/-- Modelled from the spec: `PVCList.GetNamespaces()` (missing from src/), the distinct
namespaces in the order they first appear. -/
def getNamespaces : PVCList → List String
  | [] => []
  | p :: ps => p.ns :: (getNamespaces ps).filter (· ≠ p.ns)

/-- Modelled from the spec: `PVCList.InNamespace(ns).PVCs()` (missing from src/). -/
def inNamespace (l : PVCList) (ns : String) : PVCList := l.filter (·.ns = ns)

/-- Modelled from the spec: `transfer.NewSingletonPVC` (missing from src/), the list of one
claim, named by the label-safe name `lsn` gives it. -/
def newSingletonPVC (lsn : String → String → String) (ns name : String) : PVCList :=
  [⟨ns, name, lsn ns name⟩]

/-- `pvcList.GetNamespaces()[0]`, which panics on an empty list. -/
def firstNamespace (l : PVCList) : Except Error String :=
  match getNamespaces l with
  | ns :: _ => .ok ns
  | [] => .error (.panic "index out of range [0] with length 0")

theorem firstNamespace_cons (p : PVC) (ps : PVCList) : firstNamespace (p :: ps) = .ok p.ns := rfl

/-! ### Pod readers -/

/-- `client.ObjectKey` printed with `%s`. -/
def keyText (ns name : String) : String := ns ++ "/" ++ name

def Object.containerStatuses (o : Object) : List ContainerStatus :=
  match o.body with
  | .pod _ status => status
  | _ => []

/-- `areContainersReady`: exactly two statuses, both ready; otherwise a diagnostic. -/
def areContainersReady (pod : Object) : Bool × Option Error :=
  if pod.containerStatuses.length ≠ 2 then
    (false, some (.msg ("expected two contaier statuses found " ++
      toString pod.containerStatuses.length ++ ", for pod " ++ keyText pod.ns pod.name)))
  else
    match pod.containerStatuses.find? (!·.ready) with
    | some cs => (false, some (.msg ("container " ++ cs.name ++ " in pod " ++
        keyText pod.ns pod.name ++ " is not ready")))
    | none => (true, none)

def isPodHealthy (ns name : String) : Cmd (Bool × Option Error) := do
  match ← get ⟨.pod, ns, name⟩ with
  | .error err => pure (false, some err)
  | .ok p => pure (areContainersReady p)

/-- The loop of `IsPodCompleted` over the container statuses. -/
def completedStatuses (containerName : String) : List ContainerStatus → Bool
  | [] => true
  | cs :: rest =>
    if containerName ≠ "" ∧ cs.name = containerName then cs.terminated
    else if !cs.terminated then false
    else completedStatuses containerName rest

/-- `transfer.IsPodCompleted` (the version of `transfer.go` in `part_001`). -/
def isPodCompleted (ns name containerName : String) : Cmd (Bool × Option Error) := do
  match ← get ⟨.pod, ns, name⟩ with
  | .error err => pure (false, some err)
  | .ok pod =>
    if pod.containerStatuses.length ≠ 2 then
      pure (false, some (.msg ("expected two contaier statuses found " ++
        toString pod.containerStatuses.length ++ ", for pod " ++ keyText pod.ns pod.name)))
    else pure (completedStatuses containerName pod.containerStatuses, none)

end VolSync
