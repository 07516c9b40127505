import VolSync.Kube.Object

set_option autoImplicit false

/-!
# Meta mutations

The package `lib/meta` is missing from src/: only its uses are there. A meta mutation is
what the transfer options carry to the objects they build (`ObjectMetaMutation`: labels,
owner references and the name), and to the pods and containers (`PodSpecMutation`,
`ContainerMutation`). The rsync package applies the pod and container mutations itself
(`applyPodMutations`, `applyContainerMutations`, in `server.go`); those two are translated
from the source.
-/

namespace VolSync

/-- Modelled from the spec: `meta.MutationType` (package `lib/meta`, missing from src/),
the merge-vs-replace semantics a mutation carries. -/
inductive MutationType
  | replace
  | merge
  deriving DecidableEq, Repr

/-- Modelled from the spec: `meta.ObjectMetaMutation` as built by
`meta.NewObjectMetaMutation(m, t)` (missing from src/). It carries the labels, owner
references and name of `m`. -/
structure ObjectMetaMutation where
  meta : ObjectMeta
  type : MutationType
  deriving DecidableEq, Repr

namespace ObjectMetaMutation

def labels (m : ObjectMetaMutation) : StrMap := m.meta.labels

def ownerReferences (m : ObjectMetaMutation) : List OwnerReference := m.meta.ownerReferences

def name (m : ObjectMetaMutation) : String := m.meta.name

end ObjectMetaMutation

/-- Modelled from the spec: `meta.PodSpecMutation` (missing from src/), the pod-level
settings `applyPodMutations` reads. -/
structure PodSpecMutation where
  type : MutationType
  nodeSelector : StrMap
  podSecurityContext : Option StrMap
  nodeName : Option String
  deriving DecidableEq, Repr

/-- Modelled from the spec: `meta.NewPodSpecMutation(spec, t)` (missing from src/). -/
def newPodSpecMutation (spec : PodSpec) (t : MutationType) : PodSpecMutation :=
  ⟨t, spec.nodeSelector, spec.securityContext, some spec.nodeName⟩

/-- Modelled from the spec: `meta.ContainerMutation` (missing from src/), the container
settings `applyContainerMutations` reads. -/
structure ContainerMutation where
  type : MutationType
  securityContext : Option SecurityContext
  resources : Option StrMap
  deriving DecidableEq, Repr

/-- Modelled from the spec: `meta.NewContainerMutation(c, t)` (missing from src/). -/
def newContainerMutation (c : Container) (t : MutationType) : ContainerMutation :=
  ⟨t, c.securityContext, some c.resources⟩

/-- `applyPodMutations`: each replace mutation sets the node selector, and the security
context and node name when it has them. -/
def applyPodMutations (podSpec : PodSpec) : List PodSpecMutation → PodSpec
  | [] => podSpec
  | m :: ms =>
    match m.type with
    | .replace =>
      applyPodMutations
        { podSpec with
          nodeSelector := m.nodeSelector
          securityContext := if m.podSecurityContext.isSome then m.podSecurityContext
            else podSpec.securityContext
          nodeName := m.nodeName.getD podSpec.nodeName } ms
    | .merge => applyPodMutations podSpec ms

/-- `applyContainerMutations`: each replace mutation sets the security context and the
resources when it has them. -/
def applyContainerMutations (container : Container) : List ContainerMutation → Container
  | [] => container
  | m :: ms =>
    match m.type with
    | .replace =>
      applyContainerMutations
        { container with
          securityContext := if m.securityContext.isSome then m.securityContext
            else container.securityContext
          resources := m.resources.getD container.resources } ms
    | .merge => applyContainerMutations container ms

@[simp] theorem applyPodMutations_containers (podSpec : PodSpec) (ms : List PodSpecMutation) :
    (applyPodMutations podSpec ms).containers = podSpec.containers := by
  induction ms generalizing podSpec with
  | nil => rfl
  | cons m ms ih => cases h : m.type <;> simp [applyPodMutations, h, ih]

@[simp] theorem applyPodMutations_volumes (podSpec : PodSpec) (ms : List PodSpecMutation) :
    (applyPodMutations podSpec ms).volumes = podSpec.volumes := by
  induction ms generalizing podSpec with
  | nil => rfl
  | cons m ms ih => cases h : m.type <;> simp [applyPodMutations, h, ih]

@[simp] theorem applyPodMutations_restartPolicy (podSpec : PodSpec) (ms : List PodSpecMutation) :
    (applyPodMutations podSpec ms).restartPolicy = podSpec.restartPolicy := by
  induction ms generalizing podSpec with
  | nil => rfl
  | cons m ms ih => cases h : m.type <;> simp [applyPodMutations, h, ih]

theorem applyContainerMutations_eq (container : Container) (ms : List ContainerMutation) :
    ∃ sc r, applyContainerMutations container ms =
      { container with securityContext := sc, resources := r } := by
  induction ms generalizing container with
  | nil => exact ⟨container.securityContext, container.resources, rfl⟩
  | cons m ms ih =>
    cases h : m.type
    · obtain ⟨sc, r, e⟩ := ih { container with
        securityContext := if m.securityContext.isSome then m.securityContext
          else container.securityContext
        resources := m.resources.getD container.resources }
      exact ⟨sc, r, by simp [applyContainerMutations, h, e]⟩
    · obtain ⟨sc, r, e⟩ := ih container
      exact ⟨sc, r, by simp [applyContainerMutations, h, e]⟩

@[simp] theorem applyContainerMutations_name (c : Container) (ms : List ContainerMutation) :
    (applyContainerMutations c ms).name = c.name := by
  obtain ⟨_, _, e⟩ := applyContainerMutations_eq c ms; rw [e]

@[simp] theorem applyContainerMutations_command (c : Container) (ms : List ContainerMutation) :
    (applyContainerMutations c ms).command = c.command := by
  obtain ⟨_, _, e⟩ := applyContainerMutations_eq c ms; rw [e]

@[simp] theorem applyContainerMutations_ports (c : Container) (ms : List ContainerMutation) :
    (applyContainerMutations c ms).ports = c.ports := by
  obtain ⟨_, _, e⟩ := applyContainerMutations_eq c ms; rw [e]

@[simp] theorem applyContainerMutations_env (c : Container) (ms : List ContainerMutation) :
    (applyContainerMutations c ms).env = c.env := by
  obtain ⟨_, _, e⟩ := applyContainerMutations_eq c ms; rw [e]

@[simp] theorem applyContainerMutations_volumeMounts (c : Container)
    (ms : List ContainerMutation) :
    (applyContainerMutations c ms).volumeMounts = c.volumeMounts := by
  obtain ⟨_, _, e⟩ := applyContainerMutations_eq c ms; rw [e]

end VolSync
