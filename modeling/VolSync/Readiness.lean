import VolSync.Rsync.Server

set_option autoImplicit false

/-!
# Readiness

What the readiness checks read, over every state they may read.

A load balancer endpoint (`IsHealthy`, `loadbalancer.go`) is ready when the `Get` of its
service succeeds and the service's status has an ingress record. The hostname is taken from
the first record: its IP when that is set, else its hostname when that is set, else the
hostname the endpoint had. Over any sequence of calls, against any service states and with
failed `Get`s among them, a hostname once set is never emptied; a first record with neither
field set makes the endpoint ready with the hostname it had, which may be empty.

The rsync server's pod is read by `isPodHealthy` and `isPodCompleted` (`part_001`), which
both expect exactly two container statuses. The pod has the rsync container and the
transport's sidecars: one over stunnel, none over the null transport.

* `LoadBalancer.isHealthy_result`: what one `IsHealthy` call returns.
* `LoadBalancer.isHealthyRun_hostname_sticks`: along a run of calls, a non-empty hostname
  stays non-empty.
* `LoadBalancer.isHealthy_readiness_hostname`: **readiness and the hostname**, per call and
  over runs.
* `completedStatuses_iff`: `IsPodCompleted`'s loop is true when the statuses before the
  named container's, and that one, are terminated.
* `Rsync.TransferServer.serverPod_status_readers`: **what the readers make of the server
  pod**: ready and completed only with exactly one sidecar, and completion reads the
  sidecar's status when it comes first.
-/

namespace VolSync

namespace LoadBalancer

/-! ## The load balancer endpoint -/

/-- The first ingress record of the service `IsHealthy` reads, when its `Get` succeeds and
the service's status has one. -/
def firstIngress (e : Endpoint) (w : World) : Option LoadBalancerIngress :=
  match (get ⟨.service, e.namespacedName.ns, e.namespacedName.name⟩ w).1 with
  | .ok svc =>
    match svc.body with
    | .service _ (ing :: _) => some ing
    | _ => none
  | .error _ => none

/-- The hostname `IsHealthy` takes from a record: the IP when it is set, else the record's
hostname when that is set, else the one the endpoint had. -/
def ingressHostname (prev : String) (ing : LoadBalancerIngress) : String :=
  if ing.ip ≠ "" then ing.ip else if ing.hostname ≠ "" then ing.hostname else prev

theorem isHealthy_result (e : Endpoint) (w : World) :
    ((isHealthy e w).1.1, (isHealthy e w).1.2.1) =
      match firstIngress e w with
      | none => (e, false)
      | some ing => ({ e with hostname := ingressHostname e.hostname ing }, true) := by
  unfold isHealthy firstIngress
  simp only [bind_apply]
  rcases (get ⟨.service, e.namespacedName.ns, e.namespacedName.name⟩ w).1 with err | svc
  · rfl
  · rcases svc with ⟨_, _, _, _, _, body⟩
    cases body
    case service _ ingress => cases ingress <;> rfl
    all_goals rfl

theorem ingressHostname_ne_empty {prev : String} (h : prev ≠ "") (ing : LoadBalancerIngress) :
    ingressHostname prev ing ≠ "" := by
  unfold ingressHostname; split_ifs <;> assumption

theorem isHealthy_hostname_ne_empty (e : Endpoint) (w : World) (h : e.hostname ≠ "") :
    (isHealthy e w).1.1.hostname ≠ "" := by
  have hr := congrArg (·.1.hostname) (isHealthy_result e w)
  simp only at hr
  rw [hr]
  cases firstIngress e w
  · exact h
  · exact ingressHostname_ne_empty h _

/-- Successive `IsHealthy` calls on one endpoint, each against its own world (the service as
the API server then holds it, and the faults): the endpoint after each call, and whether the
call reported it ready. -/
def isHealthyRun (e : Endpoint) : List World → List (Endpoint × Bool)
  | [] => []
  | w :: ws =>
    ((isHealthy e w).1.1, (isHealthy e w).1.2.1) :: isHealthyRun (isHealthy e w).1.1 ws

theorem isHealthyRun_hostname_ne_empty :
    ∀ (e : Endpoint) (ws : List World), e.hostname ≠ "" →
      ∀ r ∈ isHealthyRun e ws, r.1.hostname ≠ ""
  | _, [], _, _, hr => nomatch hr
  | e, w :: ws, h, r, hr => by
    have h₁ := isHealthy_hostname_ne_empty e w h
    rcases List.mem_cons.mp hr with rfl | hr
    · exact h₁
    · exact isHealthyRun_hostname_ne_empty _ ws h₁ r hr

/-- Along a run, a hostname once non-empty stays non-empty at every later call. -/
theorem isHealthyRun_hostname_sticks (e : Endpoint) (ws : List World) :
    ∀ (i j : Nat) (a b : Endpoint × Bool), i ≤ j →
      (isHealthyRun e ws)[i]? = some a → (isHealthyRun e ws)[j]? = some b →
      a.1.hostname ≠ "" → b.1.hostname ≠ "" := by
  induction ws generalizing e with
  | nil => intro _ _ _ _ _ ha; simp [isHealthyRun] at ha
  | cons w ws ih =>
    rintro (_ | i) (_ | j) a b hij ha hb h <;>
      simp only [isHealthyRun, List.getElem?_cons_zero, List.getElem?_cons_succ,
        Option.some.injEq] at ha hb
    · exact hb ▸ ha ▸ h
    · subst ha
      exact isHealthyRun_hostname_ne_empty _ ws h b (List.getElem?_mem hb)
    · omega
    · exact ih _ i j a b (by omega) ha hb h

/-- The hostnames a call may leave: the one the endpoint had when there is no record; the
record's hostname or IP when only one of them is set, either of them when both are, and the
one the endpoint had when neither is. -/
def AllowedHostname (prev : String) : Option LoadBalancerIngress → String → Prop
  | none, h => h = prev
  | some ing, h =>
    if ing.hostname = "" then (if ing.ip = "" then h = prev else h = ing.ip)
    else if ing.ip = "" then h = ing.hostname else h = ing.hostname ∨ h = ing.ip

theorem ingressHostname_allowed (prev : String) (ing : LoadBalancerIngress) :
    AllowedHostname prev (some ing) (ingressHostname prev ing) := by
  unfold AllowedHostname ingressHostname
  split_ifs <;> simp_all

/-- **Readiness and the hostname.** Each call, on any endpoint and against any world,
reports ready exactly when the service it reads has a first ingress record, changes no
field but the hostname, and leaves a hostname the record allows. Along any run of calls, a
hostname once non-empty is non-empty at every later call. -/
theorem isHealthy_readiness_hostname :
    (∀ (e : Endpoint) (w : World),
      (isHealthy e w).1.2.1 = (firstIngress e w).isSome ∧
      (isHealthy e w).1.1 = { e with hostname := (isHealthy e w).1.1.hostname } ∧
      AllowedHostname e.hostname (firstIngress e w) (isHealthy e w).1.1.hostname) ∧
    (∀ (e : Endpoint) (ws : List World) (i j : Nat) (a b : Endpoint × Bool), i ≤ j →
      (isHealthyRun e ws)[i]? = some a → (isHealthyRun e ws)[j]? = some b →
      a.1.hostname ≠ "" → b.1.hostname ≠ "") := by
  refine ⟨fun e w => ?_, isHealthyRun_hostname_sticks⟩
  have hr := isHealthy_result e w
  generalize (isHealthy e w).1 = r at hr ⊢
  obtain ⟨e', ready, err⟩ := r
  cases hf : firstIngress e w with
  | none =>
    simp only [hf, Prod.mk.injEq] at hr
    obtain ⟨rfl, rfl⟩ := hr
    exact ⟨rfl, rfl, rfl⟩
  | some ing =>
    simp only [hf, Prod.mk.injEq] at hr
    obtain ⟨rfl, rfl⟩ := hr
    exact ⟨rfl, rfl, ingressHostname_allowed _ _⟩

/-- A first ingress record with neither field set: the endpoint is ready, with an empty
hostname. -/
theorem isHealthy_ready_without_hostname :
    let svc : Object := ⟨"volsync-rsync-dst", "dst", [], [], true,
      .service ⟨[⟨"volsync-rsync-dst", 8080, 2222⟩], [], "LoadBalancer"⟩ [⟨"", ""⟩]⟩
    let e : Endpoint := ⟨"", 8080, 2222, ⟨"dst", "volsync-rsync-dst"⟩, none⟩
    (isHealthy e ⟨⟨[svc], by decide, by decide, 0⟩, [], []⟩).1.2.1 = true ∧
      (isHealthy e ⟨⟨[svc], by decide, by decide, 0⟩, [], []⟩).1.1.hostname = "" :=
  ⟨rfl, rfl⟩

end LoadBalancer

/-! ## The server pod's readers -/

/-- `areContainersReady` reports ready exactly on two statuses, all ready. -/
theorem areContainersReady_fst_iff (pod : Object) :
    (areContainersReady pod).1 = true ↔
      pod.containerStatuses.length = 2 ∧ ∀ s ∈ pod.containerStatuses, s.ready = true := by
  unfold areContainersReady
  split_ifs with hlen
  · simp [hlen]
  · cases hf : pod.containerStatuses.find? (!·.ready) with
    | none => exact iff_of_true rfl ⟨not_not.mp hlen, by simpa using List.find?_eq_none.mp hf⟩
    | some cs =>
      have hready : cs.ready = false := by simpa using List.find?_some hf
      simp only [Bool.false_eq_true, false_iff, not_and, not_forall]
      exact fun _ => ⟨cs, List.mem_of_find?_eq_some hf, by simp [hready]⟩

theorem areContainersReady_error (pod : Object) :
    (areContainersReady pod).2.isNone = (areContainersReady pod).1 := by
  unfold areContainersReady
  split_ifs
  · rfl
  · split <;> rfl

/-- The loop of `IsPodCompleted` is true when the statuses before the first one of the named
container, and that one, are terminated. -/
theorem completedStatuses_iff {n : String} (hn : n ≠ "") :
    ∀ l : List ContainerStatus, completedStatuses n l = true ↔
      ∀ s ∈ l.takeWhile (·.name ≠ n) ++ (l.find? (·.name = n)).toList, s.terminated = true
  | [] => by simp [completedStatuses]
  | cs :: rest => by
    by_cases h : cs.name = n
    · simp [completedStatuses, h, hn]
    · have ih := completedStatuses_iff hn rest
      cases ht : cs.terminated <;> simp_all [completedStatuses, List.takeWhile_cons,
        List.find?_cons]

theorem isPodHealthy_of_get {ns name : String} {w : World} {pod : Object}
    (h : (get ⟨.pod, ns, name⟩ w).1 = .ok pod) :
    (isPodHealthy ns name w).1 = areContainersReady pod := by
  simp [isPodHealthy, bind_apply, h]

theorem isPodCompleted_of_get {ns name : String} (n : String) {w : World} {pod : Object}
    (h : (get ⟨.pod, ns, name⟩ w).1 = .ok pod) :
    (isPodCompleted ns name n w).1.1 =
      (pod.containerStatuses.length == 2 && completedStatuses n pod.containerStatuses) := by
  simp only [isPodCompleted, bind_apply, h]
  by_cases hlen : pod.containerStatuses.length = 2 <;> simp [hlen]

namespace Rsync.TransferServer

theorem serverPodSpec_names (r : TransferServer) (ns : String) :
    (r.serverPodSpec ns).containers.map Container.name =
      rsyncContainer :: r.transportServer.containers.map Container.name := by
  simp [serverPodSpec, getPodTemplate, Function.comp_def]

/-- **What the readers make of the server pod.** Let the `Get` of `rsync-server` in the
first namespace return the pod `createRsyncServer` built, with one status per container in
any order. `IsHealthy` reports ready, and then with no error, exactly when the transport
has one sidecar and every status is ready: over the null transport, never. `IsPodCompleted`
on the rsync container reports completed exactly when the transport has one sidecar and the
statuses up to and including the rsync container's are terminated: the sidecar's counts
when it comes first. -/
theorem serverPod_status_readers (r : TransferServer) (ns : String) (w : World) (pod : Object)
    (statuses : List ContainerStatus) (hns : firstNamespace r.pvcList = .ok ns)
    (hget : (get ⟨.pod, ns, "rsync-server"⟩ w).1 = .ok pod)
    (hbody : pod.body = .pod (r.serverPodSpec ns) statuses)
    (hnames : (statuses.map ContainerStatus.name).Perm
      ((r.serverPodSpec ns).containers.map Container.name)) :
    ((r.isHealthy w).1.1 = true ↔
      r.transportServer.containers.length = 1 ∧ ∀ s ∈ statuses, s.ready = true) ∧
    (r.isHealthy w).1.2.isNone = (r.isHealthy w).1.1 ∧
    ((isPodCompleted ns "rsync-server" rsyncContainer w).1.1 = true ↔
      r.transportServer.containers.length = 1 ∧
      ∀ s ∈ statuses.takeWhile (·.name ≠ rsyncContainer) ++
        (statuses.find? (·.name = rsyncContainer)).toList, s.terminated = true) := by
  have hst : pod.containerStatuses = statuses := by simp [Object.containerStatuses, hbody]
  have hlen : statuses.length = 2 ↔ r.transportServer.containers.length = 1 := by
    have := hnames.length_eq
    simp only [List.length_map, serverPodSpec_names, List.length_cons] at this
    omega
  have hhealthy : (r.isHealthy w).1 = areContainersReady pod := by
    simp only [isHealthy, hns]
    exact isPodHealthy_of_get hget
  rw [hhealthy, areContainersReady_fst_iff, areContainersReady_error, hst, hlen,
    isPodCompleted_of_get _ hget, hst, Bool.and_eq_true, beq_iff_eq, hlen,
    completedStatuses_iff (by decide)]
  exact ⟨Iff.rfl, rfl, Iff.rfl⟩

/-- A stunnel server over one claim whose pod reports the sidecar running before the
terminated rsync container. -/
theorem serverPod_status_readers_stunnel :
    let c : Constants := ⟨"stunnel-config", "stunnel-secret", 6443⟩
    let t : Transport := ⟨"dst", 2222, 8080, Stunnel.stunnelContainers c 2222,
      Stunnel.stunnelVolumes c, Stunnel.transportTypeStunnel, "localhost"⟩
    let r : TransferServer := ⟨[⟨"dst", "data", "data"⟩], t,
      ⟨"rsync.example", 443, 6443, ⟨"dst", "rsync"⟩, none⟩, 8080, TransferOptions.empty⟩
    let statuses : List ContainerStatus := [⟨"stunnel", true, false⟩, ⟨"rsync", true, true⟩]
    let pod : Object := ⟨"rsync-server", "dst", [], [], true, .pod (r.serverPodSpec "dst") statuses⟩
    let w : World := ⟨⟨[pod], by decide, by decide, 0⟩, [], []⟩
    firstNamespace r.pvcList = .ok "dst" ∧ (get ⟨.pod, "dst", "rsync-server"⟩ w).1 = .ok pod ∧
    pod.body = .pod (r.serverPodSpec "dst") statuses ∧
    (statuses.map ContainerStatus.name).Perm ((r.serverPodSpec "dst").containers.map Container.name) ∧
    ((r.isHealthy w).1.1 = true ↔
      r.transportServer.containers.length = 1 ∧ ∀ s ∈ statuses, s.ready = true) ∧
    (r.isHealthy w).1.2.isNone = (r.isHealthy w).1.1 ∧
    ((isPodCompleted "dst" "rsync-server" rsyncContainer w).1.1 = true ↔
      r.transportServer.containers.length = 1 ∧
      ∀ s ∈ statuses.takeWhile (·.name ≠ rsyncContainer) ++
        (statuses.find? (·.name = rsyncContainer)).toList, s.terminated = true) :=
  have hns := rfl
  have hget := rfl
  have hbody := rfl
  have hnames := by decide
  ⟨hns, hget, hbody, hnames, serverPod_status_readers _ _ _ _ _ hns hget hbody hnames⟩

end Rsync.TransferServer

end VolSync
