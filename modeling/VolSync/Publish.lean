import VolSync.Progress
import VolSync.Readiness
import VolSync.Synchronize

set_option autoImplicit false

/-!
# What the destination publishes

`reconcileRsyncStunnelDestination` copies the endpoint of the server it built into the
mover's status: `destinationStatus.Address` and `.Port` are where the source will connect.
In `Mover` the server is an answer of the oracle. Here the oracle answers every server
call as the modelled constructor does on one world (`ServerAnswers`), so that an iteration
of `Synchronize` runs the transfer model.

On a world where no API call fails, what gets published is then fixed by what the other
controllers wrote. With stunnel it is the host the router gave the route named after the
data claim, never empty, and port 443. With the null transport it is the IP of the first
load-balancer record of that claim's service, else its hostname, and port 8080; a record
with neither gives the empty address, which the source then reads back as its address.

* `Rsync.newRsyncTransferServerWithStunnel_endpoint`,
  `Rsync.newRsyncTransferServerWithNull_endpoint`: the endpoint of a server a destination
  constructor returns, read off the store.
* `reconcileRsyncStunnelDestination_dest`, `synchronize_dest`: a destination iteration
  leaves the published address as it was, or sets it from a server call that returned
  no error.
* `destination_publishes`: **the two together**; `destination_publishes_empty_address`: a
  service whose record has neither an IP nor a hostname gets the empty address published.
-/

namespace VolSync

/-! ### What the endpoints read -/

/-- The host the router gave a stored route; empty when there is none. -/
def routeHost : Option Object → String
  | some o => match o.body with
    | .route _ host => host
    | _ => ""
  | none => ""

/-- The first load-balancer record of a stored service. -/
def storedIngress : Option Object → Option LoadBalancerIngress
  | some o => match o.body with
    | .service _ (ing :: _) => some ing
    | _ => none
  | none => none

theorem hasHost_iff (x : Option Object) : hasHost x = true ↔ routeHost x ≠ "" := by
  rcases x with _ | ⟨_, _, _, _, _, body⟩
  · simp [hasHost, routeHost]
  · cases body <;> simp [hasHost, routeHost]

theorem hasIngress_iff (x : Option Object) : hasIngress x = true ↔ (storedIngress x).isSome := by
  rcases x with _ | ⟨_, _, _, _, _, body⟩
  · simp [hasIngress, storedIngress]
  · cases body with
    | service _ ingress => cases ingress <;> simp [hasIngress, storedIngress]
    | _ => simp [hasIngress, storedIngress]

section NoFaults

variable {w : World} (hw : w.faults = [])
include hw

/-! ### The route -/

theorem Route.isHealthy_endpoint (e : Endpoint) (h : (Route.isHealthy e w).1.2.1 = true) :
    (Route.isHealthy e w).1.1 =
      { e with hostname := routeHost (w.store.get ⟨.route, e.namespacedName.ns, e.namespacedName.name⟩) } := by
  obtain ⟨hg, -, -⟩ := get_noFaults hw ⟨.route, e.namespacedName.ns, e.namespacedName.name⟩
  simp only [Route.isHealthy, bind_apply, hg] at h ⊢
  generalize w.store.get ⟨.route, e.namespacedName.ns, e.namespacedName.name⟩ = x at h ⊢
  rcases x with _ | ⟨_, _, _, _, _, body⟩
  · cases h
  · cases body
    case route _ host => by_cases hh : host = "" <;> simp_all [routeHost]
    all_goals cases h

/-- `NewEndpoint` keeps the host of the route: it creates the route, with no host, only
where there was none. -/
theorem Route.newEndpoint_routeHost (c : Constants) (nn : NamespacedName) (m : ObjectMetaMutation) :
    routeHost ((Route.newEndpoint c nn (some m) w).2.store.get ⟨.route, nn.ns, nn.name⟩) =
      routeHost (w.store.get ⟨.route, nn.ns, nn.name⟩) := by
  obtain ⟨-, -, hs⟩ := createOrKeep_noFaults hw (Route.routeObject c nn m)
  rw [Route.newEndpoint_eq, map_apply, hs]
  split_ifs with h'
  · rw [h'.2]; rfl
  · rfl

/-! ### The load balancer -/

theorem LoadBalancer.firstIngress_noFaults (e : Endpoint) :
    firstIngress e w =
      storedIngress (w.store.get ⟨.service, e.namespacedName.ns, e.namespacedName.name⟩) := by
  obtain ⟨hg, -, -⟩ := get_noFaults hw ⟨.service, e.namespacedName.ns, e.namespacedName.name⟩
  unfold firstIngress
  rw [hg]
  rcases w.store.get _ with _ | o <;> rfl

/-- `NewEndpoint` keeps the service's load-balancer records: a service it creates has none,
and one it updates keeps its status. -/
theorem LoadBalancer.newEndpoint_storedIngress (nn : NamespacedName) (m : ObjectMetaMutation)
    (backendPort ingressPort : Int) :
    storedIngress ((LoadBalancer.newEndpoint nn (some m) backendPort ingressPort w).2.store.get
      ⟨.service, nn.ns, nn.name⟩) = storedIngress (w.store.get ⟨.service, nn.ns, nn.name⟩) := by
  obtain ⟨hc, -, hcs⟩ := createOrUpdate_noFaults hw
    (LoadBalancer.serviceObject (LoadBalancer.newEndpointValue nn m backendPort ingressPort))
    (LoadBalancer.mutateService_key (LoadBalancer.newEndpointValue nn m backendPort ingressPort) m m.labels)
  simp only [LoadBalancer.newEndpointValue] at hc hcs
  simp only [LoadBalancer.newEndpoint, LoadBalancer.createService, bind_apply, hc, pure_apply,
    hcs, LoadBalancer.serviceObject_key, if_true]
  rcases hx : w.store.get _ with _ | o
  · rfl
  · dsimp only
    rw [LoadBalancer.mutateService_created (w.store.all_created o (Store.mem_of_get hx).1)]
    rfl

end NoFaults

/-! ### The endpoint of the server a constructor returns -/

namespace Rsync

theorem newRsyncTransferServer_endpoint {pvcList : PVCList} {t : Transport} {e : Endpoint}
    {options : TransferOptions} {w : World} {r : TransferServer}
    (h : (newRsyncTransferServer pvcList t e options w).1 = .ok r) : r.endpoint = e := by
  unfold newRsyncTransferServer at h
  generalize firstNamespace pvcList = fns at h
  generalize options.destinationPodMeta = dm at h
  rcases fns with err | ns <;> rcases dm with _ | m
  · cases h
  · cases h
  · cases h
  simp only [bind_apply] at h
  generalize TransferServer.createConfig ⟨pvcList, t, e, t.connectPort, options⟩ m ns w = x at h
  rcases x with ⟨_ | err, w₁⟩
  · simp only [bind_apply] at h
    generalize TransferServer.createSecret ⟨pvcList, t, e, t.connectPort, options⟩ m ns w₁ = x at h
    rcases x with ⟨_ | err, w₂⟩
    · simp only [bind_apply] at h
      generalize TransferServer.createRsyncServer ⟨pvcList, t, e, t.connectPort, options⟩ m ns w₂ = x at h
      rcases x with ⟨_ | err, w₃⟩
      · cases h; rfl
      · cases h
    · cases h
  · cases h

section NoFaults

variable {w : World} (hw : w.faults = []) {pvcList : PVCList} {opts : List TransferOption}
  {ns : String} {options : TransferOptions} {m : ObjectMetaMutation}
  (hsetup : serverSetup pvcList opts = .ok (ns, options, m)) {r : TransferServer}
include hw hsetup

/-- **The stunnel destination publishes the route's host.** When no call fails, a server
it returns has the host the router gave the route, which is never empty, and the route's
port. -/
theorem newRsyncTransferServerWithStunnel_endpoint (c : Constants) (cert : Except Error SSLCert)
    (h : (newRsyncTransferServerWithStunnel c pvcList opts cert w).1 = .ok r) :
    r.endpoint.ingressPort = Route.ingressPort ∧
      r.endpoint.hostname = routeHost (w.store.get ⟨.route, ns, m.name⟩) ∧
      r.endpoint.hostname ≠ "" := by
  obtain ⟨he, hef, -, -⟩ := Route.newEndpoint_noFaults hw c ⟨ns, m.name⟩ m
  have hhost := Route.newEndpoint_routeHost hw c ⟨ns, m.name⟩ m
  have hval := Route.isHealthy_endpoint hef ⟨"", Route.ingressPort, c.routeBackendPort, ⟨ns, m.name⟩, some m⟩
  obtain ⟨hh, -, -⟩ := Route.isHealthy_noFaults hef
    ⟨"", Route.ingressPort, c.routeBackendPort, ⟨ns, m.name⟩, some m⟩
  simp only [newRsyncTransferServerWithStunnel, hsetup, bind_apply, he] at h
  rcases hr : (Route.isHealthy _ _).1 with ⟨e', healthy, err⟩
  rw [hr] at h hh hval
  cases healthy
  · cases h
  obtain rfl := hval rfl
  simp only [Bool.not_true, Bool.false_eq_true, if_false, bind_apply] at h
  generalize Stunnel.newTransportServer c _ _ _ cert _ = x at h
  rcases x with ⟨⟨t, _ | err'⟩, w'⟩
  · rw [newRsyncTransferServer_endpoint h]
    dsimp only at hh hhost ⊢
    exact ⟨rfl, hhost, (hasHost_iff _).mp hh.symm⟩
  · cases h

/-- **The null destination publishes the load balancer's record.** When no call fails, a
server it returns has the IP of the first record the cloud wrote on the service, else its
hostname, and the load balancer's port. -/
theorem newRsyncTransferServerWithNull_endpoint
    (h : (newRsyncTransferServerWithNull pvcList opts w).1 = .ok r) :
    r.endpoint.ingressPort = nullTransportIngressPort ∧
      ∃ ing, storedIngress (w.store.get ⟨.service, ns, m.name⟩) = some ing ∧
        r.endpoint.hostname = LoadBalancer.ingressHostname "" ing := by
  obtain ⟨he, hef, -⟩ := LoadBalancer.newEndpoint_noFaults hw ⟨ns, m.name⟩ m
    nullTransportBackendPort nullTransportIngressPort
  have hing := LoadBalancer.newEndpoint_storedIngress hw ⟨ns, m.name⟩ m
    nullTransportBackendPort nullTransportIngressPort
  have hres := LoadBalancer.isHealthy_result
    (LoadBalancer.newEndpointValue ⟨ns, m.name⟩ m nullTransportBackendPort nullTransportIngressPort)
    (LoadBalancer.newEndpoint ⟨ns, m.name⟩ (some m) nullTransportBackendPort nullTransportIngressPort w).2
  simp only [newRsyncTransferServerWithNull, hsetup, bind_apply, he] at h
  rcases hr : (LoadBalancer.isHealthy _ _).1 with ⟨e', healthy, err⟩
  rw [hr, LoadBalancer.firstIngress_noFaults hef] at hres
  rw [hr] at h
  dsimp only [LoadBalancer.newEndpointValue] at hres hing
  rw [hing] at hres
  cases healthy
  · cases h
  simp only [Bool.not_true, Bool.false_eq_true, if_false] at h
  rw [newRsyncTransferServer_endpoint h]
  rcases hs : storedIngress (w.store.get ⟨.service, ns, m.name⟩) with _ | ing
  · rw [hs] at hres; cases hres
  · rw [hs] at hres
    cases hres
    exact ⟨rfl, ing, rfl, rfl⟩

end NoFaults

end Rsync

end VolSync

namespace VolSync

namespace RsyncWithStunnel

section Destination

variable (o : Oracle) (lsn : String → String → String)

theorem pollServer_dest (m : Mover) (server : Response) (log : List Call) :
    (pollServer o m server log).1.1 = m ∨
      (pollServer o m server log).1.1 =
        { m with destAddress := some server.hostname, destPort := some server.ingressPort } := by
  rcases hA : (o .serverIsHealthy).err.any Error.isAPIStatus
  · rcases hok : (o .serverIsHealthy).ok
    · rcases hc : (o .serverCompleted).err with _ | e
      · rcases hcok : (o .serverCompleted).ok
        · simp [pollServer, hA, hok, hc, hcok]
        · rcases hr : (o (.serverMarkForCleanup cleanupLabelKey m.ownerUID)).err <;>
            simp [pollServer, hA, hok, hc, hcok, hr]
      · simp [pollServer, hA, hok, hc]
    · simp [pollServer, hA, hok]
  · simp [pollServer, hA]

theorem reconcileRsyncStunnelDestination_dest (m : Mover) (log : List Call) :
    (reconcileRsyncStunnelDestination o lsn m log).1.1 = m ∨
      ∃ name call, m.mainPVCName = some name ∧
        serverCall m (newSingletonPVC lsn m.ownerNs name)
          (destinationTransferOptions m ⟨m.ownerNs, name⟩) = some call ∧
        (o call).err = none ∧
        (reconcileRsyncStunnelDestination o lsn m log).1.1 =
          { m with destAddress := some (o call).hostname, destPort := some (o call).ingressPort } := by
  unfold reconcileRsyncStunnelDestination
  rcases hn : m.mainPVCName with _ | name
  · exact .inl rfl
  simp only [sync_bind_apply, ask_apply]
  rcases hg : (o (.getPVC ⟨m.ownerNs, name⟩)).err with _ | e
  · rcases hs : serverCall m (newSingletonPVC lsn m.ownerNs name)
        (destinationTransferOptions m ⟨m.ownerNs, name⟩) with _ | call
    · exact .inl rfl
    rcases hse : (o call).err with _ | e'
    · rcases pollServer_dest o m (o call) (log ++ [.getPVC ⟨m.ownerNs, name⟩] ++ [call]) with h | h
      · exact .inl (by simpa [hse] using h)
      · exact .inr ⟨name, call, rfl, hs, hse, by simpa [hse, hn] using h⟩
    · exact .inl (by simp [hse])
  · exact .inl rfl

theorem ensureDestinationPVC_mover (m : Mover) (log : List Call) :
    ∃ n, (ensureDestinationPVC o m log).1.1 = { m with mainPVCName := n } := by
  unfold ensureDestinationPVC
  rcases m.mainPVCName with _ | name
  · exact ⟨_, rfl⟩
  · exact ⟨m.mainPVCName, rfl⟩

theorem synchronizeDestination_mover (m : Mover) (p : NamespacedName) (log : List Call) :
    (synchronizeDestination o lsn m p log).1.1 = (reconcileRsyncStunnelDestination o lsn m log).1.1 := by
  simp only [synchronizeDestination, sync_bind_apply]
  rcases (reconcileRsyncStunnelDestination o lsn m log).1 with ⟨m', r, _ | e⟩
  · dsimp only
    split
    · rfl
    · simp only [sync_bind_apply, ask_apply]
      rcases (o (.ensureImage p)).image with _ | image <;> rcases (o (.ensureImage p)).err <;> rfl
  · rfl

/-- A destination iteration leaves the published address and port as they were, or sets
them to the endpoint a server call answered with no error, the call being the one the
mover's transport selects over its data claim. -/
theorem synchronize_dest (m : Mover) (hdst : m.isSource = false) (log : List Call) :
    ((synchronize o lsn m log).1.1.destAddress = m.destAddress ∧
      (synchronize o lsn m log).1.1.destPort = m.destPort) ∨
    ∃ name call, (synchronize o lsn m log).1.1.mainPVCName = some name ∧
      serverCall m (newSingletonPVC lsn m.ownerNs name)
        (destinationTransferOptions m ⟨m.ownerNs, name⟩) = some call ∧
      (o call).err = none ∧
      (synchronize o lsn m log).1.1.destAddress = some (o call).hostname ∧
      (synchronize o lsn m log).1.1.destPort = some (o call).ingressPort := by
  simp only [synchronize, hdst, Bool.false_eq_true, if_false, sync_bind_apply]
  obtain ⟨n, hm₁⟩ := ensureDestinationPVC_mover o m log
  generalize ensureDestinationPVC o m log = E at hm₁ ⊢
  obtain ⟨⟨m₁, dataPVC, err⟩, log₁⟩ := E
  dsimp only at hm₁ ⊢
  subst hm₁
  rcases dataPVC with _ | p
  · exact .inl ⟨rfl, rfl⟩
  rcases err with _ | e
  · rw [synchronizeDestination_mover]
    rcases reconcileRsyncStunnelDestination_dest o lsn { m with mainPVCName := n } log₁ with
      h | ⟨name, call, hn, hs, hse, h⟩
    · exact .inl (by rw [h]; exact ⟨rfl, rfl⟩)
    · exact .inr ⟨name, call, by rw [h]; exact hn, hs, hse, by rw [h], by rw [h]⟩
  · exact .inl ⟨rfl, rfl⟩

end Destination

/-! ### The mover over the transfer model -/

/-- What a server call's answer carries of the constructor's result: the error, or no error
and the endpoint of the server built. -/
def Answers (r : Response) : Except Error Rsync.TransferServer → Prop
  | .error err => r.err = some err
  | .ok s => r.err = none ∧ r.hostname = s.endpoint.hostname ∧ r.ingressPort = s.endpoint.ingressPort

/-- The oracle answers every server call as the modelled constructor does on the world `w`,
with the certificate `cert` for stunnel. -/
def ServerAnswers (o : Oracle) (c : Constants) (cert : Except Error SSLCert) (w : World) : Prop :=
  ∀ pvcList opts,
    Answers (o (.newRsyncTransferServerWithStunnel pvcList opts))
      (Rsync.newRsyncTransferServerWithStunnel c pvcList opts cert w).1 ∧
    Answers (o (.newRsyncTransferServerWithNull pvcList opts))
      (Rsync.newRsyncTransferServerWithNull pvcList opts w).1

/-- The answer the constructor's result gives. -/
def serverResponse : Except Error Rsync.TransferServer → Response
  | .error err => ⟨none, false, none, "", 0, some err⟩
  | .ok s => ⟨none, false, none, s.endpoint.hostname, s.endpoint.ingressPort, none⟩

theorem answers_serverResponse (res : Except Error Rsync.TransferServer) :
    Answers (serverResponse res) res := by
  cases res <;> simp [Answers, serverResponse]

theorem Answers.ok {r : Response} {res : Except Error Rsync.TransferServer} (h : Answers r res)
    (he : r.err = none) : ∃ s, res = .ok s ∧ r.hostname = s.endpoint.hostname ∧
      r.ingressPort = s.endpoint.ingressPort := by
  cases res with
  | error err => simp [Answers, he] at h
  | ok s => exact ⟨s, rfl, h.2⟩

/-- **What the destination publishes.** Let the oracle answer the server calls as the
modelled constructors do on a world where no API call fails. A destination iteration of
`Synchronize` leaves the published address and port as they were, or publishes: with
stunnel, the host the router gave the route named after the data claim, which is never
empty, and port 443; with the null transport, the IP or else the hostname of the first
load-balancer record of that claim's service, and port 8080. -/
theorem destination_publishes (o : Oracle) (lsn : String → String → String) (c : Constants)
    (cert : Except Error SSLCert) (w : World) (hw : w.faults = []) (ho : ServerAnswers o c cert w)
    (m : Mover) (hdst : m.isSource = false) (log : List Call) :
    ((synchronize o lsn m log).1.1.destAddress = m.destAddress ∧
      (synchronize o lsn m log).1.1.destPort = m.destPort) ∨
    ∃ name, (synchronize o lsn m log).1.1.mainPVCName = some name ∧
      ((m.transport = rsyncWithStunnelAnnotation ∧
          (synchronize o lsn m log).1.1.destAddress =
            some (routeHost (w.store.get ⟨.route, m.ownerNs, name⟩)) ∧
          routeHost (w.store.get ⟨.route, m.ownerNs, name⟩) ≠ "" ∧
          (synchronize o lsn m log).1.1.destPort = some Route.ingressPort) ∨
        (m.transport = rsyncWithNullAnnotation ∧
          ∃ ing, storedIngress (w.store.get ⟨.service, m.ownerNs, name⟩) = some ing ∧
            (synchronize o lsn m log).1.1.destAddress = some (LoadBalancer.ingressHostname "" ing) ∧
            (synchronize o lsn m log).1.1.destPort = some Rsync.nullTransportIngressPort)) := by
  rcases synchronize_dest o lsn m hdst log with h | ⟨name, call, hn, hs, hse, ha, hp⟩
  · exact .inl h
  refine .inr ⟨name, hn, ?_⟩
  have hsetup : Rsync.serverSetup (newSingletonPVC lsn m.ownerNs name)
      (destinationTransferOptions m ⟨m.ownerNs, name⟩) =
        .ok (m.ownerNs, _, ⟨metaObject m ⟨m.ownerNs, name⟩, .merge⟩) := rfl
  unfold serverCall at hs
  split_ifs at hs with hst hnull <;> cases hs
  · obtain ⟨s, hres, hh, hi⟩ := (ho _ _).1.ok hse
    obtain ⟨hport, hhost, hne⟩ := Rsync.newRsyncTransferServerWithStunnel_endpoint hw hsetup c cert hres
    exact .inl ⟨hst, by rw [ha, hh, hhost]; rfl, hhost ▸ hne, by rw [hp, hi, hport]⟩
  · obtain ⟨s, hres, hh, hi⟩ := (ho _ _).2.ok hse
    obtain ⟨hport, ing, hing, hhost⟩ := Rsync.newRsyncTransferServerWithNull_endpoint hw hsetup hres
    exact .inr ⟨hnull, ing, hing, by rw [ha, hh, hhost], by rw [hp, hi, hport]⟩

/-- A null-transport destination over the claim `data`, whose service already has a
load-balancer record with neither an IP nor a hostname. On this world the destination can
publish no address but the empty one, and it does. -/
theorem destination_publishes_empty_address :
    let m : Mover := ⟨"backup", "dst", "uid-1", "volsync.backube/v1alpha1",
      "ReplicationDestination", false, some "data", none, none, none, none, rsyncWithNullAnnotation⟩
    let svc : Object := ⟨"data", "dst", [], [], true, .service ⟨[], [], "LoadBalancer"⟩ [⟨"", ""⟩]⟩
    let w : World := ⟨⟨[svc], by decide, by decide, 0⟩, [], []⟩
    let c : Constants := ⟨"stunnel-config", "stunnel-credentials", 8443⟩
    let o : Oracle := fun call => match call with
      | .newRsyncTransferServerWithStunnel l opts =>
        serverResponse (Rsync.newRsyncTransferServerWithStunnel c l opts (.error (.msg "")) w).1
      | .newRsyncTransferServerWithNull l opts =>
        serverResponse (Rsync.newRsyncTransferServerWithNull l opts w).1
      | .serverIsHealthy => ⟨none, true, none, "", 0, none⟩
      | _ => ⟨none, false, none, "", 0, none⟩
    ((synchronize o (fun _ name => name) m []).1.1.destAddress = none ∨
      (synchronize o (fun _ name => name) m []).1.1.destAddress = some "") ∧
    (synchronize o (fun _ name => name) m []).1.1.destAddress = some "" := by
  intro m svc w c o
  have hget : ∀ k, storedIngress (w.store.get k) = none ∨ storedIngress (w.store.get k) = some ⟨"", ""⟩ := by
    intro k
    by_cases hk : svc.key = k <;> simp [Store.get, w, hk, storedIngress]
  refine ⟨?_, by decide⟩
  rcases destination_publishes o (fun _ name => name) c (.error (.msg "")) w rfl
    (fun _ _ => ⟨answers_serverResponse _, answers_serverResponse _⟩) m rfl [] with
    ⟨ha, -⟩ | ⟨name, -, ⟨hst, -⟩ | ⟨-, ing, hing, ha, -⟩⟩
  · exact .inl ha
  · exact absurd hst (by decide)
  · rcases hget ⟨.service, m.ownerNs, name⟩ with h | h <;> rw [h] at hing <;> cases hing
    exact .inr ha

end RsyncWithStunnel

end VolSync
