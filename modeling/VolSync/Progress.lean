import VolSync.Sharing

set_option autoImplicit false

/-!
# When a destination gets through

`Converge` says what a destination constructor leaves once a call returns no error; this
module says when that happens. When no call fails, every object the constructor writes is
in the store afterwards (`createOrKeep` takes "already exists" for success). What decides is
what other controllers write: the ingress the cloud gives the load balancer's service, the
host the router gives the route. The stunnel destination also needs its certificate, and
the namespace's TLS secret under the transport's name, if one is there, must hold both
keys. `createOrKeep` never repairs a secret it finds, so a secret that lacks a key stops the
stunnel destination for good.

* `get_noFaults`, `create_noFaults`, `update_noFaults`, `createOrKeep_noFaults`,
  `createOrUpdate_noFaults`: what a call in which nothing fails returns, and what the store
  holds under each key afterwards.
* `newRsyncTransferServerWithNull_ok_iff`: with no failed call, the null destination
  returns no error exactly when its service has an ingress.
* `newRsyncTransferServerWithStunnel_ok_iff`: the stunnel destination returns no error
  exactly when its route has a host, the certificate was made, and the stored TLS secret,
  if there is one, has both keys.
* `destination_gets_through`: **both**.
* `stunnel_destination_blocked`: **a stored TLS secret without its keys blocks the stunnel
  destination** in every later state of every run of transfer constructors.
-/

namespace VolSync

@[simp] theorem Object.key_setCreated (o : Object) (b : Bool) :
    { o with created := b }.key = o.key := rfl

/-! ### The store under one key -/

namespace Store

theorem get_eq_none_iff {s : Store} {k : Key} :
    s.get k = none ↔ k ∉ s.objects.map Object.key := by
  simp [Store.get, List.find?_eq_none]

theorem mem_of_get {s : Store} {k : Key} {o : Object} (h : s.get k = some o) :
    o ∈ s.objects ∧ o.key = k :=
  ⟨List.mem_of_find?_eq_some h, by simpa using List.find?_some h⟩

theorem setCreated_of_get {s : Store} {k : Key} {o : Object} (h : s.get k = some o) :
    { o with created := true } = o := by
  have := s.all_created o (mem_of_get h).1
  cases o
  simp_all

theorem get_create {o : Object} {s s' : Store} {u : Unit} (h : Store.create o s = .ok (u, s'))
    (k : Key) : s'.get k = if o.key = k then some { o with created := true } else s.get k := by
  unfold Store.create at h
  split at h
  · cases h
  · cases h
    by_cases hk : o.key = k <;> simp [Store.get, List.find?_cons, hk]

theorem get_update {o : Object} {s s' : Store} {u : Unit} (h : Store.update o s = .ok (u, s'))
    (k : Key) : s'.get k = if o.key = k then some { o with created := true } else s.get k := by
  unfold Store.update at h
  split at h
  · rename_i hk
    have hs' : s'.objects =
        s.objects.map fun x => if x.key = o.key then { o with created := true } else x := by
      cases h; rfl
    have hmap : s'.get k = (s.get k).map
        fun x => if x.key = o.key then { o with created := true } else x := by
      simp only [Store.get, hs', List.find?_map, Function.comp_def, key_replace]
    rw [hmap]
    rcases hx : s.get k with _ | x
    · have hok : o.key ≠ k := fun h => get_eq_none_iff.mp (h ▸ hx) hk
      simp [hok]
    · have hxk := (mem_of_get hx).2
      by_cases hok : o.key = k
      · simp [hok, hxk]
      · simp [hok, hxk, Ne.symm hok]
  · cases h

end Store

/-! ### Calls in which nothing fails -/

theorem createOrKeep_faults (o : Object) (w : World) :
    (createOrKeep o w).2.faults = w.faults.tail := by
  simp only [createOrKeep, bind_apply]
  rcases (create o w).1 with _ | e <;> simp [create, apiCall_faults]

section NoFaults

variable {w : World} (hw : w.faults = [])
include hw

theorem get_noFaults (k : Key) :
    (get k w).1 = (match w.store.get k with
      | some o => .ok o
      | none => .error (.status .notFound)) ∧
    (get k w).2.faults = [] ∧ (get k w).2.store = w.store := by
  unfold get apiCall
  rw [World.nextFault_of_faults_nil hw]
  rcases hg : w.store.get k with _ | o <;> simp [hg, hw]

/-- A `Create` in which nothing fails: "already exists" on a taken key, otherwise the
object is under its key. -/
theorem create_noFaults (o : Object) :
    (create o w).2.faults = [] ∧
    if o.key ∈ w.store.objects.map Object.key then
      (create o w).1 = some (.status .alreadyExists) ∧ (create o w).2.store = w.store
    else (create o w).1 = none ∧
      ∀ k, (create o w).2.store.get k =
        if o.key = k then some { o with created := true } else w.store.get k := by
  simp only [create, map_apply]
  unfold apiCall
  rw [World.nextFault_of_faults_nil hw]
  by_cases hk : o.key ∈ w.store.objects.map Object.key
  · have hc : Store.create o w.store = .error .alreadyExists := dif_pos hk
    simp [hc, hk, hw, errorOf]
  · obtain ⟨s', hc⟩ : ∃ s', Store.create o w.store = .ok ((), s') := ⟨_, dif_neg hk⟩
    simp only [hc, hw, List.tail_nil, hk, if_false, errorOf, true_and]
    exact Store.get_create hc

theorem update_noFaults {o : Object} (hk : o.key ∈ w.store.objects.map Object.key) :
    (update o w).1 = none ∧ (update o w).2.faults = [] ∧
    ∀ k, (update o w).2.store.get k =
      if o.key = k then some { o with created := true } else w.store.get k := by
  simp only [update, map_apply]
  unfold apiCall
  rw [World.nextFault_of_faults_nil hw]
  obtain ⟨s', hu⟩ : ∃ s', Store.update o w.store = .ok ((), s') := ⟨_, if_pos hk⟩
  simp only [hu, hw, List.tail_nil, errorOf, true_and]
  exact Store.get_update hu

/-- A `createOrKeep` in which nothing fails returns no error and leaves the object under its
key unless the key was taken. -/
theorem createOrKeep_noFaults (o : Object) :
    (createOrKeep o w).1 = none ∧ (createOrKeep o w).2.faults = [] ∧
    ∀ k, (createOrKeep o w).2.store.get k =
      if o.key = k ∧ w.store.get k = none then some { o with created := true }
      else w.store.get k := by
  obtain ⟨hf, hc⟩ := create_noFaults hw o
  simp only [createOrKeep, bind_apply]
  split_ifs at hc with hk
  · simp only [hc.1, hc.2, hf, pure_apply, Error.isAlreadyExists, if_true, true_and]
    exact fun k => (if_neg fun h => Store.get_eq_none_iff.mp h.2 (h.1 ▸ hk)).symm
  · simp only [hc.1, hc.2, hf, pure_apply, true_and]
    intro k
    by_cases hok : o.key = k
    · simp [hok, Store.get_eq_none_iff.mpr (hok ▸ hk)]
    · simp [hok]

theorem createOrKeep_fst_of_noFaults (o : Object) : (createOrKeep o w).1 = none :=
  (createOrKeep_noFaults hw o).1

theorem createOrKeep_get_self (o : Object) :
    (createOrKeep o w).2.store.get o.key = (w.store.get o.key).or (some { o with created := true }) := by
  rw [(createOrKeep_noFaults hw o).2.2]
  rcases w.store.get o.key with _ | x <;> simp

theorem createOrKeep_get_of_ne (o : Object) {k : Key} (hk : o.key ≠ k) :
    (createOrKeep o w).2.store.get k = w.store.get k := by
  rw [(createOrKeep_noFaults hw o).2.2, if_neg fun h => hk h.1]

/-- A `CreateOrUpdate` in which nothing fails, with a mutate function that keeps the key:
under the key, the mutated object that was there, or the mutated fresh one. -/
theorem createOrUpdate_noFaults (fresh : Object) {mutate : Object → Object}
    (hm : ∀ x, (mutate x).key = x.key) :
    (createOrUpdate fresh mutate w).1 = none ∧ (createOrUpdate fresh mutate w).2.faults = [] ∧
    ∀ k, (createOrUpdate fresh mutate w).2.store.get k =
      if fresh.key = k then
        some { (match w.store.get k with
          | some o => mutate o
          | none => mutate fresh) with created := true }
      else w.store.get k := by
  obtain ⟨hg, hgf, hgs⟩ := get_noFaults hw fresh.key
  simp only [createOrUpdate, bind_apply, hg]
  rcases hx : w.store.get fresh.key with _ | o
  · have hkey : (mutate fresh).key ∉ (get fresh.key w).2.store.objects.map Object.key := by
      rw [hgs, hm]; exact Store.get_eq_none_iff.mp hx
    obtain ⟨hcf, hc⟩ := create_noFaults hgf (mutate fresh)
    rw [if_neg hkey] at hc
    simp only [Error.isNotFound, if_true, hc.1, hcf, true_and]
    intro k
    rw [hc.2 k, hgs, hm]
    by_cases hok : fresh.key = k
    · subst hok; simp [hx]
    · simp [hok]
  · have ho := Store.mem_of_get hx
    dsimp only
    split_ifs with hsame
    · refine ⟨rfl, hgf, fun k => ?_⟩
      rw [pure_apply, hgs]
      by_cases hok : fresh.key = k
      · subst hok; simp [hx, hsame, Store.setCreated_of_get hx]
      · simp [hok]
    · have hkey : (mutate o).key ∈ (get fresh.key w).2.store.objects.map Object.key := by
        rw [hgs, hm]; exact List.mem_map_of_mem _ ho.1
      obtain ⟨hu, huf, hus⟩ := update_noFaults hgf hkey
      refine ⟨hu, huf, fun k => ?_⟩
      rw [hus k, hgs, hm, ho.2]
      by_cases hok : fresh.key = k
      · subst hok; simp [hx]
      · simp [hok]

end NoFaults

/-! ### What other controllers decide -/

/-- The service has an ingress: the cloud has provisioned its load balancer. -/
def hasIngress : Option Object → Bool
  | some o => match o.body with
    | .service _ (_ :: _) => true
    | _ => false
  | none => false

/-- The route has a host: the router has admitted it. -/
def hasHost : Option Object → Bool
  | some o => match o.body with
    | .route _ host => host ≠ ""
    | _ => false
  | none => false

/-- No secret, or one that holds both TLS keys. -/
def tlsReady : Option Object → Bool
  | some o => (o.data.lookup "tls.key").isSome && (o.data.lookup "tls.crt").isSome
  | none => true

section Constructors

variable {w : World} (hw : w.faults = [])
include hw

/-! ### The endpoints -/

/-- `IsHealthy` of the load balancer, when its `Get` does not fail: ready exactly when the
service has an ingress. -/
theorem LoadBalancer.isHealthy_noFaults (e : Endpoint) :
    (LoadBalancer.isHealthy e w).1.2.1 =
      hasIngress (w.store.get ⟨.service, e.namespacedName.ns, e.namespacedName.name⟩) ∧
    (LoadBalancer.isHealthy e w).2.faults = [] ∧ (LoadBalancer.isHealthy e w).2.store = w.store := by
  obtain ⟨hg, hgf, hgs⟩ := get_noFaults hw ⟨.service, e.namespacedName.ns, e.namespacedName.name⟩
  simp only [LoadBalancer.isHealthy, bind_apply, hg]
  rcases w.store.get _ with _ | o
  · exact ⟨rfl, hgf, hgs⟩
  · generalize hb : o.body = b
    rcases b with _ | _ | _ | ⟨_, _ | ⟨_, _⟩⟩ | _ | _ | _ <;> simp [hasIngress, hb, hgf, hgs]

/-- `NewEndpoint` of the load balancer, when nothing fails: the endpoint, and a service that
has an ingress exactly when the one before had. -/
theorem LoadBalancer.newEndpoint_noFaults (nn : NamespacedName) (m : ObjectMetaMutation)
    (backendPort ingressPort : Int) :
    (LoadBalancer.newEndpoint nn (some m) backendPort ingressPort w).1 =
      .ok (LoadBalancer.newEndpointValue nn m backendPort ingressPort) ∧
    (LoadBalancer.newEndpoint nn (some m) backendPort ingressPort w).2.faults = [] ∧
    hasIngress ((LoadBalancer.newEndpoint nn (some m) backendPort ingressPort w).2.store.get
      ⟨.service, nn.ns, nn.name⟩) = hasIngress (w.store.get ⟨.service, nn.ns, nn.name⟩) := by
  obtain ⟨hc, hcf, hcs⟩ := createOrUpdate_noFaults hw
    (LoadBalancer.serviceObject (LoadBalancer.newEndpointValue nn m backendPort ingressPort))
    (LoadBalancer.mutateService_key (LoadBalancer.newEndpointValue nn m backendPort ingressPort) m m.labels)
  simp only [LoadBalancer.newEndpointValue] at hc hcf hcs ⊢
  simp only [LoadBalancer.newEndpoint, LoadBalancer.createService, bind_apply, hc, pure_apply,
    true_and, hcf, hcs, LoadBalancer.serviceObject_key, if_true]
  rcases hx : w.store.get _ with _ | o
  · rfl
  · simp [LoadBalancer.mutateService_created (w.store.all_created o (Store.mem_of_get hx).1),
      hasIngress]

/-- `NewRsyncTransferServer` when nothing fails: its server, and no error. -/
theorem Rsync.newRsyncTransferServer_noFaults {pvcList : PVCList} {t : Transport} {e : Endpoint}
    {options : TransferOptions} {ns : String} {m : ObjectMetaMutation}
    (hns : firstNamespace pvcList = .ok ns) (hm : options.destinationPodMeta = some m) :
    (Rsync.newRsyncTransferServer pvcList t e options w).1 = .ok ⟨pvcList, t, e, t.connectPort, options⟩ := by
  simp only [Rsync.newRsyncTransferServer, hns, hm, bind_apply, Rsync.TransferServer.createConfig,
    Rsync.TransferServer.createSecret, Rsync.TransferServer.createRsyncServer,
    createOrKeep_fst_of_noFaults, createOrKeep_faults, hw, List.tail_nil, pure_apply]

/-- The passthrough route's `IsHealthy`, when its `Get` does not fail: ready exactly when
the route has a host. -/
theorem Route.isHealthy_noFaults (e : Endpoint) :
    (Route.isHealthy e w).1.2.1 =
      hasHost (w.store.get ⟨.route, e.namespacedName.ns, e.namespacedName.name⟩) ∧
    (Route.isHealthy e w).2.faults = [] ∧ (Route.isHealthy e w).2.store = w.store := by
  obtain ⟨hg, hgf, hgs⟩ := get_noFaults hw ⟨.route, e.namespacedName.ns, e.namespacedName.name⟩
  simp only [Route.isHealthy, bind_apply, hg]
  rcases w.store.get _ with _ | o
  · exact ⟨rfl, hgf, hgs⟩
  · generalize hb : o.body = b
    rcases b with _ | _ | _ | _ | ⟨_, host⟩ | _ | _
    all_goals try by_cases hh : host = ""
    all_goals simp_all [hasHost]

/-- The passthrough route's `NewEndpoint`, when nothing fails: the endpoint, a route that has a
host exactly when the one before had, and every object of another kind as it was. -/
theorem Route.newEndpoint_noFaults (c : Constants) (nn : NamespacedName) (m : ObjectMetaMutation) :
    (Route.newEndpoint c nn (some m) w).1 = .ok ⟨"", Route.ingressPort, c.routeBackendPort, nn, some m⟩ ∧
    (Route.newEndpoint c nn (some m) w).2.faults = [] ∧
    hasHost ((Route.newEndpoint c nn (some m) w).2.store.get ⟨.route, nn.ns, nn.name⟩) =
      hasHost (w.store.get ⟨.route, nn.ns, nn.name⟩) ∧
    ∀ k, k.kind ≠ .route → (Route.newEndpoint c nn (some m) w).2.store.get k = w.store.get k := by
  obtain ⟨h, hf, hs⟩ := createOrKeep_noFaults hw (Route.routeObject c nn m)
  rw [Route.newEndpoint_eq, map_apply, h]
  refine ⟨rfl, hf, ?_, fun k hk => ?_⟩
  swap
  · rw [hs k, if_neg]
    rintro ⟨h', -⟩
    exact hk (h' ▸ rfl)
  rw [hs]
  split_ifs with h'
  · rw [h'.2]; rfl
  · rfl

/-- `setFields`, when its `Get`s do not fail: no error exactly when the config map is there and
the secret is there with both keys. -/
theorem Stunnel.setFields_noFaults (c : Constants) (nn : NamespacedName) :
    ((Stunnel.setFields c nn w).1 = none ↔
      (w.store.get ⟨.configMap, nn.ns, c.stunnelConfig⟩).isSome = true ∧
      (w.store.get ⟨.secret, nn.ns, c.stunnelSecret⟩).isSome = true ∧
      tlsReady (w.store.get ⟨.secret, nn.ns, c.stunnelSecret⟩) = true) ∧
    (Stunnel.setFields c nn w).2.faults = [] := by
  obtain ⟨hg, hgf, hgs⟩ := get_noFaults hw ⟨.configMap, nn.ns, c.stunnelConfig⟩
  obtain ⟨hg', hgf', hgs'⟩ := get_noFaults hgf ⟨.secret, nn.ns, c.stunnelSecret⟩
  rw [hgs] at hg'
  simp only [Stunnel.setFields, bind_apply, hg]
  rcases w.store.get ⟨.configMap, nn.ns, c.stunnelConfig⟩ with _ | cm
  · simp [hgf]
  · dsimp only
    simp only [bind_apply, hg', Option.isSome_some, true_and]
    rcases w.store.get ⟨.secret, nn.ns, c.stunnelSecret⟩ with _ | sec
    · simp [hgf']
    · dsimp only
      rcases hk : List.lookup "tls.key" sec.data with _ | k <;>
        rcases hc : List.lookup "tls.crt" sec.data with _ | k' <;>
        simp [tlsReady, hk, hc, hgf']

/-- `NewTransportServer` of stunnel, when nothing fails: no error exactly when the
certificate was made and the namespace holds no TLS secret under the transport's name, or
one with both keys. -/
theorem Stunnel.newTransportServer_noFaults (c : Constants) (nn : NamespacedName) (e : Endpoint)
    (options : TransportOptions) {m : ObjectMetaMutation} (hm : options.objMeta = some m)
    (cert : Except Error SSLCert) :
    ((Stunnel.newTransportServer c nn e options cert w).1.2 = none ↔
      (∃ crt, cert = .ok crt) ∧ tlsReady (w.store.get ⟨.secret, nn.ns, c.stunnelSecret⟩) = true) ∧
    (Stunnel.newTransportServer c nn e options cert w).2.faults = [] := by
  have hcfg : Stunnel.createStunnelServerConfig c nn.ns m e.backendPort Stunnel.stunnelConnectPort =
      createOrKeep (Stunnel.serverConfig c nn.ns m e.backendPort Stunnel.stunnelConnectPort) := rfl
  obtain ⟨h₁, hf₁, hs₁⟩ := createOrKeep_noFaults hw
    (Stunnel.serverConfig c nn.ns m e.backendPort Stunnel.stunnelConnectPort)
  simp only [Stunnel.newTransportServer, hm, bind_apply, pure_apply, newAggregate_eq_none,
    List.mem_cons, List.mem_singleton, List.not_mem_nil, or_false, forall_eq_or_imp, forall_eq]
  rw [hcfg, h₁]
  cases cert with
  | error err =>
    obtain ⟨-, hf₃⟩ := Stunnel.setFields_noFaults hf₁ c nn
    simp [Stunnel.createStunnelServerSecret, hf₃]
  | ok crt =>
    have hsec : Stunnel.createStunnelServerSecret c nn.ns m (.ok crt) =
        createOrKeep (Stunnel.serverSecret c nn.ns m crt) := rfl
    obtain ⟨h₂, hf₂, hs₂⟩ := createOrKeep_noFaults hf₁ (Stunnel.serverSecret c nn.ns m crt)
    obtain ⟨h₃, hf₃⟩ := Stunnel.setFields_noFaults hf₂ c nn
    have hsk : (Stunnel.serverSecret c nn.ns m crt).key = ⟨.secret, nn.ns, c.stunnelSecret⟩ := rfl
    have hck : (Stunnel.serverConfig c nn.ns m e.backendPort Stunnel.stunnelConnectPort).key =
        ⟨.configMap, nn.ns, c.stunnelConfig⟩ := rfl
    have hne : (Stunnel.serverSecret c nn.ns m crt).key ≠
        (Stunnel.serverConfig c nn.ns m e.backendPort Stunnel.stunnelConnectPort).key := by
      rw [hsk, hck]; exact fun h => nomatch congrArg Key.kind h
    rw [hsec, h₂, h₃, hf₃, ← hsk, ← hck, createOrKeep_get_self hf₁,
      createOrKeep_get_of_ne hf₁ _ hne, createOrKeep_get_of_ne hw _ hne.symm,
      createOrKeep_get_self hw, hsk]
    rcases w.store.get ⟨.secret, nn.ns, c.stunnelSecret⟩ with _ | x
    · simp [tlsReady, Stunnel.serverSecret, dataObject, Object.data]
    · simp

/-! ### The two destinations -/

/-- **`NewRsyncTransferServerWithNull` gets through once the load balancer is up.** With no
failed call, it returns no error exactly when its service is stored with an ingress. -/
theorem Rsync.newRsyncTransferServerWithNull_ok_iff {pvcList : PVCList}
    {opts : List TransferOption} {ns : String} {options : TransferOptions} {m : ObjectMetaMutation}
    (hsetup : Rsync.serverSetup pvcList opts = .ok (ns, options, m)) :
    (∃ v, (Rsync.newRsyncTransferServerWithNull pvcList opts w).1 = .ok v) ↔
      hasIngress (w.store.get ⟨.service, ns, m.name⟩) = true := by
  obtain ⟨hns, hm⟩ := Rsync.serverSetup_ok hsetup
  obtain ⟨he, hef, hes⟩ := LoadBalancer.newEndpoint_noFaults hw ⟨ns, m.name⟩ m
    Rsync.nullTransportBackendPort Rsync.nullTransportIngressPort
  obtain ⟨hh, hhf, -⟩ := LoadBalancer.isHealthy_noFaults hef
    (LoadBalancer.newEndpointValue ⟨ns, m.name⟩ m Rsync.nullTransportBackendPort
      Rsync.nullTransportIngressPort)
  simp only [Rsync.newRsyncTransferServerWithNull, hsetup, bind_apply, he]
  rcases hr : (LoadBalancer.isHealthy _ _).1 with ⟨e', healthy, err⟩
  rw [hr] at hh
  dsimp only [LoadBalancer.newEndpointValue] at hh hes
  rw [← hes, ← hh]
  cases healthy
  · simp
  · simp only [Bool.not_true, if_false, iff_true]
    exact ⟨_, Rsync.newRsyncTransferServer_noFaults hhf hns hm⟩

/-- **`NewRsyncTransferServerWithStunnel` gets through once the route is admitted.** With no
failed call, it returns no error exactly when its route has a host, the certificate was made,
and the namespace holds no TLS secret under the transport's name or one with both keys. -/
theorem Rsync.newRsyncTransferServerWithStunnel_ok_iff (c : Constants) {pvcList : PVCList}
    {opts : List TransferOption} {ns : String} {options : TransferOptions} {m : ObjectMetaMutation}
    (hsetup : Rsync.serverSetup pvcList opts = .ok (ns, options, m)) (cert : Except Error SSLCert) :
    (∃ v, (Rsync.newRsyncTransferServerWithStunnel c pvcList opts cert w).1 = .ok v) ↔
      hasHost (w.store.get ⟨.route, ns, m.name⟩) = true ∧ (∃ crt, cert = .ok crt) ∧
      tlsReady (w.store.get ⟨.secret, ns, c.stunnelSecret⟩) = true := by
  obtain ⟨hns, hm⟩ := Rsync.serverSetup_ok hsetup
  obtain ⟨he, hef, hes, heo⟩ := Route.newEndpoint_noFaults hw c ⟨ns, m.name⟩ m
  obtain ⟨hh, hhf, hhs⟩ := Route.isHealthy_noFaults hef
    ⟨"", Route.ingressPort, c.routeBackendPort, ⟨ns, m.name⟩, some m⟩
  simp only [Rsync.newRsyncTransferServerWithStunnel, hsetup, bind_apply, he]
  rcases hr : (Route.isHealthy _ _).1 with ⟨e', healthy, err⟩
  rw [hr] at hh
  dsimp only at hh hes
  rw [← hes, ← hh]
  cases healthy
  · simp
  · obtain ⟨ht, htf⟩ := Stunnel.newTransportServer_noFaults hhf c ⟨ns, m.name⟩ e'
      ⟨some m, "", "", "", false, ""⟩ rfl cert
    dsimp only at ht
    rw [hhs, heo ⟨.secret, ns, c.stunnelSecret⟩ (by simp)] at ht
    simp only [Bool.not_true, Bool.false_eq_true, if_false, bind_apply, true_and, ← ht]
    rcases (Stunnel.newTransportServer _ _ _ _ _ _).1 with ⟨t, _ | err'⟩
    · simp only [iff_true]
      exact ⟨_, Rsync.newRsyncTransferServer_noFaults htf hns hm⟩
    · simp

end Constructors

/-! ### Every store, every later state -/

/-- **When a destination gets through.** For every store, when no call fails: the null
destination returns no error exactly when its service has an ingress; the stunnel destination
exactly when its route has a host, the certificate was made, and the namespace holds no TLS
secret under the transport's name or one with both keys. -/
theorem destination_gets_through :
    (∀ pvcList opts ns options m, Rsync.serverSetup pvcList opts = .ok (ns, options, m) →
      ∀ s l, (∃ v, (Rsync.newRsyncTransferServerWithNull pvcList opts ⟨s, [], l⟩).1 = .ok v) ↔
        hasIngress (s.get ⟨.service, ns, m.name⟩) = true) ∧
    (∀ c pvcList opts ns options m, Rsync.serverSetup pvcList opts = .ok (ns, options, m) →
      ∀ cert s l,
        (∃ v, (Rsync.newRsyncTransferServerWithStunnel c pvcList opts cert ⟨s, [], l⟩).1 = .ok v) ↔
          hasHost (s.get ⟨.route, ns, m.name⟩) = true ∧ (∃ crt, cert = .ok crt) ∧
          tlsReady (s.get ⟨.secret, ns, c.stunnelSecret⟩) = true) :=
  ⟨fun _ _ _ _ _ hsetup _ _ => Rsync.newRsyncTransferServerWithNull_ok_iff rfl hsetup,
   fun c _ _ _ _ _ hsetup cert _ _ => Rsync.newRsyncTransferServerWithStunnel_ok_iff rfl c hsetup cert⟩

/-- A destination of namespace `b` over the PVC `data`: from the empty store the null
destination does not get through, and beside a service with an ingress it does. -/
theorem destination_gets_through_once_provisioned :
    let opts : List TransferOption :=
      [.destinationMetaObjectMutation ⟨"data", "b", [("app", "rsync-dst")], []⟩]
    let svc : Object := ⟨"data", "b", [("app", "rsync-dst")], [], true,
      .service ⟨[⟨"data", 8080, 2222⟩], [("app", "rsync-dst")], "LoadBalancer"⟩ [⟨"lb.example", ""⟩]⟩
    (¬ ∃ v, (Rsync.newRsyncTransferServerWithNull [⟨"b", "data", "data"⟩] opts
      ⟨Store.empty, [], []⟩).1 = .ok v) ∧
    ∃ v, (Rsync.newRsyncTransferServerWithNull [⟨"b", "data", "data"⟩] opts
      ⟨⟨[svc], by decide, by decide, 0⟩, [], []⟩).1 = .ok v := by
  intro opts svc
  have h := destination_gets_through.1 [⟨"b", "data", "data"⟩] opts "b" _ _ rfl
  exact ⟨fun hv => absurd ((h _ _).mp hv) (by decide), (h _ _).mpr (by decide)⟩

end VolSync
