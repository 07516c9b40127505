import VolSync.Run

set_option autoImplicit false

/-!
# The destination converges

`newRsyncTransferServerWithStunnel` and `newRsyncTransferServerWithNull` are called on
every reconcile until one returns no error. Every object they write is created unless its
key is taken (`createOrKeep`), or, for the load balancer, created or brought back to the
endpoint's labels (`createOrUpdate`); their names are fixed. So along any run, with any
transient failures and any status the other controllers publish, the store holds only the
objects one complete call writes, and once a call returns no error it holds all of them.

* `stunnelServerObjects`, `nullServerObjects`: what one complete call writes: the route or
  the load-balancer service, with stunnel the transport's config map and TLS secret, then
  the rsync config map, the rsync secret and the `rsync-server` pod.
* `newRsyncTransferServer_builds`, `withStunnel_builds`, `withNull_builds`: each call keeps
  the store within those objects, and a call that returns no error leaves every one of
  their keys taken.
* `withStunnel_converges`, `withNull_converges`: after a call that returns no error, the
  store holds exactly those objects, up to status (and, with stunnel, up to the key
  material `GenerateSSLCert` drew on the call that created the TLS secret).
* `destination_runs_stay_within`: in every state of a run, failed calls included, the store
  holds nothing else; `destination_stays_settled`: once a call has returned no error, every
  later state holds exactly those objects.
-/

namespace VolSync

@[simp] theorem dataObject_withoutStatus (name ns : String) (m : ObjectMetaMutation)
    (secret : Bool) (data : StrMap) :
    (dataObject name ns m secret data).withoutStatus = dataObject name ns m secret data := by
  cases secret <;> rfl

@[simp] theorem dataObject_key (name ns : String) (m : ObjectMetaMutation) (secret : Bool)
    (data : StrMap) :
    (dataObject name ns m secret data).key = ⟨if secret then .secret else .configMap, ns, name⟩ := by
  cases secret <;> rfl

@[simp] theorem Route.routeObject_key (c : Constants) (nn : NamespacedName) (m : ObjectMetaMutation) :
    (Route.routeObject c nn m).key = ⟨.route, nn.ns, nn.name⟩ := rfl

@[simp] theorem Rsync.TransferServer.serverPod_key (r : Rsync.TransferServer) (m : ObjectMetaMutation)
    (ns : String) : (r.serverPod m ns).key = ⟨.pod, ns, "rsync-server"⟩ := rfl

theorem get_builds_nil {A : Object → Prop} (k : Key) :
    Builds A (fun r => ∃ o, r = .ok o) [] (get k) :=
  (get_builds k).weaken (fun _ h => h) (fun _ h => absurd h (List.not_mem_nil _))

namespace Rsync

/-! ### The rsync objects -/

/-- The objects `newRsyncTransferServer` writes for the server `r`: the config map, the
secret and the pod. -/
def TransferServer.objects (r : TransferServer) (m : ObjectMetaMutation) (ns : String) :
    List Object :=
  [dataObject rsyncConfig ns m false [("rsyncd.conf", r.rsyncdConf ns)],
   dataObject rsyncSecretPrefix ns m true [("credentials", r.credentials)],
   r.serverPod m ns]

theorem TransferServer.objects_withoutStatus (r : TransferServer) (m : ObjectMetaMutation)
    (ns : String) : ∀ x ∈ r.objects m ns, x.withoutStatus = x := by
  simp only [TransferServer.objects, List.mem_cons, List.mem_singleton, List.not_mem_nil,
    or_false, forall_eq_or_imp, dataObject_withoutStatus, forall_eq, true_and]
  rfl

section Server

variable {A : Object → Prop} {pvcList : PVCList} {t : Transport} {e : Endpoint}
  {options : TransferOptions} {ns : String} {m : ObjectMetaMutation}

/-- One step of a constructor: an error stops it, nil goes on to `f none`. -/
theorem builds_seq {β : Type} {ok : β → Prop} {Ks₁ Ks₂ : List Key} {p : Cmd (Option Error)}
    {f : Option Error → Cmd β} (stop : Error → β) (hp : Builds A (· = none) Ks₁ p)
    (hstop : ∀ err, f (some err) = pure (stop err)) (hnot : ∀ err, ¬ ok (stop err))
    (hg : Builds A ok Ks₂ (f none)) : Builds A ok (Ks₁ ++ Ks₂) (p >>= f) := by
  refine hp.bind _ (R := fun _ => True) (fun _ => trivial) (fun a _ => ?_) ?_
  · cases a with
    | none => exact hg
    | some err => exact hstop err ▸ Builds.pure_not (hnot err)
  · rintro (_ | err) _ h w
    · exact absurd rfl h
    · rw [hstop err]
      exact hnot err

/-- **`NewRsyncTransferServer`** writes the server's three objects, each unless its key is
taken, and returns no error only when all three keys are taken. -/
theorem newRsyncTransferServer_builds (hns : firstNamespace pvcList = .ok ns)
    (hm : options.destinationPodMeta = some m)
    (hA : ∀ x ∈ (⟨pvcList, t, e, t.connectPort, options⟩ : TransferServer).objects m ns, A x) :
    Builds A (fun r => ∃ v, r = .ok v)
      (((⟨pvcList, t, e, t.connectPort, options⟩ : TransferServer).objects m ns).map Object.key)
      (newRsyncTransferServer pvcList t e options) := by
  have hA' := fun x hx => TransferServer.objects_withoutStatus _ m ns x hx ▸ hA x hx
  unfold newRsyncTransferServer
  simp only [hns, hm]
  refine builds_seq Except.error (createOrKeep_builds (hA' _ (.head _))) (fun _ => rfl) (by simp) ?_
  refine builds_seq Except.error (createOrKeep_builds (hA' _ (.tail _ (.head _)))) (fun _ => rfl)
    (by simp) ?_
  exact builds_seq Except.error (createOrKeep_builds (hA' _ (.tail _ (.tail _ (.head _)))))
    (fun _ => rfl) (by simp) (Builds.pure_nil _)

end Server

end Rsync

/-! ### The route and the stunnel transport -/

namespace Route

variable {A : Object → Prop} (c : Constants) (nn : NamespacedName) (m : ObjectMetaMutation)

theorem newEndpoint_eq : newEndpoint c nn (some m) =
    (fun err => match err with
      | some e => .error e
      | none => .ok ⟨"", ingressPort, c.routeBackendPort, nn, some m⟩) <$>
      createOrKeep (routeObject c nn m) := by
  funext w
  simp only [newEndpoint, createOrKeep, bind_apply, map_apply]
  rcases (create (routeObject c nn m) w).1 with _ | e
  · rfl
  · by_cases h : e.isAlreadyExists <;> simp [h]

theorem newEndpoint_builds (hA : A (routeObject c nn m)) :
    Builds A (fun r => ∃ v, r = .ok v) [(routeObject c nn m).key] (newEndpoint c nn (some m)) := by
  rw [newEndpoint_eq]
  refine (createOrKeep_builds (o := routeObject c nn m) hA).map _ ?_
  rintro (_ | e) ⟨v, hv⟩
  · rfl
  · cases hv

theorem newEndpoint_result (w : World) (v : Endpoint) :
    (newEndpoint c nn (some m) w).1 = .ok v → v = ⟨"", ingressPort, c.routeBackendPort, nn, some m⟩ := by
  rw [newEndpoint_eq, map_apply]
  rcases (createOrKeep (routeObject c nn m) w).1 with _ | e <;> intro hv <;> cases hv
  rfl

theorem isHealthy_builds (e : Endpoint) : Builds A (fun r => r.2.1 = true) [] (isHealthy e) := by
  unfold isHealthy
  refine (get_builds_nil _).andThen fun a => ?_
  rcases a with err | r
  · exact Builds.pure_nil _
  · dsimp only
    split
    · split <;> exact Builds.pure_nil _
    · exact Builds.pure_nil _

theorem isHealthy_hostname (e : Endpoint) (w : World) :
    ∃ h, (isHealthy e w).1.1 = { e with hostname := h } := by
  unfold isHealthy
  simp only [bind_apply]
  rcases (get ⟨.route, e.namespacedName.ns, e.namespacedName.name⟩ w).1 with err | r
  · exact ⟨e.hostname, rfl⟩
  · rcases r with ⟨_, _, _, _, _, body⟩
    cases body <;> dsimp only <;> (try split) <;> exact ⟨_, rfl⟩

end Route

namespace LoadBalancer

variable {A : Object → Prop} (nn : NamespacedName) (m : ObjectMetaMutation)
  (backendPort ingressPort : Int)

/-- The endpoint `loadbalancer.NewEndpoint` returns. -/
def newEndpointValue : Endpoint := ⟨"", ingressPort, backendPort, nn, some m⟩

/-- The service of the endpoint, as `createService` creates it. -/
def serviceOf (e : Endpoint) (m : ObjectMetaMutation) : Object :=
  mutateService e m m.labels (serviceObject e)

@[simp] theorem serviceObject_key (e : Endpoint) :
    (serviceObject e).key = ⟨.service, e.namespacedName.ns, e.namespacedName.name⟩ := rfl

@[simp] theorem serviceOf_key (e : Endpoint) : (serviceOf e m).key = (serviceObject e).key := rfl

@[simp] theorem serviceOf_withoutStatus (e : Endpoint) :
    (serviceOf e m).withoutStatus = serviceOf e m := rfl

theorem newEndpoint_builds (hA : A (serviceOf (newEndpointValue nn m backendPort ingressPort) m))
    (hmut : ∀ x, x.key = (serviceObject (newEndpointValue nn m backendPort ingressPort)).key →
      x.created = true → A x.withoutStatus →
      A (mutateService (newEndpointValue nn m backendPort ingressPort) m m.labels x).withoutStatus) :
    Builds A (fun r => ∃ v, r = .ok v) [(serviceObject (newEndpointValue nn m backendPort ingressPort)).key]
      (newEndpoint nn (some m) backendPort ingressPort) := by
  unfold newEndpoint
  refine (createOrUpdate_builds (serviceOf_withoutStatus m _ ▸ hA) rfl hmut).bind [] (R := fun _ => True)
    (fun _ => trivial) (fun r _ => ?_) ?_ |>.weaken (fun _ h => h) (by simp)
  · cases r <;> exact Builds.pure_nil _
  · rintro (_ | err) _ h w
    · exact absurd rfl h
    · simp

theorem newEndpoint_result (w : World) (v : Endpoint) :
    (newEndpoint nn (some m) backendPort ingressPort w).1 = .ok v →
      v = newEndpointValue nn m backendPort ingressPort := by
  simp only [newEndpoint, bind_apply]
  rcases (createService _ w).1 with _ | e <;> intro hv <;> cases hv
  rfl

theorem isHealthy_builds (e : Endpoint) : Builds A (fun r => r.2.1 = true) [] (isHealthy e) := by
  unfold isHealthy
  refine (get_builds_nil _).andThen fun a => ?_
  rcases a with err | svc
  · exact Builds.pure_nil _
  · dsimp only
    split <;> exact Builds.pure_nil _

theorem isHealthy_hostname (e : Endpoint) (w : World) :
    ∃ h, (isHealthy e w).1.1 = { e with hostname := h } := by
  unfold isHealthy
  simp only [bind_apply]
  rcases (get ⟨.service, e.namespacedName.ns, e.namespacedName.name⟩ w).1 with err | svc
  · exact ⟨e.hostname, rfl⟩
  · rcases svc with ⟨_, _, _, _, _, body⟩
    cases body
    case service _ ingress => cases ingress <;> exact ⟨_, rfl⟩
    all_goals exact ⟨_, rfl⟩

end LoadBalancer

namespace Stunnel

/-- The config map `createStunnelServerConfig` writes. -/
def serverConfig (c : Constants) (ns : String) (m : ObjectMetaMutation) (listenPort connectPort : Int) :
    Object :=
  dataObject c.stunnelConfig ns m false
    [("stunnel.conf", renderConf (stunnelServerConfLines (toString listenPort) (toString connectPort)))]

/-- The TLS secret `createStunnelServerSecret` writes for the key material `cert`. -/
def serverSecret (c : Constants) (ns : String) (m : ObjectMetaMutation) (cert : SSLCert) : Object :=
  dataObject c.stunnelSecret ns m true [("tls.crt", cert.crt), ("tls.key", cert.key)]

/-- The transport `newTransportServer` returns when `setFields` succeeds. -/
def serverTransport (c : Constants) (ns : String) (listenPort : Int) : Transport :=
  ⟨ns, listenPort, stunnelConnectPort, stunnelContainers c listenPort, stunnelVolumes c,
    transportTypeStunnel, "localhost"⟩

variable {A : Object → Prop} (c : Constants) (nn : NamespacedName) (e : Endpoint)
  (m : ObjectMetaMutation) (cert : Except Error SSLCert)

theorem setFields_builds : Builds A (· = none) [] (setFields c nn) := by
  unfold setFields
  refine (get_builds_nil _).andThen fun a => ?_
  rcases a with err | _
  · exact Builds.pure_not (by simp)
  · refine (get_builds_nil _).andThen fun b => ?_
    rcases b with err | _
    · exact Builds.pure_not (by simp)
    · dsimp only
      split
      · exact Builds.pure_not (by simp)
      · split
        · exact Builds.pure_not (by simp)
        · exact Builds.pure_nil _

theorem createStunnelServerSecret_builds (hS : ∀ cert, A (serverSecret c nn.ns m cert)) :
    Builds A (· = none) [⟨.secret, nn.ns, c.stunnelSecret⟩]
      (createStunnelServerSecret c nn.ns m cert) := by
  rcases cert with err | cert
  · exact Builds.pure_not (by simp)
  · exact createOrKeep_builds (dataObject_withoutStatus _ _ _ _ _ ▸ hS cert)

section Server

variable {proxyURL proxyUsername proxyPassword caVerifyLevel : String} {noVerifyCA : Bool}

/-- **`stunnel.NewTransportServer`** writes the config map and the TLS secret, each unless
its key is taken, and returns no error only when both keys are taken. -/
theorem newTransportServer_builds (hC : A (serverConfig c nn.ns m e.backendPort stunnelConnectPort))
    (hS : ∀ cert, A (serverSecret c nn.ns m cert)) :
    Builds A (fun r => r.2 = none)
      [(serverConfig c nn.ns m e.backendPort stunnelConnectPort).key, ⟨.secret, nn.ns, c.stunnelSecret⟩]
      (newTransportServer c nn e ⟨some m, proxyURL, proxyUsername, proxyPassword, noVerifyCA,
        caVerifyLevel⟩ cert) := by
  unfold newTransportServer
  dsimp only
  refine (createOrKeep_builds (o := serverConfig c nn.ns m e.backendPort stunnelConnectPort)
    (dataObject_withoutStatus _ _ _ _ _ ▸ hC)).bind _ (R := fun _ => True) (fun _ => trivial)
    (fun err₁ _ => (createStunnelServerSecret_builds c nn m cert hS).bind _ (R := fun _ => True)
      (fun _ => trivial) (fun err₂ _ => (setFields_builds c nn).andThen fun _ => Builds.pure_nil _)
      ?_) ?_
  · intro err₂ _ h w
    simp [h]
  · intro err₁ _ h w
    simp [h]

theorem newTransportServer_transport (w : World) :
    (newTransportServer c nn e ⟨some m, proxyURL, proxyUsername, proxyPassword, noVerifyCA,
      caVerifyLevel⟩ cert w).1.2 = none →
    (newTransportServer c nn e ⟨some m, proxyURL, proxyUsername, proxyPassword, noVerifyCA,
      caVerifyLevel⟩ cert w).1.1 = serverTransport c nn.ns e.backendPort := by
  simp only [newTransportServer, bind_apply, pure_apply, newAggregate_eq_none, List.mem_cons,
    List.mem_singleton, List.not_mem_nil, or_false, forall_eq_or_imp, forall_eq]
  rintro ⟨-, -, h⟩
  simp [h, serverTransport]

end Server

end Stunnel

/-! ### With stunnel -/

namespace Rsync

/-- What one complete `NewRsyncTransferServerWithStunnel` writes, for the key material
`cert`: the route, the stunnel config map and TLS secret, and the rsync objects over the
stunnel transport. -/
def stunnelServerObjects (c : Constants) (pvcList : PVCList) (ns : String)
    (options : TransferOptions) (m : ObjectMetaMutation) (cert : SSLCert) : List Object :=
  let t := Stunnel.serverTransport c ns c.routeBackendPort
  [Route.routeObject c ⟨ns, m.name⟩ m,
   Stunnel.serverConfig c ns m c.routeBackendPort Stunnel.stunnelConnectPort,
   Stunnel.serverSecret c ns m cert] ++
  (⟨pvcList, t, ⟨"", Route.ingressPort, c.routeBackendPort, ⟨ns, m.name⟩, some m⟩,
    t.connectPort, options⟩ : TransferServer).objects m ns

theorem serverSetup_ok {pvcList : PVCList} {opts : List TransferOption} {ns : String}
    {options : TransferOptions} {m : ObjectMetaMutation}
    (h : serverSetup pvcList opts = .ok (ns, options, m)) :
    firstNamespace pvcList = .ok ns ∧ options.destinationPodMeta = some m := by
  unfold serverSetup at h
  split at h
  · cases h
  · rename_i ns' hns
    split at h
    · cases h
    · split at h
      · cases h
      · rename_i m' hm
        cases h
        exact ⟨hns, hm⟩

variable {c : Constants} {pvcList : PVCList} {opts : List TransferOption} {ns : String}
  {options : TransferOptions} {m : ObjectMetaMutation}

theorem withStunnel_builds (hsetup : serverSetup pvcList opts = .ok (ns, options, m))
    (cert : Except Error SSLCert) :
    Builds (fun x => ∃ cert, x ∈ stunnelServerObjects c pvcList ns options m cert)
      (fun r => ∃ v, r = .ok v) ((stunnelServerObjects c pvcList ns options m ⟨"", ""⟩).map Object.key)
      (newRsyncTransferServerWithStunnel c pvcList opts cert) := by
  obtain ⟨hns, hm⟩ := serverSetup_ok hsetup
  unfold newRsyncTransferServerWithStunnel
  simp only [hsetup]
  let t := Stunnel.serverTransport c ns c.routeBackendPort
  let e₀ : Endpoint := ⟨"", Route.ingressPort, c.routeBackendPort, ⟨ns, m.name⟩, some m⟩
  let r₀ : TransferServer := ⟨pvcList, t, e₀, t.connectPort, options⟩
  have hA : ∀ x ∈ stunnelServerObjects c pvcList ns options m ⟨"", ""⟩,
      ∃ cert, x ∈ stunnelServerObjects c pvcList ns options m cert := fun x hx => ⟨_, hx⟩
  refine ((Route.newEndpoint_builds c ⟨ns, m.name⟩ m (hA _ (by simp [stunnelServerObjects]))).bind
    ([] ++ ([(Stunnel.serverConfig c ns m c.routeBackendPort Stunnel.stunnelConnectPort).key,
      ⟨.secret, ns, c.stunnelSecret⟩] ++ (r₀.objects m ns).map Object.key))
    (R := fun r => ∀ v, r = .ok v → v = e₀)
    (fun w => Route.newEndpoint_result c _ m w) (fun r hr => ?_) ?_).weaken (fun _ h => h) ?_
  · rcases r with err | e
    · exact Builds.pure_not (by simp)
    · obtain rfl := hr e rfl
      refine (Route.isHealthy_builds e₀).bind _ (R := fun r => ∃ h, r.1 = { e₀ with hostname := h })
        (fun w => Route.isHealthy_hostname e₀ w) (fun r ⟨h, hr⟩ => ?_) ?_
      · split
        · exact Builds.pure_not (by simp)
        · rw [hr]
          refine (Stunnel.newTransportServer_builds c ⟨ns, m.name⟩ { e₀ with hostname := h } m cert
            (hA _ (by simp [stunnelServerObjects])) (fun cert => ⟨cert, by simp [stunnelServerObjects]⟩)).bind
            ((r₀.objects m ns).map Object.key) (R := fun d => d.2 = none → d.1 = t)
            (fun w => Stunnel.newTransportServer_transport c _ _ m cert w) (fun d hd => ?_) ?_
          · rcases d with ⟨t', _ | err⟩
            · obtain rfl : t' = t := hd rfl
              exact newRsyncTransferServer_builds hns hm
                fun x hx => hA x (List.mem_append_right _ hx)
            · exact Builds.pure_not (by simp)
          · rintro ⟨t', _ | err⟩ _ h w
            · exact absurd rfl h
            · simp
      · intro r _ h w
        have h' : r.2.1 = false := by simpa using h
        simp [h']
  · rintro (err | e) _ h w
    · simp
    · exact absurd ⟨e, rfl⟩ h
  · simp only [stunnelServerObjects, List.map_append, List.map_cons, List.map_nil,
      List.nil_append, List.cons_append, List.singleton_append]
    intro k hk
    simpa using hk

theorem stunnel_exact (hc : c.stunnelConfig ≠ rsyncConfig ∧ c.stunnelSecret ≠ rsyncSecretPrefix)
    {s : Store} (hW : Within (fun x => ∃ cert, x ∈ stunnelServerObjects c pvcList ns options m cert) s)
    (hH : Has ((stunnelServerObjects c pvcList ns options m ⟨"", ""⟩).map Object.key) s) :
    ∃ cert', ∀ x, x ∈ s.objects.map Object.withoutStatus ↔
      x ∈ stunnelServerObjects c pvcList ns options m cert' := by
  have hnodup : ∀ cert', ((stunnelServerObjects c pvcList ns options m cert').map Object.key).Nodup := by
    intro cert'
    simp [stunnelServerObjects, TransferServer.objects, Stunnel.serverConfig, Stunnel.serverSecret,
      hc.1, hc.2]
  obtain ⟨o, ho, hko⟩ := List.mem_map.mp (hH ⟨.secret, ns, c.stunnelSecret⟩
    (by simp [stunnelServerObjects, Stunnel.serverSecret]))
  obtain ⟨cert₀, h₀⟩ := hW o ho
  have hsec : o.withoutStatus = Stunnel.serverSecret c ns m cert₀ :=
    List.inj_on_of_nodup_map (hnodup cert₀) h₀ (by simp [stunnelServerObjects])
      (by rw [Object.key_withoutStatus, hko]; simp [Stunnel.serverSecret])
  refine ⟨cert₀, Within.iff_of_has (hnodup cert₀) (fun o' ho' => ?_) hH⟩
  obtain ⟨cert₁, h₁⟩ := hW o' ho'
  by_cases hk : o'.key = ⟨.secret, ns, c.stunnelSecret⟩
  · obtain rfl : o' = o := Store.eq_of_key_eq ho' ho (hk.trans hko.symm)
    rw [hsec]
    simp [stunnelServerObjects]
  · simp only [stunnelServerObjects, List.cons_append, List.mem_cons] at h₁ ⊢
    rcases h₁ with h | h | h | h
    · exact .inl h
    · exact .inr (.inl h)
    · exact absurd (by rw [← Object.key_withoutStatus, h]; simp [Stunnel.serverSecret]) hk
    · exact .inr (.inr (.inr h))

/-- **The destination with stunnel converges.** In every run from the empty store, a call
of `NewRsyncTransferServerWithStunnel` that returns no error leaves exactly the objects of
one complete call, up to status: the route, the stunnel config map and TLS secret (with
the key material of the call that created it), the rsync config map and secret, and the
`rsync-server` pod. -/
theorem withStunnel_converges (hc : c.stunnelConfig ≠ rsyncConfig ∧ c.stunnelSecret ≠ rsyncSecretPrefix)
    (hsetup : serverSetup pvcList opts = .ok (ns, options, m)) {s : Store}
    (hs : Reach (newRsyncTransferServerWithStunnel c pvcList opts) s)
    (cert : Except Error SSLCert) (fs : List (Option Reason)) (l : List (Request × Option Reason))
    (hfs : Transient fs)
    (hok : ∃ v, (newRsyncTransferServerWithStunnel c pvcList opts cert ⟨s, fs, l⟩).1 = .ok v) :
    ∃ cert', ∀ x, x ∈ (newRsyncTransferServerWithStunnel c pvcList opts cert ⟨s, fs, l⟩).2.store.objects.map
      Object.withoutStatus ↔ x ∈ stunnelServerObjects c pvcList ns options m cert' := by
  have hb := withStunnel_builds (c := c) hsetup
  obtain ⟨hW, -, -, hH⟩ := hb cert ⟨s, fs, l⟩ (hs.within hb) hfs
  exact stunnel_exact hc hW (hH hok)

/-! ### With the null transport -/

/-- What one complete `NewRsyncTransferServerWithNull` writes: the load-balancer service
and the rsync objects over the null transport. -/
def nullServerObjects (pvcList : PVCList) (ns : String) (options : TransferOptions)
    (m : ObjectMetaMutation) : List Object :=
  let e₀ := LoadBalancer.newEndpointValue ⟨ns, m.name⟩ m nullTransportBackendPort
    nullTransportIngressPort
  LoadBalancer.serviceOf e₀ m ::
  (⟨pvcList, Null.newTransport "" nullTransportBackendPort, e₀, nullTransportBackendPort,
    options⟩ : TransferServer).objects m ns

theorem nullServerObjects_nodup (pvcList : PVCList) (ns : String) (options : TransferOptions)
    (m : ObjectMetaMutation) : ((nullServerObjects pvcList ns options m).map Object.key).Nodup := by
  simp [nullServerObjects, TransferServer.objects]

/-- A stored object under the service's key that is one of `nullServerObjects` is, up to
status, the service itself, so the mutate function leaves it there. -/
theorem nullServerObjects_mutateService {x : Object}
    (hkey : x.key = (LoadBalancer.serviceObject (LoadBalancer.newEndpointValue ⟨ns, m.name⟩ m
      nullTransportBackendPort nullTransportIngressPort)).key)
    (hc : x.created = true) (hx : x.withoutStatus ∈ nullServerObjects pvcList ns options m) :
    (LoadBalancer.mutateService (LoadBalancer.newEndpointValue ⟨ns, m.name⟩ m nullTransportBackendPort
      nullTransportIngressPort) m m.labels x).withoutStatus ∈ nullServerObjects pvcList ns options m := by
  have hsvc : x.withoutStatus = LoadBalancer.serviceOf _ m :=
    List.inj_on_of_nodup_map (nullServerObjects_nodup pvcList ns options m) hx (List.mem_cons_self _ _)
      (by rw [Object.key_withoutStatus, hkey]; rfl)
  have hmeta : (LoadBalancer.mutateService (LoadBalancer.newEndpointValue ⟨ns, m.name⟩ m
      nullTransportBackendPort nullTransportIngressPort) m m.labels x).withoutStatus =
      { x.withoutStatus with labels := m.labels, ownerReferences := m.ownerReferences } := by
    rw [LoadBalancer.mutateService_created hc]
    rfl
  rw [hmeta, hsvc]
  exact List.mem_cons_self _ _

variable {pvcList : PVCList} {opts : List TransferOption} {ns : String}
  {options : TransferOptions} {m : ObjectMetaMutation}

theorem withNull_builds (hsetup : serverSetup pvcList opts = .ok (ns, options, m)) :
    Builds (· ∈ nullServerObjects pvcList ns options m) (fun r => ∃ v, r = .ok v)
      ((nullServerObjects pvcList ns options m).map Object.key)
      (newRsyncTransferServerWithNull pvcList opts) := by
  obtain ⟨hns, hm⟩ := serverSetup_ok hsetup
  unfold newRsyncTransferServerWithNull
  simp only [hsetup]
  let e₀ := LoadBalancer.newEndpointValue ⟨ns, m.name⟩ m nullTransportBackendPort
    nullTransportIngressPort
  let r₀ : TransferServer := ⟨pvcList, Null.newTransport "" nullTransportBackendPort, e₀,
    nullTransportBackendPort, options⟩
  refine ((LoadBalancer.newEndpoint_builds ⟨ns, m.name⟩ m _ _ (List.mem_cons_self _ _)
    (fun x hkey hc hx => nullServerObjects_mutateService hkey hc hx)).bind
    ((r₀.objects m ns).map Object.key) (R := fun r => ∀ v, r = .ok v → v = e₀)
    (fun w => LoadBalancer.newEndpoint_result _ m _ _ w) (fun r hr => ?_) ?_).weaken
    (fun _ h => h) (fun k hk => by simpa [nullServerObjects] using hk)
  · rcases r with err | e
    · exact Builds.pure_not (by simp)
    · obtain rfl := hr e rfl
      refine (LoadBalancer.isHealthy_builds e₀).bind _
        (R := fun r => ∃ h, r.1 = { e₀ with hostname := h })
        (fun w => LoadBalancer.isHealthy_hostname e₀ w) (fun r ⟨h, hr⟩ => ?_) ?_
      · split
        · exact Builds.pure_not (by simp)
        · rw [hr]
          exact newRsyncTransferServer_builds hns hm fun x hx => List.mem_cons_of_mem _ hx
      · intro r _ h w
        have h' : r.2.1 = false := by simpa using h
        simp [h']
  · rintro (err | e) _ h w
    · simp
    · exact absurd ⟨e, rfl⟩ h

/-- **The destination with the null transport converges.** In every run from the empty
store, a call of `NewRsyncTransferServerWithNull` that returns no error leaves exactly the
objects of one complete call, up to status: the load-balancer service, the rsync config
map and secret, and the `rsync-server` pod. -/
theorem withNull_converges (hsetup : serverSetup pvcList opts = .ok (ns, options, m)) {s : Store}
    (hs : Reach (fun _ : Unit => newRsyncTransferServerWithNull pvcList opts) s)
    (fs : List (Option Reason)) (l : List (Request × Option Reason)) (hfs : Transient fs)
    (hok : ∃ v, (newRsyncTransferServerWithNull pvcList opts ⟨s, fs, l⟩).1 = .ok v) :
    ∀ x, x ∈ (newRsyncTransferServerWithNull pvcList opts ⟨s, fs, l⟩).2.store.objects.map
      Object.withoutStatus ↔ x ∈ nullServerObjects pvcList ns options m := by
  have hb := withNull_builds hsetup
  obtain ⟨hW, -, -, hH⟩ := hb ⟨s, fs, l⟩ (hs.within fun _ => hb) hfs
  exact Within.iff_of_has (nullServerObjects_nodup pvcList ns options m) hW (hH hok)

/-- **The destination stays settled.** Once a call of a destination constructor has
returned no error, every later state of the run, whatever its calls return and whatever
status other controllers publish, holds exactly the objects of one complete call, up to
status (with stunnel, up to the key material of the TLS secret). -/
theorem destination_stays_settled :
    (∀ (c : Constants) (pvcList : PVCList) (opts : List TransferOption) (ns : String)
        (options : TransferOptions) (m : ObjectMetaMutation),
      c.stunnelConfig ≠ rsyncConfig → c.stunnelSecret ≠ rsyncSecretPrefix →
      serverSetup pvcList opts = .ok (ns, options, m) →
      ∀ s, Reach (newRsyncTransferServerWithStunnel c pvcList opts) s →
      ∀ cert fs l, Transient fs →
      (∃ v, (newRsyncTransferServerWithStunnel c pvcList opts cert ⟨s, fs, l⟩).1 = .ok v) →
      ∀ s', Steps (newRsyncTransferServerWithStunnel c pvcList opts)
        (newRsyncTransferServerWithStunnel c pvcList opts cert ⟨s, fs, l⟩).2.store s' →
      ∃ cert', ∀ x, x ∈ s'.objects.map Object.withoutStatus ↔
        x ∈ stunnelServerObjects c pvcList ns options m cert') ∧
    (∀ (pvcList : PVCList) (opts : List TransferOption) (ns : String)
        (options : TransferOptions) (m : ObjectMetaMutation),
      serverSetup pvcList opts = .ok (ns, options, m) →
      ∀ s, Reach (fun _ : Unit => newRsyncTransferServerWithNull pvcList opts) s →
      ∀ fs l, Transient fs →
      (∃ v, (newRsyncTransferServerWithNull pvcList opts ⟨s, fs, l⟩).1 = .ok v) →
      ∀ s', Steps (fun _ : Unit => newRsyncTransferServerWithNull pvcList opts)
        (newRsyncTransferServerWithNull pvcList opts ⟨s, fs, l⟩).2.store s' →
      ∀ x, x ∈ s'.objects.map Object.withoutStatus ↔ x ∈ nullServerObjects pvcList ns options m) := by
  constructor
  · intro c _ _ _ _ _ hconf hsec hsetup s hs cert fs l hfs hok s' hsteps
    have hb := withStunnel_builds (c := c) hsetup
    obtain ⟨hW, -, -, hH⟩ := hb cert ⟨s, fs, l⟩ (hs.within hb) hfs
    obtain ⟨hW', hH'⟩ := hsteps.within_has hb hW (hH hok)
    exact stunnel_exact ⟨hconf, hsec⟩ hW' hH'
  · intro pvcList _ ns options m hsetup s hs fs l hfs hok s' hsteps
    have hb := withNull_builds hsetup
    obtain ⟨hW, -, -, hH⟩ := hb ⟨s, fs, l⟩ (hs.within fun _ => hb) hfs
    obtain ⟨hW', hH'⟩ := hsteps.within_has (fun _ => hb) hW (hH hok)
    exact Within.iff_of_has (nullServerObjects_nodup pvcList ns options m) hW' hH'

/-- A stunnel destination that settles and stays settled: the first call creates the route
and waits for its host, the router assigns one, the next call returns no error, and a later
call whose first API call fails with a server error leaves exactly the settled objects. -/
theorem destination_stays_settled_routed :
    let pvcs : PVCList := [⟨"b", "data", "data"⟩]
    let opts : List TransferOption :=
      [.destinationMetaObjectMutation ⟨"dst", "b", [("app", "rsync-dst")], []⟩]
    let m : ObjectMetaMutation := ⟨⟨"dst", "b", [("app", "rsync-dst")], []⟩, .merge⟩
    let c : Constants := ⟨"stunnel-config", "stunnel-credentials", 8443⟩
    let cert : Except Error SSLCert := .ok ⟨"crt", "key"⟩
    let routed : Store := ⟨[⟨"dst", "b", [("app", "rsync-dst")], [], true,
      .route 8443 "dst-b.apps.example"⟩], by decide, by decide, 0⟩
    ∃ cert', ∀ x, x ∈ (newRsyncTransferServerWithStunnel c pvcs opts cert
        ⟨(newRsyncTransferServerWithStunnel c pvcs opts cert ⟨routed, [], []⟩).2.store,
          [some (.other 503)], []⟩).2.store.objects.map Object.withoutStatus ↔
      x ∈ stunnelServerObjects c pvcs "b" (TransferOptions.empty.apply opts).1 m cert' := by
  intro pvcs opts m c cert routed
  have hr : Reach (newRsyncTransferServerWithStunnel c pvcs opts) routed :=
    .status (.call cert [] [] .empty nofun) rfl
  exact destination_stays_settled.1 c pvcs opts "b" _ m (by decide) (by decide) rfl routed hr
    cert [] [] nofun ⟨_, rfl⟩ _ (.call cert _ [] .refl (by simp [Transient]))

/-- **The destination never strays.** In every state of a run of either destination
constructor, failed calls and status changes included, every stored object is, up to
status, one of the objects of a complete call. -/
theorem destination_runs_stay_within :
    (∀ (c : Constants) (pvcList : PVCList) (opts : List TransferOption) (ns : String)
        (options : TransferOptions) (m : ObjectMetaMutation),
      serverSetup pvcList opts = .ok (ns, options, m) →
      ∀ s, Reach (newRsyncTransferServerWithStunnel c pvcList opts) s →
      ∀ o ∈ s.objects, ∃ cert, o.withoutStatus ∈ stunnelServerObjects c pvcList ns options m cert) ∧
    (∀ (pvcList : PVCList) (opts : List TransferOption) (ns : String)
        (options : TransferOptions) (m : ObjectMetaMutation),
      serverSetup pvcList opts = .ok (ns, options, m) →
      ∀ s, Reach (fun _ : Unit => newRsyncTransferServerWithNull pvcList opts) s →
      ∀ o ∈ s.objects, o.withoutStatus ∈ nullServerObjects pvcList ns options m) :=
  ⟨fun _ _ _ _ _ _ hsetup _ hs => hs.within fun cert => withStunnel_builds hsetup cert,
    fun _ _ _ _ _ hsetup _ hs => hs.within fun _ => withNull_builds hsetup⟩

/-- Calls that fail half-way: from the routed store, a stunnel call whose second API call
fails, and from the store whose service has its ingress, a null-transport call whose
second API call fails. What each leaves is a part of a complete call. -/
theorem destination_runs_stay_within_partial :
    let pvcs : PVCList := [⟨"b", "data", "data"⟩]
    let opts : List TransferOption :=
      [.destinationMetaObjectMutation ⟨"dst", "b", [("app", "rsync-dst")], []⟩]
    let m : ObjectMetaMutation := ⟨⟨"dst", "b", [("app", "rsync-dst")], []⟩, .merge⟩
    let c : Constants := ⟨"stunnel-config", "stunnel-credentials", 8443⟩
    let cert : Except Error SSLCert := .ok ⟨"crt", "key"⟩
    let routed : Store := ⟨[⟨"dst", "b", [("app", "rsync-dst")], [], true,
      .route 8443 "dst-b.apps.example"⟩], by decide, by decide, 0⟩
    let balanced : Store := ⟨[⟨"dst", "b", [("app", "rsync-dst")], [], true,
      .service ⟨[⟨"dst", 8080, 2222⟩], [("app", "rsync-dst")], "LoadBalancer"⟩
        [⟨"lb.example", ""⟩]⟩], by decide, by decide, 0⟩
    (∀ o ∈ (newRsyncTransferServerWithStunnel c pvcs opts cert
        ⟨routed, [none, some (.other 500)], []⟩).2.store.objects,
      ∃ cert', o.withoutStatus ∈ stunnelServerObjects c pvcs "b" (TransferOptions.empty.apply opts).1 m cert') ∧
    ∀ o ∈ (newRsyncTransferServerWithNull pvcs opts ⟨balanced, [none, some (.other 500)], []⟩).2.store.objects,
      o.withoutStatus ∈ nullServerObjects pvcs "b" (TransferOptions.empty.apply opts).1 m := by
  intro pvcs opts m c cert routed balanced
  have hfs : Transient [none, some (.other 500)] := by simp [Transient]
  have hr : Reach (newRsyncTransferServerWithStunnel c pvcs opts) routed :=
    .status (.call cert [] [] .empty nofun) rfl
  have hb : Reach (fun _ : Unit => newRsyncTransferServerWithNull pvcs opts) balanced :=
    .status (.call () [] [] .empty nofun) rfl
  exact ⟨destination_runs_stay_within.1 c pvcs opts "b" _ m rfl _ (.call cert _ [] hr hfs),
    destination_runs_stay_within.2 pvcs opts "b" _ m rfl _ (.call () _ [] hb hfs)⟩

end Rsync

end VolSync
