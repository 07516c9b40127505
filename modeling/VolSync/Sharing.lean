import VolSync.Frame
import VolSync.Isolation

set_option autoImplicit false

/-!
# Two movers in one namespace

The names of the objects a transfer writes are fixed by the namespace: the rsync server is
the config map `crane2-rsync-config`, the secret `crane2-rsync` and the pod `rsync-server`,
the stunnel transport the config map and secret of `Constants`. Two replications whose
destinations (or sources) share a namespace therefore share these names. Every constructor
writes through `createOrKeep`, which takes "already exists" for success, and none of them
ever changes or removes an object that is not a service (the load-balancer endpoint updates
its own service). So the object that first takes a name keeps it, whichever mover calls
next, and a second destination's constructor returns no error while its own server is never
written.

* `TransferCall`: a call of one of the transfer constructors, with its arguments.
* `TransferCall.keeps`: no call changes or removes an object that is not a service.
* `Steps.keeps`: along any run of such calls and status changes, such an object stays, up
  to status.
* `shared_namespace_first_server`: **the first server of a namespace serves it**: once an
  object of one rsync server is stored, every later state holds it, and never the object of
  the same name of another server.
* `stunnel_config_first_side`: **a stunnel source and destination of one namespace share one
  configuration**: the server's and the client's configurations always differ
  (`Stunnel.serverConfig_ne_clientConfig`) but go under one name, and the side that writes
  first keeps it for good.
-/

namespace VolSync

open Rsync

/-! ### What the constructors keep -/

/-- No run of `p` removes or changes a stored object that satisfies `P`. -/
def Keeps (P : Object → Prop) {α : Type} (p : Cmd α) : Prop :=
  ∀ w, ∀ o ∈ w.store.objects, P o → o ∈ (p w).2.store.objects

namespace Keeps

variable {P : Object → Prop} {α β : Type}

theorem of_createOnly {p : Cmd α} (hp : CreateOnly p) : Keeps P p := fun w o ho _ => hp w o ho

theorem bind_post {p : Cmd α} {f : α → Cmd β} (hp : Keeps P p) (Q : α → Prop)
    (hQ : ∀ w, Q (p w).1) (hf : ∀ a, Q a → Keeps P (f a)) : Keeps P (p >>= f) :=
  fun w o ho hP => hf _ (hQ w) _ o (hp w o ho hP) hP

theorem bind {p : Cmd α} {f : α → Cmd β} (hp : Keeps P p) (hf : ∀ a, Keeps P (f a)) :
    Keeps P (p >>= f) :=
  hp.bind_post (fun _ => True) (fun _ => trivial) fun a _ => hf a

theorem map {p : Cmd α} (f : α → β) (hp : Keeps P p) : Keeps P (f <$> p) := hp

theorem ite {c : Prop} [Decidable c] {p q : Cmd α} (hp : Keeps P p) (hq : Keeps P q) :
    Keeps P (if c then p else q) := by
  split
  · exact hp
  · exact hq

end Keeps

theorem update_keeps (o : Object) : Keeps (·.key ≠ o.key) (update o) := by
  refine Keeps.map _ fun w x hx hk => ?_
  unfold apiCall
  split
  · exact hx
  · split
    · rename_i hop
      unfold Store.update at hop
      split at hop
      · cases hop
        exact List.mem_map.mpr ⟨x, hx, if_neg hk⟩
      · cases hop
    · exact hx

theorem createOrUpdate_keeps (fresh : Object) {mutate : Object → Object}
    (hm : ∀ x, (mutate x).key = x.key) : Keeps (·.key ≠ fresh.key) (createOrUpdate fresh mutate) := by
  refine (Keeps.of_createOnly (get_createOnly _)).bind_post
    (fun r => ∀ o, r = .ok o → o.key = fresh.key) (fun _ _ h => (get_ok h).2) fun r hr => ?_
  rcases r with e | existing
  · exact Keeps.ite (Keeps.of_createOnly (create_createOnly _)) (Keeps.of_createOnly (CreateOnly.pure _))
  · refine Keeps.ite (Keeps.of_createOnly (CreateOnly.pure _)) fun w x hx hk => ?_
    exact update_keeps _ w x hx (by rw [hm, hr _ rfl]; exact hk)

theorem LoadBalancer.mutateService_key (e : Endpoint) (m : ObjectMetaMutation) (sel : StrMap)
    (x : Object) : (LoadBalancer.mutateService e m sel x).key = x.key := by
  unfold LoadBalancer.mutateService Object.key Object.kind
  split
  · rename_i h
    split <;> simp only [h, Body.kind]
  · rfl

theorem LoadBalancer.newEndpoint_keeps (name : NamespacedName) (m : Option ObjectMetaMutation)
    (backendPort ingressPort : Int) :
    Keeps (·.kind ≠ .service) (LoadBalancer.newEndpoint name m backendPort ingressPort) := by
  refine Keeps.bind ?_ fun err => by cases err <;> exact Keeps.of_createOnly (CreateOnly.pure _)
  unfold LoadBalancer.createService
  cases m with
  | none => exact Keeps.of_createOnly (CreateOnly.pure _)
  | some m =>
    exact fun w x hx hk => createOrUpdate_keeps _ (LoadBalancer.mutateService_key _ _ _) w x hx
      fun he => hk (congrArg Key.kind he)

theorem LoadBalancer.isHealthy_createOnly (e : Endpoint) : CreateOnly (LoadBalancer.isHealthy e) := by
  refine (get_createOnly _).bind fun r => ?_
  split
  · exact CreateOnly.pure _
  · split <;> exact CreateOnly.pure _

theorem newRsyncTransferServerWithNull_keeps (pvcList : PVCList) (opts : List TransferOption) :
    Keeps (·.kind ≠ .service) (newRsyncTransferServerWithNull pvcList opts) := by
  unfold newRsyncTransferServerWithNull
  split
  · exact Keeps.of_createOnly (CreateOnly.pure _)
  · refine (LoadBalancer.newEndpoint_keeps _ _ _ _).bind fun r => ?_
    rcases r with err | e
    · exact Keeps.of_createOnly (CreateOnly.pure _)
    · exact Keeps.of_createOnly <| (LoadBalancer.isHealthy_createOnly e).bind fun _ =>
        CreateOnly.ite (CreateOnly.pure _) (newRsyncTransferServer_createOnly _ _ _ _)

/-! ### Calls of the movers of a cluster -/

/-- A call of one of the transfer constructors, with its arguments: what the movers of a
cluster call, each on its own schedule. -/
inductive TransferCall
  | serverWithStunnel (c : Constants) (pvcList : PVCList) (opts : List TransferOption)
      (cert : Except Error SSLCert)
  | serverWithNull (pvcList : PVCList) (opts : List TransferOption)
  | clientWithStunnel (c : Constants) (serverHostname : String) (serverPort : Int)
      (pvcList : PVCList) (opts : List TransferOption)
  | clientWithNull (serverHostname : String) (serverPort : Int) (pvcList : PVCList)
      (opts : List TransferOption)

def TransferCall.run : TransferCall → Cmd Unit
  | .serverWithStunnel c pvcList opts cert =>
    (fun _ => ()) <$> newRsyncTransferServerWithStunnel c pvcList opts cert
  | .serverWithNull pvcList opts => (fun _ => ()) <$> newRsyncTransferServerWithNull pvcList opts
  | .clientWithStunnel c serverHostname serverPort pvcList opts =>
    (fun _ => ()) <$> newRsyncTransferClientWithStunnel c serverHostname serverPort pvcList opts
  | .clientWithNull serverHostname serverPort pvcList opts =>
    (fun _ => ()) <$> newRsyncClientWithNullTransport serverHostname serverPort pvcList opts

/-- No call of a transfer constructor changes or removes an object that is not a service. -/
theorem TransferCall.keeps (call : TransferCall) : Keeps (·.kind ≠ .service) call.run := by
  cases call with
  | serverWithStunnel c pvcList opts cert =>
    exact (Keeps.of_createOnly (newRsyncTransferServerWithStunnel_createOnly c pvcList opts cert)).map _
  | serverWithNull pvcList opts => exact (newRsyncTransferServerWithNull_keeps pvcList opts).map _
  | clientWithStunnel c serverHostname serverPort pvcList opts =>
    refine (Keeps.of_createOnly ?_).map _
    unfold newRsyncTransferClientWithStunnel
    cases clientOptions opts with
    | error => exact CreateOnly.pure _
    | ok options =>
      cases firstNamespace pvcList with
      | error => exact CreateOnly.pure _
      | ok ns =>
        exact (Stunnel.newTransportClient_createOnly _ _ _ _ _).bind fun r => by
          cases r
          · exact CreateOnly.pure _
          · exact finishClient_createOnly _
  | clientWithNull serverHostname serverPort pvcList opts =>
    refine (Keeps.of_createOnly ?_).map _
    unfold newRsyncClientWithNullTransport
    cases clientOptions opts with
    | error => exact CreateOnly.pure _
    | ok options => exact finishClient_createOnly _

/-- **Along any run** of transfer-constructor calls and status changes, every stored object
that is not a service stays, up to status. -/
theorem Steps.keeps {s s' : Store} (h : Steps TransferCall.run s s') {x : Object}
    (hx : x ∈ s.objects.map Object.withoutStatus) (hk : x.kind ≠ .service) :
    x ∈ s'.objects.map Object.withoutStatus := by
  induction h with
  | refl => exact hx
  | call i fs l _ _ ih =>
    obtain ⟨o, ho, rfl⟩ := List.mem_map.mp ih
    exact List.mem_map_of_mem _ (i.keeps _ o ho (by rwa [Object.kind_withoutStatus] at hk))
  | status _ hst ih => rw [hst]; exact ih

/-- Such an object also shuts out every other object of its name, for the rest of the run. -/
theorem Steps.excludes {s s' : Store} (h : Steps TransferCall.run s s') {x y : Object}
    (hx : x ∈ s.objects.map Object.withoutStatus) (hk : x.kind ≠ .service) (hxy : x.key = y.key)
    (hne : x ≠ y) : y ∉ s'.objects.map Object.withoutStatus := by
  intro hy
  obtain ⟨o, ho, rfl⟩ := List.mem_map.mp (h.keeps hx hk)
  obtain ⟨o', ho', rfl⟩ := List.mem_map.mp hy
  have hkey : o'.key = o.key := by simpa only [Object.key_withoutStatus] using hxy.symm
  exact hne (by rw [Store.eq_of_key_eq ho' ho hkey])

/-! ### A constructor whose names are taken -/

/-- When every key of `Ks` is taken and no fault is left, `p` returns a result `ok` allows,
leaves no fault and does not change the store. -/
def Idle (Ks : List Key) {α : Type} (ok : α → Prop) (p : Cmd α) : Prop :=
  ∀ w : World, w.faults = [] → Has Ks w.store →
    ok (p w).1 ∧ (p w).2.faults = [] ∧ (p w).2.store = w.store

namespace Idle

variable {Ks : List Key} {α β : Type} {ok : α → Prop}

theorem pure {a : α} (h : ok a) : Idle Ks ok (Pure.pure a) := fun _ hw _ => ⟨h, hw, rfl⟩

theorem bind {ok' : β → Prop} {p : Cmd α} {f : α → Cmd β} (hp : Idle Ks ok p)
    (hf : ∀ a, ok a → Idle Ks ok' (f a)) : Idle Ks ok' (p >>= f) := by
  intro w hw hK
  obtain ⟨hok, hfaults, hstore⟩ := hp w hw hK
  obtain ⟨hok', hfaults', hstore'⟩ := hf _ hok (p w).2 hfaults (hstore ▸ hK)
  exact ⟨hok', hfaults', hstore'.trans hstore⟩

theorem mono {Ks' : List Key} {p : Cmd α} (hp : Idle Ks ok p) (h : ∀ k ∈ Ks, k ∈ Ks') :
    Idle Ks' ok p :=
  fun w hw hK => hp w hw fun k hk => hK k (h k hk)

end Idle

theorem createOrKeep_idle (o : Object) : Idle [o.key] (· = none) (createOrKeep o) := by
  intro w hw hK
  have hf : w.nextFault = none := World.nextFault_of_faults_nil hw
  have hc : Store.create o w.store = .error .alreadyExists := dif_pos (hK _ (.head _))
  simp [createOrKeep, create, apiCall, hf, hc, hw, bind, StateT.bind, Error.isAlreadyExists,
    errorOf]

theorem TransferServer.objects_keys (r r' : TransferServer) (m m' : ObjectMetaMutation)
    (ns : String) : (r.objects m ns).map Object.key = (r'.objects m' ns).map Object.key := by
  simp [TransferServer.objects]

/-- `NewRsyncTransferServer` in a namespace whose three names are taken: no error, and
nothing written. -/
theorem newRsyncTransferServer_idle {pvcList : PVCList} {t : Transport} {e : Endpoint}
    {options : TransferOptions} {ns : String} {m : ObjectMetaMutation}
    (hns : firstNamespace pvcList = .ok ns) (hm : options.destinationPodMeta = some m) :
    Idle (((⟨pvcList, t, e, t.connectPort, options⟩ : TransferServer).objects m ns).map Object.key)
      (· = .ok ⟨pvcList, t, e, t.connectPort, options⟩) (newRsyncTransferServer pvcList t e options) := by
  unfold newRsyncTransferServer
  simp only [hns, hm]
  -- the config map, the secret and the pod, in that order
  iterate 3
    refine ((createOrKeep_idle _).mono (by simp [TransferServer.objects])).bind fun _ h => ?_
    subst h
  exact Idle.pure rfl

/-! ### The first server of a namespace -/

/-- **The first server of a namespace serves it.** Let the objects of an rsync server `r` of
namespace `ns` be stored. A second destination of `ns` calls `NewRsyncTransferServer`: with
no fault it returns its own server and no error, yet writes nothing. Along every run of
transfer constructors and status changes from there, each object of `r` stays, and the
object of the same name of any other server of `ns` is never stored. -/
theorem shared_namespace_first_server {r : TransferServer} {m₁ : ObjectMetaMutation}
    {ns : String} {s : Store} (hs : ∀ x ∈ r.objects m₁ ns, x ∈ s.objects.map Object.withoutStatus)
    {pvcList : PVCList} {t : Transport} {e : Endpoint} {options : TransferOptions}
    {m : ObjectMetaMutation} (hns : firstNamespace pvcList = .ok ns)
    (hm : options.destinationPodMeta = some m) :
    (∀ l, (newRsyncTransferServer pvcList t e options ⟨s, [], l⟩).1 =
        .ok ⟨pvcList, t, e, t.connectPort, options⟩ ∧
      (newRsyncTransferServer pvcList t e options ⟨s, [], l⟩).2.store = s) ∧
    ∀ s', Steps TransferCall.run s s' → ∀ x ∈ r.objects m₁ ns,
      ∀ y ∈ (⟨pvcList, t, e, t.connectPort, options⟩ : TransferServer).objects m ns,
        x.key = y.key → x ≠ y →
          x ∈ s'.objects.map Object.withoutStatus ∧ y ∉ s'.objects.map Object.withoutStatus := by
  have hkind : ∀ x ∈ r.objects m₁ ns, x.kind ≠ .service := by
    simp [TransferServer.objects, TransferServer.serverPod, dataObject, Object.kind, Body.kind]
  refine ⟨fun l => ?_, fun s' h x hx y _ hxy hne => ⟨h.keeps (hs x hx) (hkind x hx),
    h.excludes (hs x hx) (hkind x hx) hxy hne⟩⟩
  have hK : Has (((⟨pvcList, t, e, t.connectPort, options⟩ : TransferServer).objects m ns).map
      Object.key) s := by
    rw [← TransferServer.objects_keys r]
    intro k hk
    obtain ⟨x, hx, rfl⟩ := List.mem_map.mp hk
    obtain ⟨o, ho, he⟩ := List.mem_map.mp (hs x hx)
    exact List.mem_map.mpr ⟨o, ho, by rw [← he, Object.key_withoutStatus]⟩
  obtain ⟨hok, -, hstore⟩ := newRsyncTransferServer_idle hns hm ⟨s, [], l⟩ rfl hK
  exact ⟨hok, hstore⟩

set_option maxRecDepth 8000 in
/-- Two destinations of namespace `b`: the first replicates the PVC `data`, the second the
PVC `logs`. Their `rsync-server` pods differ, and the second's is never stored. -/
theorem shared_namespace_data_then_logs :
    let m : ObjectMetaMutation := ⟨⟨"data", "b", [("app", "rsync-dst")], []⟩, .merge⟩
    let options := (TransferOptions.empty.apply
      [.destinationMetaObjectMutation ⟨"data", "b", [("app", "rsync-dst")], []⟩]).1
    let t := Null.newTransport "lb.example" 2222
    let e : Endpoint := ⟨"lb.example", 8080, 2222, ⟨"b", "data"⟩, some m⟩
    let data : PVCList := [⟨"b", "data", "data"⟩]
    let logs : PVCList := [⟨"b", "logs", "logs"⟩]
    let r : TransferServer := ⟨data, t, e, t.connectPort, options⟩
    let r' : TransferServer := ⟨logs, t, e, t.connectPort, options⟩
    let s := (newRsyncTransferServer data t e options ⟨Store.empty, [], []⟩).2.store
    r.serverPod m "b" ≠ r'.serverPod m "b" ∧
    (∀ l, (newRsyncTransferServer logs t e options ⟨s, [], l⟩).1 = .ok r' ∧
      (newRsyncTransferServer logs t e options ⟨s, [], l⟩).2.store = s) ∧
    ∀ s', Steps TransferCall.run s s' → ∀ x ∈ r.objects m "b", ∀ y ∈ r'.objects m "b",
      x.key = y.key → x ≠ y →
        x ∈ s'.objects.map Object.withoutStatus ∧ y ∉ s'.objects.map Object.withoutStatus := by
  intro m options t e data logs r r' s
  exact ⟨by decide, shared_namespace_first_server (r := r) (by decide) rfl rfl⟩

/-! ### The stunnel configuration of a shared namespace -/

theorem foldl_append_eq_append (l : List String) :
    ∀ x y : String, l.foldl (· ++ ·) (x ++ y) = x ++ l.foldl (· ++ ·) y := by
  induction l with
  | nil => intro x y; rfl
  | cons a l ih => intro x y; simp only [List.foldl_cons, String.append_assoc, ih]

theorem renderConf_cons (a : String) (l : List String) :
    renderConf (a :: l) = (a ++ "\n") ++ renderConf l := by
  simp only [renderConf, String.join, List.map_cons, List.foldl_cons]
  rw [← foldl_append_eq_append]
  simp

/-- The config map `createClientConfig` writes. -/
def Stunnel.clientConfig (c : Constants) (ns : String) (options : TransportOptions)
    (m : ObjectMetaMutation) (hostname : String) (listenPort connectPort : Int) : Object :=
  dataObject c.stunnelConfig ns m false
    [("stunnel.conf", renderConf (Stunnel.clientConfLines options hostname listenPort connectPort))]

theorem Stunnel.createClientConfig_eq (c : Constants) (ns : String) (options : TransportOptions)
    (m : ObjectMetaMutation) (hostname : String) (listenPort connectPort : Int) :
    Stunnel.createClientConfig c ns options m hostname listenPort connectPort =
      createOrKeep (Stunnel.clientConfig c ns options m hostname listenPort connectPort) := rfl

/-- A server's configuration is never a client's, though both go under one name: the server's
text starts with `foreground = yes`, the client's with an empty line. -/
theorem Stunnel.serverConfig_ne_clientConfig (c : Constants) (ns : String) (m m' : ObjectMetaMutation)
    (listenPort connectPort listenPort' connectPort' : Int) (options : TransportOptions)
    (hostname : String) :
    Stunnel.serverConfig c ns m listenPort connectPort ≠
      Stunnel.clientConfig c ns options m' hostname listenPort' connectPort' := by
  intro h
  have := congrArg (fun o : Object => (o.data.lookup "stunnel.conf").map (·.data.head?)) h
  simp [Stunnel.serverConfig, Stunnel.clientConfig, dataObject, Object.data,
    Stunnel.stunnelServerConfLines, Stunnel.clientConfLines, Stunnel.stunnelClientConfLines,
    renderConf_cons] at this

/-- **A stunnel source and a stunnel destination of one namespace share one configuration.**
Both write the config map `c.stunnelConfig` of the namespace through `createOrKeep`. Once
either side's configuration is stored, every later state of every run of transfer
constructors and status changes holds it, and the other side's configuration is never
stored: a source beside a destination runs its sidecar on the server's configuration, and a
destination beside a source on the client's. -/
theorem stunnel_config_first_side (c : Constants) (ns : String) (m m' : ObjectMetaMutation)
    (listenPort connectPort listenPort' connectPort' : Int) (options : TransportOptions)
    (hostname : String) {s : Store} :
    let server := Stunnel.serverConfig c ns m listenPort connectPort
    let client := Stunnel.clientConfig c ns options m' hostname listenPort' connectPort'
    (server ∈ s.objects.map Object.withoutStatus → ∀ s', Steps TransferCall.run s s' →
      server ∈ s'.objects.map Object.withoutStatus ∧ client ∉ s'.objects.map Object.withoutStatus) ∧
    (client ∈ s.objects.map Object.withoutStatus → ∀ s', Steps TransferCall.run s s' →
      client ∈ s'.objects.map Object.withoutStatus ∧ server ∉ s'.objects.map Object.withoutStatus) := by
  intro server client
  have hne := Stunnel.serverConfig_ne_clientConfig c ns m m' listenPort connectPort listenPort'
    connectPort' options hostname
  have hkey : server.key = client.key := by simp [server, client, Stunnel.serverConfig, Stunnel.clientConfig]
  have hks : server.kind ≠ .service := by
    simp [server, Stunnel.serverConfig, dataObject, Object.kind, Body.kind]
  have hkc : client.kind ≠ .service := by
    simp [client, Stunnel.clientConfig, dataObject, Object.kind, Body.kind]
  exact ⟨fun hs s' h => ⟨h.keeps hs hks, h.excludes hs hks hkey hne⟩,
    fun hs s' h => ⟨h.keeps hs hkc, h.excludes hs hkc hkey.symm hne.symm⟩⟩

/-- A destination's configuration in namespace `b` shuts out the configuration of a source
of `b` for good. -/
theorem stunnel_config_destination_first :
    let c : Constants := ⟨"stunnel-config", "stunnel-credentials", 8443⟩
    let m : ObjectMetaMutation := ⟨⟨"data", "b", [("app", "rsync")], []⟩, .merge⟩
    let options : TransportOptions := ⟨some m, "", "", "", false, ""⟩
    let server := Stunnel.serverConfig c "b" m 8443 Stunnel.stunnelConnectPort
    let client := Stunnel.clientConfig c "b" options m "dst.example" Stunnel.clientListenPort 443
    ∀ s', Steps TransferCall.run ⟨[{ server with created := true }], by decide, by decide, 0⟩ s' →
      server ∈ s'.objects.map Object.withoutStatus ∧ client ∉ s'.objects.map Object.withoutStatus := by
  intro c m options server client
  exact (stunnel_config_first_side c "b" m m 8443 Stunnel.stunnelConnectPort Stunnel.clientListenPort
    443 options "dst.example").1 (List.mem_map.mpr ⟨_, List.mem_singleton_self _, rfl⟩)

end VolSync
