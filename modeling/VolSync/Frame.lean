import VolSync.Rsync.Client
import VolSync.Cleanup

set_option autoImplicit false

/-!
# What the constructors do to existing objects

Every constructor that materialises objects is built from `createOrKeep`, `Get` and
`List`, which never remove or change an object (`CreateOnly`), with one exception: the
load-balancer endpoint goes through `CreateOrUpdate`.

* `constructors_createOnly`: the route endpoint, both stunnel transports, the rsync server
  (alone and with stunnel) and the three rsync clients leave every object of the store as
  it was.
* `createService_existing`: on an existing service, `createService` keeps the spec and
  writes the endpoint's labels and owner references over the service's own.
* `newEndpoint_drops_cleanup_label`: so a cleanup label that `MarkForCleanup` put on the
  service is gone after the next `loadbalancer.NewEndpoint`, unless the endpoint's own
  labels carry it.
-/

namespace VolSync

open Rsync

/-! ### The building blocks -/

theorem createOrKeep_createOnly (o : Object) : CreateOnly (createOrKeep o) :=
  (create_createOnly o).bind fun e => by cases e <;> exact CreateOnly.pure _

theorem Route.newEndpoint_createOnly (c : Constants) (nn : NamespacedName)
    (m : Option ObjectMetaMutation) : CreateOnly (Route.newEndpoint c nn m) := by
  cases m with
  | none => exact CreateOnly.pure _
  | some m =>
    exact (create_createOnly _).bind fun e => by
      cases e
      · exact CreateOnly.pure _
      · exact CreateOnly.ite (CreateOnly.pure _) (CreateOnly.pure _)

theorem Route.isHealthy_createOnly (e : Endpoint) : CreateOnly (Route.isHealthy e) :=
  (get_createOnly _).bind fun r => by
    rcases r with _ | ⟨_, _, _, _, _, b⟩
    · exact CreateOnly.pure _
    · cases b <;> first | exact CreateOnly.pure _ | exact CreateOnly.ite (CreateOnly.pure _) (CreateOnly.pure _)

/-! ### Transports -/

theorem Stunnel.createStunnelServerSecret_createOnly (c : Constants) (ns : String)
    (m : ObjectMetaMutation) (cert : Except Error SSLCert) :
    CreateOnly (Stunnel.createStunnelServerSecret c ns m cert) := by
  cases cert
  · exact CreateOnly.pure _
  · exact createOrKeep_createOnly _

theorem Stunnel.setFields_createOnly (c : Constants) (nn : NamespacedName) :
    CreateOnly (Stunnel.setFields c nn) :=
  (get_createOnly _).bind fun r => by
    cases r
    · exact CreateOnly.pure _
    · exact (get_createOnly _).bind fun r => by
        cases r
        · exact CreateOnly.pure _
        · exact CreateOnly.ite (CreateOnly.pure _) (CreateOnly.ite (CreateOnly.pure _) (CreateOnly.pure _))

theorem Stunnel.newTransportServer_createOnly (c : Constants) (nn : NamespacedName) (e : Endpoint)
    (options : TransportOptions) (cert : Except Error SSLCert) :
    CreateOnly (Stunnel.newTransportServer c nn e options cert) := by
  unfold Stunnel.newTransportServer
  cases options.objMeta with
  | none => exact CreateOnly.pure _
  | some m =>
    exact (createOrKeep_createOnly _).bind fun _ =>
      (Stunnel.createStunnelServerSecret_createOnly _ _ _ _).bind fun _ =>
        (Stunnel.setFields_createOnly _ _).bind fun _ => CreateOnly.pure _

theorem Stunnel.credentials_createOnly (c : Constants) (ns : String) :
    CreateOnly (Stunnel.credentials c ns) :=
  (get_createOnly _).bind fun r => by
    cases r
    · exact CreateOnly.pure _
    · exact CreateOnly.ite (CreateOnly.pure _) (CreateOnly.ite (CreateOnly.pure _) (CreateOnly.pure _))

theorem Stunnel.newTransportClient_createOnly (c : Constants) (nn : NamespacedName)
    (hostname : String) (ingressPort : Int) (options : TransportOptions) :
    CreateOnly (Stunnel.newTransportClient c nn hostname ingressPort options) := by
  unfold Stunnel.newTransportClient
  cases options.objMeta with
  | none => exact CreateOnly.pure _
  | some m =>
    exact (createOrKeep_createOnly _).bind fun e => by
      cases e
      · exact (Stunnel.credentials_createOnly _ _).bind fun e => by
          cases e <;> exact CreateOnly.pure _
      · exact CreateOnly.pure _

/-! ### Transfers -/

theorem newRsyncTransferServer_createOnly (pvcList : PVCList) (t : Transport) (e : Endpoint)
    (options : TransferOptions) : CreateOnly (newRsyncTransferServer pvcList t e options) := by
  unfold newRsyncTransferServer
  split
  · exact CreateOnly.pure _
  · exact CreateOnly.pure _
  · refine (createOrKeep_createOnly _).bind fun e => ?_
    cases e
    · refine (createOrKeep_createOnly _).bind fun e => ?_
      cases e
      · exact (createOrKeep_createOnly _).bind fun e => by cases e <;> exact CreateOnly.pure _
      · exact CreateOnly.pure _
    · exact CreateOnly.pure _

theorem newRsyncTransferServerWithStunnel_createOnly (c : Constants) (pvcList : PVCList)
    (opts : List TransferOption) (cert : Except Error SSLCert) :
    CreateOnly (newRsyncTransferServerWithStunnel c pvcList opts cert) := by
  unfold newRsyncTransferServerWithStunnel
  split
  · exact CreateOnly.pure _
  · refine (Route.newEndpoint_createOnly _ _ _).bind fun r => ?_
    cases r with
    | error => exact CreateOnly.pure _
    | ok e =>
      refine (Route.isHealthy_createOnly e).bind fun ⟨e, h, _⟩ => ?_
      refine CreateOnly.ite (CreateOnly.pure _) ?_
      refine (Stunnel.newTransportServer_createOnly _ _ _ _ _).bind fun ⟨t, err⟩ => ?_
      cases err
      · exact newRsyncTransferServer_createOnly _ _ _ _
      · exact CreateOnly.pure _

theorem createClientPods_createOnly (options : TransferOptions) (m : ObjectMetaMutation)
    (rsyncOptions : List String) :
    ∀ (pvcs : List PVC) (t : Transport), CreateOnly (createClientPods options m rsyncOptions pvcs t)
  | [], _ => CreateOnly.pure _
  | pvc :: pvcs, t => by
    unfold createClientPods
    cases customizeTransportClientContainers t with
    | none => exact CreateOnly.pure _
    | some t =>
      exact (generate_createOnly _ _).bind fun _ =>
        (createClientPods_createOnly options m rsyncOptions pvcs t).bind fun _ => CreateOnly.pure _

theorem createRsyncClient_createOnly (tc : TransferClient) (ns : String) :
    CreateOnly (createRsyncClient tc ns) := by
  unfold createRsyncClient
  cases tc.options.sourcePodMeta with
  | none => exact CreateOnly.pure _
  | some m =>
    refine (list_createOnly _ _ _).bind fun r => ?_
    cases r with
    | error => exact CreateOnly.pure _
    | ok pods =>
      refine CreateOnly.ite (CreateOnly.pure _) ?_
      split
      · exact CreateOnly.pure _
      · exact (createClientPods_createOnly _ _ _ _ _).bind fun _ => CreateOnly.pure _

theorem finishClient_createOnly (tc : TransferClient) : CreateOnly (finishClient tc) := by
  unfold finishClient
  cases firstNamespace tc.pvcList with
  | error => exact CreateOnly.pure _
  | ok ns =>
    exact (createRsyncClient_createOnly tc ns).bind fun r => by
      rcases r with ⟨_, _ | _⟩ <;> exact CreateOnly.pure _

/-- **The constructors only create.** Every constructor except the load-balancer endpoint
(and `NewRsyncTransferServerWithNull`, which calls it) leaves each object of the store, in
every state and under every pattern of failures, exactly as it was. -/
theorem constructors_createOnly (c : Constants) :
    (∀ nn m, CreateOnly (Route.newEndpoint c nn m)) ∧
    (∀ nn e options cert, CreateOnly (Stunnel.newTransportServer c nn e options cert)) ∧
    (∀ nn hostname ingressPort options,
      CreateOnly (Stunnel.newTransportClient c nn hostname ingressPort options)) ∧
    (∀ pvcList t e options, CreateOnly (newRsyncTransferServer pvcList t e options)) ∧
    (∀ pvcList opts cert, CreateOnly (newRsyncTransferServerWithStunnel c pvcList opts cert)) ∧
    (∀ t pvcList opts, CreateOnly (newRsyncTransferClient t pvcList opts)) ∧
    (∀ host port pvcList opts,
      CreateOnly (newRsyncTransferClientWithStunnel c host port pvcList opts)) ∧
    (∀ host port pvcList opts, CreateOnly (newRsyncClientWithNullTransport host port pvcList opts)) := by
  refine ⟨Route.newEndpoint_createOnly c, Stunnel.newTransportServer_createOnly c,
    Stunnel.newTransportClient_createOnly c, newRsyncTransferServer_createOnly,
    newRsyncTransferServerWithStunnel_createOnly c, ?_, ?_, ?_⟩
  · intro t pvcList opts
    unfold newRsyncTransferClient
    cases clientOptions opts
    · exact CreateOnly.pure _
    · exact finishClient_createOnly _
  · intro host port pvcList opts
    unfold newRsyncTransferClientWithStunnel
    cases clientOptions opts with
    | error => exact CreateOnly.pure _
    | ok options =>
      cases firstNamespace pvcList with
      | error => exact CreateOnly.pure _
      | ok ns =>
        exact (Stunnel.newTransportClient_createOnly _ _ _ _ _).bind fun r => by
          cases r
          · exact CreateOnly.pure _
          · exact finishClient_createOnly _
  · intro host port pvcList opts
    unfold newRsyncClientWithNullTransport
    cases clientOptions opts
    · exact CreateOnly.pure _
    · exact finishClient_createOnly _

/-! ### The load-balancer endpoint -/

theorem updateWithLabel_of_mem {s : Store} {o : Object} {l : List (Request × Option Reason)}
    (key value : String) (ho : o ∈ s.objects) :
    ∃ s' l', updateWithLabel o.key key value ⟨s, [], l⟩ = (none, ⟨s', [], l'⟩) ∧
      s'.objects = s.objects.map fun x =>
        if x.key = o.key then { o with labels := o.labels.set key value } else x := by
  obtain ⟨s', h, hs'⟩ := update_of_mem (o := { o with labels := o.labels.set key value })
    (List.mem_map_of_mem Object.key ho :)
  refine ⟨s', _, by simpa [updateWithLabel, get_of_mem ho] using h, ?_⟩
  simp only [hs', s.all_created o ho]
  rfl

namespace LoadBalancer

/-- On a stored service, a failure-free `createService` keeps the spec and the status, and
writes the endpoint's labels and owner references over the service's own. -/
theorem createService_existing {s : Store} {e : Endpoint} {m : ObjectMetaMutation}
    {svc : Object} {l : List (Request × Option Reason)} (hm : e.objMeta = some m)
    (hsvc : svc ∈ s.objects) (hkey : svc.key = (serviceObject e).key) :
    ∃ s' l', createService e ⟨s, [], l⟩ = (none, ⟨s', [], l'⟩) ∧ s'.objects = s.objects.map fun x =>
      if x.key = svc.key then
        { svc with labels := m.labels, ownerReferences := m.ownerReferences }
      else x := by
  have hc := s.all_created svc hsvc
  simp only [createService, hm, createOrUpdate, ← hkey, bind_apply, get_of_mem hsvc,
    mutateService_created hc]
  split
  · rename_i heq
    refine ⟨s, _, rfl, ?_⟩
    calc s.objects = s.objects.map id := (List.map_id _).symm
      _ = _ := List.map_congr_left fun x hx => by
        split
        · rename_i h; rw [heq]; exact Store.eq_of_key_eq hx hsvc h
        · rfl
  · obtain ⟨s', h, hs'⟩ :=
      update_of_mem (o := { svc with labels := m.labels, ownerReferences := m.ownerReferences })
        (List.mem_map_of_mem Object.key hsvc :)
    exact ⟨s', _, h, by simp only [hs', hc]; rfl⟩

/-- **A later `NewEndpoint` drops the cleanup label.** Take any store holding the service
of a load-balancer endpoint whose labels lack the cleanup key. A failure-free
`MarkForCleanup` puts `cleanupLabelKey = uid` on the service; the next failure-free
`NewEndpoint` of the same endpoint succeeds and takes the label off again, so the sweeper
no longer selects the service. -/
theorem newEndpoint_drops_cleanup_label (s : Store) (svc : Object) (name : NamespacedName)
    (m : ObjectMetaMutation) (backendPort ingressPort : Int) (uid : String)
    (hsvc : svc ∈ s.objects) (hkey : svc.key = ⟨.service, name.ns, name.name⟩)
    (hm : m.labels.lookup cleanupLabelKey = none) :
    ∃ s₁ l₁ s₂ l₂,
      markForCleanup ⟨"", ingressPort, backendPort, name, some m⟩ cleanupLabelKey uid
        ⟨s, [], []⟩ = (none, ⟨s₁, [], l₁⟩) ∧
      (∃ o ∈ s₁.objects, o.key = svc.key ∧ o.labels.lookup cleanupLabelKey = some uid) ∧
      newEndpoint name (some m) backendPort ingressPort ⟨s₁, [], l₁⟩ =
        (.ok ⟨"", ingressPort, backendPort, name, some m⟩, ⟨s₂, [], l₂⟩) ∧
      (∃ o ∈ s₂.objects, o.key = svc.key ∧ o.labels.lookup cleanupLabelKey = none) := by
  obtain ⟨s₁, l₁, h₁, hs₁⟩ := updateWithLabel_of_mem (l := []) cleanupLabelKey uid hsvc
  have hsvc₁ : { svc with labels := svc.labels.set cleanupLabelKey uid } ∈ s₁.objects :=
    hs₁ ▸ List.mem_map.mpr ⟨svc, hsvc, if_pos rfl⟩
  obtain ⟨s₂, l₂, h₂, hs₂⟩ :=
    createService_existing (e := ⟨"", ingressPort, backendPort, name, some m⟩) (l := l₁) rfl
      hsvc₁ hkey
  refine ⟨s₁, l₁, s₂, l₂, by rw [markForCleanup, ← hkey]; exact h₁, ⟨_, hsvc₁, rfl, by simp⟩,
    by simp [newEndpoint, h₂],
    ⟨_, hs₂ ▸ List.mem_map_of_mem _ hsvc₁, ?_⟩⟩
  simp [hm]
  rfl

theorem newEndpoint_drops_cleanup_label_rsync_service :
    let svc : Object := ⟨"volsync-rsync-dst", "dst", [("app", "rsync")], [], true,
      .service ⟨[⟨"volsync-rsync-dst", 8080, 2222⟩], [("app", "rsync")], "LoadBalancer"⟩ []⟩
    let m : ObjectMetaMutation := ⟨⟨"volsync-rsync-dst", "dst", [("app", "rsync")], []⟩, .replace⟩
    let e : Endpoint := ⟨"", 8080, 2222, ⟨"dst", "volsync-rsync-dst"⟩, some m⟩
    ∃ s₁ l₁ s₂ l₂,
      markForCleanup e cleanupLabelKey "uid-1" ⟨⟨[svc], by decide, by decide, 0⟩, [], []⟩ =
        (none, ⟨s₁, [], l₁⟩) ∧
      (∃ o ∈ s₁.objects, o.key = svc.key ∧ o.labels.lookup cleanupLabelKey = some "uid-1") ∧
      newEndpoint ⟨"dst", "volsync-rsync-dst"⟩ (some m) 2222 8080 ⟨s₁, [], l₁⟩ =
        (.ok e, ⟨s₂, [], l₂⟩) ∧
      (∃ o ∈ s₂.objects, o.key = svc.key ∧ o.labels.lookup cleanupLabelKey = none) :=
  newEndpoint_drops_cleanup_label _ _ _ _ _ _ _ (List.mem_singleton_self _) rfl (by decide)

end LoadBalancer

end VolSync
