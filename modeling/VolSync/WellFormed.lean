import VolSync.Run

set_option autoImplicit false

/-!
# Well-formed pod specs

A pod spec is well-formed when every volume mount of every container names a volume the
pod declares, and no container mounts two volumes at one path (`PodSpec.WellFormed`).

The rsync server pod is: the daemon mounts the two configuration volumes and one claim per
PVC of the namespace, at `/mnt/<ns>/<label-safe name>`, and the stunnel sidecar mounts its
two volumes. The client pods over the null transport are too. Over stunnel they are not
after the first: `customizeTransportClientContainers` adds the `rsync-communication` mount
to the sidecar the transport carries from one PVC to the next, so the sidecar of the
`k`-th pod mounts `/usr/share/rsync` `k` times.

* `clientPodSpecs`: the pod specs the loop of `createRsyncClient` builds.
* `Rsync.createRsyncClient_added`: every object a call adds is a pod of one of those specs.
* `Rsync.TransferServer.serverPodSpec_wellFormed`: the server pod is well-formed.
* `Rsync.stunnelClientPodSpecs_wellFormed_iff`: over stunnel, the `i`-th client pod is
  well-formed exactly when `i = 0`.
* `Rsync.transfer_pods_wellFormed`: **which pods are well-formed**.
-/

namespace VolSync

/-! ## Well-formedness -/

/-- A container's mounts name volumes among `vols`, at pairwise distinct paths. -/
def Container.MountsOk (vols : List String) (c : Container) : Prop :=
  (∀ vm ∈ c.volumeMounts, vm.name ∈ vols) ∧ (c.volumeMounts.map VolumeMount.mountPath).Nodup

/-- Every mount of every container names a volume of the pod, and no container mounts two
volumes at one path. -/
def PodSpec.WellFormed (p : PodSpec) : Prop :=
  ∀ c ∈ p.containers, c.MountsOk (p.volumes.map Volume.name)

instance (p : PodSpec) : Decidable p.WellFormed :=
  inferInstanceAs (Decidable (∀ c ∈ p.containers,
    (∀ vm ∈ c.volumeMounts, vm.name ∈ p.volumes.map Volume.name) ∧
      (c.volumeMounts.map VolumeMount.mountPath).Nodup))

@[simp] theorem Container.mountsOk_applyContainerMutations (vols : List String) (c : Container)
    (ms : List ContainerMutation) :
    (applyContainerMutations c ms).MountsOk vols ↔ c.MountsOk vols := by
  simp [Container.MountsOk]

theorem Container.MountsOk.mono {vols vols' : List String} {c : Container}
    (h : c.MountsOk vols) (hsub : vols ⊆ vols') : c.MountsOk vols' :=
  ⟨fun vm hvm => hsub (h.1 vm hvm), h.2⟩

/-- A pod spec whose containers went through the container mutations and which then went
through the pod mutations is well-formed when its containers were. -/
theorem PodSpec.wellFormed_mutated (cs : List Container) (cms : List ContainerMutation)
    (vols : List Volume) (restartPolicy : String) (pms : List PodSpecMutation) :
    (applyPodMutations ⟨cs.map (applyContainerMutations · cms), vols, restartPolicy, [], none, ""⟩
      pms).WellFormed ↔ ∀ c ∈ cs, c.MountsOk (vols.map Volume.name) := by
  simp [PodSpec.WellFormed]

/-! ## Mount paths -/

theorem mnt_prefix_getMountPathForPVC (p : PVC) :
    "/mnt/".data <+: (Rsync.getMountPathForPVC p).data := by
  simp only [Rsync.getMountPathForPVC, String.data_append, List.append_assoc]
  exact List.prefix_append _ _

theorem getMountPathForPVC_ne {p : PVC} {s : String} (hs : ¬ "/mnt/".data <+: s.data) :
    Rsync.getMountPathForPVC p ≠ s :=
  fun h => hs (h ▸ mnt_prefix_getMountPathForPVC p)

theorem mountPaths_nodup {l : List PVC} {ns : String} (hns : ∀ p ∈ l, p.ns = ns)
    (h : (l.map PVC.labelSafeName).Nodup) : (l.map Rsync.getMountPathForPVC).Nodup := by
  have heq : l.map Rsync.getMountPathForPVC =
      (l.map PVC.labelSafeName).map fun s => "/mnt/" ++ ns ++ "/" ++ s := by
    rw [List.map_map]
    exact List.map_congr_left fun p hp => by simp [Rsync.getMountPathForPVC, hns p hp]
  rw [heq]
  refine h.map fun a b hab => String.ext ?_
  simpa using congrArg String.data hab

/-! ## The server pod -/

/-- The sidecars and volumes a transport carries as its constructor builds it: none for the
null transport (`Null.newTransport`), the stunnel sidecar and its two volumes for stunnel
(`Stunnel.newTransportServer`, `Stunnel.newTransportClient`). -/
def SidecarsAsBuilt (t : Transport) : Prop :=
  (t.containers = [] ∧ t.volumes = []) ∨
    ∃ (c : Constants) (lp : Int),
      t.containers = Stunnel.stunnelContainers c lp ∧ t.volumes = Stunnel.stunnelVolumes c

theorem stunnelContainers_mountsOk (c : Constants) (lp : Int) (vols : List String)
    (hvols : (Stunnel.stunnelVolumes c).map Volume.name ⊆ vols) :
    ∀ sc ∈ Stunnel.stunnelContainers c lp, sc.MountsOk vols := by
  simp only [Stunnel.stunnelContainers, List.mem_singleton, forall_eq]
  refine ⟨fun vm hvm => hvols ?_, by simp only [List.map_cons, List.map_nil]; decide⟩
  simp only [List.mem_cons, List.mem_singleton, List.not_mem_nil, or_false] at hvm
  rcases hvm with rfl | rfl <;> simp [Stunnel.stunnelVolumes]

namespace Rsync.TransferServer

/-- The rsync daemon's mounts: the configuration and the secret, then one claim per PVC of
the namespace. -/
theorem rsync_mountsOk (r : TransferServer) (ns : String)
    (hlsn : ((inNamespace r.pvcList ns).map PVC.labelSafeName).Nodup) (vols : List String)
    (hvols : (r.getPVCVolumes ns ++ getConfigVolumes 0o600).map Volume.name ⊆ vols) :
    ∀ c ∈ r.getPodTemplate (getConfigVolumeMounts ++ r.getPVCVolumeMounts ns), c.MountsOk vols := by
  simp only [getPodTemplate, List.mem_singleton, forall_eq]
  have hns : ∀ p ∈ inNamespace r.pvcList ns, p.ns = ns := fun p hp => by
    simpa using (List.mem_filter.mp hp).2
  refine ⟨fun vm hvm => hvols ?_, ?_⟩
  · simp only [getConfigVolumeMounts, getPVCVolumeMounts, List.mem_append, List.mem_cons,
      List.mem_singleton, List.not_mem_nil, or_false, List.mem_map] at hvm
    rcases hvm with (rfl | rfl) | ⟨p, hp, rfl⟩ <;>
      simp [getPVCVolumes, getConfigVolumes]
    exact .inl ⟨p, hp, rfl⟩
  · simp only [getConfigVolumeMounts, getPVCVolumeMounts, List.map_append, List.map_map,
      Function.comp_def, List.map_cons, List.map_nil]
    refine List.nodup_append.mpr ⟨by decide, mountPaths_nodup hns hlsn, fun x hx hy => ?_⟩
    obtain ⟨p, -, rfl⟩ := List.mem_map.mp hy
    simp only [List.mem_cons, List.mem_singleton, List.not_mem_nil, or_false] at hx
    rcases hx with h | h <;> exact getMountPathForPVC_ne (by decide) h

/-- **The server pod is well-formed** over either transport, when the claims of the
namespace have distinct label-safe names. -/
theorem serverPodSpec_wellFormed (r : TransferServer) (ns : String)
    (ht : SidecarsAsBuilt r.transportServer)
    (hlsn : ((inNamespace r.pvcList ns).map PVC.labelSafeName).Nodup) :
    (r.serverPodSpec ns).WellFormed := by
  simp only [serverPodSpec, PodSpec.wellFormed_mutated, List.mem_append]
  rintro c (hc | hc)
  · exact rsync_mountsOk r ns hlsn _ (by simp [List.map_append]) c hc
  · rcases ht with ⟨hcs, -⟩ | ⟨c', lp, hcs, hvs⟩
    · simp [hcs] at hc
    · rw [hcs] at hc
      exact stunnelContainers_mountsOk c' lp _ (by simp [hvs, List.map_append]) c hc

end Rsync.TransferServer

/-! ## The client pods -/

namespace Rsync

/-- The pod specs the loop of `createRsyncClient` builds, one per PVC, each over the
transport as that iteration's customisation leaves it; the loop stops where the
customisation panics. -/
def clientPodSpecs (options : TransferOptions) (rsyncOptions : List String) :
    List PVC → Transport → List PodSpec
  | [], _ => []
  | pvc :: pvcs, t =>
    match customizeTransportClientContainers t with
    | none => []
    | some t => clientPodSpec options rsyncOptions t pvc :: clientPodSpecs options rsyncOptions pvcs t

section Added

variable (options : TransferOptions) (m : ObjectMetaMutation) (rsyncOptions : List String)

theorem createClientPods_added :
    ∀ (pvcs : List PVC) (t : Transport) (w : World),
      ∀ o ∈ (createClientPods options m rsyncOptions pvcs t w).2.store.objects,
        o ∈ w.store.objects ∨ ∃ spec ∈ clientPodSpecs options rsyncOptions pvcs t,
          o.body = .pod spec []
  | [], _, _, _, ho => .inl ho
  | pvc :: pvcs, t, w, o, ho => by
    simp only [createClientPods, clientPodSpecs] at ho ⊢
    cases hc : customizeTransportClientContainers t with
    | none => simp only [hc, pure_apply] at ho; exact .inl ho
    | some t' =>
      simp only [hc, bind_apply] at ho
      have hrest := createClientPods_added pvcs t'
        (generate "rsync-" (clientPod options m rsyncOptions t' pvc) w).2
      generalize createClientPods options m rsyncOptions pvcs t'
        (generate "rsync-" (clientPod options m rsyncOptions t' pvc) w).2 = r at ho hrest
      obtain ⟨⟨_, _⟩, _⟩ := r
      rcases hrest o ho with ho | ⟨spec, hspec, hbody⟩
      · rw [generate_objects] at ho
        rcases List.mem_append.mp ho with hnew | hold
        · split at hnew
          · obtain rfl := List.mem_singleton.mp hnew
            exact .inr ⟨_, List.mem_cons_self _ _, rfl⟩
          · exact absurd hnew (List.not_mem_nil _)
        · exact .inl hold
      · exact .inr ⟨spec, List.mem_cons_of_mem _ hspec, hbody⟩

end Added

/-- Every object one call of `createRsyncClient` adds is a pod of one of the specs its loop
builds, over the PVCs of the namespace. -/
theorem createRsyncClient_added (tc : TransferClient) (ns : String) (w : World) :
    ∀ o ∈ (createRsyncClient tc ns w).2.store.objects, o ∈ w.store.objects ∨
      ∃ spec ∈ clientPodSpecs tc.options tc.options.asRsyncCommandOptions.1
        (inNamespace tc.pvcList ns) tc.transportClient, o.body = .pod spec [] := by
  unfold createRsyncClient
  cases tc.options.sourcePodMeta with
  | none => exact fun o ho => .inl ho
  | some m =>
    simp only [bind_apply]
    have hl := list_store .pod m.labels none w
    generalize list .pod m.labels none w = r at hl ⊢
    obtain ⟨res, w'⟩ := r
    dsimp only at hl ⊢
    rw [← hl]
    cases res with
    | error => exact fun o ho => .inl ho
    | ok pods =>
      dsimp only
      split
      · exact fun o ho => .inl ho
      · rcases hr : tc.options.asRsyncCommandOptions with ⟨rsyncOptions, _ | err⟩
        · simp only [bind_apply]
          intro o ho
          generalize hcp : createClientPods tc.options m rsyncOptions
            (inNamespace tc.pvcList ns) tc.transportClient w' = r at ho
          obtain ⟨⟨_, _⟩, _⟩ := r
          exact createClientPods_added tc.options m rsyncOptions _ _ w' o (by rw [hcp]; exact ho)
        · exact fun o ho => .inl ho

/-- A client pod is well-formed when its transport's containers are: the rsync container
always is. -/
theorem clientPodSpec_wellFormed_iff (options : TransferOptions) (rsyncOptions : List String)
    (t : Transport) (pvc : PVC) :
    (clientPodSpec options rsyncOptions t pvc).WellFormed ↔
      ∀ c ∈ t.containers, c.MountsOk ("mnt" :: "rsync-communication" :: t.volumes.map Volume.name) := by
  simp only [clientPodSpec]
  rw [PodSpec.wellFormed_mutated]
  simp only [List.mem_cons, forall_eq_or_imp, List.map_append, List.map_cons, List.map_nil,
    List.cons_append, List.nil_append]
  refine ⟨fun h => h.2, fun h => ⟨⟨fun vm hvm => ?_, ?_⟩, h⟩⟩
  · simp only [clientRsyncContainer, List.mem_cons, List.mem_singleton, List.not_mem_nil,
      or_false] at hvm
    rcases hvm with rfl | rfl <;> simp
  · simp only [clientRsyncContainer, List.map_cons, List.map_nil, List.nodup_cons,
      List.mem_singleton, List.not_mem_nil, not_false_eq_true, List.nodup_nil, and_true]
    exact getMountPathForPVC_ne (by decide)

theorem nullClientPodSpecs_wellFormed (options : TransferOptions) (rsyncOptions : List String)
    (hostname : String) (port : Int) :
    ∀ (pvcs : List PVC), ∀ spec ∈ clientPodSpecs options rsyncOptions pvcs
      (Null.newTransport hostname port), spec.WellFormed
  | [] => fun _ h => nomatch h
  | pvc :: pvcs => by
    simp only [clientPodSpecs, customize_null, List.mem_cons, forall_eq_or_imp]
    exact ⟨(clientPodSpec_wellFormed_iff _ _ _ _).mpr (fun _ h => absurd h (List.not_mem_nil _)),
      nullClientPodSpecs_wellFormed options rsyncOptions hostname port pvcs⟩

/-! Over stunnel, each customisation adds one more `rsync-communication` mount to the
sidecar. -/

theorem iterate_customize_name (c : Container) (k : Nat) :
    (customizeStunnelContainer^[k] c).name = c.name := by
  induction k with
  | zero => rfl
  | succ k ih => rw [Function.iterate_succ_apply', ← ih]; rfl

theorem iterate_customize_volumeMounts (c : Container) (k : Nat) :
    (customizeStunnelContainer^[k] c).volumeMounts =
      c.volumeMounts ++ List.replicate k ⟨"rsync-communication", "/usr/share/rsync", ""⟩ := by
  induction k with
  | zero => simp
  | succ k ih =>
    rw [Function.iterate_succ_apply', customizeStunnelContainer, ih, List.replicate_succ',
      List.append_assoc]

theorem customize_stunnel (t : Transport) (c : Constants) (lp : Int) (k : Nat)
    (htype : t.type = Stunnel.transportTypeStunnel)
    (hcs : t.containers = (Stunnel.stunnelContainers c lp).map customizeStunnelContainer^[k]) :
    customizeTransportClientContainers t =
      some { t with containers := (Stunnel.stunnelContainers c lp).map customizeStunnelContainer^[k + 1] } := by
  simp [customizeTransportClientContainers, htype, hcs, Stunnel.stunnelContainers, modifyLastNamed,
    iterate_customize_name, -Function.iterate_succ, Function.iterate_succ_apply']

/-- The sidecar customised `k` times has distinct mount paths exactly when `k ≤ 1`. -/
theorem stunnelSidecar_mountsOk_iff (c : Constants) (lp : Int) (k : Nat) (vols : List String)
    (hvols : "rsync-communication" :: (Stunnel.stunnelVolumes c).map Volume.name ⊆ vols) :
    (∀ sc ∈ (Stunnel.stunnelContainers c lp).map customizeStunnelContainer^[k], sc.MountsOk vols) ↔
      k ≤ 1 := by
  simp only [Stunnel.stunnelContainers, List.map_cons, List.map_nil, List.mem_singleton,
    forall_eq, Container.MountsOk, iterate_customize_volumeMounts, List.map_append,
    List.map_replicate]
  constructor
  · exact fun h => List.nodup_replicate.mp (List.nodup_append.mp h.2).2.1
  · intro hk
    refine ⟨fun vm hvm => hvols ?_, List.nodup_append.mpr ⟨by decide,
      List.nodup_replicate.mpr hk, fun x hx hy => ?_⟩⟩
    · simp only [List.mem_append, List.mem_cons, List.mem_singleton, List.not_mem_nil, or_false,
        List.mem_replicate] at hvm
      rcases hvm with (rfl | rfl) | ⟨-, rfl⟩ <;> simp [Stunnel.stunnelVolumes]
    · obtain rfl := List.eq_of_mem_replicate hy
      simp at hx

/-- Over stunnel, the `i`-th pod the loop builds is well-formed exactly when it is the first,
and the transport had not been customised before the loop. -/
theorem stunnelClientPodSpecs_wellFormed_iff (options : TransferOptions) (rsyncOptions : List String)
    (c : Constants) (lp : Int) :
    ∀ (pvcs : List PVC) (t : Transport) (k i : Nat) (spec : PodSpec),
      t.type = Stunnel.transportTypeStunnel →
      t.containers = (Stunnel.stunnelContainers c lp).map customizeStunnelContainer^[k] →
      t.volumes = Stunnel.stunnelVolumes c →
      (clientPodSpecs options rsyncOptions pvcs t)[i]? = some spec →
      (spec.WellFormed ↔ k + i = 0)
  | [], _, _, _, _, _, _, _, hs => nomatch hs
  | pvc :: pvcs, t, k, i, spec, htype, hcs, hvs, hs => by
    rw [clientPodSpecs, customize_stunnel t c lp k htype hcs] at hs
    cases i with
    | zero =>
      simp only [List.getElem?_cons_zero, Option.some.injEq] at hs
      subst hs
      rw [clientPodSpec_wellFormed_iff, stunnelSidecar_mountsOk_iff c lp (k + 1) _
        (by rw [hvs]; intro x hx; simp only [List.mem_cons] at hx ⊢; tauto)]
      omega
    | succ i =>
      rw [List.getElem?_cons_succ] at hs
      rw [stunnelClientPodSpecs_wellFormed_iff options rsyncOptions c lp pvcs
        { t with containers := (Stunnel.stunnelContainers c lp).map customizeStunnelContainer^[k + 1] }
        (k + 1) i spec htype rfl hvs hs]
      omega

/-- **Which pods are well-formed.** The server pod is, over either transport, when the
claims of the namespace have distinct label-safe names. Every pod that one call of
`createRsyncClient` adds over the null transport is. Over stunnel, a pod it adds is the
`i`-th the loop builds, and is well-formed exactly when `i = 0`: from the second pod on,
the sidecar mounts `/usr/share/rsync` more than once. -/
theorem transfer_pods_wellFormed :
    (∀ (r : TransferServer) (ns : String), SidecarsAsBuilt r.transportServer →
      ((inNamespace r.pvcList ns).map PVC.labelSafeName).Nodup →
      (r.serverPodSpec ns).WellFormed) ∧
    (∀ (tc : TransferClient) (ns : String) (w : World) (hostname : String) (port : Int),
      tc.transportClient = Null.newTransport hostname port →
      ∀ o ∈ (createRsyncClient tc ns w).2.store.objects, o ∉ w.store.objects →
        ∃ spec, o.body = .pod spec [] ∧ spec.WellFormed) ∧
    (∀ (tc : TransferClient) (ns : String) (w : World) (c : Constants) (lp : Int),
      tc.transportClient.type = Stunnel.transportTypeStunnel →
      tc.transportClient.containers = Stunnel.stunnelContainers c lp →
      tc.transportClient.volumes = Stunnel.stunnelVolumes c →
      ∀ o ∈ (createRsyncClient tc ns w).2.store.objects, o ∉ w.store.objects →
        ∃ (i : Nat) (spec : PodSpec),
          (clientPodSpecs tc.options tc.options.asRsyncCommandOptions.1
            (inNamespace tc.pvcList ns) tc.transportClient)[i]? = some spec ∧
          o.body = .pod spec [] ∧ (spec.WellFormed ↔ i = 0)) := by
  refine ⟨TransferServer.serverPodSpec_wellFormed, ?_, ?_⟩
  · intro tc ns w hostname port ht o ho hnew
    obtain ⟨spec, hspec, hbody⟩ := (createRsyncClient_added tc ns w o ho).resolve_left hnew
    rw [ht] at hspec
    exact ⟨spec, hbody, nullClientPodSpecs_wellFormed _ _ _ _ _ spec hspec⟩
  · intro tc ns w c lp htype hcs hvs o ho hnew
    obtain ⟨spec, hspec, hbody⟩ := (createRsyncClient_added tc ns w o ho).resolve_left hnew
    obtain ⟨i, hi⟩ := List.mem_iff_getElem?.mp hspec
    refine ⟨i, spec, hi, hbody, ?_⟩
    rw [stunnelClientPodSpecs_wellFormed_iff _ _ c lp _ _ 0 i spec htype (by simp [hcs]) hvs hi]
    omega

set_option maxRecDepth 4000 in
/-- The failing input: two PVCs of one namespace over the stunnel client transport, and no
fault. The loop creates both pods, and the one it creates second is not well-formed. -/
theorem transfer_pods_two_pvcs :
    let c : Constants := ⟨"stunnel-config", "stunnel-credentials", 8443⟩
    let options := (TransferOptions.empty.apply
      [.sourceMetaObjectMutation ⟨"data", "src", [("app", "rsync-src")], []⟩]).1
    let t : Transport := ⟨"src", Stunnel.clientListenPort, 2222,
      Stunnel.stunnelContainers c Stunnel.clientListenPort, Stunnel.stunnelVolumes c,
      Stunnel.transportTypeStunnel, "localhost"⟩
    let tc : TransferClient := ⟨[⟨"src", "data-a", "data-a"⟩, ⟨"src", "data-b", "data-b"⟩], t, options⟩
    ∃ o ∈ (createRsyncClient tc "src" ⟨Store.empty, [], []⟩).2.store.objects,
      ∃ spec, o.body = .pod spec [] ∧ ¬ spec.WellFormed := by
  -- the pod stored last has one mount more in its sidecar than the first pod the loop builds;
  -- stated over any client, so that the evaluations below run on closed terms
  have key : ∀ (c : Constants) (tc : TransferClient),
      tc.transportClient.type = Stunnel.transportTypeStunnel →
      tc.transportClient.containers = Stunnel.stunnelContainers c Stunnel.clientListenPort →
      tc.transportClient.volumes = Stunnel.stunnelVolumes c →
      ((createRsyncClient tc "src" ⟨Store.empty, [], []⟩).2.store.objects[0]?).map
        (fun o => match o.body with
          | .pod spec _ => spec.containers.map fun k => k.volumeMounts.length
          | _ => []) = some [2, 4] →
      ((clientPodSpecs tc.options tc.options.asRsyncCommandOptions.1
        (inNamespace tc.pvcList "src") tc.transportClient)[0]?).map
        (fun spec => spec.containers.map fun k => k.volumeMounts.length) = some [2, 3] →
      ∃ o ∈ (createRsyncClient tc "src" ⟨Store.empty, [], []⟩).2.store.objects,
        ∃ spec, o.body = .pod spec [] ∧ ¬ spec.WellFormed := by
    intro c tc htype hcs hvs hlast hfirst
    rcases ho : (createRsyncClient tc "src" ⟨Store.empty, [], []⟩).2.store.objects[0]? with _ | o
    · rw [ho] at hlast; cases hlast
    obtain ⟨i, spec, hi, hbody, hwf⟩ := transfer_pods_wellFormed.2.2 tc "src"
      ⟨Store.empty, [], []⟩ c Stunnel.clientListenPort htype hcs hvs o (List.getElem?_mem ho) nofun
    refine ⟨o, List.getElem?_mem ho, spec, hbody, fun hw => ?_⟩
    obtain rfl := hwf.mp hw
    rw [ho, Option.map_some', hbody] at hlast
    rw [hi, Option.map_some'] at hfirst
    exact absurd (Option.some.inj (hfirst.symm.trans hlast)) (by decide)
  exact key _ _ rfl rfl rfl (by decide) (by decide)

end Rsync

end VolSync
