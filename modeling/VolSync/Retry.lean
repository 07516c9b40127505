import VolSync.Converge
import VolSync.WellFormed

set_option autoImplicit false

/-!
# Retrying the transfer constructors

The reconciler calls a side's transfer constructor on every pass until it returns no
error. On the destination every object has a fixed name, so the first call that returns no
error leaves exactly the objects of one complete call (`Converge`). On the source the client
pods get generated names, and `createRsyncClient` guards against a second round only by
listing the pods that carry the source labels: once one exists, a later call whose `List`
succeeds returns at once. A `Create` that failed in the round that made the pods is then
not retried, and a run can settle with fewer pods than PVCs.
`NewRsyncTransferClientWithStunnel` never returns without an error from the empty store: it
reads the TLS secret, which no call creates. From a store that holds the secret, its runs
keep the pods to a part of one round, as the null transport's do.

* `OneRound`: the store holds, up to their generated names, the client pods of some of the
  PVCs, one each.
* `createClientPods_objects`, `createRsyncClient_oneRound`: a call keeps `OneRound`, and a
  call that starts from an empty store and returns no error leaves one pod per PVC.
* `nullClient_oneRound`: every run of `NewRsyncClientWithNullTransport` keeps `OneRound`;
  so no state of it holds more objects than there are PVCs (`nullClient_pods_bounded`).
* `stunnelClient_not_ok`: no call of `NewRsyncTransferClientWithStunnel` in a run from the
  empty store returns without an error.
* `PodRound`, `stunnelClient_podRound`: from any store without pods, the pods of every state
  of a run of the stunnel source are a part of one round (`roundPods`), whatever else the
  store holds; a call that starts with no pod and returns no error leaves the whole round.
* `constructor_retries_settle`: what the first call without an error leaves, on both sides.
-/

namespace VolSync

/-- An object up to its status and the name the API server generated for it. -/
def Object.unnamed (o : Object) : Object := { o.withoutStatus with name := "" }

@[simp] theorem Object.kind_unnamed (o : Object) : o.unnamed.kind = o.kind := by
  simp [Object.unnamed, Object.withoutStatus, Object.kind]

theorem StatusStep.map_unnamed {s s' : Store} (h : StatusStep s s') :
    s'.objects.map Object.unnamed = s.objects.map Object.unnamed := by
  have e : Object.unnamed = (fun o : Object => { o with name := "" }) ∘ Object.withoutStatus := rfl
  rw [e, ← List.map_map, ← List.map_map, h]

namespace Rsync

/-! ### One round of client pods -/

section OneRound

variable (options : TransferOptions) (m : ObjectMetaMutation) (rsyncOptions : List String)
  (t : Transport)

/-- The store holds, up to their generated names and statuses, the client pods of a part of
`pvcs`, one each: what one round of `createClientPods` leaves in an empty store. -/
def OneRound (pvcs : PVCList) (s : Store) : Prop :=
  ∃ ps : PVCList, ps.Sublist pvcs ∧
    (s.objects.map Object.unnamed).Perm (ps.map (clientPod options m rsyncOptions t))

theorem clientPod_unnamed (pvc : PVC) (name : String) :
    { clientPod options m rsyncOptions t pvc with name := name, created := true }.unnamed =
      clientPod options m rsyncOptions t pvc := rfl

/-- The pods one failure-free round of `createClientPods` creates: one per PVC, over the
transport as that iteration's customisation leaves it, up to a customisation that panics. -/
def roundPods : List PVC → Transport → List Object
  | [], _ => []
  | pvc :: pvcs, t =>
    match customizeTransportClientContainers t with
    | none => []
    | some t => clientPod options m rsyncOptions t pvc :: roundPods pvcs t

theorem roundPods_of_customize (ht : customizeTransportClientContainers t = some t) :
    ∀ pvcs : PVCList, roundPods options m rsyncOptions pvcs t =
      pvcs.map (clientPod options m rsyncOptions t)
  | [] => rfl
  | pvc :: pvcs => by
    simp only [roundPods, ht, List.map_cons, roundPods_of_customize ht pvcs]

theorem mem_roundPods {x : Object} : ∀ {pvcs : PVCList} {t : Transport},
    x ∈ roundPods options m rsyncOptions pvcs t → x.kind = .pod ∧ x.labels = m.labels
  | [], _, h => nomatch h
  | pvc :: pvcs, t, h => by
    simp only [roundPods] at h
    split at h
    · cases h
    · rcases List.mem_cons.mp h with rfl | h
      · exact ⟨rfl, rfl⟩
      · exact mem_roundPods h

/-- **One round of `createClientPods`** adds, up to their generated names, some of the pods
of a failure-free round, in order; when every `Create` succeeded, all of them. -/
theorem createClientPods_round :
    ∀ (pvcs : PVCList) (t : Transport) (w : World), ∃ ps : List Object,
      ps.Sublist (roundPods options m rsyncOptions pvcs t) ∧
      ((∀ e ∈ (createClientPods options m rsyncOptions pvcs t w).1.2, e = none) →
        ps = roundPods options m rsyncOptions pvcs t) ∧
      ((createClientPods options m rsyncOptions pvcs t w).2.store.objects.map Object.unnamed).Perm
        (ps ++ w.store.objects.map Object.unnamed)
  | [], _, _ => ⟨[], .slnil, fun _ => rfl, .refl _⟩
  | pvc :: pvcs, t, w => by
    simp only [createClientPods, roundPods]
    rcases hc : customizeTransportClientContainers t with _ | t'
    · exact ⟨[], List.nil_sublist _, fun _ => rfl, .refl _⟩
    obtain ⟨ps, hsub, hall, hperm⟩ := createClientPods_round pvcs t'
      (generate "rsync-" (clientPod options m rsyncOptions t' pvc) w).2
    have hgen := generate_objects "rsync-" (clientPod options m rsyncOptions t' pvc) w
    simp only [bind_apply]
    generalize createClientPods options m rsyncOptions pvcs t'
      (generate "rsync-" (clientPod options m rsyncOptions t' pvc) w).2 = r at hall hperm
    obtain ⟨⟨t'', errs⟩, w'⟩ := r
    simp only [pure_apply]
    cases he : (generate "rsync-" (clientPod options m rsyncOptions t' pvc) w).1 with
    | none =>
      simp only [he, Option.isNone_none, ite_true, List.singleton_append, List.map_cons,
        clientPod_unnamed] at hgen
      rw [hgen] at hperm
      refine ⟨_ :: ps, hsub.cons₂ _, fun h => ?_, hperm.trans List.perm_middle⟩
      exact congrArg _ (hall fun e he' => h e (List.mem_cons_of_mem _ he'))
    | some err =>
      simp only [he, Option.isNone_some, Bool.false_eq_true, ite_false, List.nil_append] at hgen
      rw [hgen] at hperm
      exact ⟨ps, hsub.cons _, fun h => absurd (h _ (List.mem_cons_self _ _)) nofun, hperm⟩

/-- Over a transport its customisation leaves as it is, the round's pods are those of the
PVCs whose `Create` succeeded; when every `Create` succeeded, those are all the PVCs. -/
theorem createClientPods_objects (ht : customizeTransportClientContainers t = some t)
    (pvcs : PVCList) (w : World) : ∃ ps : PVCList, ps.Sublist pvcs ∧
      ((∀ e ∈ (createClientPods options m rsyncOptions pvcs t w).1.2, e = none) → ps = pvcs) ∧
      ((createClientPods options m rsyncOptions pvcs t w).2.store.objects.map Object.unnamed).Perm
        (ps.map (clientPod options m rsyncOptions t) ++ w.store.objects.map Object.unnamed) := by
  obtain ⟨ps, hsub, hall, hperm⟩ := createClientPods_round options m rsyncOptions pvcs t w
  rw [roundPods_of_customize options m rsyncOptions t ht] at hsub hall
  obtain ⟨ps', hsub', rfl⟩ := List.sublist_map_iff.mp hsub
  exact ⟨ps', hsub', fun h => hsub'.eq_of_length (by simpa using congrArg List.length (hall h)),
    hperm⟩

variable {options m rsyncOptions t}

theorem OneRound.selects {pvcs : PVCList} {s : Store} (hlabels : (m.labels.map Prod.fst).Nodup)
    (h : OneRound options m rsyncOptions t pvcs s) :
    ∀ o ∈ s.objects, Store.Selects .pod m.labels none o = true := by
  obtain ⟨ps, -, hperm⟩ := h
  intro o ho
  obtain ⟨pvc, -, hpvc⟩ := List.mem_map.mp (hperm.subset (List.mem_map_of_mem Object.unnamed ho))
  have hkind : o.kind = .pod := by simpa using (congrArg Object.kind hpvc).symm
  have hl : o.labels = m.labels := congrArg Object.labels hpvc.symm
  simp [Store.Selects, hkind, hl, StrMap.matchingLabels_self hlabels]

/-- **One call of `createRsyncClient`** keeps `OneRound`: it creates pods only when the
store holds none. When it starts from an empty store and returns no error, every PVC got
its pod. -/
theorem createRsyncClient_oneRound {pvcList : PVCList} {ns : String}
    (hm : options.sourcePodMeta = some m) (hlabels : (m.labels.map Prod.fst).Nodup)
    (hr : options.asRsyncCommandOptions = (rsyncOptions, none))
    (ht : customizeTransportClientContainers t = some t) (w : World)
    (hw : OneRound options m rsyncOptions t (inNamespace pvcList ns) w.store) :
    OneRound options m rsyncOptions t (inNamespace pvcList ns)
      (createRsyncClient ⟨pvcList, t, options⟩ ns w).2.store ∧
    ((createRsyncClient ⟨pvcList, t, options⟩ ns w).1.2 = none → w.store.objects = [] →
      ((createRsyncClient ⟨pvcList, t, options⟩ ns w).2.store.objects.map Object.unnamed).Perm
        ((inNamespace pvcList ns).map (clientPod options m rsyncOptions t))) := by
  have hl := list_store .pod m.labels none w
  simp only [createRsyncClient, hm, bind_apply]
  rcases hres : (list .pod m.labels none w).1 with err | pods
  · exact ⟨hl ▸ hw, nofun⟩
  · have hpods := list_ok hres
    dsimp only
    split
    · case isTrue hne =>
      refine ⟨hl ▸ hw, fun _ h0 => ?_⟩
      simp [hpods, h0] at hne
    · case isFalse hne =>
      have h0 : w.store.objects = [] := by
        rw [List.eq_nil_iff_forall_not_mem]
        intro o ho
        have hsel : o ∈ pods := hpods ▸ List.mem_filter.mpr ⟨ho, hw.selects hlabels o ho⟩
        simp_all
      obtain ⟨ps, hsub, hall, hperm⟩ := createClientPods_objects options m rsyncOptions t ht
        (inNamespace pvcList ns) (list .pod m.labels none w).2
      rw [hl, h0, List.map_nil, List.append_nil] at hperm
      simp only [hr, bind_apply, pure_apply, newAggregate_eq_none]
      exact ⟨⟨ps, hsub, hperm⟩, fun hok _ => hall hok ▸ hperm⟩

end OneRound

/-! ### One round of pods beside other objects -/

def podsOf (s : Store) : List Object := s.objects.filter (·.kind = .pod)

/-- The pods of the store are, up to their generated names and statuses, some of `pods`,
each once. Objects of other kinds are not constrained. -/
def PodRound (pods : List Object) (s : Store) : Prop :=
  ∃ ps : List Object, ps.Sublist pods ∧ ((podsOf s).map Object.unnamed).Perm ps

theorem pods_map_unnamed (l : List Object) :
    (l.filter (·.kind = .pod)).map Object.unnamed = (l.map Object.unnamed).filter (·.kind = .pod) := by
  rw [List.filter_map]
  simp [Function.comp_def]

theorem PodRound.of_podsOf_eq {pods : List Object} {s s' : Store} (h : PodRound pods s)
    (he : podsOf s' = podsOf s) : PodRound pods s' := by
  rwa [PodRound, he]

theorem PodRound.status {pods : List Object} {s s' : Store} (h : PodRound pods s)
    (hs : StatusStep s s') : PodRound pods s' := by
  obtain ⟨ps, hsub, hperm⟩ := h
  refine ⟨ps, hsub, ?_⟩
  rwa [podsOf, pods_map_unnamed, hs.map_unnamed, ← pods_map_unnamed]

/-- **One call of `createRsyncClient` keeps `PodRound`**, whatever else the store holds: it
creates pods only when the store holds none. When it starts from a store without pods and
returns no error, the round's pods are all there. -/
theorem createRsyncClient_podRound {tc : TransferClient} {ns : String} {m : ObjectMetaMutation}
    {rsyncOptions : List String} (hm : tc.options.sourcePodMeta = some m)
    (hlabels : (m.labels.map Prod.fst).Nodup)
    (hr : tc.options.asRsyncCommandOptions = (rsyncOptions, none)) (w : World)
    (hw : PodRound (roundPods tc.options m rsyncOptions (inNamespace tc.pvcList ns)
      tc.transportClient) w.store) :
    PodRound (roundPods tc.options m rsyncOptions (inNamespace tc.pvcList ns) tc.transportClient)
      (createRsyncClient tc ns w).2.store ∧
    ((createRsyncClient tc ns w).1.2 = none → podsOf w.store = [] →
      ((podsOf (createRsyncClient tc ns w).2.store).map Object.unnamed).Perm
        (roundPods tc.options m rsyncOptions (inNamespace tc.pvcList ns) tc.transportClient)) := by
  have hl := list_store .pod m.labels none w
  simp only [createRsyncClient, hm, bind_apply]
  rcases hres : (list .pod m.labels none w).1 with err | pods
  · exact ⟨hl ▸ hw, nofun⟩
  have hpods := list_ok hres
  dsimp only
  split
  · case isTrue hne =>
    refine ⟨hl ▸ hw, fun _ h0 => ?_⟩
    obtain ⟨o, ho⟩ := List.exists_mem_of_ne_nil pods (by simpa using hne)
    rw [hpods] at ho
    obtain ⟨ho, hsel⟩ := List.mem_filter.mp ho
    have hp : o ∈ podsOf w.store := List.mem_filter.mpr ⟨ho, by simp_all [Store.Selects]⟩
    simp [h0] at hp
  · case isFalse hne =>
    have h0 : podsOf w.store = [] := by
      obtain ⟨ps, hsub, hperm⟩ := hw
      rw [List.eq_nil_iff_forall_not_mem]
      intro o ho
      obtain ⟨hmem, hpod⟩ := List.mem_filter.mp ho
      obtain ⟨-, hlab⟩ := mem_roundPods _ _ _ (hsub.subset (hperm.subset (List.mem_map_of_mem _ ho)))
      have hsel : o ∈ pods := hpods ▸ List.mem_filter.mpr ⟨hmem, by
        simp_all [Store.Selects, Object.unnamed, Object.withoutStatus, StrMap.matchingLabels_self]⟩
      simp_all
    obtain ⟨ps, hsub, hall, hperm⟩ := createClientPods_round tc.options m rsyncOptions
      (inNamespace tc.pvcList ns) tc.transportClient (list .pod m.labels none w).2
    rw [hl] at hperm
    have hps : ∀ x ∈ ps, x.kind = .pod := fun x hx => (mem_roundPods _ _ _ (hsub.subset hx)).1
    have hround : ((podsOf (createClientPods tc.options m rsyncOptions (inNamespace tc.pvcList ns)
        tc.transportClient (list .pod m.labels none w).2).2.store).map Object.unnamed).Perm ps := by
      rw [podsOf, pods_map_unnamed]
      refine (hperm.filter _).trans ?_
      rw [List.filter_append, ← pods_map_unnamed, ← podsOf, h0, List.map_nil, List.append_nil,
        List.filter_eq_self.mpr fun x hx => by simp [hps x hx]]
    simp only [hr, bind_apply, pure_apply, newAggregate_eq_none]
    exact ⟨⟨ps, hsub, hround⟩, fun hok _ => hall hok ▸ hround⟩

/-- A program that adds and removes no pod. -/
def KeepsPods {α : Type} (p : Cmd α) : Prop := ∀ w, podsOf (p w).2.store = podsOf w.store

namespace KeepsPods

variable {α β : Type}

theorem pure (a : α) : KeepsPods (Pure.pure a : Cmd α) := fun _ => rfl

theorem bind {p : Cmd α} {f : α → Cmd β} (hp : KeepsPods p) (hf : ∀ a, KeepsPods (f a)) :
    KeepsPods (p >>= f) := fun w => (hf _ _).trans (hp w)

end KeepsPods

theorem create_keepsPods {o : Object} (ho : o.kind ≠ .pod) : KeepsPods (create o) := by
  intro w
  simp only [create, map_apply, apiCall]
  rcases w.nextFault with _ | r
  · by_cases hk : o.key ∈ w.store.objects.map Object.key
    · simp [Store.create, hk]
    · have hc : ({ o with created := true } : Object).kind = o.kind := rfl
      simp [Store.create, hk, podsOf, List.filter_cons, hc, ho]
  · rfl

theorem createOrKeep_keepsPods {o : Object} (ho : o.kind ≠ .pod) : KeepsPods (createOrKeep o) :=
  (create_keepsPods ho).bind fun e => by cases e <;> exact KeepsPods.pure _

theorem get_keepsPods (k : Key) : KeepsPods (get k) := fun w => by rw [get_store]

/-- The transport `NewTransportClient` returns. -/
def Stunnel.clientTransport (c : Constants) (ns : String) (ingressPort : Int) : Transport :=
  ⟨ns, Stunnel.clientListenPort, ingressPort, Stunnel.stunnelContainers c Stunnel.clientListenPort,
    Stunnel.stunnelVolumes c, Stunnel.transportTypeStunnel, "localhost"⟩

section Transport

variable (c : Constants) (nn : NamespacedName) (hostname : String) (ingressPort : Int)
  (options : TransportOptions)

theorem credentials_keepsPods (ns : String) : KeepsPods (Stunnel.credentials c ns) := by
  unfold Stunnel.credentials
  refine (get_keepsPods _).bind fun r => ?_
  rcases r with err | secret
  · exact KeepsPods.pure _
  · dsimp only
    split
    · exact KeepsPods.pure _
    · split <;> exact KeepsPods.pure _

theorem newTransportClient_keepsPods :
    KeepsPods (Stunnel.newTransportClient c nn hostname ingressPort options) := by
  unfold Stunnel.newTransportClient
  cases options.objMeta with
  | none => exact KeepsPods.pure _
  | some m =>
    refine (createOrKeep_keepsPods (by simp [dataObject, Object.kind, Body.kind])).bind fun e => ?_
    rcases e with _ | err
    · exact (credentials_keepsPods c _).bind fun r => by
        rcases r with _ | err <;> exact KeepsPods.pure _
    · exact KeepsPods.pure _

theorem newTransportClient_ok {w : World} {t : Transport}
    (h : (Stunnel.newTransportClient c nn hostname ingressPort options w).1 = .ok t) :
    t = Stunnel.clientTransport c nn.ns ingressPort := by
  unfold Stunnel.newTransportClient at h
  rcases hm : options.objMeta with _ | m
  · simp only [hm, pure_apply] at h
    cases h
  · simp only [hm, bind_apply] at h
    rcases hc : (Stunnel.createClientConfig c nn.ns options m hostname Stunnel.clientListenPort
      ingressPort w).1 with _ | err
    · simp only [hc, bind_apply] at h
      generalize Stunnel.credentials c nn.ns _ = r at h
      obtain ⟨_ | err, w'⟩ := r
      · simp only [pure_apply, Except.ok.injEq] at h
        exact h.symm
      · cases h
    · simp only [hc, pure_apply] at h
      cases h

end Transport

theorem roundPods_stunnel_length (options : TransferOptions) (m : ObjectMetaMutation)
    (rsyncOptions : List String) (c : Constants) (lp : Int) :
    ∀ (pvcs : PVCList) (t : Transport) (k : Nat), t.type = Stunnel.transportTypeStunnel →
      t.containers = (Stunnel.stunnelContainers c lp).map customizeStunnelContainer^[k] →
      (roundPods options m rsyncOptions pvcs t).length = pvcs.length
  | [], _, _, _, _ => rfl
  | pvc :: pvcs, t, k, htype, hcs => by
    simp only [roundPods, customize_stunnel t c lp k htype hcs, List.length_cons]
    rw [roundPods_stunnel_length options m rsyncOptions c lp pvcs
      { t with containers := (Stunnel.stunnelContainers c lp).map customizeStunnelContainer^[k + 1] }
      (k + 1) htype rfl]


/-! ### The null-transport source -/

section NullClient

variable {serverHostname : String} {serverPort : Int} {pvcList : PVCList}
  {opts : List TransferOption} {options : TransferOptions} {m : ObjectMetaMutation}
  {rsyncOptions : List String} {ns : String}

/-- One call of `NewRsyncClientWithNullTransport` keeps `OneRound`, and from an empty store
a call that returns no error leaves one pod per PVC. -/
theorem nullClient_step (hopts : clientOptions opts = .ok options)
    (hns : firstNamespace pvcList = .ok ns) (hm : options.sourcePodMeta = some m)
    (hlabels : (m.labels.map Prod.fst).Nodup)
    (hr : options.asRsyncCommandOptions = (rsyncOptions, none)) (w : World)
    (hw : OneRound options m rsyncOptions (Null.newTransport serverHostname serverPort)
      (inNamespace pvcList ns) w.store) :
    OneRound options m rsyncOptions (Null.newTransport serverHostname serverPort)
      (inNamespace pvcList ns)
      (newRsyncClientWithNullTransport serverHostname serverPort pvcList opts w).2.store ∧
    ((∃ v, (newRsyncClientWithNullTransport serverHostname serverPort pvcList opts w).1 = .ok v) →
      w.store.objects = [] →
      ((newRsyncClientWithNullTransport serverHostname serverPort pvcList opts w).2.store.objects.map
        Object.unnamed).Perm ((inNamespace pvcList ns).map
          (clientPod options m rsyncOptions (Null.newTransport serverHostname serverPort)))) := by
  obtain ⟨h₁, h₂⟩ := createRsyncClient_oneRound hm hlabels hr (customize_null _ _) w hw
  simp only [newRsyncClientWithNullTransport, hopts, finishClient, hns, bind_apply]
  generalize createRsyncClient ⟨pvcList, Null.newTransport serverHostname serverPort, options⟩ ns w
    = r at h₁ h₂
  obtain ⟨⟨tc, _ | err⟩, w'⟩ := r
  · exact ⟨h₁, fun _ => h₂ rfl⟩
  · exact ⟨h₁, fun ⟨v, hv⟩ => nomatch hv⟩

/-- **Every run of `NewRsyncClientWithNullTransport` keeps `OneRound`.** -/
theorem nullClient_oneRound (hopts : clientOptions opts = .ok options)
    (hns : firstNamespace pvcList = .ok ns) (hm : options.sourcePodMeta = some m)
    (hlabels : (m.labels.map Prod.fst).Nodup)
    (hr : options.asRsyncCommandOptions = (rsyncOptions, none)) {s : Store}
    (hs : Reach (fun _ : Unit => newRsyncClientWithNullTransport serverHostname serverPort pvcList opts) s) :
    OneRound options m rsyncOptions (Null.newTransport serverHostname serverPort)
      (inNamespace pvcList ns) s := by
  induction hs with
  | empty => exact ⟨[], List.nil_sublist _, .refl _⟩
  | call _ fs l _ _ ih => exact (nullClient_step hopts hns hm hlabels hr _ ih).1
  | status _ hst ih =>
    obtain ⟨ps, hsub, hperm⟩ := ih
    exact ⟨ps, hsub, hst.map_unnamed ▸ hperm⟩

/-- **No PVC gets two pods.** In every state of a run of `NewRsyncClientWithNullTransport`
there are at most as many objects as PVCs in the first namespace. -/
theorem nullClient_pods_bounded (hopts : clientOptions opts = .ok options)
    (hns : firstNamespace pvcList = .ok ns) (hm : options.sourcePodMeta = some m)
    (hlabels : (m.labels.map Prod.fst).Nodup)
    (hr : options.asRsyncCommandOptions = (rsyncOptions, none)) {s : Store}
    (hs : Reach (fun _ : Unit => newRsyncClientWithNullTransport serverHostname serverPort pvcList opts) s) :
    s.objects.length ≤ (inNamespace pvcList ns).length := by
  obtain ⟨ps, hsub, hperm⟩ := nullClient_oneRound hopts hns hm hlabels hr hs
  calc s.objects.length
      = (s.objects.map Object.unnamed).length := (List.length_map _ _).symm
    _ = (ps.map (clientPod options m rsyncOptions _)).length := hperm.length_eq
    _ = ps.length := List.length_map _ _
    _ ≤ (inNamespace pvcList ns).length := hsub.length_le

theorem nullClient_pods_bounded_two_pvcs :
    let source : List TransferOption :=
      [.sourceMetaObjectMutation ⟨"data", "a", [("app", "rsync-src")], []⟩]
    let pvcs : PVCList := [⟨"a", "data1", "data1"⟩, ⟨"a", "data2", "data2"⟩]
    let options := (TransferOptions.empty.apply source).1
    let call := newRsyncClientWithNullTransport "dst.example" 2222 pvcs source
    clientOptions source = .ok options ∧ firstNamespace pvcs = .ok "a" ∧
      options.sourcePodMeta = some ⟨⟨"data", "a", [("app", "rsync-src")], []⟩, .merge⟩ ∧
      ([("app", "rsync-src")].map Prod.fst).Nodup ∧
      options.asRsyncCommandOptions = (options.asRsyncCommandOptions.1, none) ∧
      Reach (fun _ : Unit => call) (call ⟨Store.empty, [], []⟩).2.store ∧
      (call ⟨Store.empty, [], []⟩).2.store.objects.length ≤ (inNamespace pvcs "a").length := by
  intro source pvcs options call
  have hs : Reach (fun _ : Unit => call) (call ⟨Store.empty, [], []⟩).2.store :=
    .call () [] [] .empty nofun
  have hopts : clientOptions source = .ok options := rfl
  have hns : firstNamespace pvcs = .ok "a" := rfl
  have hm : options.sourcePodMeta = some ⟨⟨"data", "a", [("app", "rsync-src")], []⟩, .merge⟩ := rfl
  have hlabels : ([("app", "rsync-src")].map Prod.fst).Nodup := by decide
  have hr : options.asRsyncCommandOptions = (options.asRsyncCommandOptions.1, none) := rfl
  exact ⟨hopts, hns, hm, hlabels, hr, hs, nullClient_pods_bounded hopts hns hm hlabels hr hs⟩

end NullClient

/-! ### The stunnel source -/

section StunnelClient

/-- The client constructors create pods and config maps, never a secret. -/
def NoSecret (o : Object) : Prop := o.kind ≠ .secret

theorem createClientPods_noSecret (options : TransferOptions) (m : ObjectMetaMutation)
    (rsyncOptions : List String) :
    ∀ (pvcs : PVCList) (t : Transport),
      Builds NoSecret (fun _ => True) [] (createClientPods options m rsyncOptions pvcs t)
  | [], _ => Builds.pure_nil _
  | pvc :: pvcs, t => by
    unfold createClientPods
    cases customizeTransportClientContainers t with
    | none => exact Builds.pure_nil _
    | some t =>
      exact (generate_builds _ fun _ => nofun).andThen fun _ =>
        (createClientPods_noSecret options m rsyncOptions pvcs t).andThen fun _ =>
          Builds.pure_nil _

theorem createRsyncClient_noSecret (tc : TransferClient) (ns : String) :
    Builds NoSecret (fun _ => True) [] (createRsyncClient tc ns) := by
  unfold createRsyncClient
  cases tc.options.sourcePodMeta with
  | none => exact Builds.pure_nil _
  | some m =>
    refine (list_builds _ _ _).andThen fun r => ?_
    cases r with
    | error => exact Builds.pure_nil _
    | ok pods =>
      dsimp only
      split
      · exact Builds.pure_nil _
      · split
        · exact Builds.pure_nil _
        · exact (createClientPods_noSecret _ _ _ _ _).andThen fun _ => Builds.pure_nil _

theorem finishClient_noSecret (tc : TransferClient) :
    Builds NoSecret (fun _ => True) [] (finishClient tc) := by
  unfold finishClient
  cases firstNamespace tc.pvcList with
  | error => exact Builds.pure_nil _
  | ok ns =>
    exact (createRsyncClient_noSecret tc ns).andThen fun r => by
      rcases r with ⟨_, _ | _⟩ <;> exact Builds.pure_nil _

variable (c : Constants)

theorem credentials_noSecret (ns : String) :
    Builds NoSecret (fun _ => True) [] (Stunnel.credentials c ns) := by
  unfold Stunnel.credentials
  refine (get_builds_nil _).andThen fun r => ?_
  rcases r with err | secret
  · exact Builds.pure_nil _
  · dsimp only
    split
    · exact Builds.pure_nil _
    · split <;> exact Builds.pure_nil _

theorem credentials_fails (ns : String) {w : World} (hw : Within NoSecret w.store) :
    (Stunnel.credentials c ns w).1 ≠ none := by
  unfold Stunnel.credentials
  simp only [bind_apply]
  rcases hg : (get ⟨.secret, ns, c.stunnelSecret⟩ w).1 with err | secret
  · simp
  · obtain ⟨hmem, hkey⟩ := get_ok hg
    exact absurd (by simpa [Object.key] using congrArg Key.kind hkey) (by simpa [NoSecret] using hw _ hmem)

theorem createClientConfig_noSecret (ns : String) (options : TransportOptions)
    (m : ObjectMetaMutation) (hostname : String) (listenPort connectPort : Int) :
    Builds NoSecret (· = none) []
      (Stunnel.createClientConfig c ns options m hostname listenPort connectPort) :=
  (createOrKeep_builds (by exact nofun)).weaken (fun _ h => h)
    fun _ h => absurd h (List.not_mem_nil _)

theorem newTransportClient_noSecret (nn : NamespacedName) (hostname : String) (ingressPort : Int)
    (options : TransportOptions) :
    Builds NoSecret (fun _ => True) [] (Stunnel.newTransportClient c nn hostname ingressPort options) := by
  unfold Stunnel.newTransportClient
  cases options.objMeta with
  | none => exact Builds.pure_nil _
  | some m =>
    refine (createClientConfig_noSecret c _ _ _ _ _ _).andThen fun e => ?_
    rcases e with _ | err
    · exact (credentials_noSecret c _).andThen fun e => by
        rcases e with _ | _ <;> exact Builds.pure_nil _
    · exact Builds.pure_nil _

theorem newTransportClient_fails (nn : NamespacedName) (hostname : String) (ingressPort : Int)
    (options : TransportOptions) {w : World} (hw : Within NoSecret w.store)
    (hf : Transient w.faults) :
    ∃ e, (Stunnel.newTransportClient c nn hostname ingressPort options w).1 = .error e := by
  unfold Stunnel.newTransportClient
  cases options.objMeta with
  | none => exact ⟨_, rfl⟩
  | some m =>
    simp only [bind_apply]
    obtain ⟨hw₁, -⟩ := createClientConfig_noSecret c nn.ns options m hostname
      Stunnel.clientListenPort ingressPort w hw hf
    rcases (Stunnel.createClientConfig c nn.ns options m hostname Stunnel.clientListenPort
      ingressPort w).1 with _ | err
    · have := credentials_fails c nn.ns hw₁
      dsimp only
      simp only [bind_apply]
      rcases hcr : (Stunnel.credentials c nn.ns (Stunnel.createClientConfig c nn.ns options m
        hostname Stunnel.clientListenPort ingressPort w).2).1 with _ | err
      · exact absurd hcr this
      · exact ⟨err, rfl⟩
    · exact ⟨err, rfl⟩

variable {serverHostname : String} {serverPort : Int} {pvcList : PVCList}
  {opts : List TransferOption}

theorem stunnelClient_noSecret :
    Builds NoSecret (fun _ => True) []
      (newRsyncTransferClientWithStunnel c serverHostname serverPort pvcList opts) := by
  unfold newRsyncTransferClientWithStunnel
  split
  · exact Builds.pure_nil _
  · split
    · exact Builds.pure_nil _
    · refine (newTransportClient_noSecret c _ _ _ _).andThen fun r => ?_
      rcases r with err | t
      · exact Builds.pure_nil _
      · exact finishClient_noSecret _

/-- **The stunnel source never gets through from the empty store.** No call of
`NewRsyncTransferClientWithStunnel` in a run from the empty store returns without an error:
it reads the TLS secret, and no call creates one. -/
theorem stunnelClient_not_ok {s : Store}
    (hs : Reach (fun _ : Unit =>
      newRsyncTransferClientWithStunnel c serverHostname serverPort pvcList opts) s)
    (fs : List (Option Reason)) (l : List (Request × Option Reason)) (hfs : Transient fs)
    (v : TransferClient) :
    (newRsyncTransferClientWithStunnel c serverHostname serverPort pvcList opts ⟨s, fs, l⟩).1 ≠
      .ok v := by
  have hw : Within NoSecret s := hs.within fun _ => stunnelClient_noSecret c
  unfold newRsyncTransferClientWithStunnel
  rcases clientOptions opts with err | options
  · nofun
  · rcases firstNamespace pvcList with err | ns
    · nofun
    · simp only [bind_apply]
      obtain ⟨e, he⟩ := newTransportClient_fails c _ serverHostname serverPort _ (w := ⟨s, fs, l⟩)
        hw hfs
      rw [he]
      nofun

/-! When the namespace holds the TLS secret, put there out of band, the stunnel source gets
through, and its runs keep to one round of pods as the null source's do. -/

variable {options : TransferOptions} {m : ObjectMetaMutation} {rsyncOptions : List String}
  {ns : String}

/-- One call of `NewRsyncTransferClientWithStunnel` keeps `PodRound` over its transport;
from a store without pods, a call that returns no error leaves the whole round. -/
theorem stunnelClient_step (hopts : clientOptions opts = .ok options)
    (hns : firstNamespace pvcList = .ok ns) (hm : options.sourcePodMeta = some m)
    (hlabels : (m.labels.map Prod.fst).Nodup)
    (hr : options.asRsyncCommandOptions = (rsyncOptions, none)) (w : World)
    (hw : PodRound (roundPods options m rsyncOptions (inNamespace pvcList ns)
      (Stunnel.clientTransport c ns serverPort)) w.store) :
    PodRound (roundPods options m rsyncOptions (inNamespace pvcList ns)
        (Stunnel.clientTransport c ns serverPort))
      (newRsyncTransferClientWithStunnel c serverHostname serverPort pvcList opts w).2.store ∧
    ((∃ v, (newRsyncTransferClientWithStunnel c serverHostname serverPort pvcList opts w).1 =
        .ok v) → podsOf w.store = [] →
      ((podsOf (newRsyncTransferClientWithStunnel c serverHostname serverPort pvcList opts
        w).2.store).map Object.unnamed).Perm
        (roundPods options m rsyncOptions (inNamespace pvcList ns)
          (Stunnel.clientTransport c ns serverPort))) := by
  have hk := newTransportClient_keepsPods c ⟨ns, ""⟩ serverHostname serverPort
    ⟨options.sourcePodMeta, "", "", "", false, ""⟩ w
  simp only [newRsyncTransferClientWithStunnel, hopts, hns, bind_apply]
  rcases ht : (Stunnel.newTransportClient c ⟨ns, ""⟩ serverHostname serverPort
    ⟨options.sourcePodMeta, "", "", "", false, ""⟩ w).1 with err | t
  · exact ⟨hw.of_podsOf_eq hk, fun ⟨v, hv⟩ => nomatch hv⟩
  obtain rfl := newTransportClient_ok c _ _ _ _ ht
  obtain ⟨h₁, h₂⟩ := @createRsyncClient_podRound ⟨pvcList, Stunnel.clientTransport c ns serverPort,
    options⟩ ns m rsyncOptions hm hlabels hr _ (hw.of_podsOf_eq hk)
  simp only [finishClient, hns, bind_apply]
  generalize createRsyncClient ⟨pvcList, Stunnel.clientTransport c ns serverPort, options⟩ ns _ = r
    at h₁ h₂
  obtain ⟨⟨tc, _ | err⟩, w'⟩ := r
  · exact ⟨h₁, fun _ h0 => h₂ rfl (hk.trans h0)⟩
  · exact ⟨h₁, fun ⟨v, hv⟩ => nomatch hv⟩

/-- **Every run of `NewRsyncTransferClientWithStunnel` from a store without pods keeps
`PodRound`.** -/
theorem stunnelClient_podRound (hopts : clientOptions opts = .ok options)
    (hns : firstNamespace pvcList = .ok ns) (hm : options.sourcePodMeta = some m)
    (hlabels : (m.labels.map Prod.fst).Nodup)
    (hr : options.asRsyncCommandOptions = (rsyncOptions, none)) {s₀ s : Store}
    (h₀ : podsOf s₀ = [])
    (hs : Steps (fun _ : Unit =>
      newRsyncTransferClientWithStunnel c serverHostname serverPort pvcList opts) s₀ s) :
    PodRound (roundPods options m rsyncOptions (inNamespace pvcList ns)
      (Stunnel.clientTransport c ns serverPort)) s := by
  induction hs with
  | refl => exact ⟨[], List.nil_sublist _, by simp [h₀]⟩
  | call _ fs l _ _ ih => exact (stunnelClient_step c hopts hns hm hlabels hr _ ih).1
  | status _ hst ih => exact ih.status hst

end StunnelClient

/-! ### What the first call without an error leaves -/

/-- **Retrying the constructors.** In every run from the empty store, with the same inputs,
any transient failures and any status the other controllers publish:
* a call of `NewRsyncTransferServerWithStunnel` that returns no error leaves, up to status,
  exactly the objects of one complete call (the TLS secret with the key material of the call
  that created it), when the stunnel config map and secret are not named as the rsync ones;
* so does a call of `NewRsyncTransferServerWithNull`;
* the stores of `NewRsyncClientWithNullTransport` hold, up to their generated names, the
  client pods of some PVCs of the first namespace, one each, and a call that starts from an
  empty store and returns no error leaves one pod for every such PVC;
* no call of `NewRsyncTransferClientWithStunnel` returns without an error;
* from a store without pods, such as one holding the TLS secret put there out of band, the
  stunnel source's stores hold, up to their generated names, some of the pods of one round,
  one for each PVC of the first namespace at most, and a call that starts with no pod and
  returns no error leaves the whole round. -/
theorem constructor_retries_settle :
    (∀ (c : Constants) (pvcList : PVCList) (opts : List TransferOption) (ns : String)
        (options : TransferOptions) (m : ObjectMetaMutation),
      c.stunnelConfig ≠ rsyncConfig → c.stunnelSecret ≠ rsyncSecretPrefix →
      serverSetup pvcList opts = .ok (ns, options, m) →
      ∀ s, Reach (newRsyncTransferServerWithStunnel c pvcList opts) s →
      ∀ cert fs l, Transient fs →
      (∃ v, (newRsyncTransferServerWithStunnel c pvcList opts cert ⟨s, fs, l⟩).1 = .ok v) →
      ∃ cert', ∀ x, x ∈ (newRsyncTransferServerWithStunnel c pvcList opts cert
          ⟨s, fs, l⟩).2.store.objects.map Object.withoutStatus ↔
        x ∈ stunnelServerObjects c pvcList ns options m cert') ∧
    (∀ (pvcList : PVCList) (opts : List TransferOption) (ns : String)
        (options : TransferOptions) (m : ObjectMetaMutation),
      serverSetup pvcList opts = .ok (ns, options, m) →
      ∀ s, Reach (fun _ : Unit => newRsyncTransferServerWithNull pvcList opts) s →
      ∀ fs l, Transient fs →
      (∃ v, (newRsyncTransferServerWithNull pvcList opts ⟨s, fs, l⟩).1 = .ok v) →
      ∀ x, x ∈ (newRsyncTransferServerWithNull pvcList opts ⟨s, fs, l⟩).2.store.objects.map
          Object.withoutStatus ↔ x ∈ nullServerObjects pvcList ns options m) ∧
    (∀ (serverHostname : String) (serverPort : Int) (pvcList : PVCList)
        (opts : List TransferOption) (options : TransferOptions) (m : ObjectMetaMutation)
        (rsyncOptions : List String) (ns : String),
      clientOptions opts = .ok options → firstNamespace pvcList = .ok ns →
      options.sourcePodMeta = some m → (m.labels.map Prod.fst).Nodup →
      options.asRsyncCommandOptions = (rsyncOptions, none) →
      ∀ s, Reach (fun _ : Unit =>
        newRsyncClientWithNullTransport serverHostname serverPort pvcList opts) s →
      OneRound options m rsyncOptions (Null.newTransport serverHostname serverPort)
        (inNamespace pvcList ns) s ∧
      ∀ fs l, (∃ v, (newRsyncClientWithNullTransport serverHostname serverPort pvcList opts
          ⟨s, fs, l⟩).1 = .ok v) → s.objects = [] →
        ((newRsyncClientWithNullTransport serverHostname serverPort pvcList opts
          ⟨s, fs, l⟩).2.store.objects.map Object.unnamed).Perm ((inNamespace pvcList ns).map
            (clientPod options m rsyncOptions (Null.newTransport serverHostname serverPort)))) ∧
    (∀ (c : Constants) (serverHostname : String) (serverPort : Int) (pvcList : PVCList)
        (opts : List TransferOption) (s : Store),
      Reach (fun _ : Unit =>
        newRsyncTransferClientWithStunnel c serverHostname serverPort pvcList opts) s →
      ∀ fs l, Transient fs → ∀ v,
        (newRsyncTransferClientWithStunnel c serverHostname serverPort pvcList opts
          ⟨s, fs, l⟩).1 ≠ .ok v) ∧
    (∀ (c : Constants) (serverHostname : String) (serverPort : Int) (pvcList : PVCList)
        (opts : List TransferOption) (options : TransferOptions) (m : ObjectMetaMutation)
        (rsyncOptions : List String) (ns : String),
      clientOptions opts = .ok options → firstNamespace pvcList = .ok ns →
      options.sourcePodMeta = some m → (m.labels.map Prod.fst).Nodup →
      options.asRsyncCommandOptions = (rsyncOptions, none) →
      (roundPods options m rsyncOptions (inNamespace pvcList ns)
        (Stunnel.clientTransport c ns serverPort)).length = (inNamespace pvcList ns).length ∧
      ∀ s₀ s, podsOf s₀ = [] → Steps (fun _ : Unit =>
        newRsyncTransferClientWithStunnel c serverHostname serverPort pvcList opts) s₀ s →
      PodRound (roundPods options m rsyncOptions (inNamespace pvcList ns)
        (Stunnel.clientTransport c ns serverPort)) s ∧
      ∀ fs l, (∃ v, (newRsyncTransferClientWithStunnel c serverHostname serverPort pvcList opts
          ⟨s, fs, l⟩).1 = .ok v) → podsOf s = [] →
        ((podsOf (newRsyncTransferClientWithStunnel c serverHostname serverPort pvcList opts
          ⟨s, fs, l⟩).2.store).map Object.unnamed).Perm (roundPods options m rsyncOptions
            (inNamespace pvcList ns) (Stunnel.clientTransport c ns serverPort))) :=
  ⟨fun _ _ _ _ _ _ hconf hsec hsetup _ hs cert fs l hfs hok =>
      withStunnel_converges ⟨hconf, hsec⟩ hsetup hs cert fs l hfs hok,
    fun _ _ _ _ _ hsetup _ hs fs l hfs hok => withNull_converges hsetup hs fs l hfs hok,
    fun _ _ _ _ _ _ _ _ hopts hns hm hlabels hr _ hs =>
      have hround := nullClient_oneRound hopts hns hm hlabels hr hs
      ⟨hround, fun _ _ hok h0 => (nullClient_step hopts hns hm hlabels hr _ hround).2 hok h0⟩,
    fun c _ _ _ _ _ hs fs l hfs v => stunnelClient_not_ok c hs fs l hfs v,
    fun c _ _ _ _ _ _ _ _ hopts hns hm hlabels hr =>
      ⟨roundPods_stunnel_length _ _ _ c Stunnel.clientListenPort _ _ 0 rfl
          (by simp [Stunnel.clientTransport]),
        fun _ _ h₀ hs =>
          have hround := stunnelClient_podRound c hopts hns hm hlabels hr h₀ hs
          ⟨hround, fun _ _ hok h0 => (stunnelClient_step c hopts hns hm hlabels hr _ hround).2 hok h0⟩⟩⟩

/-- Runs that get through. With stunnel, the first call creates the route and waits for its
host, the router assigns one, and the next call creates the stunnel and rsync objects and
returns no error. With the null transport, the first call creates the service and waits for
its ingress, the load balancer publishes one, and the next call creates the rsync objects
and returns no error. On the source, a failure-free first call creates the pod of the
PVC; with stunnel it does so from a store that holds the TLS secret. Over two PVCs whose
first call loses the second `Create`, the stunnel source settles with one pod, inside the
round the theorem allows. -/
theorem constructor_retries_settle_runs :
    let pvcs : PVCList := [⟨"b", "data", "data"⟩]
    let opts : List TransferOption :=
      [.destinationMetaObjectMutation ⟨"dst", "b", [("app", "rsync-dst")], []⟩]
    let m : ObjectMetaMutation := ⟨⟨"dst", "b", [("app", "rsync-dst")], []⟩, .merge⟩
    let c : Constants := ⟨"stunnel-config", "stunnel-credentials", 8443⟩
    let cert : Except Error SSLCert := .ok ⟨"crt", "key"⟩
    let routed : Store := ⟨[⟨"dst", "b", [("app", "rsync-dst")], [], true,
      .route 8443 "dst-b.apps.example"⟩], by decide, by decide, 0⟩
    let balanced : Store := ⟨[⟨"dst", "b", [("app", "rsync-dst")], [], true,
      .service ⟨[⟨"dst", 8080, 2222⟩], [("app", "rsync-dst")], "LoadBalancer"⟩
        [⟨"lb.example", ""⟩]⟩], by decide, by decide, 0⟩
    let source : List TransferOption :=
      [.sourceMetaObjectMutation ⟨"data", "a", [("app", "rsync-src")], []⟩]
    let srcPvcs : PVCList := [⟨"a", "data", "data"⟩]
    let srcMeta : ObjectMetaMutation := ⟨⟨"data", "a", [("app", "rsync-src")], []⟩, .merge⟩
    let options := (TransferOptions.empty.apply source).1
    let keyed : Store := ⟨[⟨"stunnel-credentials", "a", [], [], true,
      .secret [("tls.key", "key"), ("tls.crt", "crt")]⟩], by decide, by decide, 0⟩
    let twoPvcs : PVCList := [⟨"a", "data1", "data1"⟩, ⟨"a", "data2", "data2"⟩]
    let stunnelCall := newRsyncTransferClientWithStunnel c "dst.example" 2222 srcPvcs source
    let stunnelTwo := newRsyncTransferClientWithStunnel c "dst.example" 2222 twoPvcs source
    let lossy := (stunnelTwo ⟨keyed, [none, none, none, none, some (.other 500)], []⟩).2.store
    (Reach (newRsyncTransferServerWithStunnel c pvcs opts) routed ∧
      (∃ v, (newRsyncTransferServerWithStunnel c pvcs opts cert ⟨routed, [], []⟩).1 = .ok v) ∧
      ∃ cert', ∀ x, x ∈ (newRsyncTransferServerWithStunnel c pvcs opts cert
          ⟨routed, [], []⟩).2.store.objects.map Object.withoutStatus ↔
        x ∈ stunnelServerObjects c pvcs "b" (TransferOptions.empty.apply opts).1 m cert') ∧
    (Reach (fun _ : Unit => newRsyncTransferServerWithNull pvcs opts) balanced ∧
      (∃ v, (newRsyncTransferServerWithNull pvcs opts ⟨balanced, [], []⟩).1 = .ok v) ∧
      ∀ x, x ∈ (newRsyncTransferServerWithNull pvcs opts ⟨balanced, [], []⟩).2.store.objects.map
          Object.withoutStatus ↔
        x ∈ nullServerObjects pvcs "b" (TransferOptions.empty.apply opts).1 m) ∧
    (∃ v, (newRsyncClientWithNullTransport "dst.example" 2222 srcPvcs source
        ⟨Store.empty, [], []⟩).1 = .ok v) ∧
      ((newRsyncClientWithNullTransport "dst.example" 2222 srcPvcs source
        ⟨Store.empty, [], []⟩).2.store.objects.map Object.unnamed).Perm ((inNamespace srcPvcs "a").map
        (clientPod options srcMeta options.asRsyncCommandOptions.1
          (Null.newTransport "dst.example" 2222))) ∧
    ((∃ v, (stunnelCall ⟨keyed, [], []⟩).1 = .ok v) ∧
      ((podsOf (stunnelCall ⟨keyed, [], []⟩).2.store).map Object.unnamed).Perm
        (roundPods options srcMeta options.asRsyncCommandOptions.1 (inNamespace srcPvcs "a")
          (Stunnel.clientTransport c "a" 2222)) ∧
      (∃ v, (stunnelTwo ⟨lossy, [], []⟩).1 = .ok v) ∧
      PodRound (roundPods options srcMeta options.asRsyncCommandOptions.1
        (inNamespace twoPvcs "a") (Stunnel.clientTransport c "a" 2222))
        (stunnelTwo ⟨lossy, [], []⟩).2.store ∧
      (podsOf (stunnelTwo ⟨lossy, [], []⟩).2.store).length = 1) := by
  intro pvcs opts m c cert routed balanced source srcPvcs srcMeta options keyed twoPvcs
    stunnelCall stunnelTwo lossy
  have hr : Reach (newRsyncTransferServerWithStunnel c pvcs opts) routed :=
    .status (.call cert [] [] .empty nofun) rfl
  have hb : Reach (fun _ : Unit => newRsyncTransferServerWithNull pvcs opts) balanced :=
    .status (.call () [] [] .empty nofun) rfl
  have hrok : ∃ v, (newRsyncTransferServerWithStunnel c pvcs opts cert ⟨routed, [], []⟩).1 = .ok v :=
    ⟨_, rfl⟩
  have hbok : ∃ v, (newRsyncTransferServerWithNull pvcs opts ⟨balanced, [], []⟩).1 = .ok v :=
    ⟨_, rfl⟩
  have hcok : ∃ v, (newRsyncClientWithNullTransport "dst.example" 2222 srcPvcs source
      ⟨Store.empty, [], []⟩).1 = .ok v :=
    ⟨_, rfl⟩
  refine ⟨⟨hr, hrok, constructor_retries_settle.1 c pvcs opts "b" _ m (by decide) (by decide) rfl
      routed hr cert [] [] nofun hrok⟩,
    ⟨hb, hbok, constructor_retries_settle.2.1 pvcs opts "b" _ m rfl balanced hb [] [] nofun hbok⟩,
    hcok, (constructor_retries_settle.2.2.1 "dst.example" 2222 srcPvcs source options srcMeta
      options.asRsyncCommandOptions.1 "a" rfl rfl rfl (by decide) rfl Store.empty .empty).2 [] []
      hcok rfl,
    ?_⟩
  have hsok : ∃ v, (stunnelCall ⟨keyed, [], []⟩).1 = .ok v := ⟨_, rfl⟩
  have hlossy : Steps (fun _ : Unit => stunnelTwo) keyed lossy :=
    .call () _ [] .refl (by simp [Transient])
  -- the settled store stated through the let-bound call, so that no unification evaluates it
  have hrun : Steps (fun _ : Unit => stunnelTwo) keyed (stunnelTwo ⟨lossy, [], []⟩).2.store :=
    .call () [] [] hlossy nofun
  exact ⟨hsok, ((constructor_retries_settle.2.2.2.2 c "dst.example" 2222 srcPvcs source options
      srcMeta options.asRsyncCommandOptions.1 "a" rfl rfl rfl (by decide) rfl).2 keyed keyed rfl
      .refl).2 [] [] hsok rfl, ⟨_, rfl⟩,
    ((constructor_retries_settle.2.2.2.2 c "dst.example" 2222 twoPvcs source options srcMeta
      options.asRsyncCommandOptions.1 "a" rfl rfl rfl (by decide) rfl).2 keyed _ rfl hrun).1,
    by decide⟩

/-- A run of `NewRsyncClientWithNullTransport` over two PVCs: the first call's second
`Create` fails, the second call finds the one pod and returns no error, and the second PVC
never gets its pod. A failure-free first call would have created both. -/
theorem nullClient_retry_skips_failed_pvc :
    let call := newRsyncClientWithNullTransport "dst.example" 2222
      [⟨"a", "data1", "data1"⟩, ⟨"a", "data2", "data2"⟩]
      [.sourceMetaObjectMutation ⟨"data", "a", [("app", "rsync-src")], []⟩]
    let first := call ⟨Store.empty, [none, none, some (.other 500)], []⟩
    let second := call ⟨first.2.store, [], []⟩
    (∃ e, first.1 = .error e) ∧ (∃ v, second.1 = .ok v) ∧
      second.2.store.objects.length = 1 ∧
      (call ⟨Store.empty, [], []⟩).2.store.objects.length = 2 :=
  ⟨⟨_, rfl⟩, ⟨_, rfl⟩, rfl, rfl⟩

end Rsync

end VolSync
