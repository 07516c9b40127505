import VolSync.Converge
import VolSync.Mover

set_option autoImplicit false

/-!
# Namespaces keep the destination apart

The destination and the source of a replication, and the movers of other replications, run
against one API server, each reconciler on its own schedule. Every object the destination
writes has a name fixed by the namespace of its claims (`stunnel-config`,
`crane2-rsync-config`, `rsync-server`, …), and every call it makes names a key of that
namespace. So what the destination does depends on its namespace only, and what the others
do outside it cannot disturb it.

This file makes that precise as a simulation. `Store.inNs ns` is the part of the store in
namespace `ns`. A program is `NsLocal ns` when, from two worlds with the same faults whose
stores agree on `ns`, it returns the same result and leaves stores that agree on `ns`, and
it leaves every other namespace as it is; it is `NsFrame ns` when it leaves `ns` as it is.
Both are closed under `pure`, `bind` and `if`, so each constructor is checked call by call.

* `newRsyncTransferServerWithStunnel_nsLocal`, `newRsyncTransferServerWithNull_nsLocal`: the
  destination constructors are local to the namespace of their claims.
* `newRsyncTransferClientWithStunnel_nsFrame`, `newRsyncClientWithNullTransport_nsFrame`,
  `cleanupObjects_nsFrame`: a client over the claims of another namespace, and the sweeper of
  an owner in another namespace, leave the namespace as it is.
* `Interleaved`: runs that mix calls of the destination, under transient faults, with calls
  of any other programs, under any faults, and with status changes.
* `Interleaved.simulates`: the part in `ns` of every state of such a run is a state of a run
  of the destination alone.
* `Interleaved.builds`: so whatever every call of the destination `Builds` holds of the
  namespace in every state of such a run.
* `destination_isolated`: **the destination converges in every interleaving**: in every
  state the namespace holds only the destination's objects, and once a call has returned no
  error it holds exactly them.
-/

namespace VolSync

/-! ### The objects of one namespace -/

/-- The objects of the store in namespace `ns`, in the store's order. -/
def Store.inNs (ns : String) (s : Store) : List Object := s.objects.filter (·.ns = ns)

def Store.restrict (ns : String) (s : Store) : Store :=
  ⟨s.inNs ns, s.keys_nodup.sublist ((List.filter_sublist _).map _),
    fun o ho => s.all_created o (List.mem_of_mem_filter ho), s.nextId⟩

namespace Store

variable {ns : String}

theorem mem_inNs {s : Store} {o : Object} : o ∈ s.inNs ns ↔ o ∈ s.objects ∧ o.ns = ns := by
  simp [inNs]

@[simp] theorem restrict_objects (s : Store) : (s.restrict ns).objects = s.inNs ns := rfl

@[simp] theorem inNs_restrict (s : Store) : (s.restrict ns).inNs ns = s.inNs ns := by
  simp [restrict, inNs, List.filter_filter]

theorem objects_eq_inNs_iff (s : Store) :
    s.objects = s.inNs ns ↔ ∀ ns', ns' ≠ ns → s.inNs ns' = [] := by
  simp only [inNs, eq_comm (a := s.objects), List.filter_eq_self, List.filter_eq_nil_iff,
    decide_eq_true_eq]
  exact ⟨fun h ns' hne o ho hns => hne (hns ▸ h o ho),
    fun h o ho => Classical.byContradiction fun hne => h o.ns hne o ho rfl⟩

theorem key_mem_iff_inNs (s : Store) {k : Key} (hk : k.ns = ns) :
    k ∈ s.objects.map Object.key ↔ k ∈ (s.inNs ns).map Object.key := by
  simp only [List.mem_map, mem_inNs]
  exact ⟨fun ⟨o, ho, he⟩ => ⟨o, ⟨ho, (congrArg Key.ns he).trans hk⟩, he⟩,
    fun ⟨o, ⟨ho, _⟩, he⟩ => ⟨o, ho, he⟩⟩

theorem get_eq_find_inNs (s : Store) {k : Key} (hk : k.ns = ns) :
    s.get k = (s.inNs ns).find? (·.key = k) := by
  rw [Store.get, inNs, List.find?_filter]
  congr 1
  funext o
  by_cases h : o.key = k
  · have hns : o.ns = ns := (congrArg Key.ns h).trans hk
    simp [h, hns]
  · simp [h]

end Store

/-! ### Local programs -/

/-- `p` leaves the objects of namespace `ns` as they are. -/
def NsFrame (ns : String) {α : Type} (p : Cmd α) : Prop :=
  ∀ w, (p w).2.store.inNs ns = w.store.inNs ns

/-- `p` reads and writes namespace `ns` only. From two worlds with the same faults whose
stores agree on `ns`, it returns the same result, consumes the same faults and leaves stores
that agree on `ns`; and it leaves every other namespace as it is. -/
structure NsLocal (ns : String) {α : Type} (p : Cmd α) : Prop where
  agree : ∀ w₁ w₂ : World, w₁.faults = w₂.faults → w₁.store.inNs ns = w₂.store.inNs ns →
    (p w₁).1 = (p w₂).1 ∧ (p w₁).2.faults = (p w₂).2.faults ∧
      (p w₁).2.store.inNs ns = (p w₂).2.store.inNs ns
  frame : ∀ ns', ns' ≠ ns → NsFrame ns' p

/-- Two outcomes of one store operation agree on `ns`: the same reason, or the same value
and stores that agree on `ns`. -/
def OutcomeAgree {α : Type} (ns : String) :
    Except Reason (α × Store) → Except Reason (α × Store) → Prop
  | .ok (a₁, s₁), .ok (a₂, s₂) => a₁ = a₂ ∧ s₁.inNs ns = s₂.inNs ns
  | .error r₁, .error r₂ => r₁ = r₂
  | _, _ => False

/-- A store operation that leaves `ns` as it is. -/
def OpFrame (ns : String) {α : Type} (op : Store → Except Reason (α × Store)) : Prop :=
  ∀ s a s', op s = .ok (a, s') → s'.inNs ns = s.inNs ns

/-- A store operation local to `ns`. -/
structure OpLocal (ns : String) {α : Type} (op : Store → Except Reason (α × Store)) : Prop where
  agree : ∀ s₁ s₂ : Store, s₁.inNs ns = s₂.inNs ns → OutcomeAgree ns (op s₁) (op s₂)
  frame : ∀ ns', ns' ≠ ns → OpFrame ns' op

namespace NsFrame

variable {ns : String} {α β : Type}

theorem pure (a : α) : NsFrame ns (Pure.pure a : Cmd α) := fun _ => rfl

theorem bind_post {p : Cmd α} {f : α → Cmd β} (hp : NsFrame ns p) (Q : α → Prop)
    (hQ : ∀ w, Q (p w).1) (hf : ∀ a, Q a → NsFrame ns (f a)) : NsFrame ns (p >>= f) :=
  fun w => (hf _ (hQ w) _).trans (hp w)

theorem bind {p : Cmd α} {f : α → Cmd β} (hp : NsFrame ns p) (hf : ∀ a, NsFrame ns (f a)) :
    NsFrame ns (p >>= f) :=
  hp.bind_post (fun _ => True) (fun _ => trivial) fun a _ => hf a

theorem map {p : Cmd α} (f : α → β) (hp : NsFrame ns p) : NsFrame ns (f <$> p) := hp

theorem ite {c : Prop} [Decidable c] {p q : Cmd α} (hp : NsFrame ns p) (hq : NsFrame ns q) :
    NsFrame ns (if c then p else q) := by
  split
  · exact hp
  · exact hq

theorem apiCall {req : Request} {op : Store → Except Reason (α × Store)} (hop : OpFrame ns op) :
    NsFrame ns (VolSync.apiCall req op) := by
  intro w
  unfold VolSync.apiCall
  split
  · rfl
  · split
    · exact hop _ _ _ ‹_›
    · rfl

end NsFrame

namespace NsLocal

variable {ns : String} {α β : Type}

theorem pure (a : α) : NsLocal ns (Pure.pure a : Cmd α) :=
  ⟨fun _ _ hf hs => ⟨rfl, hf, hs⟩, fun _ _ => NsFrame.pure a⟩

/-- Sequencing, where the second program need only be local for the results `Q` allows. -/
theorem bind_post {p : Cmd α} {f : α → Cmd β} (hp : NsLocal ns p) (Q : α → Prop)
    (hQ : ∀ w, Q (p w).1) (hf : ∀ a, Q a → NsLocal ns (f a)) : NsLocal ns (p >>= f) := by
  refine ⟨fun w₁ w₂ hfs hs => ?_, fun ns' hne =>
    (hp.frame ns' hne).bind_post Q hQ fun a ha => (hf a ha).frame ns' hne⟩
  obtain ⟨h₁, h₂, h₃⟩ := hp.agree w₁ w₂ hfs hs
  simp only [bind_apply, h₁]
  exact (hf _ (hQ w₂)).agree _ _ h₂ h₃

theorem bind {p : Cmd α} {f : α → Cmd β} (hp : NsLocal ns p) (hf : ∀ a, NsLocal ns (f a)) :
    NsLocal ns (p >>= f) :=
  hp.bind_post (fun _ => True) (fun _ => trivial) fun a _ => hf a

theorem map {p : Cmd α} (f : α → β) (hp : NsLocal ns p) : NsLocal ns (f <$> p) :=
  ⟨fun w₁ w₂ hf hs => by
    obtain ⟨h₁, h₂, h₃⟩ := hp.agree w₁ w₂ hf hs
    exact ⟨congrArg f h₁, h₂, h₃⟩, fun ns' hne => (hp.frame ns' hne).map f⟩

theorem ite {c : Prop} [Decidable c] {p q : Cmd α} (hp : NsLocal ns p) (hq : NsLocal ns q) :
    NsLocal ns (if c then p else q) := by
  split
  · exact hp
  · exact hq

theorem apiCall {req : Request} {op : Store → Except Reason (α × Store)} (hop : OpLocal ns op) :
    NsLocal ns (VolSync.apiCall req op) := by
  refine ⟨fun w₁ w₂ hf hs => ?_, fun ns' hne => NsFrame.apiCall (hop.frame ns' hne)⟩
  have hn : w₁.nextFault = w₂.nextFault := by simp only [World.nextFault, hf]
  have hag := hop.agree _ _ hs
  unfold VolSync.apiCall
  rw [hn]
  rcases w₂.nextFault with _ | r
  · rcases h₁ : op w₁.store with r₁ | ⟨a₁, s₁⟩ <;> rcases h₂ : op w₂.store with r₂ | ⟨a₂, s₂⟩ <;>
      simp only [h₁, h₂, OutcomeAgree] at hag ⊢
    · exact ⟨by rw [hag], by rw [hf], hs⟩
    · exact ⟨by rw [hag.1], by rw [hf], hag.2⟩
  · exact ⟨rfl, by rw [hf], hs⟩

end NsLocal

/-! ### The store's operations -/

namespace Store

variable {ns : String}

theorem create_inNs {o : Object} {s s' : Store} {u : Unit} (h : create o s = .ok (u, s'))
    (ns : String) :
    s'.inNs ns = if o.ns = ns then { o with created := true } :: s.inNs ns else s.inNs ns := by
  unfold create at h
  split at h
  · cases h
  · cases h
    by_cases ho : o.ns = ns <;> simp [inNs, List.filter_cons, ho]

theorem update_inNs {o : Object} {s s' : Store} {u : Unit} (h : update o s = .ok (u, s'))
    (ns : String) :
    s'.inNs ns = (s.inNs ns).map fun x => if x.key = o.key then { o with created := true } else x := by
  unfold update at h
  split at h
  · cases h
    simp only [inNs, List.filter_map]
    congr 1
    refine List.filter_congr fun x _ => ?_
    have hns : (if x.key = o.key then { o with created := true } else x).ns = x.ns := by
      split
      · exact (congrArg Key.ns ‹x.key = o.key›).symm
      · rfl
    simp only [Function.comp_apply, hns]
  · cases h

theorem update_frame {o : Object} {s s' : Store} {u : Unit} (h : update o s = .ok (u, s'))
    {ns : String} (hne : o.ns ≠ ns) : s'.inNs ns = s.inNs ns := by
  rw [update_inNs h]
  refine (List.map_congr_left fun x hx => ?_).trans (List.map_id _)
  have hk : x.key ≠ o.key := fun he => hne ((congrArg Key.ns he).symm.trans (mem_inNs.mp hx).2)
  simp [hk]

theorem create_opLocal {o : Object} (ho : o.ns = ns) : OpLocal ns (create o) := by
  refine ⟨fun s₁ s₂ hs => ?_, fun ns' hne s u s' h => by rw [create_inNs h, if_neg (ho ▸ hne.symm)]⟩
  have hk : o.key ∈ s₁.objects.map Object.key ↔ o.key ∈ s₂.objects.map Object.key := by
    rw [key_mem_iff_inNs s₁ ho, key_mem_iff_inNs s₂ ho, hs]
  unfold create
  by_cases h₁ : o.key ∈ s₁.objects.map Object.key
  · simp only [dif_pos h₁, dif_pos (hk.mp h₁), OutcomeAgree]
  · simp only [dif_neg h₁, dif_neg (mt hk.mpr h₁), OutcomeAgree, inNs, List.filter_cons, ho,
      decide_True, if_true]
    exact ⟨trivial, congrArg _ hs⟩

theorem update_opLocal {o : Object} (ho : o.ns = ns) : OpLocal ns (update o) := by
  refine ⟨fun s₁ s₂ hs => ?_, fun ns' hne s u s' h => update_frame h (ho ▸ hne.symm)⟩
  have hk : o.key ∈ s₁.objects.map Object.key ↔ o.key ∈ s₂.objects.map Object.key := by
    rw [key_mem_iff_inNs s₁ ho, key_mem_iff_inNs s₂ ho, hs]
  by_cases h₁ : o.key ∈ s₁.objects.map Object.key
  · obtain ⟨s₁', h₁'⟩ : ∃ s', update o s₁ = .ok ((), s') := ⟨_, if_pos h₁⟩
    obtain ⟨s₂', h₂'⟩ : ∃ s', update o s₂ = .ok ((), s') := ⟨_, if_pos (hk.mp h₁)⟩
    rw [h₁', h₂']
    exact ⟨rfl, by rw [update_inNs h₁', update_inNs h₂', hs]⟩
  · simp only [update, if_neg h₁, if_neg (mt hk.mpr h₁), OutcomeAgree]

theorem create_opFrame {o : Object} (ho : o.ns ≠ ns) : OpFrame ns (create o) :=
  fun _ _ _ h => by rw [create_inNs h, if_neg ho]

theorem generate_opFrame (generateName : String) {o : Object} (ho : o.ns ≠ ns) :
    OpFrame ns (generate generateName o) :=
  fun s _ _ h => (create_opFrame (o := { o with name := generateName ++ toString s.nextId }) ho
    _ _ _ h).trans rfl

theorem update_opFrame {o : Object} (ho : o.ns ≠ ns) : OpFrame ns (update o) :=
  fun _ _ _ h => update_frame h ho

theorem delete_opFrame {k : Key} (hk : k.ns ≠ ns) : OpFrame ns (delete k) := by
  intro s u s' h
  unfold delete at h
  split at h
  · cases h
    simp only [inNs, List.filter_filter]
    refine List.filter_congr fun x _ => ?_
    by_cases hx : x.ns = ns
    · have : x.key ≠ k := fun he => hk ((congrArg Key.ns he).symm.trans hx)
      simp [hx, this]
    · simp [hx]
  · cases h

theorem deleteAllOf_opFrame (kind : Kind) (sel : StrMap) {ns₀ : String} (hne : ns₀ ≠ ns) :
    OpFrame ns (deleteAllOf kind sel ns₀) := by
  rintro s u s' ⟨⟩
  simp only [inNs, List.filter_filter]
  refine List.filter_congr fun x _ => ?_
  by_cases hx : x.ns = ns
  · simp [hx, Selects, hne]
  · simp [hx]

end Store

section Calls

variable {ns : String}

theorem create_nsLocal {o : Object} (ho : o.ns = ns) : NsLocal ns (create o) :=
  (NsLocal.apiCall (Store.create_opLocal ho)).map _

theorem update_nsLocal {o : Object} (ho : o.ns = ns) : NsLocal ns (update o) :=
  (NsLocal.apiCall (Store.update_opLocal ho)).map _

theorem get_nsLocal {k : Key} (hk : k.ns = ns) : NsLocal ns (get k) := by
  refine NsLocal.apiCall ⟨fun s₁ s₂ hs => ?_, fun _ _ s a s' h => ?_⟩
  · rw [Store.get_eq_find_inNs s₁ hk, Store.get_eq_find_inNs s₂ hk, hs]
    rcases hf : (s₂.inNs ns).find? (·.key = k) with _ | o <;> simp [hf, OutcomeAgree, hs]
  · split at h <;> cases h; rfl

theorem create_nsFrame {o : Object} (ho : o.ns ≠ ns) : NsFrame ns (create o) :=
  (NsFrame.apiCall (Store.create_opFrame ho)).map _

theorem generate_nsFrame (generateName : String) {o : Object} (ho : o.ns ≠ ns) :
    NsFrame ns (generate generateName o) :=
  (NsFrame.apiCall (Store.generate_opFrame generateName ho)).map _

theorem update_nsFrame {o : Object} (ho : o.ns ≠ ns) : NsFrame ns (update o) :=
  (NsFrame.apiCall (Store.update_opFrame ho)).map _

theorem get_nsFrame (k : Key) : NsFrame ns (get k) :=
  fun w => by rw [get_store]

theorem list_nsFrame (kind : Kind) (sel : StrMap) (ns₀ : Option String) :
    NsFrame ns (list kind sel ns₀) :=
  fun w => by rw [list_store]

theorem delete_nsFrame {k : Key} (hk : k.ns ≠ ns) : NsFrame ns (delete k) :=
  (NsFrame.apiCall (Store.delete_opFrame hk)).map _

theorem deleteAllOf_nsFrame (kind : Kind) (sel : StrMap) {ns₀ : String} (hne : ns₀ ≠ ns) :
    NsFrame ns (deleteAllOf kind sel ns₀) :=
  (NsFrame.apiCall (Store.deleteAllOf_opFrame kind sel hne)).map _

end Calls

/-! ### The destination is local to its namespace -/

section Destination

variable {ns : String}

theorem createOrKeep_nsLocal {o : Object} (ho : o.ns = ns) : NsLocal ns (createOrKeep o) :=
  (create_nsLocal ho).bind fun e => by cases e <;> exact NsLocal.pure _

theorem createOrUpdate_nsLocal {fresh : Object} {mutate : Object → Object} (hf : fresh.ns = ns)
    (hm : ∀ x, (mutate x).ns = x.ns) : NsLocal ns (createOrUpdate fresh mutate) := by
  refine (get_nsLocal hf).bind_post (fun r => ∀ o, r = .ok o → o.key = fresh.key)
    (fun _ _ h => (get_ok h).2) fun r hr => ?_
  rcases r with e | existing
  · exact NsLocal.ite (create_nsLocal ((hm _).trans hf)) (NsLocal.pure _)
  · have hex : existing.ns = ns := (congrArg Key.ns (hr _ rfl)).trans hf
    exact NsLocal.ite (NsLocal.pure _) (update_nsLocal ((hm _).trans hex))

theorem updateWithLabel_nsLocal {k : Key} (hk : k.ns = ns) (key value : String) :
    NsLocal ns (updateWithLabel k key value) := by
  refine (get_nsLocal hk).bind_post (fun r => ∀ o, r = .ok o → o.key = k)
    (fun _ _ h => (get_ok h).2) fun r hr => ?_
  rcases r with e | obj
  · exact NsLocal.pure _
  · exact update_nsLocal ((congrArg Key.ns (hr _ rfl)).trans hk)

theorem Route.newEndpoint_nsLocal (c : Constants) (nn : NamespacedName) (hnn : nn.ns = ns)
    (m : Option ObjectMetaMutation) : NsLocal ns (Route.newEndpoint c nn m) := by
  cases m with
  | none => exact NsLocal.pure _
  | some m =>
    exact (create_nsLocal hnn).bind fun err => by
      cases err <;> first | exact NsLocal.pure _ | exact NsLocal.ite (NsLocal.pure _) (NsLocal.pure _)

theorem Route.isHealthy_nsLocal {e : Endpoint} (he : e.namespacedName.ns = ns) :
    NsLocal ns (Route.isHealthy e) := by
  refine (get_nsLocal he).bind fun r => ?_
  split
  · exact NsLocal.pure _
  · split
    · exact NsLocal.ite (NsLocal.pure _) (NsLocal.pure _)
    · exact NsLocal.pure _

theorem LoadBalancer.newEndpoint_nsLocal (name : NamespacedName) (hname : name.ns = ns)
    (m : Option ObjectMetaMutation) (backendPort ingressPort : Int) :
    NsLocal ns (LoadBalancer.newEndpoint name m backendPort ingressPort) := by
  refine NsLocal.bind ?_ fun err => by cases err <;> exact NsLocal.pure _
  unfold LoadBalancer.createService
  cases m with
  | none => exact NsLocal.pure _
  | some m => exact createOrUpdate_nsLocal hname fun _ => rfl

theorem LoadBalancer.isHealthy_nsLocal {e : Endpoint} (he : e.namespacedName.ns = ns) :
    NsLocal ns (LoadBalancer.isHealthy e) := by
  refine (get_nsLocal he).bind fun r => ?_
  split
  · exact NsLocal.pure _
  · split <;> exact NsLocal.pure _

theorem Stunnel.newTransportServer_nsLocal (c : Constants) (nn : NamespacedName)
    (hnn : nn.ns = ns) (e : Endpoint) (options : TransportOptions) (cert : Except Error SSLCert) :
    NsLocal ns (Stunnel.newTransportServer c nn e options cert) := by
  subst hnn
  have hconfig : ∀ m listenPort connectPort,
      NsLocal nn.ns (Stunnel.createStunnelServerConfig c nn.ns m listenPort connectPort) :=
    fun _ _ _ => createOrKeep_nsLocal rfl
  have hsecret : ∀ m, NsLocal nn.ns (Stunnel.createStunnelServerSecret c nn.ns m cert) := by
    intro m
    cases cert
    · exact NsLocal.pure _
    · exact createOrKeep_nsLocal rfl
  have hfields : NsLocal nn.ns (Stunnel.setFields c nn) := by
    unfold Stunnel.setFields
    refine (get_nsLocal (by rfl)).bind fun r => ?_
    split
    · exact NsLocal.pure _
    · refine (get_nsLocal (by rfl)).bind fun r => ?_
      split
      · exact NsLocal.pure _
      · exact NsLocal.ite (NsLocal.pure _) (NsLocal.ite (NsLocal.pure _) (NsLocal.pure _))
  unfold Stunnel.newTransportServer
  cases options.objMeta with
  | none => exact NsLocal.pure _
  | some m =>
    exact (hconfig m _ _).bind fun _ => (hsecret m).bind fun _ => hfields.bind fun _ => NsLocal.pure _

theorem Rsync.newRsyncTransferServer_nsLocal {pvcList : PVCList}
    (hns : firstNamespace pvcList = .ok ns) (t : Transport) (e : Endpoint)
    (options : TransferOptions) : NsLocal ns (Rsync.newRsyncTransferServer pvcList t e options) := by
  let r : Rsync.TransferServer := ⟨pvcList, t, e, t.connectPort, options⟩
  have h₁ : ∀ m, NsLocal ns (r.createConfig m ns) := fun _ => createOrKeep_nsLocal rfl
  have h₂ : ∀ m, NsLocal ns (r.createSecret m ns) := fun _ => createOrKeep_nsLocal rfl
  have h₃ : ∀ m, NsLocal ns (r.createRsyncServer m ns) := fun _ => createOrKeep_nsLocal rfl
  unfold Rsync.newRsyncTransferServer
  simp only [hns]
  cases options.destinationPodMeta with
  | none => exact NsLocal.pure _
  | some m =>
    refine (h₁ m).bind fun err => ?_
    cases err
    · refine (h₂ m).bind fun err => ?_
      cases err
      · exact (h₃ m).bind fun err => by cases err <;> exact NsLocal.pure _
      · exact NsLocal.pure _
    · exact NsLocal.pure _

variable {pvcList : PVCList} {opts : List TransferOption} {options : TransferOptions}
  {m : ObjectMetaMutation}

/-- **`NewRsyncTransferServerWithStunnel` is local to the namespace of its claims.** -/
theorem Rsync.newRsyncTransferServerWithStunnel_nsLocal (c : Constants)
    (hsetup : Rsync.serverSetup pvcList opts = .ok (ns, options, m)) (cert : Except Error SSLCert) :
    NsLocal ns (Rsync.newRsyncTransferServerWithStunnel c pvcList opts cert) := by
  have hns := (Rsync.serverSetup_ok hsetup).1
  unfold Rsync.newRsyncTransferServerWithStunnel
  simp only [hsetup]
  refine (Route.newEndpoint_nsLocal c ⟨ns, m.name⟩ rfl (some m)).bind_post
    (fun r => ∀ v, r = .ok v → v.namespacedName = ⟨ns, m.name⟩)
    (fun w v hv => by rw [Route.newEndpoint_result c ⟨ns, m.name⟩ m w v hv]) fun r hr => ?_
  rcases r with err | e
  · exact NsLocal.pure _
  · refine (Route.isHealthy_nsLocal (e := e) (by rw [hr e rfl])).bind fun ⟨e', _, _⟩ => ?_
    refine NsLocal.ite (NsLocal.pure _) ?_
    refine (Stunnel.newTransportServer_nsLocal c ⟨ns, m.name⟩ rfl e' _ cert).bind
      fun ⟨t, err⟩ => ?_
    cases err
    · exact Rsync.newRsyncTransferServer_nsLocal hns _ _ _
    · exact NsLocal.pure _

/-- **`NewRsyncTransferServerWithNull` is local to the namespace of its claims.** -/
theorem Rsync.newRsyncTransferServerWithNull_nsLocal
    (hsetup : Rsync.serverSetup pvcList opts = .ok (ns, options, m)) :
    NsLocal ns (Rsync.newRsyncTransferServerWithNull pvcList opts) := by
  have hns := (Rsync.serverSetup_ok hsetup).1
  unfold Rsync.newRsyncTransferServerWithNull
  simp only [hsetup]
  refine (LoadBalancer.newEndpoint_nsLocal ⟨ns, m.name⟩ rfl (some m) _ _).bind_post
    (fun r => ∀ v, r = .ok v → v.namespacedName = ⟨ns, m.name⟩)
    (fun w v hv => by rw [LoadBalancer.newEndpoint_result _ m _ _ w v hv]; rfl) fun r hr => ?_
  rcases r with err | e
  · exact NsLocal.pure _
  · refine (LoadBalancer.isHealthy_nsLocal (e := e) (by rw [hr e rfl])).bind fun ⟨e', _, _⟩ => ?_
    exact NsLocal.ite (NsLocal.pure _) (Rsync.newRsyncTransferServer_nsLocal hns _ _ _)

end Destination

/-! ### What the other parties leave alone -/

section Others

variable {ns : String}

theorem createOrKeep_nsFrame {o : Object} (ho : o.ns ≠ ns) : NsFrame ns (createOrKeep o) :=
  (create_nsFrame ho).bind fun e => by cases e <;> exact NsFrame.pure _

/-- A destination constructor of another namespace leaves `ns` as it is. -/
theorem NsLocal.nsFrame {ns₀ : String} {α : Type} {p : Cmd α} (hp : NsLocal ns₀ p)
    (hne : ns₀ ≠ ns) : NsFrame ns p :=
  hp.frame ns (Ne.symm hne)

theorem Stunnel.newTransportClient_nsFrame (c : Constants) (nn : NamespacedName) (hnn : nn.ns ≠ ns)
    (hostname : String) (ingressPort : Int) (options : TransportOptions) :
    NsFrame ns (Stunnel.newTransportClient c nn hostname ingressPort options) := by
  have hcredentials : NsFrame ns (Stunnel.credentials c nn.ns) := by
    refine (get_nsFrame _).bind fun r => ?_
    split
    · exact NsFrame.pure _
    · exact NsFrame.ite (NsFrame.pure _) (NsFrame.ite (NsFrame.pure _) (NsFrame.pure _))
  unfold Stunnel.newTransportClient
  cases options.objMeta with
  | none => exact NsFrame.pure _
  | some m =>
    refine (createOrKeep_nsFrame hnn).bind fun err => ?_
    cases err
    · exact hcredentials.bind fun err => by cases err <;> exact NsFrame.pure _
    · exact NsFrame.pure _

theorem Rsync.createClientPods_nsFrame (options : TransferOptions) (m : ObjectMetaMutation)
    (rsyncOptions : List String) (pvcs : List PVC) :
    ∀ t, (∀ p ∈ pvcs, p.ns ≠ ns) →
      NsFrame ns (Rsync.createClientPods options m rsyncOptions pvcs t) := by
  induction pvcs with
  | nil => exact fun _ _ => NsFrame.pure _
  | cons pvc pvcs ih =>
    intro t h
    unfold Rsync.createClientPods
    cases Rsync.customizeTransportClientContainers t with
    | none => exact NsFrame.pure _
    | some t =>
      exact (generate_nsFrame _ (h pvc (.head _))).bind fun _ =>
        (ih t fun p hp => h p (.tail _ hp)).bind fun _ => NsFrame.pure _

/-- The client writes pods only in the namespace it is given, though it lists pods in
every namespace. -/
theorem Rsync.createRsyncClient_nsFrame (tc : Rsync.TransferClient) {ns₀ : String}
    (hne : ns₀ ≠ ns) : NsFrame ns (Rsync.createRsyncClient tc ns₀) := by
  unfold Rsync.createRsyncClient
  cases tc.options.sourcePodMeta with
  | none => exact NsFrame.pure _
  | some m =>
    refine (list_nsFrame _ _ _).bind fun r => ?_
    cases r with
    | error => exact NsFrame.pure _
    | ok pods =>
      refine NsFrame.ite (NsFrame.pure _) ?_
      split
      · exact NsFrame.pure _
      · refine (Rsync.createClientPods_nsFrame _ _ _ _ _ fun p hp => ?_).bind fun _ => NsFrame.pure _
        rw [of_decide_eq_true (List.mem_filter.mp hp).2]
        exact hne

theorem Rsync.finishClient_nsFrame (tc : Rsync.TransferClient) {ns₀ : String}
    (hns : firstNamespace tc.pvcList = .ok ns₀) (hne : ns₀ ≠ ns) :
    NsFrame ns (Rsync.finishClient tc) := by
  unfold Rsync.finishClient
  simp only [hns]
  exact (Rsync.createRsyncClient_nsFrame tc hne).bind fun r => by
    rcases r with ⟨_, _ | _⟩ <;> exact NsFrame.pure _

/-- **The stunnel client over claims of another namespace leaves `ns` as it is.** -/
theorem Rsync.newRsyncTransferClientWithStunnel_nsFrame (c : Constants) (serverHostname : String)
    (serverPort : Int) {pvcList : PVCList} (opts : List TransferOption) {ns₀ : String}
    (hns : firstNamespace pvcList = .ok ns₀) (hne : ns₀ ≠ ns) :
    NsFrame ns (Rsync.newRsyncTransferClientWithStunnel c serverHostname serverPort pvcList opts) := by
  unfold Rsync.newRsyncTransferClientWithStunnel
  cases Rsync.clientOptions opts with
  | error => exact NsFrame.pure _
  | ok options =>
    simp only [hns]
    refine (Stunnel.newTransportClient_nsFrame c ⟨ns₀, ""⟩ hne _ _ _).bind fun r => ?_
    cases r
    · exact NsFrame.pure _
    · exact Rsync.finishClient_nsFrame _ hns hne

/-- **The null-transport client over claims of another namespace leaves `ns` as it is.** -/
theorem Rsync.newRsyncClientWithNullTransport_nsFrame (serverHostname : String) (serverPort : Int)
    {pvcList : PVCList} (opts : List TransferOption) {ns₀ : String}
    (hns : firstNamespace pvcList = .ok ns₀) (hne : ns₀ ≠ ns) :
    NsFrame ns (Rsync.newRsyncClientWithNullTransport serverHostname serverPort pvcList opts) := by
  unfold Rsync.newRsyncClientWithNullTransport
  cases Rsync.clientOptions opts with
  | error => exact NsFrame.pure _
  | ok options => exact Rsync.finishClient_nsFrame _ hns hne

theorem deleteBulk_nsFrame (sel : StrMap) {ns₀ : String} (hne : ns₀ ≠ ns) (kinds : List Kind) :
    NsFrame ns (deleteBulk sel ns₀ kinds) := by
  induction kinds with
  | nil => exact NsFrame.pure _
  | cons k ks ih =>
    refine (deleteAllOf_nsFrame k sel hne).bind fun err => ?_
    split
    · exact NsFrame.pure _
    · exact ih

theorem deleteItems_nsFrame (items : List Object) (h : ∀ i ∈ items, i.ns ≠ ns) :
    NsFrame ns (deleteItems items) := by
  induction items with
  | nil => exact NsFrame.pure _
  | cons item items ih =>
    exact (delete_nsFrame (h item (.head _))).bind fun _ =>
      (ih fun i hi => h i (.tail _ hi)).bind fun _ => NsFrame.pure _

theorem deleteIterative_nsFrame (sel : StrMap) {ns₀ : String} (hne : ns₀ ≠ ns) (kinds : List Kind) :
    NsFrame ns (deleteIterative sel ns₀ kinds) := by
  induction kinds with
  | nil => exact NsFrame.pure _
  | cons k ks ih =>
    refine (list_nsFrame _ _ _).bind_post (fun r => ∀ items, r = .ok items → ∀ i ∈ items, i.ns = ns₀)
      (fun w items h i hi => ?_) fun r hr => ?_
    · rw [list_ok h] at hi
      have hsel := (List.mem_filter.mp hi).2
      simp only [Store.Selects, Bool.and_eq_true, Option.all_some, decide_eq_true_eq] at hsel
      exact hsel.2.symm
    · rcases r with err | items
      · exact ih.bind fun _ => NsFrame.pure _
      · exact (deleteItems_nsFrame items fun i hi => (hr items rfl i hi).symm ▸ hne).bind fun _ =>
          ih.bind fun _ => NsFrame.pure _

/-- **The sweeper of an owner in another namespace leaves `ns` as it is.** -/
theorem cleanupObjects_nsFrame (owner : Owner) (hne : owner.ns ≠ ns) (types iterativeTypes : List Kind) :
    NsFrame ns (cleanupObjects owner types iterativeTypes) :=
  (deleteBulk_nsFrame _ hne types).bind fun err => by
    cases err
    · exact (deleteIterative_nsFrame _ hne iterativeTypes).bind fun _ => NsFrame.pure _
    · exact NsFrame.pure _

end Others

/-! ### Runs shared with other parties -/

/-- The stores reached from `s` by calls `d i` of the destination, each under transient
faults, calls `f k` of other programs under any faults, and status changes of other
controllers, in any order. -/
inductive Interleaved {ι κ α β : Type} (d : ι → Cmd α) (f : κ → Cmd β) (s : Store) : Store → Prop
  | refl : Interleaved d f s s
  | own {s' : Store} (i : ι) (fs : List (Option Reason)) (l : List (Request × Option Reason)) :
      Interleaved d f s s' → Transient fs → Interleaved d f s (d i ⟨s', fs, l⟩).2.store
  | other {s' : Store} (k : κ) (fs : List (Option Reason)) (l : List (Request × Option Reason)) :
      Interleaved d f s s' → Interleaved d f s (f k ⟨s', fs, l⟩).2.store
  | status {s' s'' : Store} : Interleaved d f s s' → StatusStep s' s'' → Interleaved d f s s''

theorem Reach.steps {ι α : Type} {p : ι → Cmd α} {s s' : Store} (h : Reach p s)
    (hs : Steps p s s') : Reach p s' := by
  induction hs with
  | refl => exact h
  | call i fs l _ hfs ih => exact .call i fs l ih hfs
  | status _ hst ih => exact .status ih hst

section Simulation

variable {ns : String}

theorem Store.inNs_eq_of_objects_eq {s₀ s : Store} (h : s₀.objects = s.inNs ns) :
    s₀.inNs ns = s.inNs ns := by
  rw [Store.inNs, h]
  simp [Store.inNs, List.filter_filter]

theorem NsLocal.objects_eq_inNs {α : Type} {p : Cmd α} (hp : NsLocal ns p) {w : World}
    (h : w.store.objects = w.store.inNs ns) :
    (p w).2.store.objects = (p w).2.store.inNs ns := by
  rw [Store.objects_eq_inNs_iff] at h ⊢
  intro ns' hne
  rw [hp.frame ns' hne w, h ns' hne]

theorem StatusStep.restrict {s s' s₀ : Store} (h : StatusStep s s') (h₀ : s₀.objects = s.inNs ns) :
    StatusStep s₀ (s'.restrict ns) := by
  have hmap : ∀ t : Store, (t.inNs ns).map Object.withoutStatus =
      (t.objects.map Object.withoutStatus).filter (·.ns = ns) := fun t => by
    rw [List.filter_map]; rfl
  unfold StatusStep at h ⊢
  rw [Store.restrict_objects, h₀, hmap, hmap, h]

variable {ι κ α β : Type} {d : ι → Cmd α} {f : κ → Cmd β}

/-- **The simulation.** Along a run shared with programs that leave `ns` as it is, the part
in `ns` of every state is a state of a run of the destination alone, from the part in `ns`
of the start. -/
theorem Interleaved.simulates (hd : ∀ i, NsLocal ns (d i)) (hf : ∀ k, NsFrame ns (f k))
    {s s' : Store} (h : Interleaved d f s s') {s₀ : Store} (h₀ : s₀.objects = s.inNs ns) :
    ∃ s₀', Steps d s₀ s₀' ∧ s₀'.objects = s'.inNs ns := by
  induction h with
  | refl => exact ⟨s₀, .refl, h₀⟩
  | @own s₂ i fs l _ hfs ih =>
    obtain ⟨s₁, hs₁, he⟩ := ih
    have hin := Store.inNs_eq_of_objects_eq he
    refine ⟨_, .call i fs l hs₁ hfs, ?_⟩
    rw [(hd i).objects_eq_inNs (w := ⟨s₁, fs, l⟩) (he.trans hin.symm)]
    exact ((hd i).agree ⟨s₁, fs, l⟩ ⟨s₂, fs, l⟩ rfl hin).2.2
  | other k fs l _ ih =>
    obtain ⟨s₁, hs₁, he⟩ := ih
    exact ⟨s₁, hs₁, he.trans (hf k ⟨_, fs, l⟩).symm⟩
  | status _ hst ih =>
    obtain ⟨s₁, hs₁, he⟩ := ih
    exact ⟨_, .status hs₁ (hst.restrict he), rfl⟩

theorem Interleaved.solo (hd : ∀ i, NsLocal ns (d i)) (hf : ∀ k, NsFrame ns (f k)) {s : Store}
    (h : Interleaved d f Store.empty s) : ∃ s₀, Reach d s₀ ∧ s₀.objects = s.inNs ns := by
  obtain ⟨s₀, hs₀, he⟩ := h.simulates hd hf (show Store.empty.objects = Store.empty.inNs ns from rfl)
  exact ⟨s₀, Reach.empty.steps hs₀, he⟩

/-- A call of the destination in a shared run returns what it returns on the solo state,
and what follows it is, in `ns`, a solo run from the solo call's store. -/
theorem Interleaved.solo_after (hd : ∀ i, NsLocal ns (d i)) (hf : ∀ k, NsFrame ns (f k))
    {s₀ s : Store} (he : s₀.objects = s.inNs ns) (i : ι) (fs : List (Option Reason))
    (l : List (Request × Option Reason)) {s' : Store}
    (h : Interleaved d f (d i ⟨s, fs, l⟩).2.store s') :
    (d i ⟨s₀, fs, l⟩).1 = (d i ⟨s, fs, l⟩).1 ∧
      ∃ s₀', Steps d (d i ⟨s₀, fs, l⟩).2.store s₀' ∧ s₀'.objects = s'.inNs ns := by
  have hin := Store.inNs_eq_of_objects_eq he
  obtain ⟨hres, -, hstore⟩ := (hd i).agree ⟨s₀, fs, l⟩ ⟨s, fs, l⟩ rfl hin
  exact ⟨hres, h.simulates hd hf
    (((hd i).objects_eq_inNs (w := ⟨s₀, fs, l⟩) (he.trans hin.symm)).trans hstore)⟩

/-- What every call of the destination `Builds` holds of `ns` over a shared run from the
empty store: every object of `ns` is within `A`, and once a call gets through, some solo state
within `A` that has the keys `Ks` is the part in `ns` of every later state. -/
theorem Interleaved.builds {A : Object → Prop} {ok : α → Prop} {Ks : List Key}
    (hd : ∀ i, NsLocal ns (d i)) (hf : ∀ k, NsFrame ns (f k)) (hb : ∀ i, Builds A ok Ks (d i))
    {s : Store} (hs : Interleaved d f Store.empty s) :
    (∀ o ∈ s.inNs ns, A o.withoutStatus) ∧
    ∀ i fs l, Transient fs → ok (d i ⟨s, fs, l⟩).1 →
      ∀ s', Interleaved d f (d i ⟨s, fs, l⟩).2.store s' →
        ∃ s₀', s₀'.objects = s'.inNs ns ∧ Within A s₀' ∧ Has Ks s₀' := by
  obtain ⟨s₀, hs₀, he⟩ := hs.solo hd hf
  refine ⟨fun o ho => hs₀.within hb o (by rw [he]; exact ho), fun i fs l hfs hok s' hs' => ?_⟩
  obtain ⟨hres, s₀', hsteps, he'⟩ := Interleaved.solo_after hd hf he i fs l hs'
  obtain ⟨hW, -, -, hH⟩ := hb i ⟨s₀, fs, l⟩ (hs₀.within hb) hfs
  exact ⟨s₀', he', hsteps.within_has hb hW (hH (by rw [hres]; exact hok))⟩

end Simulation

/-! ### The destination in a shared cluster -/

open Rsync in
/-- **The destination keeps to its namespace.** Take a destination constructor whose setup
succeeds in namespace `ns`, and any programs that leave `ns` as they are: the client
constructors over the claims of another namespace, the destination constructors of another
namespace and the sweeper of an owner in another namespace are such programs. In every state
of any interleaving, from the empty store, of calls of the constructor under transient
faults, calls of those programs under any faults and status changes, every object of `ns`
is, up to status, one that one complete call writes; and once a call of the constructor has
returned no error, `ns` holds exactly those objects at every later state (with stunnel, up
to the key material of the TLS secret). -/
theorem destination_isolated :
    (∀ (c : Constants) (pvcList : PVCList) (opts : List TransferOption) (ns : String)
        (options : TransferOptions) (m : ObjectMetaMutation),
      serverSetup pvcList opts = .ok (ns, options, m) →
      ∀ {κ β : Type} (f : κ → Cmd β), (∀ k, NsFrame ns (f k)) →
      ∀ s, Interleaved (newRsyncTransferServerWithStunnel c pvcList opts) f Store.empty s →
      (∀ o ∈ s.inNs ns, ∃ cert, o.withoutStatus ∈ stunnelServerObjects c pvcList ns options m cert) ∧
      (c.stunnelConfig ≠ rsyncConfig → c.stunnelSecret ≠ rsyncSecretPrefix →
        ∀ cert fs l, Transient fs →
        (∃ v, (newRsyncTransferServerWithStunnel c pvcList opts cert ⟨s, fs, l⟩).1 = .ok v) →
        ∀ s', Interleaved (newRsyncTransferServerWithStunnel c pvcList opts) f
          (newRsyncTransferServerWithStunnel c pvcList opts cert ⟨s, fs, l⟩).2.store s' →
        ∃ cert', ∀ x, x ∈ (s'.inNs ns).map Object.withoutStatus ↔
          x ∈ stunnelServerObjects c pvcList ns options m cert')) ∧
    (∀ (pvcList : PVCList) (opts : List TransferOption) (ns : String)
        (options : TransferOptions) (m : ObjectMetaMutation),
      serverSetup pvcList opts = .ok (ns, options, m) →
      ∀ {κ β : Type} (f : κ → Cmd β), (∀ k, NsFrame ns (f k)) →
      ∀ s, Interleaved (fun _ : Unit => newRsyncTransferServerWithNull pvcList opts) f Store.empty s →
      (∀ o ∈ s.inNs ns, o.withoutStatus ∈ nullServerObjects pvcList ns options m) ∧
      (∀ fs l, Transient fs →
        (∃ v, (newRsyncTransferServerWithNull pvcList opts ⟨s, fs, l⟩).1 = .ok v) →
        ∀ s', Interleaved (fun _ : Unit => newRsyncTransferServerWithNull pvcList opts) f
          (newRsyncTransferServerWithNull pvcList opts ⟨s, fs, l⟩).2.store s' →
        ∀ x, x ∈ (s'.inNs ns).map Object.withoutStatus ↔
          x ∈ nullServerObjects pvcList ns options m)) := by
  refine ⟨fun c pvcList opts ns options m hsetup κ β f hf s hs => ?_,
    fun pvcList opts ns options m hsetup κ β f hf s hs => ?_⟩
  · obtain ⟨hW, hH⟩ := hs.builds (newRsyncTransferServerWithStunnel_nsLocal c hsetup) hf
      (withStunnel_builds (c := c) hsetup)
    refine ⟨hW, fun hc₁ hc₂ cert fs l hfs hok s' hs' => ?_⟩
    obtain ⟨s₀', he', hW', hH'⟩ := hH cert fs l hfs hok s' hs'
    rw [← he']
    exact stunnel_exact ⟨hc₁, hc₂⟩ hW' hH'
  · obtain ⟨hW, hH⟩ := hs.builds (fun _ => newRsyncTransferServerWithNull_nsLocal hsetup) hf
      (fun _ => withNull_builds hsetup)
    refine ⟨hW, fun fs l hfs hok s' hs' => ?_⟩
    obtain ⟨s₀', he', hW', hH'⟩ := hH () fs l hfs hok s' hs'
    rw [← he']
    exact Within.iff_of_has (nullServerObjects_nodup pvcList ns options m) hW' hH'

open Rsync in
/-- A destination with the null transport in namespace `b`, beside a source in namespace `a`
that has made one call: the source's calls leave `b` as it is. -/
theorem destination_isolated_beside_source :
    let pvcs : PVCList := [⟨"b", "data", "data"⟩]
    let opts : List TransferOption :=
      [.destinationMetaObjectMutation ⟨"data", "b", [("app", "rsync-dst")], []⟩]
    let m : ObjectMetaMutation := ⟨⟨"data", "b", [("app", "rsync-dst")], []⟩, .merge⟩
    let source := fun _ : Unit => newRsyncClientWithNullTransport "lb.example" 8080
      [⟨"a", "data", "data"⟩] [.sourceMetaObjectMutation ⟨"data", "a", [("app", "rsync-src")], []⟩]
    let s := (source () ⟨Store.empty, [], []⟩).2.store
    (∀ o ∈ s.inNs "b", o.withoutStatus ∈
      nullServerObjects pvcs "b" (TransferOptions.empty.apply opts).1 m) ∧
    (∀ fs l, Transient fs → (∃ v, (newRsyncTransferServerWithNull pvcs opts ⟨s, fs, l⟩).1 = .ok v) →
      ∀ s', Interleaved (fun _ : Unit => newRsyncTransferServerWithNull pvcs opts) source
        (newRsyncTransferServerWithNull pvcs opts ⟨s, fs, l⟩).2.store s' →
      ∀ x, x ∈ (s'.inNs "b").map Object.withoutStatus ↔
        x ∈ nullServerObjects pvcs "b" (TransferOptions.empty.apply opts).1 m) := by
  intro pvcs opts m source s
  exact destination_isolated.2 pvcs opts "b" _ m rfl source
    (fun _ => newRsyncClientWithNullTransport_nsFrame _ _ _ rfl (by decide)) s
    (.other () [] [] .refl)

end VolSync
