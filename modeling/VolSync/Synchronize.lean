import VolSync.Mover

set_option autoImplicit false

/-!
# What `Synchronize` asks and returns

`Synchronize` is read here through the calls it makes. `CallsOnly P p` says that every
call a run of `p` adds to the log satisfies `P`; it is closed under `pure`, `bind` and
`if`, so that a fact about every call of a reconciler is one obligation per `ask`.

Two slips of the source show in this reading.

On the source, `ensureSourcePVC` asks the volume handler for a point-in-time copy of the
claim, but `reconcileRsyncStunnelSource` reads the claim `mainPVCName` again and builds
the client over it: the transfer reads the live claim, not the copy.

On the destination, a failed `MarkForCleanup` after a completed transfer returns
`InProgress` with a nil error, where the source returns the error.

* `synchronize_source_claim`: every transfer constructor the source calls is over the
  main claim.
* `synchronize_destination_markForCleanup_error`: on the destination, a failing
  `MarkForCleanup` after completion gives `InProgress` and no error.
-/

namespace VolSync

namespace RsyncWithStunnel

/-! ### The calls of a program -/

/-- The claims a transfer constructor is called over; `none` for every other call. -/
def Call.transferPVCs : Call → Option PVCList
  | .newRsyncTransferServerWithStunnel l _ => some l
  | .newRsyncTransferServerWithNull l _ => some l
  | .newRsyncTransferClientWithStunnel _ _ l _ => some l
  | .newRsyncClientWithNullTransport _ _ l _ => some l
  | _ => none

/-- Every call a run of `p` adds to the log satisfies `P`. -/
def CallsOnly {α : Type} (P : Call → Prop) (p : Sync α) : Prop :=
  ∀ log, ∃ new, (p log).2 = log ++ new ∧ ∀ c ∈ new, P c

namespace CallsOnly

variable {α β : Type} {P : Call → Prop}

theorem pure (a : α) : CallsOnly P (Pure.pure a : Sync α) :=
  fun log => ⟨[], by simp, by simp⟩

theorem bind {p : Sync α} {f : α → Sync β} (hp : CallsOnly P p) (hf : ∀ a, CallsOnly P (f a)) :
    CallsOnly P (p >>= f) := by
  intro log
  obtain ⟨n₁, h₁, hn₁⟩ := hp log
  obtain ⟨n₂, h₂, hn₂⟩ := hf (p log).1 (p log).2
  refine ⟨n₁ ++ n₂, ?_, fun c hc => (List.mem_append.mp hc).elim (hn₁ c) (hn₂ c)⟩
  rw [sync_bind_apply, h₂, h₁, List.append_assoc]

theorem map {p : Sync α} (f : α → β) (hp : CallsOnly P p) : CallsOnly P (f <$> p) := hp

theorem ite {c : Prop} [Decidable c] {p q : Sync α} (hp : CallsOnly P p) (hq : CallsOnly P q) :
    CallsOnly P (if c then p else q) := by
  split
  · exact hp
  · exact hq

theorem ask {o : Oracle} {c : Call} (h : P c) : CallsOnly P (RsyncWithStunnel.ask o c) :=
  fun log => ⟨[c], rfl, by simpa⟩

end CallsOnly

/-! ### The source's claim -/

section Source

variable (o : Oracle) (lsn : String → String → String)

/-- No transfer constructor is called over claims other than `l`. -/
def OnlyOver (l : PVCList) (c : Call) : Prop := ∀ l', c.transferPVCs = some l' → l' = l

theorem onlyOver_of_none {l : PVCList} {c : Call} (h : c.transferPVCs = none) : OnlyOver l c :=
  fun _ h' => by rw [h] at h'; cases h'

theorem ensureSourcePVC_calls (m : Mover) (l : PVCList) :
    CallsOnly (OnlyOver l) (ensureSourcePVC o m) := by
  unfold ensureSourcePVC
  split
  · exact CallsOnly.pure _
  · refine (CallsOnly.ask (onlyOver_of_none (by rfl))).bind fun r => ?_
    split
    · exact CallsOnly.pure _
    · exact (CallsOnly.ask (onlyOver_of_none (by rfl))).bind fun _ => CallsOnly.pure _

theorem pollClient_calls (m : Mover) (l : PVCList) : CallsOnly (OnlyOver l) (pollClient o m) := by
  refine (CallsOnly.ask (onlyOver_of_none (by rfl))).bind fun c => ?_
  split
  · exact CallsOnly.pure _
  · refine CallsOnly.ite (CallsOnly.pure _) ?_
    exact (CallsOnly.ask (onlyOver_of_none (by rfl))).bind fun r => by
      split <;> exact CallsOnly.pure _

theorem clientCall_transferPVCs {m : Mover} {l : PVCList} {opts : List TransferOption} {c : Call}
    (h : clientCall m l opts = some (some c)) : c.transferPVCs = some l := by
  unfold clientCall at h
  split at h
  · cases ha : m.sourceAddress <;> simp [ha] at h
    subst h; rfl
  · split at h
    · cases ha : m.sourceAddress <;> cases hp : m.sourcePort <;> simp [ha, hp] at h
      subst h; rfl
    · cases h

theorem reconcileRsyncStunnelSource_calls (m : Mover) (name : String)
    (hname : m.mainPVCName = some name) :
    CallsOnly (OnlyOver (newSingletonPVC lsn m.ownerNs name))
      (reconcileRsyncStunnelSource o lsn m) := by
  unfold reconcileRsyncStunnelSource
  rw [hname]
  refine (CallsOnly.ask (onlyOver_of_none (by rfl))).bind fun r => ?_
  split
  · exact CallsOnly.pure _
  · split
    · exact CallsOnly.pure _
    · exact CallsOnly.pure _
    · rename_i call hcall
      refine (CallsOnly.ask fun l' h => ?_).bind fun c => ?_
      · rw [clientCall_transferPVCs hcall] at h
        exact (Option.some_inj.mp h).symm
      · split
        · exact CallsOnly.pure _
        · exact pollClient_calls o m _

/-- **The source transfers the live claim.** Whatever the volume handler and the cluster
answer, every transfer constructor a source's `Synchronize` calls is over the main claim
`mainPVCName`, never over the copy that `ensureSourcePVC` returned. -/
theorem synchronize_source_claim (m : Mover) (hsrc : m.isSource = true) (name : String)
    (hname : m.mainPVCName = some name) :
    ∀ c ∈ (synchronize o lsn m []).2, ∀ l, c.transferPVCs = some l →
      l = newSingletonPVC lsn m.ownerNs name := by
  have hcalls : CallsOnly (OnlyOver (newSingletonPVC lsn m.ownerNs name)) (synchronize o lsn m) := by
    unfold synchronize
    rw [if_pos hsrc]
    refine (ensureSourcePVC_calls o m _).bind fun r => ?_
    split
    split
    · exact (reconcileRsyncStunnelSource_calls o lsn m name hname).bind fun ⟨_, _⟩ =>
        CallsOnly.pure _
    · exact CallsOnly.pure _
  obtain ⟨new, h, hnew⟩ := hcalls []
  rw [h, List.nil_append]
  exact hnew

/-- A source `backup` in `src` over the claim `data`: the volume handler returns the copy
`volsync-backup-src`, every call succeeds, and the client is built over `data`. -/
theorem synchronize_source_claim_backup :
    let m : Mover := ⟨"backup", "src", "uid-1", "volsync.backube/v1alpha1", "ReplicationSource",
      true, some "data", some "dst.example", some 2222, none, none, rsyncWithNullAnnotation⟩
    let o : Oracle := fun c => match c with
      | .ensurePVCFromSrc .. => ⟨some ⟨"src", "volsync-backup-src"⟩, true, none, "", 0, none⟩
      | _ => ⟨none, false, none, "", 0, none⟩
    let lsn : String → String → String := fun _ name => name
    m.isSource = true ∧ m.mainPVCName = some "data" ∧
    (∃ c ∈ (synchronize o lsn m []).2, c.transferPVCs = some [⟨"src", "data", "data"⟩]) ∧
    ∀ c ∈ (synchronize o lsn m []).2, ∀ l, c.transferPVCs = some l →
      l = newSingletonPVC lsn m.ownerNs "data" := by
  intro m o lsn
  refine ⟨rfl, rfl, ⟨.newRsyncClientWithNullTransport "dst.example" 2222 [⟨"src", "data", "data"⟩]
    (sourceTransferOptions m ⟨"src", "data"⟩), by decide, rfl⟩,
    synchronize_source_claim o lsn m rfl "data" rfl⟩

end Source

/-! ### The destination's cleanup mark -/

section Destination

variable (o : Oracle) (lsn : String → String → String)

/-- A completed transfer whose `MarkForCleanup` fails: `pollServer` says `InProgress` and
drops the error. -/
theorem pollServer_markForCleanup_error (m : Mover) (server : Response) (e : Error)
    (log : List Call)
    (hh : (o .serverIsHealthy).err = none ∧ (o .serverIsHealthy).ok = false)
    (hc : (o .serverCompleted).err = none ∧ (o .serverCompleted).ok = true)
    (hm : (o (.serverMarkForCleanup cleanupLabelKey m.ownerUID)).err = some e) :
    (pollServer o m server log).1.2 = (.inProgress, none) := by
  simp [pollServer, hh, hc, hm]

/-- **The destination drops the cleanup error.** Let a destination's claim be read, its
server be built and reported completed, and its `MarkForCleanup` fail: `Synchronize`
returns `InProgress` with a nil error. -/
theorem synchronize_destination_markForCleanup_error (m : Mover) (name : String) (e : Error)
    (hdst : m.isSource = false) (hname : m.mainPVCName = some name)
    (ht : m.transport = rsyncWithStunnelAnnotation ∨ m.transport = rsyncWithNullAnnotation)
    (hget : (o (.getPVC ⟨m.ownerNs, name⟩)).err = none)
    (hserver : ∀ l opts, (o (.newRsyncTransferServerWithStunnel l opts)).err = none ∧
      (o (.newRsyncTransferServerWithNull l opts)).err = none)
    (hh : (o .serverIsHealthy).err = none ∧ (o .serverIsHealthy).ok = false)
    (hc : (o .serverCompleted).err = none ∧ (o .serverCompleted).ok = true)
    (hm : (o (.serverMarkForCleanup cleanupLabelKey m.ownerUID)).err = some e) :
    (synchronize o lsn m []).1.2 = (.inProgress, none) := by
  have hpoll := pollServer_markForCleanup_error o m
  rcases ht with ht | ht
  · simp [synchronize, hdst, ensureDestinationPVC, hname, synchronizeDestination,
      reconcileRsyncStunnelDestination, hget, serverCall, ht, Result.completed, (hserver _ _).1, hpoll _ e _ hh hc hm]
  · have hne : rsyncWithNullAnnotation ≠ rsyncWithStunnelAnnotation := by decide
    simp [synchronize, hdst, ensureDestinationPVC, hname, synchronizeDestination,
      reconcileRsyncStunnelDestination, hget, serverCall, ht, Result.completed, hne, (hserver _ _).2,
      hpoll _ e _ hh hc hm]

/-- A destination `backup` in `dst` over the claim `data` with the null transport, whose
server has completed and whose `MarkForCleanup` fails with a server error. -/
theorem synchronize_destination_markForCleanup_error_backup :
    let m : Mover := ⟨"backup", "dst", "uid-1", "volsync.backube/v1alpha1",
      "ReplicationDestination", false, some "data", none, none, none, none,
      rsyncWithNullAnnotation⟩
    let o : Oracle := fun c =>
      if c = .serverMarkForCleanup cleanupLabelKey "uid-1" then
        ⟨none, false, none, "", 0, some (.status (.other 500))⟩
      else if c = .serverIsHealthy then ⟨none, false, none, "", 0, none⟩
      else ⟨none, true, none, "", 0, none⟩
    (o (.serverMarkForCleanup cleanupLabelKey m.ownerUID)).err.isSome = true ∧
    (synchronize o (fun _ name => name) m []).1.2 = (.inProgress, none) := by
  intro m o
  exact ⟨rfl, synchronize_destination_markForCleanup_error o _ m "data" _ rfl rfl (.inr rfl) rfl
    (fun _ _ => ⟨by simp [o], by simp [o]⟩) ⟨by simp [o], by simp [o]⟩ ⟨by simp [o], by simp [o]⟩
    rfl⟩

end Destination

end RsyncWithStunnel

end VolSync
