import VolSync.Rsync.Client
import VolSync.Cleanup

set_option autoImplicit false

/-!
# The mover

`part_000`, package `rsyncwithstunnel`: the per-iteration state machine of one side of a
replication. `synchronize` ensures the data volume, builds the transfer over it (the
server on the destination, the client on the source), polls it, marks it for cleanup,
and on the destination asks the volume handler for an image of the volume.

The mover talks to the API server and to its collaborators (the volume handler, the
transfer it built). Here every such call is a `Call`, answered by an oracle and recorded
in a log, so that a theorem can range over every outcome of every call and still say what
was asked: `Sync` is state passing over the log, with the oracle fixed for the run.

A `Get` that succeeds fills the claim it was given, whose key it keeps: its result is the
claim under that key. `mover.Result` (package `controllers/mover`, missing from src/) is
modelled from the spec: `InProgress`, `Complete` or `CompleteWithImage(image)`.
-/

namespace VolSync

namespace RsyncWithStunnel

def rsyncWithStunnelAnnotation : String := "scribe.backube.dev/mover-rsync-with-stunnel"

def rsyncWithNullAnnotation : String := "scribe.backube.dev/mover-rsync-with-null"

/-- Modelled from the spec: `mover.Result` (missing from src/), one of `InProgress`,
`Complete`, `CompleteWithImage(image)`. -/
inductive Result
  | inProgress
  | complete
  | completeWithImage (image : String)
  deriving DecidableEq, Repr

def Result.completed : Result → Bool
  | .inProgress => false
  | _ => true

/-- `Mover`: the fields `synchronize` reads and writes. `destAddress` and `destPort` are
`destinationStatus.Address` and `.Port`; `sourceAddress` and `sourcePort` are the
`*string` and `*int32` of `sourceSpec`. -/
structure Mover where
  ownerName : String
  ownerNs : String
  ownerUID : String
  ownerAPIVersion : String
  ownerKind : String
  isSource : Bool
  mainPVCName : Option String
  sourceAddress : Option String
  sourcePort : Option Int
  destAddress : Option String
  destPort : Option Int
  transport : String
  deriving DecidableEq, Repr

/-- A call `synchronize` makes to the API server or to a collaborator, with its
arguments. -/
inductive Call
  | getPVC (key : NamespacedName)
  | ensurePVCFromSrc (src : NamespacedName) (dataName : String) (isTemporary : Bool)
  | ensureNewPVC (dataName : String)
  | ensureImage (pvc : NamespacedName)
  | newRsyncTransferServerWithStunnel (pvcList : PVCList) (opts : List TransferOption)
  | newRsyncTransferServerWithNull (pvcList : PVCList) (opts : List TransferOption)
  | serverIsHealthy
  | serverCompleted
  | serverMarkForCleanup (key value : String)
  | newRsyncTransferClientWithStunnel (address : String) (port : Int) (pvcList : PVCList)
      (opts : List TransferOption)
  | newRsyncClientWithNullTransport (address : String) (port : Int) (pvcList : PVCList)
      (opts : List TransferOption)
  | clientIsCompleted
  | clientMarkForCleanup (key value : String)
  deriving DecidableEq, Repr

/-- What a call returns. Each call reads its own fields: `pvc` is the claim the volume
handler returns (nil is `none`), `ok` the answer of `IsHealthy`, `Completed` and
`IsCompleted`, `image` the image of `EnsureImage`, `hostname` and `ingressPort` those of
the endpoint of the server a constructor built, `err` the error. -/
structure Response where
  pvc : Option NamespacedName
  ok : Bool
  image : Option String
  hostname : String
  ingressPort : Int
  err : Option Error
  deriving Repr

abbrev Oracle := Call → Response

abbrev Sync := StateM (List Call)

/-- Make a call: log it and return the oracle's answer. -/
def ask (o : Oracle) (c : Call) : Sync Response := fun log => (o c, log ++ [c])

@[simp] theorem ask_apply (o : Oracle) (c : Call) (log : List Call) :
    ask o c log = (o c, log ++ [c]) := rfl

@[simp] theorem sync_bind_apply {α β : Type} (x : Sync α) (f : α → Sync β) (log : List Call) :
    (x >>= f) log = f (x log).1 (x log).2 := rfl

@[simp] theorem sync_pure_apply {α : Type} (a : α) (log : List Call) :
    (pure a : Sync α) log = (a, log) := rfl

@[simp] theorem sync_map_apply {α β : Type} (f : α → β) (x : Sync α) (log : List Call) :
    (f <$> x) log = (f (x log).1, (x log).2) := rfl

/-! ### Pure parts -/

def serviceSelector (m : Mover) : StrMap :=
  [("app.kubernetes.io/name", "volsync-" ++ (if m.isSource then "src" else "dst") ++ "-" ++
      m.ownerName),
   ("app.kubernetes.io/component", "rsync-stunnel-mover"),
   ("app.kubernetes.io/part-of", "volsync")]

/-- `metaObject`: the claim's name and namespace, the selector labels, the owner. -/
def metaObject (m : Mover) (pvc : NamespacedName) : ObjectMeta :=
  ⟨pvc.name, pvc.ns, serviceSelector m, [⟨m.ownerAPIVersion, m.ownerKind, m.ownerName, m.ownerUID⟩]⟩

def getRsyncTransferContainerMutation : Container :=
  ⟨"", [], [], [], [], some ⟨some false, some 0, some true, ["MKNOD", "SETPCAP"]⟩, []⟩

def getRsyncPassword : String := "developmentPassword"

def getRsyncTransferOptions : List TransferOption :=
  [.standardProgress true, .archiveFiles true, .deleteDestination true, .hardLinks true,
   .keepPartial true, .username "root", .password getRsyncPassword]

/-- The options `reconcileRsyncStunnelDestination` builds the server with, for the claim
`p`. -/
def destinationTransferOptions (m : Mover) (p : NamespacedName) : List TransferOption :=
  getRsyncTransferOptions ++
    [.destinationContainerMutation getRsyncTransferContainerMutation,
     .destinationMetaObjectMutation (metaObject m p)]

/-- The options `reconcileRsyncStunnelSource` builds the client with, for the claim `p`. -/
def sourceTransferOptions (m : Mover) (p : NamespacedName) : List TransferOption :=
  getRsyncTransferOptions ++
    [.sourceContainerMutation getRsyncTransferContainerMutation,
     .sourceMetaObjectMutation (metaObject m p)]

section

variable (o : Oracle) (lsn : String → String → String)

/-! ### Ensuring the data volume -/

/-- `ensureSourcePVC`: read the source claim, then ask the volume handler for its
point-in-time copy. The result is the data claim and the error. -/
def ensureSourcePVC (m : Mover) : Sync (Option NamespacedName × Option Error) :=
  match m.mainPVCName with
  | none => pure (none, some (.panic "nil pointer dereference"))
  | some name => do
    let r ← ask o (.getPVC ⟨m.ownerNs, name⟩)
    match r.err with
    | some err => pure (none, some err)
    | none => do
      let r ← ask o (.ensurePVCFromSrc ⟨m.ownerNs, name⟩ ("volsync-" ++ m.ownerName ++ "-src") true)
      pure (r.pvc, r.err)

/-- `ensureDestinationPVC`: with no destination claim given, name one and ask the volume
handler for it (the name is kept in the mover); otherwise read the given claim. -/
def ensureDestinationPVC (m : Mover) : Sync (Mover × Option NamespacedName × Option Error) :=
  match m.mainPVCName with
  | none => do
    let dataPVCName := "volsync-" ++ m.ownerName ++ "-dest"
    let r ← ask o (.ensureNewPVC dataPVCName)
    pure ({ m with mainPVCName := some dataPVCName }, r.pvc, r.err)
  | some name => do
    let r ← ask o (.getPVC ⟨m.ownerNs, name⟩)
    pure (m, some ⟨m.ownerNs, name⟩, r.err)

/-! ### The two reconcilers -/

/-- The server constructor the destination's annotation selects; `none` when it selects
none (`rsyncServer` stays nil). -/
def serverCall (m : Mover) (pvcList : PVCList) (opts : List TransferOption) : Option Call :=
  if m.transport = rsyncWithStunnelAnnotation then some (.newRsyncTransferServerWithStunnel pvcList opts)
  else if m.transport = rsyncWithNullAnnotation then some (.newRsyncTransferServerWithNull pvcList opts)
  else none

/-- The end of `reconcileRsyncStunnelDestination`, once the server is built: health,
completion, the published address, the cleanup mark. -/
def pollServer (m : Mover) (server : Response) : Sync (Mover × Result × Option Error) := do
  let h ← ask o .serverIsHealthy
  if h.err.any Error.isAPIStatus then pure (m, .inProgress, h.err)
  else do
    let c ← if h.ok then pure none else some <$> ask o .serverCompleted
    match c with
    | some c =>
      match c.err with
      | some err => pure (m, .inProgress, some err)
      | none =>
        if !c.ok then pure (m, .inProgress, some (.msg "rsync server is not healthy"))
        else do
          let m := { m with destAddress := some server.hostname, destPort := some server.ingressPort }
          let r ← ask o (.serverMarkForCleanup cleanupLabelKey m.ownerUID)
          match r.err with
          | some _ => pure (m, .inProgress, none)
          | none => pure (m, .complete, none)
    | none =>
      pure ({ m with destAddress := some server.hostname, destPort := some server.ingressPort },
        .inProgress, none)

def reconcileRsyncStunnelDestination (m : Mover) : Sync (Mover × Result × Option Error) :=
  match m.mainPVCName with
  | none => pure (m, .inProgress, some (.panic "nil pointer dereference"))
  | some name => do
    let p : NamespacedName := ⟨m.ownerNs, name⟩
    let r ← ask o (.getPVC p)
    match r.err with
    | some err => pure (m, .inProgress, some err)
    | none =>
      match serverCall m (newSingletonPVC lsn p.ns p.name) (destinationTransferOptions m p) with
      | none => pure (m, .inProgress, some (.panic "nil pointer dereference"))
      | some call => do
        let s ← ask o call
        match s.err with
        | some err => pure (m, .inProgress, some err)
        | none => pollServer o m s

/-- The client constructor the source's annotation selects, with the address and port it
dereferences: `none` inside is the nil dereference of an unset address or port, and `none`
outside is an annotation that selects no constructor. -/
def clientCall (m : Mover) (pvcList : PVCList) (opts : List TransferOption) :
    Option (Option Call) :=
  if m.transport = rsyncWithStunnelAnnotation then
    some (m.sourceAddress.map fun a => .newRsyncTransferClientWithStunnel a Route.ingressPort pvcList opts)
  else if m.transport = rsyncWithNullAnnotation then
    some (do
      let a ← m.sourceAddress
      let port ← m.sourcePort
      pure (.newRsyncClientWithNullTransport a port pvcList opts))
  else none

/-- The end of `reconcileRsyncStunnelSource`, once the client is built. -/
def pollClient (m : Mover) : Sync (Result × Option Error) := do
  let c ← ask o .clientIsCompleted
  match c.err with
  | some err => pure (.inProgress, some err)
  | none =>
    if !c.ok then pure (.inProgress, none)
    else do
      let r ← ask o (.clientMarkForCleanup cleanupLabelKey m.ownerUID)
      match r.err with
      | some err => pure (.inProgress, some err)
      | none => pure (.complete, none)

def reconcileRsyncStunnelSource (m : Mover) : Sync (Result × Option Error) :=
  match m.mainPVCName with
  | none => pure (.inProgress, some (.panic "nil pointer dereference"))
  | some name => do
    let p : NamespacedName := ⟨m.ownerNs, name⟩
    let r ← ask o (.getPVC p)
    match r.err with
    | some err => pure (.inProgress, some err)
    | none =>
      match clientCall m (newSingletonPVC lsn p.ns p.name) (sourceTransferOptions m p) with
      | none => pure (.complete, some (.msg "invalid transport annotation found"))
      | some none => pure (.inProgress, some (.panic "nil pointer dereference"))
      | some (some call) => do
        let c ← ask o call
        match c.err with
        | some err => pure (.inProgress, some err)
        | none => pollClient o m

/-! ### Synchronize -/

/-- The destination after its data volume: reconcile, then the image. -/
def synchronizeDestination (m : Mover) (dataPVC : NamespacedName) :
    Sync (Mover × Result × Option Error) := do
  let (m, r, err) ← reconcileRsyncStunnelDestination o lsn m
  match err with
  | some err => pure (m, r, some err)
  | none =>
    if !r.completed then pure (m, .inProgress, none)
    else do
      let i ← ask o (.ensureImage dataPVC)
      match i.image, i.err with
      | some image, none => pure (m, .completeWithImage image, none)
      | _, err => pure (m, .inProgress, err)

/-- `Mover.Synchronize`: the mover as it is afterwards, the result and the error. -/
def synchronize (m : Mover) : Sync (Mover × Result × Option Error) :=
  if m.isSource then do
    let (dataPVC, err) ← ensureSourcePVC o m
    match dataPVC, err with
    | some _, none => do
      let (r, err) ← reconcileRsyncStunnelSource o lsn m
      pure (m, r, err)
    | _, err => pure (m, .inProgress, err)
  else do
    let (m, dataPVC, err) ← ensureDestinationPVC o m
    match dataPVC, err with
    | some dataPVC, none => synchronizeDestination o lsn m dataPVC
    | _, err => pure (m, .inProgress, err)

end

/-! ### Cleanup and the builder -/

def cleanupTypes : List Kind :=
  [.persistentVolumeClaim, .configMap, .volumeSnapshot, .secret, .route, .pod]

def iterativeCleanupTypes : List Kind := [.service]

def cleanup (m : Mover) : Cmd (Result × Option Error) := do
  match ← cleanupObjects ⟨m.ownerUID, m.ownerNs⟩ cleanupTypes iterativeCleanupTypes with
  | some err => pure (.inProgress, some err)
  | none => pure (.complete, none)

/-- What the builder reads of a replication source or destination. `rsync` is whether
`Spec.Rsync` is set, `address` and `port` are those of `Spec.Rsync` (source), `pvc` is
`Spec.SourcePVC` (source) or `Spec.Rsync.DestinationPVC` (destination). -/
structure ReplicationObject where
  name : String
  ns : String
  uid : String
  apiVersion : String
  kind : String
  annotations : List String
  rsync : Bool
  pvc : Option String
  address : Option String
  port : Option Int
  deriving DecidableEq, Repr

/-- The annotation test of `FromSource` and `FromDestination`: stunnel first, then null. -/
def transportOf (annotations : List String) : Option String :=
  if rsyncWithStunnelAnnotation ∈ annotations then some rsyncWithStunnelAnnotation
  else if rsyncWithNullAnnotation ∈ annotations then some rsyncWithNullAnnotation
  else none

/-- `Builder.FromSource` and `Builder.FromDestination`: `none` for an object that is not
this mover's; `vhErr` is what `NewVolumeHandler` returns. -/
def build (isSource : Bool) (cr : ReplicationObject) (vhErr : Option Error) :
    Except Error (Option Mover) :=
  if !cr.rsync then .ok none
  else
    match transportOf cr.annotations with
    | none => .ok none
    | some transport =>
      match vhErr with
      | some err => .error err
      | none => .ok (some ⟨cr.name, cr.ns, cr.uid, cr.apiVersion, cr.kind, isSource,
          if isSource then some (cr.pvc.getD "") else cr.pvc,
          if isSource then cr.address else none, if isSource then cr.port else none,
          none, none, transport⟩)

/-- A mover the builder returns. -/
def BuiltByBuilder (m : Mover) : Prop :=
  ∃ isSource cr, build isSource cr none = .ok (some m)

end RsyncWithStunnel

end VolSync
