import VolSync.Rsync.Server

set_option autoImplicit false

/-!
# The rsync client

`rsync/client.go`: the source side. `createRsyncClient` lists the pods carrying the source
labels (in every namespace: the `List` has no `InNamespace`) and returns at once when
there is one. Otherwise it creates one pod per PVC of the namespace, with the
`GenerateName` prefix `rsync-`: the rsync container, whose `/bin/bash -c` script
`getRsyncCommand` writes, then the transport's containers. A failed `Create` does not
stop the loop; the errors are aggregated.

Before each pod, `customizeTransportClientContainers` rewrites the stunnel sidecar through
the slice the transport returns, so the change stays in the transport: the loop carries
the transport from one PVC to the next.
-/

namespace VolSync

namespace Rsync

/-- The script the stunnel sidecar of a client pod runs: stunnel, then a wait for the rsync
container's done file. -/
def stunnelSidecarScript : String :=
  "/bin/stunnel /etc/stunnel/stunnel.conf\nwhile true\ndo test -f " ++
  "/usr/share/rsync/rsync-client-container-done\nif [ $? -eq 0 ]\nthen\nbreak\nfi\ndone\nexit 0"

/-- What `customizeTransportClientContainers` does to the stunnel container. -/
def customizeStunnelContainer (c : Container) : Container :=
  { c with
    command := ["/bin/bash", "-c", stunnelSidecarScript]
    volumeMounts := c.volumeMounts ++ [⟨"rsync-communication", "/usr/share/rsync", ""⟩] }

/-- Apply `f` to the last container named `name`; `none` when there is none. -/
def modifyLastNamed (name : String) (f : Container → Container) :
    List Container → Option (List Container)
  | [] => none
  | c :: cs =>
    match modifyLastNamed name f cs with
    | some cs' => some (c :: cs')
    | none => if c.name = name then some (f c :: cs) else none

/-- `customizeTransportClientContainers`: on a stunnel transport, the last container named
`stunnel` gets the sidecar script and the communication mount. `none` is the nil
dereference when there is no such container. -/
def customizeTransportClientContainers (t : Transport) : Option Transport :=
  if t.type = Stunnel.transportTypeStunnel then
    (modifyLastNamed Stunnel.container customizeStunnelContainer t.containers).map
      fun cs => { t with containers := cs }
  else some t

/-- The rsync command line, before the transport decides how it is run. -/
def rsyncCommandLine (rsyncOptions : List String) (username : String) (t : Transport)
    (pvc : PVC) : String :=
  " ".intercalate (["/usr/bin/rsync"] ++ rsyncOptions ++ [getMountPathForPVC pvc ++ "/"] ++
    ["rsync://" ++ username ++ "@" ++ t.hostname ++ "/" ++ pvc.labelSafeName ++ " --port " ++
      toString t.listenPort])

/-- `Client.getRsyncCommand`: `/bin/bash -c` and the script, which on a stunnel transport
waits for the local port, runs rsync, and touches the done file on exit. -/
def getRsyncCommand (rsyncOptions : List String) (transferOptions : TransferOptions)
    (t : Transport) (pvc : PVC) : List String :=
  let line := rsyncCommandLine rsyncOptions transferOptions.username t pvc
  if t.type = Null.typeTransportNull then ["/bin/bash", "-c", line]
  else
    ["/bin/bash", "-c",
      "trap \"touch /usr/share/rsync/rsync-client-container-done\" EXIT SIGINT SIGTERM; " ++
      "timeout=120; SECONDS=0; while [ $SECONDS -lt $timeout ]; do nc -z localhost " ++
      toString t.listenPort ++ "; rc=$?; if [ $rc -eq 0 ]; then " ++ line ++
      "; rc=$?; break; fi; done; exit $rc;"]

def clientRsyncContainer (rsyncOptions : List String) (transferOptions : TransferOptions)
    (t : Transport) (pvc : PVC) : Container :=
  ⟨rsyncContainer, getRsyncCommand rsyncOptions transferOptions t pvc, [],
    [⟨"RSYNC_PASSWORD", transferOptions.password⟩],
    [⟨"mnt", getMountPathForPVC pvc, ""⟩, ⟨"rsync-communication", "/usr/share/rsync", ""⟩],
    none, []⟩

/-- The spec of the pod `createRsyncClient` creates for one PVC, over the transport as it is
after this iteration's customisation. -/
def clientPodSpec (options : TransferOptions) (rsyncOptions : List String) (t : Transport)
    (pvc : PVC) : PodSpec :=
  let containers := (clientRsyncContainer rsyncOptions options t pvc :: t.containers).map
    (applyContainerMutations · options.sourceContainerMutations)
  let volumes := [⟨"mnt", .persistentVolumeClaim pvc.name⟩, ⟨"rsync-communication", .emptyDir⟩] ++
    t.volumes
  applyPodMutations ⟨containers, volumes, "Never", [], none, ""⟩ options.sourcePodMutations

/-- The pod itself, named by the API server from the prefix `rsync-`. -/
def clientPod (options : TransferOptions) (m : ObjectMetaMutation) (rsyncOptions : List String)
    (t : Transport) (pvc : PVC) : Object :=
  ⟨"", pvc.ns, m.labels, m.ownerReferences, false,
    .pod (clientPodSpec options rsyncOptions t pvc) []⟩

/-- The loop of `createRsyncClient`: one pod per PVC, each `Create`'s error kept. It
returns the transport as the customisations left it. -/
def createClientPods (options : TransferOptions) (m : ObjectMetaMutation)
    (rsyncOptions : List String) : List PVC → Transport → Cmd (Transport × List (Option Error))
  | [], t => pure (t, [])
  | pvc :: pvcs, t =>
    match customizeTransportClientContainers t with
    | none => pure (t, [some (.panic "nil pointer dereference")])
    | some t => do
      let err ← generate "rsync-" (clientPod options m rsyncOptions t pvc)
      let (t, errs) ← createClientPods options m rsyncOptions pvcs t
      pure (t, err :: errs)

theorem customize_null (hostname : String) (port : Int) :
    customizeTransportClientContainers (Null.newTransport hostname port) =
      some (Null.newTransport hostname port) := by
  simp [customizeTransportClientContainers, Null.newTransport, Null.typeTransportNull,
    Stunnel.transportTypeStunnel]

/-- `Client`, the rsync transfer client. -/
structure TransferClient where
  pvcList : PVCList
  transportClient : Transport
  options : TransferOptions
  deriving DecidableEq, Repr

/-- `Client.createRsyncClient`: the client with its transport as the loop left it, and the
error. -/
def createRsyncClient (tc : TransferClient) (ns : String) : Cmd (TransferClient × Option Error) :=
  match tc.options.sourcePodMeta with
  | none => pure (tc, some (.panic "nil meta.ObjectMetaMutation"))
  | some m => do
    match ← list .pod m.labels none with
    | .error err => pure (tc, some err)
    | .ok pods =>
      if !pods.isEmpty then pure (tc, none)
      else
        match tc.options.asRsyncCommandOptions with
        | (_, some err) => pure (tc, some err)
        | (rsyncOptions, none) => do
          let (t, errs) ← createClientPods tc.options m rsyncOptions
            (inNamespace tc.pvcList ns) tc.transportClient
          pure ({ tc with transportClient := t }, newAggregate errs)

/-- The options `opts` make, what every client constructor applies first. -/
def clientOptions (opts : List TransferOption) : Except Error TransferOptions :=
  match TransferOptions.empty.apply opts with
  | (_, some err) => .error err
  | (options, none) => .ok options

/-- The end of every client constructor: `createRsyncClient` on the first namespace. -/
def finishClient (tc : TransferClient) : Cmd (Except Error TransferClient) :=
  match firstNamespace tc.pvcList with
  | .error err => pure (.error err)
  | .ok ns => do
    match ← createRsyncClient tc ns with
    | (_, some err) => pure (.error err)
    | (tc, none) => pure (.ok tc)

def newRsyncTransferClient (transportClient : Transport) (pvcList : PVCList)
    (opts : List TransferOption) : Cmd (Except Error TransferClient) :=
  match clientOptions opts with
  | .error err => pure (.error err)
  | .ok options => finishClient ⟨pvcList, transportClient, options⟩

def newRsyncTransferClientWithStunnel (c : Constants) (serverHostname : String)
    (serverPort : Int) (pvcList : PVCList) (opts : List TransferOption) :
    Cmd (Except Error TransferClient) :=
  match clientOptions opts with
  | .error err => pure (.error err)
  | .ok options =>
    match firstNamespace pvcList with
    | .error err => pure (.error err)
    | .ok ns => do
      match ← Stunnel.newTransportClient c ⟨ns, ""⟩ serverHostname serverPort
          ⟨options.sourcePodMeta, "", "", "", false, ""⟩ with
      | .error err => pure (.error err)
      | .ok t => finishClient ⟨pvcList, t, options⟩

def newRsyncClientWithNullTransport (serverHostname : String) (serverPort : Int)
    (pvcList : PVCList) (opts : List TransferOption) : Cmd (Except Error TransferClient) :=
  match clientOptions opts with
  | .error err => pure (.error err)
  | .ok options =>
    finishClient ⟨pvcList, Null.newTransport serverHostname serverPort, options⟩

end Rsync

end VolSync
