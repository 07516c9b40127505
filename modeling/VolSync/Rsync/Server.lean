import VolSync.Transfer
import VolSync.Rsync.Options

set_option autoImplicit false

/-!
# The rsync server

`rsync/server.go`: the destination side. `newRsyncTransferServer` materialises the
`rsyncd.conf` config map, the credentials secret and the `rsync-server` pod, each created
unless it exists. The pod runs the daemon on the transport's connect port, mounts every
PVC of the namespace at `/mnt/<ns>/<label-safe name>`, and has the transport's sidecar
appended. `newRsyncTransferServerWithStunnel` and `…WithNull` first build the endpoint
(a passthrough route, or a load balancer `8080 → 2222`), wait for it to be healthy, and
build the transport over it.

`createSecret` regenerates `r.password` when it is non-empty; the field is never set and
never read, so the branch is left out (`MODEL_MAP.json`).
-/

namespace VolSync

namespace Rsync

def rsyncContainer : String := "rsync"

def rsyncConfig : String := "crane2-rsync-config"

def rsyncSecretPrefix : String := "crane2-rsync"

def nullTransportIngressPort : Int := 8080

def nullTransportBackendPort : Int := 2222

def getMountPathForPVC (p : PVC) : String := "/mnt/" ++ p.ns ++ "/" ++ p.labelSafeName

/-- The lines the `range` of `rsyncServerConfTemplate` renders for one PVC: its module. -/
def rsyncModuleLines (username : String) (p : PVC) : List String :=
  ["", "[" ++ p.labelSafeName ++ "]",
   "    comment = archive for " ++ p.ns ++ "/" ++ p.name,
   "    path = /mnt/" ++ p.ns ++ "/" ++ p.labelSafeName,
   "    use chroot = no", "    munge symlinks = no", "    list = yes", "    read only = false",
   "    auth users = " ++ username,
   "    secrets file = /etc/rsync-secret/rsyncd.secrets"]

/-- `rsyncServerConfTemplate` rendered with `rsyncConfigData`. -/
def rsyncServerConfLines (username : String) (pvcs : PVCList) (allowLocalhostOnly : Bool) :
    List String :=
  ["syslog facility = local7", "read only = no", "list = yes", "log file = /dev/stdout",
   "max verbosity = 4", "auth users = " ++ username,
   if allowLocalhostOnly then "hosts allow = ::1, 127.0.0.1, localhost"
   else "hosts allow = *.*.*.*, *",
   "uid = root", "gid = root"] ++ (pvcs.map (rsyncModuleLines username)).flatten ++ [""]

structure TransferServer where
  pvcList : PVCList
  transportServer : Transport
  endpoint : Endpoint
  listenPort : Int
  options : TransferOptions
  deriving DecidableEq, Repr

namespace TransferServer

/-- The text of `rsyncd.conf`: localhost only when the transport is stunnel. -/
def rsyncdConf (r : TransferServer) (ns : String) : String :=
  renderConf (rsyncServerConfLines r.options.username (inNamespace r.pvcList ns)
    (r.transportServer.type = Stunnel.transportTypeStunnel))

def createConfig (r : TransferServer) (m : ObjectMetaMutation) (ns : String) :
    Cmd (Option Error) :=
  createOrKeep (dataObject rsyncConfig ns m false [("rsyncd.conf", r.rsyncdConf ns)])

/-- The credentials `createSecret` stores: `username:password`. -/
def credentials (r : TransferServer) : String := r.options.username ++ ":" ++ r.options.password

def createSecret (r : TransferServer) (m : ObjectMetaMutation) (ns : String) :
    Cmd (Option Error) :=
  createOrKeep (dataObject rsyncSecretPrefix ns m true [("credentials", r.credentials)])

def getConfigVolumeMounts : List VolumeMount :=
  [⟨rsyncConfig, "/etc/rsyncd.conf", "rsyncd.conf"⟩, ⟨rsyncSecretPrefix, "/etc/rsync-secret", ""⟩]

/-- `getPVCVolumeMounts`: one mount per PVC of the namespace. -/
def getPVCVolumeMounts (r : TransferServer) (ns : String) : List VolumeMount :=
  (inNamespace r.pvcList ns).map fun p => ⟨p.labelSafeName, getMountPathForPVC p, ""⟩

/-- `getPodTemplate`: the daemon, listening on the server's port. -/
def getPodTemplate (r : TransferServer) (volumeMounts : List VolumeMount) : List Container :=
  [⟨rsyncContainer,
    ["/usr/bin/rsync", "--daemon", "--no-detach", "--port=" ++ toString r.listenPort, "-vvv"],
    [⟨"rsyncd", r.listenPort⟩], [], volumeMounts, none, []⟩]

/-- `getConfigVolumes` with the mode `0600`. -/
def getConfigVolumes (mode : Nat) : List Volume :=
  [⟨rsyncConfig, .configMap rsyncConfig⟩,
   ⟨rsyncSecretPrefix, .secret rsyncSecretPrefix (some mode) [("credentials", "rsyncd.secrets")]⟩]

/-- `getPVCVolumes`: one claim volume per PVC of the namespace. -/
def getPVCVolumes (r : TransferServer) (ns : String) : List Volume :=
  (inNamespace r.pvcList ns).map fun p => ⟨p.labelSafeName, .persistentVolumeClaim p.name⟩

/-- The spec of the `rsync-server` pod `createRsyncServer` builds. -/
def serverPodSpec (r : TransferServer) (ns : String) : PodSpec :=
  let containers := (r.getPodTemplate (getConfigVolumeMounts ++ r.getPVCVolumeMounts ns) ++
    r.transportServer.containers).map (applyContainerMutations · r.options.destContainerMutations)
  let volumes := r.getPVCVolumes ns ++ getConfigVolumes 0o600 ++ r.transportServer.volumes
  applyPodMutations ⟨containers, volumes, "", [], none, ""⟩ r.options.destinationPodMutations

def serverPod (r : TransferServer) (m : ObjectMetaMutation) (ns : String) : Object :=
  ⟨"rsync-server", ns, m.labels, m.ownerReferences, false, .pod (r.serverPodSpec ns) []⟩

def createRsyncServer (r : TransferServer) (m : ObjectMetaMutation) (ns : String) :
    Cmd (Option Error) :=
  createOrKeep (r.serverPod m ns)

def isHealthy (r : TransferServer) : Cmd (Bool × Option Error) :=
  match firstNamespace r.pvcList with
  | .error err => pure (false, some err)
  | .ok ns => isPodHealthy ns "rsync-server"

end TransferServer

/-- `NewRsyncTransferServer`: the config map, the secret and the pod, in this order; the
first error stops it. -/
def newRsyncTransferServer (pvcList : PVCList) (t : Transport) (e : Endpoint)
    (options : TransferOptions) : Cmd (Except Error TransferServer) :=
  let r : TransferServer := ⟨pvcList, t, e, t.connectPort, options⟩
  match firstNamespace pvcList, options.destinationPodMeta with
  | .error err, _ => pure (.error err)
  | .ok _, none => pure (.error (.panic "nil meta.ObjectMetaMutation"))
  | .ok ns, some m => do
    match ← r.createConfig m ns with
    | some err => pure (.error err)
    | none =>
      match ← r.createSecret m ns with
      | some err => pure (.error err)
      | none =>
        match ← r.createRsyncServer m ns with
        | some err => pure (.error err)
        | none => pure (.ok r)

/-- The options `opts` make, the namespace and the destination meta: what both
`NewRsyncTransferServerWith…` read before their first API call, where an empty list or a nil
meta panics. -/
def serverSetup (pvcList : PVCList) (opts : List TransferOption) :
    Except Error (String × TransferOptions × ObjectMetaMutation) :=
  match firstNamespace pvcList with
  | .error err => .error err
  | .ok ns =>
    match TransferOptions.empty.apply opts with
    | (_, some err) => .error err
    | (options, none) =>
      match options.destinationPodMeta with
      | none => .error (.panic "nil meta.ObjectMetaMutation")
      | some m => .ok (ns, options, m)

/-- `NewRsyncTransferServerWithStunnel`. `cert` is what `GenerateSSLCert` returns in the
transport's constructor. -/
def newRsyncTransferServerWithStunnel (c : Constants) (pvcList : PVCList)
    (opts : List TransferOption) (cert : Except Error SSLCert) :
    Cmd (Except Error TransferServer) :=
  match serverSetup pvcList opts with
  | .error err => pure (.error err)
  | .ok (ns, options, m) => do
    let nn : NamespacedName := ⟨ns, m.name⟩
    match ← Route.newEndpoint c nn (some m) with
    | .error err => pure (.error err)
    | .ok e =>
      let (e, routeHealthy, _) ← Route.isHealthy e
      if !routeHealthy then pure (.error (.msg "waiting for the route to be healthy"))
      else
        let (t, err) ← Stunnel.newTransportServer c nn e ⟨some m, "", "", "", false, ""⟩ cert
        match err with
        | some err => pure (.error err)
        | none => newRsyncTransferServer pvcList t e options

def newRsyncTransferServerWithNull (pvcList : PVCList) (opts : List TransferOption) :
    Cmd (Except Error TransferServer) :=
  match serverSetup pvcList opts with
  | .error err => pure (.error err)
  | .ok (ns, options, m) => do
    match ← LoadBalancer.newEndpoint ⟨ns, m.name⟩ (some m) nullTransportBackendPort
        nullTransportIngressPort with
    | .error err => pure (.error err)
    | .ok e =>
      let (e, loadBalancerHealthy, _) ← LoadBalancer.isHealthy e
      if !loadBalancerHealthy then pure (.error (.msg "waiting for the load balancer to be healthy"))
      else newRsyncTransferServer pvcList (Null.newTransport e.hostname e.backendPort) e options

end Rsync

end VolSync
