import VolSync.Endpoint

set_option autoImplicit false

/-!
# Transports

A transport wraps the rsync traffic. The null transport (`null.go`) relays the endpoint's
host and port with no sidecar. The stunnel transport (`stunnel/server.go`,
`stunnel/client.go`) renders a stunnel configuration into a config map, provides the TLS
secret, and contributes one sidecar container with its two volumes.

The configurations are rendered from the templates of the source. A rendered template is
the list of its lines (`stunnelServerConfLines`, `stunnelClientConfLines`), each value
printed where the template prints it; the text stored in the config map is the lines,
each ended by a newline (`renderConf`). The `{{- … }}` actions of the client template trim
the newline before them, which is why its first line is empty and every directive starts
a line of its own.

A Go panic (a nil `ObjMeta`) happens in these constructors before their first API call,
so it is returned at the start.
-/

namespace VolSync

structure TransportOptions where
  objMeta : Option ObjectMetaMutation
  proxyURL : String
  proxyUsername : String
  proxyPassword : String
  noVerifyCA : Bool
  caVerifyLevel : String
  deriving DecidableEq, Repr

/-- A `transport.Transport`, as the values of the methods the transfers call: `ns` is the
namespace of `NamespacedName()`. -/
structure Transport where
  ns : String
  listenPort : Int
  connectPort : Int
  containers : List Container
  volumes : List Volume
  type : String
  hostname : String
  deriving DecidableEq, Repr

/-- `create` that takes "already exists" for success, the pattern of every `create…` of the
transports and transfers: the existing object is kept as it is. -/
def createOrKeep (o : Object) : Cmd (Option Error) := do
  match ← create o with
  | some e => pure (if e.isAlreadyExists then none else some e)
  | none => pure none

def Object.data (o : Object) : StrMap :=
  match o.body with
  | .configMap d => d
  | .secret d => d
  | _ => []

/-- A config map or secret of the transports and transfers. -/
def dataObject (name ns : String) (m : ObjectMetaMutation) (secret : Bool) (data : StrMap) :
    Object :=
  ⟨name, ns, m.labels, m.ownerReferences, false, if secret then .secret data else .configMap data⟩

/-- The text of a rendered template: its lines, each ended by a newline. -/
def renderConf (lines : List String) : String := String.join (lines.map (· ++ "\n"))

/-- What `transport.GenerateSSLCert` returns: the certificate and the key (PEM). -/
structure SSLCert where
  crt : String
  key : String
  deriving DecidableEq, Repr

namespace Null

def typeTransportNull : String := "TransportNull"

def newTransport (hostname : String) (port : Int) : Transport :=
  ⟨"", port, port, [], [], typeTransportNull, hostname⟩

end Null

namespace Stunnel

/-- Modelled from the spec: `stunnel.Container` (missing from src/), the name of the
sidecar, `stunnel` in the spec's pods. -/
def container : String := "stunnel"

/-- Modelled from the spec: `stunnel.TransportTypeStunnel` (missing from src/). -/
def transportTypeStunnel : String := "stunnel"

def clientListenPort : Int := 6443

def stunnelConnectPort : Int := 8080

/-- The two volumes of the sidecar (`createStunnelServerVolumes`, `clientVolumes`). -/
def stunnelVolumes (c : Constants) : List Volume :=
  [⟨c.stunnelConfig, .configMap c.stunnelConfig⟩,
   ⟨c.stunnelSecret, .secret c.stunnelSecret none [("tls.crt", "tls.crt"), ("tls.key", "tls.key")]⟩]

/-- The sidecar (`createStunnelServerContainers`, `clientContainers`). -/
def stunnelContainers (c : Constants) (listenPort : Int) : List Container :=
  [⟨container, ["/bin/stunnel", "/etc/stunnel/stunnel.conf"], [⟨"stunnel", listenPort⟩], [],
    [⟨c.stunnelConfig, "/etc/stunnel/stunnel.conf", "stunnel.conf"⟩,
     ⟨c.stunnelSecret, "/etc/stunnel/certs", ""⟩], none, []⟩]

/-! ### Server -/

/-- `stunnelServerConfTemplate` rendered with `acceptPort` and `connectPort`. -/
def stunnelServerConfLines (acceptPort connectPort : String) : List String :=
  ["foreground = yes", "pid =", "socket = l:TCP_NODELAY=1", "socket = r:TCP_NODELAY=1",
   "debug = 7", "sslVersion = TLSv1.2", "[rsync]", "accept = " ++ acceptPort,
   "connect = " ++ connectPort, "key = /etc/stunnel/certs/tls.key",
   "cert = /etc/stunnel/certs/tls.crt", "TIMEOUTclose = 0"]

def createStunnelServerConfig (c : Constants) (ns : String) (m : ObjectMetaMutation)
    (listenPort connectPort : Int) : Cmd (Option Error) :=
  createOrKeep (dataObject c.stunnelConfig ns m false
    [("stunnel.conf",
      renderConf (stunnelServerConfLines (toString listenPort) (toString connectPort)))])

/-- `Server.createStunnelServerSecret`. The key material is random: `cert` is the outcome
of `GenerateSSLCert` on this call. -/
def createStunnelServerSecret (c : Constants) (ns : String) (m : ObjectMetaMutation)
    (cert : Except Error SSLCert) : Cmd (Option Error) :=
  match cert with
  | .error err => pure (some err)
  | .ok cert =>
    createOrKeep (dataObject c.stunnelSecret ns m true
      [("tls.crt", cert.crt), ("tls.key", cert.key)])

/-- `Server.setFields`: the config map and the secret must be there, and the secret must
hold both keys. -/
def setFields (c : Constants) (nn : NamespacedName) : Cmd (Option Error) := do
  match ← get ⟨.configMap, nn.ns, c.stunnelConfig⟩ with
  | .error err => pure (some err)
  | .ok _ =>
    match ← get ⟨.secret, nn.ns, c.stunnelSecret⟩ with
    | .error err => pure (some err)
    | .ok serverSecret =>
      if (serverSecret.data.lookup "tls.key").isNone then
        pure (some (.msg ("invalid secret for transport " ++ nn.ns ++ "/" ++ nn.name ++
          ", tls.key key not found")))
      else if (serverSecret.data.lookup "tls.crt").isNone then
        pure (some (.msg ("invalid secret for transport " ++ nn.ns ++ "/" ++ nn.name ++
          ", tls.crt key not found")))
      else pure none

/-- `stunnel.NewTransportServer`: the three steps run whatever the others return, and their
errors are aggregated. The sidecar and its volumes are set only when `setFields`
succeeds. -/
def newTransportServer (c : Constants) (nn : NamespacedName) (e : Endpoint)
    (options : TransportOptions) (cert : Except Error SSLCert) :
    Cmd (Transport × Option Error) :=
  let s : Transport := ⟨nn.ns, e.backendPort, stunnelConnectPort, [], [],
    transportTypeStunnel, "localhost"⟩
  match options.objMeta with
  | none => pure (s, some (.panic "nil meta.ObjectMetaMutation"))
  | some m => do
    let err₁ ← createStunnelServerConfig c nn.ns m s.listenPort s.connectPort
    let err₂ ← createStunnelServerSecret c nn.ns m cert
    let err₃ ← setFields c nn
    let s := if err₃.isNone then
      { s with volumes := stunnelVolumes c, containers := stunnelContainers c s.listenPort }
      else s
    pure (s, newAggregate [err₁, err₂, err₃])

/-! ### Client -/

/-- `stunnelClientConfTemplate` rendered with the `connections` map of
`createClientConfig`. -/
def stunnelClientConfLines (listenPort hostname connectPort proxyHost proxyUsername
    proxyPassword caVerifyLevel noVerifyCA : String) : List String :=
  ["", " pid =", " sslVersion = TLSv1.2", " client = yes", " syslog = no",
   " output = /dev/stdout", " [rsync]", " debug = 7", " accept = " ++ listenPort,
   " cert = /etc/stunnel/certs/tls.crt", " key = /etc/stunnel/certs/tls.key"] ++
  (if proxyHost ≠ "" then
    [" protocol = connect", " connect = " ++ proxyHost,
     " protocolHost = " ++ hostname ++ ":" ++ listenPort] ++
    (if proxyUsername ≠ "" then [" protocolUsername = " ++ proxyUsername] else []) ++
    (if proxyPassword ≠ "" then [" protocolPassword = " ++ proxyPassword] else [])
  else [" connect = " ++ hostname ++ ":" ++ connectPort]) ++
  (if noVerifyCA ≠ "false" then [" verify = " ++ caVerifyLevel] else [])

/-- The configuration `createClientConfig` renders: `caVerifyLevel` defaults to `"2"`, and
`noVerifyCA` is `strconv.FormatBool` of the option. -/
def clientConfLines (options : TransportOptions) (hostname : String)
    (listenPort connectPort : Int) : List String :=
  stunnelClientConfLines (toString listenPort) hostname (toString connectPort)
    options.proxyURL options.proxyUsername options.proxyPassword
    (if options.caVerifyLevel = "" then "2" else options.caVerifyLevel)
    (toString options.noVerifyCA)

def createClientConfig (c : Constants) (ns : String) (options : TransportOptions)
    (m : ObjectMetaMutation) (hostname : String) (listenPort connectPort : Int) :
    Cmd (Option Error) :=
  createOrKeep (dataObject c.stunnelConfig ns m false
    [("stunnel.conf", renderConf (clientConfLines options hostname listenPort connectPort))])

/-- `Client.credentials`: the TLS secret must already be in the namespace, with both
keys. -/
def credentials (c : Constants) (ns : String) : Cmd (Option Error) := do
  match ← get ⟨.secret, ns, c.stunnelSecret⟩ with
  | .error err => pure (some err)
  | .ok secret =>
    if (secret.data.lookup "tls.key").isNone then
      pure (some (.msg "invalid credentaials secret, does not have the key"))
    else if (secret.data.lookup "tls.crt").isNone then
      pure (some (.msg "invalid credentaials secret, does not have the crt"))
    else pure none

def newTransportClient (c : Constants) (nn : NamespacedName) (hostname : String)
    (ingressPort : Int) (options : TransportOptions) : Cmd (Except Error Transport) :=
  match options.objMeta with
  | none => pure (.error (.panic "nil meta.ObjectMetaMutation"))
  | some m => do
    match ← createClientConfig c nn.ns options m hostname clientListenPort ingressPort with
    | some err => pure (.error err)
    | none =>
      match ← credentials c nn.ns with
      | some err => pure (.error err)
      | none => pure (.ok ⟨nn.ns, clientListenPort, ingressPort,
          stunnelContainers c clientListenPort, stunnelVolumes c, transportTypeStunnel,
          "localhost"⟩)

/-- `Client.MarkForCleanup`: labels the config map. -/
def clientMarkForCleanup (c : Constants) (t : Transport) (key value : String) :
    Cmd (Option Error) :=
  updateWithLabel ⟨.configMap, t.ns, c.stunnelConfig⟩ key value

end Stunnel

end VolSync
