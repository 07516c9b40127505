import VolSync.Mover

set_option autoImplicit false

/-!
# What the server and the client agree on

The destination mover builds the rsync server over its claim `d`, the source mover builds
the client over its claim `s`, both with `getRsyncTransferOptions` and their own mutations.
The client's pod runs `rsync <options> /mnt/<ns>/<lsn>/ rsync://root@<host>/<lsn>`, with
the label-safe name of `s`; the server's `rsyncd.conf` declares one module per claim of
its list, named by the label-safe name of `d`.

Four of the five links hold by construction: the module's path is where the server pod
mounts `d`, the client reads from where its pod mounts `s`, both sides take the user
`root` and the password from the same options. The fifth, the module name, holds exactly
when the two claims have the same label-safe name.

* `module_mem_rsyncServerConfLines`: the modules of a configuration are the label-safe
  names of its claims.
* `server_client_agree`: the five links, the first as an equivalence.
* `module_mismatch`: a source claim `data` and the destination's default claim name two
  different modules.
-/

namespace VolSync

namespace Rsync

/-! ### The server's configuration -/

theorem module_mem_rsyncModuleLines {u x : String} {p : PVC} :
    "[" ++ x ++ "]" ∈ rsyncModuleLines u p ↔ x = p.labelSafeName := by
  simp [rsyncModuleLines, String.ext_iff]

theorem module_mem_rsyncServerConfLines {u x : String} {pvcs : PVCList} {b : Bool} :
    "[" ++ x ++ "]" ∈ rsyncServerConfLines u pvcs b ↔ ∃ p ∈ pvcs, p.labelSafeName = x := by
  have hhead : "[" ++ x ++ "]" ∉ ["syslog facility = local7", "read only = no", "list = yes",
      "log file = /dev/stdout", "max verbosity = 4", "auth users = " ++ u,
      if b then "hosts allow = ::1, 127.0.0.1, localhost" else "hosts allow = *.*.*.*, *",
      "uid = root", "gid = root"] := by
    cases b <;> simp [String.ext_iff]
  simp only [rsyncServerConfLines, List.mem_append, hhead, false_or, List.mem_flatten,
    List.mem_map, List.mem_singleton]
  constructor
  · rintro (⟨_, ⟨p, hp, rfl⟩, hx⟩ | h)
    · exact ⟨p, hp, (module_mem_rsyncModuleLines.mp hx).symm⟩
    · simp [String.ext_iff] at h
  · rintro ⟨p, hp, rfl⟩
    exact .inl ⟨_, ⟨p, hp, rfl⟩, module_mem_rsyncModuleLines.mpr rfl⟩

theorem path_mem_rsyncModuleLines (u : String) (p : PVC) :
    "    path = " ++ getMountPathForPVC p ∈ rsyncModuleLines u p := by
  simp [rsyncModuleLines, getMountPathForPVC, String.ext_iff]

/-! ### The two pods -/

namespace TransferServer

theorem serverPodSpec_rsync (r : TransferServer) (ns : String) :
    ∃ c ∈ (r.serverPodSpec ns).containers, c.name = rsyncContainer ∧
      c.volumeMounts = getConfigVolumeMounts ++ r.getPVCVolumeMounts ns := by
  simp only [serverPodSpec, applyPodMutations_containers, getPodTemplate]
  exact ⟨_, List.mem_map_of_mem _ (List.mem_append_left _ (List.mem_singleton_self _)),
    by simp, by simp⟩

end TransferServer

theorem clientPodSpec_rsync (options : TransferOptions) (rsyncOptions : List String)
    (t : Transport) (pvc : PVC) :
    ∃ c ∈ (clientPodSpec options rsyncOptions t pvc).containers, c.name = rsyncContainer ∧
      c.command = getRsyncCommand rsyncOptions options t pvc ∧
      ⟨"mnt", getMountPathForPVC pvc, ""⟩ ∈ c.volumeMounts ∧
      ⟨"RSYNC_PASSWORD", options.password⟩ ∈ c.env := by
  simp only [clientPodSpec, applyPodMutations_containers]
  exact ⟨_, List.mem_map_of_mem _ (List.mem_cons_self _ _), by simp [clientRsyncContainer],
    by simp [clientRsyncContainer], by simp [clientRsyncContainer],
    by simp [clientRsyncContainer]⟩

end Rsync

namespace RsyncWithStunnel

open Rsync

/-- **The pairing of the two sides.** Let the destination build the server over `d` and
the source build a client pod over `s`, with the options their reconcilers pass. Then the
client's module is declared by the server exactly when the two label-safe names agree,
and the four other links hold: the module's path is where the server pod mounts `d`; the
client reads the directory where its pod mounts `s`; the URL's user is the configuration's
user; the client's password is the one in the server's credentials. -/
theorem server_client_agree (lsn : String → String → String) (md ms : Mover)
    (d s : NamespacedName) (t t' : Transport) (e : Endpoint) (rsyncOptions : List String) :
    let od := (TransferOptions.empty.apply (destinationTransferOptions md d)).1
    let os := (TransferOptions.empty.apply (sourceTransferOptions ms s)).1
    let pd : PVC := ⟨d.ns, d.name, lsn d.ns d.name⟩
    let ps : PVC := ⟨s.ns, s.name, lsn s.ns s.name⟩
    let r : TransferServer := ⟨newSingletonPVC lsn d.ns d.name, t, e, t.connectPort, od⟩
    let conf := rsyncServerConfLines od.username (inNamespace r.pvcList d.ns)
      (t.type = Stunnel.transportTypeStunnel)
    ("[" ++ ps.labelSafeName ++ "]" ∈ conf ↔ ps.labelSafeName = pd.labelSafeName) ∧
    ("    path = " ++ getMountPathForPVC pd ∈ conf ∧
      ⟨pd.labelSafeName, .persistentVolumeClaim d.name⟩ ∈ (r.serverPodSpec d.ns).volumes ∧
      ∃ c ∈ (r.serverPodSpec d.ns).containers, c.name = rsyncContainer ∧
        ⟨pd.labelSafeName, getMountPathForPVC pd, ""⟩ ∈ c.volumeMounts) ∧
    (⟨"mnt", .persistentVolumeClaim s.name⟩ ∈ (clientPodSpec os rsyncOptions t' ps).volumes ∧
      ∃ c ∈ (clientPodSpec os rsyncOptions t' ps).containers, c.name = rsyncContainer ∧
        c.command = getRsyncCommand rsyncOptions os t' ps ∧
        ⟨"mnt", getMountPathForPVC ps, ""⟩ ∈ c.volumeMounts ∧
        ⟨"RSYNC_PASSWORD", os.password⟩ ∈ c.env) ∧
    (os.username = od.username ∧ "auth users = " ++ od.username ∈ conf) ∧
    r.credentials = od.username ++ ":" ++ os.password := by
  intro od os pd ps r conf
  have hpvcs : inNamespace r.pvcList d.ns = [pd] := by simp [r, inNamespace, newSingletonPVC, pd]
  obtain ⟨c, hc, hcn, hcm⟩ := r.serverPodSpec_rsync d.ns
  refine ⟨?_, ⟨?_, ?_, c, hc, hcn, ?_⟩, ⟨?_, clientPodSpec_rsync os rsyncOptions t' ps⟩,
    ⟨rfl, ?_⟩, rfl⟩
  · simp [conf, hpvcs, module_mem_rsyncServerConfLines, eq_comm]
  · simp only [conf, hpvcs, rsyncServerConfLines, List.map_cons, List.map_nil,
      List.flatten_cons, List.flatten_nil, List.append_nil, List.mem_append]
    exact .inl (.inr (path_mem_rsyncModuleLines _ _))
  · simp [TransferServer.serverPodSpec, TransferServer.getPVCVolumes, hpvcs, pd]
  · simp [hcm, TransferServer.getPVCVolumeMounts, hpvcs, pd]
  · simp [clientPodSpec]
  · simp [conf, rsyncServerConfLines]

/-- The mover's source claim `data` and the destination's default claim
`volsync-<name>-dest` name different modules when the label-safe name is the claim's own
name: the client asks for `[data]`, which the server's configuration does not declare. -/
theorem module_mismatch :
    let lsn : String → String → String := fun _ name => name
    "[" ++ lsn "src" "data" ++ "]" ∉
      rsyncServerConfLines "root" (newSingletonPVC lsn "dst" "volsync-backup-dest") false := by
  decide

end RsyncWithStunnel

end VolSync
