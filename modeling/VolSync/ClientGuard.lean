import VolSync.Rsync.Client

set_option autoImplicit false

/-!
# The guard of the rsync client

`createRsyncClient` first lists the pods that carry the source labels and returns at once
when there is one. The `List` has `MatchingLabels` and no `InNamespace`: it sees the pods
of every namespace. Two replication sources of one name in two namespaces carry the same
`serviceSelector` labels, so the pods of one keep the other from ever creating its own.

* `createRsyncClient_blocked`: a labelled pod anywhere in the store makes a failure-free
  `createRsyncClient` return with no error after its `List`, with nothing created.
* `createRsyncClient_blocked_other_namespace`: two stores with the same (empty) namespace
  `a`, one of them with a labelled pod in `b`; the client for `a` creates its pod in the
  first and nothing in the second.
-/

namespace VolSync

namespace Rsync

/-- **The guard looks at every namespace.** A pod anywhere in the store that carries the
source labels makes a failure-free `createRsyncClient` return at once, with no error and
the store unchanged, whatever namespace the pod is in. -/
theorem createRsyncClient_blocked (tc : TransferClient) (ns : String) (m : ObjectMetaMutation)
    (s : Store) (pod : Object) (hm : tc.options.sourcePodMeta = some m)
    (hpod : pod ∈ s.objects) (hkind : pod.kind = .pod)
    (hlabels : StrMap.matchingLabels m.labels pod.labels = true)
    (l : List (Request × Option Reason)) :
    createRsyncClient tc ns ⟨s, [], l⟩ =
      ((tc, none), ⟨s, [], l ++ [(.list .pod m.labels none, none)]⟩) := by
  have hsel : pod ∈ s.objects.filter (Store.Selects .pod m.labels none) :=
    List.mem_filter.mpr ⟨hpod, by simp [Store.Selects, hkind, hlabels]⟩
  have hne : (s.objects.filter (Store.Selects .pod m.labels none)).isEmpty = false :=
    List.isEmpty_eq_false.mpr (List.ne_nil_of_mem hsel)
  simp only [createRsyncClient, hm, bind_apply, list_noFaults, hne, Bool.not_false, ite_true]
  rfl

theorem createRsyncClient_blocked_other_namespace :
    let m : ObjectMetaMutation :=
      ⟨⟨"data", "a", [("app.kubernetes.io/name", "volsync-src-backup")], []⟩, .replace⟩
    let tc : TransferClient := ⟨[⟨"a", "data", "data"⟩], Null.newTransport "dst.example" 2222,
      { TransferOptions.empty with sourcePodMeta := some m }⟩
    let pod : Object := ⟨"rsync-0", "b", [("app.kubernetes.io/name", "volsync-src-backup")], [],
      true, .pod ⟨[], [], "Never", [], none, ""⟩ []⟩
    let s : Store := ⟨[pod], by decide, by decide, 1⟩
    pod.ns ≠ "a" ∧
    createRsyncClient tc "a" ⟨s, [], []⟩ =
      ((tc, none), ⟨s, [], [(.list .pod m.labels none, none)]⟩) ∧
    (createRsyncClient tc "a" ⟨Store.empty, [], []⟩).2.store.objects.length = 1 := by
  intro m tc pod s
  exact ⟨by decide, createRsyncClient_blocked tc "a" m s pod rfl (List.mem_singleton_self _) rfl
    (by decide) [], rfl⟩

end Rsync

end VolSync
