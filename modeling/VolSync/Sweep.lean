import VolSync.Mover

set_option autoImplicit false

/-!
# What the cleanup sweeper removes

`cleanupObjects` is `CleanupObjects` of `controllers/utils/cleanup.go`. This file reads off
the log of a run (`World.log`) what the run did: which objects it removed, which calls it
made and what it returned, for every store and every pattern of faults.

* `Logged`: the store after a program is the store before less what the program's own
  successful calls remove (`removedBy`), and each call takes one fault. `List`, `Delete`
  and `DeleteAllOf` are `Logged`, and so is every program built from them:
  `cleanupObjects_logged`.
* `BulkRun`, `IterRun`: the calls each phase makes and what it returns, as relations over
  the log. `deleteBulk_run` and `deleteIterative_run` show that the code's two loops are
  runs of them; what the phases do is proved on the relations.
* `cleanupObjects_noFaults`: with no fault every call succeeds.
* `cleanupObjects_sweeps`: a run removes exactly the marked objects of the listed types
  whose `DeleteAllOf` or `Delete` succeeded, and no call names another object. The first
  bulk failure other than `NotFound` ends the run and is returned; otherwise every type is
  tried, and a marked object of an iterative type that is left had its `List` or its
  `Delete` fail. A failure other than `NotFound` gives an error; a run whose only
  failures are `NotFound`s of `DeleteAllOf`s gives nil; with no fault every marked object
  of the listed types is removed.
* `cleanupObjects_error_runs`: with the types of `Mover.Cleanup`, a failed `DeleteAllOf` of
  the first bulk type leaves a marked secret and a marked service, and no call is made for
  them; and a `NotFound` of an iterative `Delete` gives an error, where one of a
  `DeleteAllOf` does not.
-/

namespace VolSync

/-! ### What the calls of a log removed -/

/-- What a successful request removes: `Delete` the object under its key, `DeleteAllOf`
every object it selects; the others remove nothing. -/
def Request.removes : Request → Object → Bool
  | .delete k, o => o.key = k
  | .deleteAllOf kind sel ns, o => Store.Selects kind sel (some ns) o
  | _, _ => false

/-- Whether a successful call of the log removes the object. -/
def removedBy (L : List (Request × Option Reason)) (o : Object) : Bool :=
  L.any fun e => e.2.isNone && e.1.removes o

@[simp] theorem removedBy_nil (o : Object) : removedBy [] o = false := rfl

@[simp] theorem removedBy_append (L L' : List (Request × Option Reason)) (o : Object) :
    removedBy (L ++ L') o = (removedBy L o || removedBy L' o) := List.any_append

@[simp] theorem removedBy_failed (req : Request) (r : Reason) (o : Object) :
    removedBy [(req, some r)] o = false := rfl

@[simp] theorem removedBy_succeeded (req : Request) (o : Object) :
    removedBy [(req, none)] o = req.removes o := by
  simp [removedBy]

@[simp] theorem removedBy_cons (e : Request × Option Reason) (L : List (Request × Option Reason))
    (o : Object) : removedBy (e :: L) o = (e.2.isNone && e.1.removes o || removedBy L o) :=
  List.any_cons

theorem removedBy_iff {L : List (Request × Option Reason)} {o : Object} :
    removedBy L o = true ↔ ∃ req, (req, none) ∈ L ∧ req.removes o = true := by
  simp only [removedBy, List.any_eq_true, Bool.and_eq_true, Option.isNone_iff_eq_none]
  constructor
  · rintro ⟨⟨req, out⟩, he, rfl, h⟩
    exact ⟨req, he, h⟩
  · rintro ⟨req, he, h⟩
    exact ⟨_, he, rfl, h⟩

/-! ### Programs that remove what their calls remove -/

/-- The store after `p` is the store before less what `p`'s own successful calls remove:
its calls `L` are appended to the log and each takes one fault. -/
def Logged {α : Type} (p : Cmd α) : Prop :=
  ∀ w, ∃ L, (p w).2.log = w.log ++ L ∧ (p w).2.faults = w.faults.drop L.length ∧
    (p w).2.store.objects = w.store.objects.filter fun o => !removedBy L o

namespace Logged

variable {α β : Type}

theorem pure (a : α) : Logged (Pure.pure a : Cmd α) :=
  fun w => ⟨[], by simp⟩

theorem bind {p : Cmd α} {f : α → Cmd β} (hp : Logged p) (hf : ∀ a, Logged (f a)) :
    Logged (p >>= f) := by
  intro w
  obtain ⟨L₁, hl₁, hf₁, hs₁⟩ := hp w
  obtain ⟨L₂, hl₂, hf₂, hs₂⟩ := hf (p w).1 (p w).2
  refine ⟨L₁ ++ L₂, ?_, ?_, ?_⟩
  · rw [bind_apply, hl₂, hl₁, List.append_assoc]
  · rw [bind_apply, hf₂, hf₁, List.drop_drop, List.length_append]
  · rw [bind_apply, hs₂, hs₁, List.filter_filter]
    simp only [removedBy_append, Bool.not_or, Bool.and_comm]

theorem map {p : Cmd α} (f : α → β) (hp : Logged p) : Logged (f <$> p) := hp

/-- A call whose operation, when it succeeds, removes what its request removes. -/
theorem apiCall {req : Request} {op : Store → Except Reason (α × Store)}
    (hop : ∀ s a s', op s = .ok (a, s') →
      s'.objects = s.objects.filter fun o => !req.removes o) :
    Logged (VolSync.apiCall req op) := by
  intro w
  unfold VolSync.apiCall
  split
  · exact ⟨_, rfl, (List.drop_one _).symm, by simp⟩
  · split
    · exact ⟨_, rfl, (List.drop_one _).symm, by simpa using hop _ _ _ ‹_›⟩
    · exact ⟨_, rfl, (List.drop_one _).symm, by simp⟩

theorem faults_nil {p : Cmd α} (hp : Logged p) {w : World} (h : w.faults = []) :
    (p w).2.faults = [] := by
  obtain ⟨L, -, hf, -⟩ := hp w
  rw [hf, h, List.drop_nil]

end Logged

theorem list_logged (kind : Kind) (sel : StrMap) (ns : Option String) :
    Logged (list kind sel ns) :=
  Logged.apiCall fun _ _ _ h => by cases h; simp [Request.removes]

theorem delete_logged (k : Key) : Logged (delete k) :=
  Logged.map _ <| Logged.apiCall fun s _ _ h => by
    unfold Store.delete at h
    split at h
    · cases h; simp [Request.removes]
    · cases h

theorem deleteAllOf_logged (kind : Kind) (sel : StrMap) (ns : String) :
    Logged (deleteAllOf kind sel ns) :=
  Logged.map _ <| Logged.apiCall fun _ _ _ h => by cases h; rfl

theorem deleteBulk_logged (sel : StrMap) (ns : String) :
    ∀ types, Logged (deleteBulk sel ns types)
  | [] => Logged.pure _
  | k :: ks => by
    rw [deleteBulk]
    refine (deleteAllOf_logged k sel ns).bind fun err => ?_
    split
    · exact Logged.pure _
    · exact deleteBulk_logged sel ns ks

theorem deleteItems_logged : ∀ items, Logged (deleteItems items)
  | [] => Logged.pure _
  | item :: items => by
    rw [deleteItems]
    exact (delete_logged _).bind fun _ => (deleteItems_logged items).bind fun _ => Logged.pure _

theorem deleteIterative_logged (sel : StrMap) (ns : String) :
    ∀ ks, Logged (deleteIterative sel ns ks)
  | [] => Logged.pure _
  | k :: ks => by
    rw [deleteIterative]
    refine (list_logged _ _ _).bind fun res => ?_
    split
    · exact (deleteIterative_logged sel ns ks).bind fun _ => Logged.pure _
    · exact (deleteItems_logged _).bind fun _ =>
        (deleteIterative_logged sel ns ks).bind fun _ => Logged.pure _

theorem cleanupObjects_logged (owner : Owner) (types iterativeTypes : List Kind) :
    Logged (cleanupObjects owner types iterativeTypes) := by
  unfold cleanupObjects
  refine (deleteBulk_logged _ _ _).bind fun res => ?_
  split
  · exact Logged.pure _
  · exact (deleteIterative_logged _ _ _).bind fun _ => Logged.pure _

/-! ### The outcome of each call -/

section Calls

variable {w : World}

theorem outcome_deleteAllOf (kind : Kind) (sel : StrMap) (ns : String) :
    outcome (Store.deleteAllOf kind sel ns) w = w.nextFault :=
  outcome_of_total fun _ => ⟨_, rfl⟩

@[simp] theorem deleteAllOf_fst (kind : Kind) (sel : StrMap) (ns : String) :
    (deleteAllOf kind sel ns w).1 = w.nextFault.map .status := by
  rw [← outcome_deleteAllOf kind sel ns, deleteAllOf, map_apply]
  exact errorOf_apiCall

@[simp] theorem deleteAllOf_log (kind : Kind) (sel : StrMap) (ns : String) :
    (deleteAllOf kind sel ns w).2.log =
      w.log ++ [(.deleteAllOf kind sel ns, w.nextFault)] := by
  rw [← outcome_deleteAllOf kind sel ns, deleteAllOf, map_apply]
  exact apiCall_log

theorem delete_fst (k : Key) : (delete k w).1 = (outcome (Store.delete k) w).map .status :=
  errorOf_apiCall

theorem delete_log (k : Key) :
    (delete k w).2.log = w.log ++ [(.delete k, outcome (Store.delete k) w)] :=
  apiCall_log

theorem delete_store (k : Key) :
    (delete k w).2.store.objects =
      w.store.objects.filter fun o => !removedBy [(.delete k, outcome (Store.delete k) w)] o := by
  obtain ⟨L, hl, -, hs⟩ := delete_logged k w
  rw [delete_log, List.append_cancel_left_eq] at hl
  subst hl
  exact hs

theorem outcome_delete_of_mem {k : Key} (hf : w.nextFault = none)
    (hk : k ∈ w.store.objects.map Object.key) : outcome (Store.delete k) w = none := by
  simp [outcome, hf, Store.delete, hk]

theorem list_fst (kind : Kind) (sel : StrMap) (ns : Option String) :
    (list kind sel ns w).1 = match w.nextFault with
      | some r => .error (.status r)
      | none => .ok (w.store.objects.filter (Store.Selects kind sel ns)) := by
  unfold list apiCall
  rcases w.nextFault <;> rfl

@[simp] theorem list_log (kind : Kind) (sel : StrMap) (ns : Option String) :
    (list kind sel ns w).2.log = w.log ++ [(.list kind sel ns, w.nextFault)] := by
  unfold list apiCall
  rcases w.nextFault <;> rfl

end Calls

/-! ### The bulk phase -/

/-- The calls of the bulk phase and its result: a `DeleteAllOf` per type, in order, until
one fails with a reason other than `NotFound`; that one's error is returned. -/
inductive BulkRun (sel : StrMap) (ns : String) :
    List Kind → List (Request × Option Reason) → Option Error → Prop
  | nil : BulkRun sel ns [] [] none
  | stop {k : Kind} {ks : List Kind} {r : Reason} (hr : r ≠ .notFound) :
      BulkRun sel ns (k :: ks) [(.deleteAllOf k sel ns, some r)] (some (.status r))
  | next {k : Kind} {ks : List Kind} {out : Option Reason} {L : List (Request × Option Reason)}
      {res : Option Error} (hout : out = none ∨ out = some .notFound) :
      BulkRun sel ns ks L res → BulkRun sel ns (k :: ks) ((.deleteAllOf k sel ns, out) :: L) res

/-- **The bulk loop is a `BulkRun`.** -/
theorem deleteBulk_run (sel : StrMap) (ns : String) : ∀ (types : List Kind) (w : World),
    ∃ L, (deleteBulk sel ns types w).2.log = w.log ++ L ∧
      BulkRun sel ns types L (deleteBulk sel ns types w).1
  | [], w => ⟨[], by simp [deleteBulk], .nil⟩
  | k :: ks, w => by
    rw [deleteBulk, bind_apply, deleteAllOf_fst]
    rcases h : w.nextFault with _ | r
    · obtain ⟨L, hL, hrun⟩ := deleteBulk_run sel ns ks (deleteAllOf k sel ns w).2
      exact ⟨_, by simp [hL, h, ignoreNotFound], .next (.inl rfl) hrun⟩
    · by_cases hr : r = .notFound
      · subst hr
        obtain ⟨L, hL, hrun⟩ := deleteBulk_run sel ns ks (deleteAllOf k sel ns w).2
        exact ⟨_, by simp [hL, h, ignoreNotFound, Error.isNotFound], .next (.inr rfl) hrun⟩
      · have : ignoreNotFound (some (.status r)) = some (.status r) := by
          cases r <;> simp_all [ignoreNotFound, Error.isNotFound]
        simp only [Option.map_some', this]
        exact ⟨_, by simp [h], .stop hr⟩

namespace BulkRun

variable {sel : StrMap} {ns : String} {types : List Kind} {L : List (Request × Option Reason)}
  {res : Option Error}

theorem requests (h : BulkRun sel ns types L res) :
    ∀ e ∈ L, ∃ k ∈ types, e.1 = .deleteAllOf k sel ns := by
  induction h with
  | nil => simp
  | stop => simp
  | next _ _ ih =>
    rintro e (_ | ⟨_, he⟩)
    · exact ⟨_, List.mem_cons_self _ _, rfl⟩
    · obtain ⟨k, hk, he⟩ := ih e he
      exact ⟨k, List.mem_cons_of_mem _ hk, he⟩

/-- A bulk phase that returns nil called `DeleteAllOf` for every type, and each call
succeeded or failed with `NotFound`. -/
theorem of_none (h : BulkRun sel ns types L res) (hres : res = none) :
    (∀ e ∈ L, e.2 = none ∨ e.2 = some .notFound) ∧
      ∀ k ∈ types, ∃ out, (.deleteAllOf k sel ns, out) ∈ L := by
  induction h with
  | nil => simp
  | stop => cases hres
  | next hout _ ih =>
    obtain ⟨h₁, h₂⟩ := ih hres
    refine ⟨?_, ?_⟩
    · rintro e (_ | ⟨_, he⟩)
      · exact hout
      · exact h₁ e he
    · rintro k (_ | ⟨_, hk⟩)
      · exact ⟨_, List.mem_cons_self _ _⟩
      · obtain ⟨out, hout⟩ := h₂ k hk
        exact ⟨out, List.mem_cons_of_mem _ hout⟩

/-- A bulk phase that returns an error ended at the call that failed with it, with a reason
other than `NotFound`; the calls before it succeeded or failed with `NotFound`. -/
theorem of_some {err : Error} (h : BulkRun sel ns types L res) (hres : res = some err) :
    ∃ L' k r, L = L' ++ [(.deleteAllOf k sel ns, some r)] ∧ r ≠ .notFound ∧
      err = .status r ∧ ∀ e ∈ L', e.2 = none ∨ e.2 = some .notFound := by
  induction h with
  | nil => cases hres
  | stop hr =>
    cases hres
    exact ⟨[], _, _, rfl, hr, rfl, by simp⟩
  | next hout _ ih =>
    obtain ⟨L', k, r, rfl, hr, herr, hL'⟩ := ih hres
    refine ⟨_ :: L', k, r, rfl, hr, herr, ?_⟩
    rintro e (_ | ⟨_, he⟩)
    · exact hout
    · exact hL' e he

end BulkRun

/-! ### The iterative phase -/

/-- The `Delete` of an object, with its outcome. -/
def deleteCall (d : Object × Option Reason) : Request × Option Reason := (.delete d.1.key, d.2)

/-- **The `Delete` loop**: one `Delete` per item, in order, each error kept. -/
theorem deleteItems_run : ∀ (items : List Object) (w : World),
    ∃ D : List (Object × Option Reason), D.map Prod.fst = items ∧
      (deleteItems items w).1 = D.map (fun d => d.2.map .status) ∧
      (deleteItems items w).2.log = w.log ++ D.map deleteCall
  | [], w => ⟨[], rfl, rfl, by simp [deleteItems]⟩
  | item :: items, w => by
    obtain ⟨D, hD, he, hl⟩ := deleteItems_run items (delete item.key w).2
    refine ⟨(item, outcome (Store.delete item.key) w) :: D, by simp [hD], ?_, ?_⟩
    · simp [deleteItems, he, delete_fst]
    · simp [deleteItems, hl, delete_log, deleteCall]

/-- The calls of the iterative phase on the objects `os`, and the errors it keeps: per type
a `List`, whose failure is kept; after a successful one every object it selects gets a
`Delete` (`D` pairs each with its outcome), whose failure is kept; the next type sees the
objects that are left. -/
inductive IterRun (sel : StrMap) (ns : String) :
    List Object → List Kind → List (Request × Option Reason) → List (Option Error) → Prop
  | nil {os : List Object} : IterRun sel ns os [] [] []
  | listFailed {os : List Object} {k : Kind} {ks : List Kind} {r : Reason}
      {L : List (Request × Option Reason)} {errs : List (Option Error)} :
      IterRun sel ns os ks L errs →
      IterRun sel ns os (k :: ks) ((.list k sel (some ns), some r) :: L) (some (.status r) :: errs)
  | listed {os : List Object} {k : Kind} {ks : List Kind} {L : List (Request × Option Reason)}
      {errs : List (Option Error)} (D : List (Object × Option Reason))
      (hD : D.map Prod.fst = os.filter (Store.Selects k sel (some ns))) :
      IterRun sel ns (os.filter fun o => !removedBy (D.map deleteCall) o) ks L errs →
      IterRun sel ns os (k :: ks) ((.list k sel (some ns), none) :: D.map deleteCall ++ L)
        (D.map (fun d => d.2.map .status) ++ errs)

/-- **The iterative loop is an `IterRun`** from the objects of the store it starts on. -/
theorem deleteIterative_run (sel : StrMap) (ns : String) : ∀ (ks : List Kind) (w : World),
    ∃ L, (deleteIterative sel ns ks w).2.log = w.log ++ L ∧
      IterRun sel ns w.store.objects ks L (deleteIterative sel ns ks w).1
  | [], w => ⟨[], by simp [deleteIterative], .nil⟩
  | k :: ks, w => by
    rw [deleteIterative, bind_apply, list_fst]
    rcases h : w.nextFault with _ | r <;> dsimp only <;> simp only [bind_apply, pure_apply]
    · let w₁ := (list k sel (some ns) w).2
      let items := w.store.objects.filter (Store.Selects k sel (some ns))
      obtain ⟨D, hD, he, hl⟩ := deleteItems_run items w₁
      obtain ⟨L₁, hl₁, -, hs₁⟩ := deleteItems_logged items w₁
      obtain rfl : L₁ = D.map deleteCall := List.append_cancel_left (hl₁.symm.trans hl)
      obtain ⟨L, hL, hrun⟩ := deleteIterative_run sel ns ks (deleteItems items w₁).2
      refine ⟨(.list k sel (some ns), none) :: D.map deleteCall ++ L, ?_, ?_⟩
      · simp [hL, hl, w₁, h]
      · rw [he]
        refine .listed D hD ?_
        rwa [hs₁, list_store] at hrun
    · obtain ⟨L, hL, hrun⟩ := deleteIterative_run sel ns ks (list k sel (some ns) w).2
      refine ⟨(.list k sel (some ns), some r) :: L, by simp [hL, h], ?_⟩
      rw [list_store] at hrun
      exact .listFailed hrun

namespace IterRun

variable {sel : StrMap} {ns : String} {os : List Object} {ks : List Kind}
  {L : List (Request × Option Reason)} {errs : List (Option Error)}

theorem requests (h : IterRun sel ns os ks L errs) :
    ∀ e ∈ L, (∃ k ∈ ks, e.1 = .list k sel (some ns)) ∨
      ∃ x ∈ os, ∃ k ∈ ks, Store.Selects k sel (some ns) x ∧ e.1 = .delete x.key := by
  induction h with
  | nil => simp
  | listFailed _ ih =>
    rintro e (_ | ⟨_, he⟩)
    · exact .inl ⟨_, List.mem_cons_self _ _, rfl⟩
    · rcases ih e he with ⟨k, hk, he⟩ | ⟨x, hx, k, hk, hs, he⟩
      · exact .inl ⟨k, List.mem_cons_of_mem _ hk, he⟩
      · exact .inr ⟨x, hx, k, List.mem_cons_of_mem _ hk, hs, he⟩
  | listed D hD _ ih =>
    rintro e (_ | ⟨_, he⟩)
    · exact .inl ⟨_, List.mem_cons_self _ _, rfl⟩
    rcases List.mem_append.mp he with he | he
    · obtain ⟨d, hd, rfl⟩ := List.mem_map.mp he
      have hx := List.mem_map_of_mem Prod.fst hd
      rw [hD] at hx
      obtain ⟨hx, hs⟩ := List.mem_filter.mp hx
      exact .inr ⟨d.1, hx, _, List.mem_cons_self _ _, hs, rfl⟩
    · rcases ih e he with ⟨k, hk, he⟩ | ⟨x, hx, k, hk, hs, he⟩
      · exact .inl ⟨k, List.mem_cons_of_mem _ hk, he⟩
      · exact .inr ⟨x, List.mem_of_mem_filter hx, k, List.mem_cons_of_mem _ hk, hs, he⟩

theorem errs_none_iff (h : IterRun sel ns os ks L errs) :
    (∀ e ∈ errs, e = none) ↔ ∀ e ∈ L, e.2 = none := by
  induction h with
  | nil => simp
  | listFailed => simp
  | listed D _ _ ih =>
    simp only [List.forall_mem_cons, List.forall_mem_append, List.forall_mem_map, deleteCall,
      Option.map_eq_none', ih, true_and]

theorem lists (h : IterRun sel ns os ks L errs) :
    ∀ k ∈ ks, ∃ out, (.list k sel (some ns), out) ∈ L := by
  induction h with
  | nil => simp
  | listFailed _ ih =>
    rintro k (_ | ⟨_, hk⟩)
    · exact ⟨_, List.mem_cons_self _ _⟩
    · obtain ⟨out, h⟩ := ih k hk
      exact ⟨out, List.mem_cons_of_mem _ h⟩
  | listed D _ _ ih =>
    rintro k (_ | ⟨_, hk⟩)
    · exact ⟨_, List.mem_cons_self _ _⟩
    · obtain ⟨out, h⟩ := ih k hk
      exact ⟨out, List.mem_cons_of_mem _ (List.mem_append_right _ h)⟩

/-- **An object a type of the iterative phase selects is left only if its `List` or its
`Delete` failed.** -/
theorem survivor (h : IterRun sel ns os ks L errs) :
    ∀ o ∈ os, removedBy L o = false → ∀ k ∈ ks, Store.Selects k sel (some ns) o = true →
      (∃ r, (.list k sel (some ns), some r) ∈ L) ∨ ∃ r, (.delete o.key, some r) ∈ L := by
  induction h with
  | nil => simp
  | listFailed _ ih =>
    intro o ho hr k hk hs
    rcases List.mem_cons.mp hk with rfl | hk
    · exact .inl ⟨_, List.mem_cons_self _ _⟩
    · simp only [removedBy_cons, Option.isNone_some, Bool.false_and, Bool.false_or] at hr
      rcases ih o ho hr k hk hs with ⟨r, h⟩ | ⟨r, h⟩
      · exact .inl ⟨r, List.mem_cons_of_mem _ h⟩
      · exact .inr ⟨r, List.mem_cons_of_mem _ h⟩
  | @listed os k' ks L errs D hD _ ih =>
    intro o ho hr k hk hs
    simp only [removedBy_cons, Option.isNone_none, Request.removes, Bool.true_and, Bool.false_or,
      removedBy_append, Bool.or_eq_false_iff] at hr
    rcases List.mem_cons.mp hk with rfl | hk
    · have : o ∈ D.map Prod.fst := hD ▸ List.mem_filter.mpr ⟨ho, hs⟩
      obtain ⟨⟨x, out⟩, hd, rfl⟩ := List.mem_map.mp this
      cases out with
      | none =>
        have : removedBy (D.map deleteCall) x = true :=
          removedBy_iff.mpr ⟨_, List.mem_map_of_mem deleteCall hd, by simp [Request.removes]⟩
        exact absurd this (by simpa using hr.1)
      | some r =>
        exact .inr ⟨r, List.mem_cons_of_mem _
          (List.mem_append_left _ (List.mem_map_of_mem deleteCall hd))⟩
    · rcases ih o (List.mem_filter.mpr ⟨ho, by simp [hr.1]⟩) hr.2 k hk hs with ⟨r, h⟩ | ⟨r, h⟩
      · exact .inl ⟨r, List.mem_cons_of_mem _ (List.mem_append_right _ h)⟩
      · exact .inr ⟨r, List.mem_cons_of_mem _ (List.mem_append_right _ h)⟩

end IterRun

/-! ### Runs without faults -/

theorem deleteItems_noFaults : ∀ (items : List Object) (w : World), w.faults = [] →
    (∀ x ∈ items, x ∈ w.store.objects) → (items.map Object.key).Nodup →
    (deleteItems items w).2.log = w.log ++ items.map fun x => (.delete x.key, none)
  | [], w, _, _, _ => by simp [deleteItems]
  | x :: xs, w, hf, hin, hnd => by
    rw [List.map_cons, List.nodup_cons] at hnd
    have hout : outcome (Store.delete x.key) w = none :=
      outcome_delete_of_mem (World.nextFault_of_faults_nil hf)
        (List.mem_map_of_mem _ (hin x (List.mem_cons_self _ _)))
    have hin' : ∀ y ∈ xs, y ∈ (delete x.key w).2.store.objects := by
      intro y hy
      rw [delete_store, hout, List.mem_filter]
      refine ⟨hin y (List.mem_cons_of_mem _ hy), ?_⟩
      have : y.key ≠ x.key := fun h => hnd.1 (h ▸ List.mem_map_of_mem _ hy)
      simp [Request.removes, this]
    have := deleteItems_noFaults xs (delete x.key w).2 ((delete_logged _).faults_nil hf) hin' hnd.2
    simp [deleteItems, this, delete_log, hout]

theorem deleteIterative_noFaults (sel : StrMap) (ns : String) : ∀ (ks : List Kind) (w : World),
    w.faults = [] → ∃ L, (deleteIterative sel ns ks w).2.log = w.log ++ L ∧ ∀ e ∈ L, e.2 = none
  | [], w, _ => ⟨[], by simp [deleteIterative], by simp⟩
  | k :: ks, w, hf => by
    have h := World.nextFault_of_faults_nil hf
    rw [deleteIterative, bind_apply, list_fst, h]
    dsimp only
    simp only [bind_apply, pure_apply]
    let w₁ := (list k sel (some ns) w).2
    let items := w.store.objects.filter (Store.Selects k sel (some ns))
    have hf₁ : w₁.faults = [] := (list_logged _ _ _).faults_nil hf
    have hl₁ := deleteItems_noFaults items w₁ hf₁
      (fun x hx => by simpa [w₁] using List.mem_of_mem_filter hx)
      (w.store.keys_nodup.sublist ((List.filter_sublist _).map _))
    obtain ⟨L, hL, hL'⟩ :=
      deleteIterative_noFaults sel ns ks (deleteItems items w₁).2 ((deleteItems_logged _).faults_nil hf₁)
    refine ⟨(.list k sel (some ns), none) :: items.map (fun x => (.delete x.key, none)) ++ L,
      by simp [hL, hl₁, w₁, h], ?_⟩
    simp only [List.forall_mem_cons, List.forall_mem_append, List.forall_mem_map, implies_true,
      true_and]
    exact hL'

theorem deleteBulk_noFaults (sel : StrMap) (ns : String) : ∀ (types : List Kind) (w : World),
    w.faults = [] → (deleteBulk sel ns types w).1 = none ∧
      ∃ L, (deleteBulk sel ns types w).2.log = w.log ++ L ∧ ∀ e ∈ L, e.2 = none
  | [], w, _ => ⟨rfl, [], by simp [deleteBulk], by simp⟩
  | k :: ks, w, hf => by
    have h := World.nextFault_of_faults_nil hf
    rw [deleteBulk, bind_apply, deleteAllOf_fst, h]
    obtain ⟨hres, L, hL, hL'⟩ :=
      deleteBulk_noFaults sel ns ks (deleteAllOf k sel ns w).2 ((deleteAllOf_logged _ _ _).faults_nil hf)
    exact ⟨hres, (.deleteAllOf k sel ns, none) :: L, by simp [hL, h, ignoreNotFound],
      List.forall_mem_cons.mpr ⟨rfl, hL'⟩⟩

/-- **With no fault every call of `CleanupObjects` succeeds.** -/
theorem cleanupObjects_noFaults (owner : Owner) (types iterativeTypes : List Kind) (w : World)
    (hf : w.faults = []) : ∃ L, (cleanupObjects owner types iterativeTypes w).2.log = w.log ++ L ∧
      ∀ e ∈ L, e.2 = none := by
  obtain ⟨hres, Lb, hLb, hLb'⟩ := deleteBulk_noFaults owner.selector owner.ns types w hf
  obtain ⟨Li, hLi, hLi'⟩ := deleteIterative_noFaults owner.selector owner.ns iterativeTypes
    (deleteBulk owner.selector owner.ns types w).2 ((deleteBulk_logged _ _ _).faults_nil hf)
  refine ⟨Lb ++ Li, ?_, ?_⟩
  · simp [cleanupObjects, hres, hLi, hLb]
  · simpa [or_imp, forall_and] using And.intro hLb' hLi'

/-! ### The marked objects -/

/-- The objects `CleanupObjects` of `owner` is there to delete: in the owner's namespace,
with the label `cleanupLabelKey = owner UID` that `markForCleanup` sets. -/
def Owner.Marks (owner : Owner) (o : Object) : Prop :=
  o.ns = owner.ns ∧ o.labels.lookup cleanupLabelKey = some owner.uid

instance (owner : Owner) (o : Object) : Decidable (owner.Marks o) :=
  inferInstanceAs (Decidable (_ ∧ _))

theorem Owner.marks_markForCleanup (owner : Owner) (o : Object) :
    owner.Marks (markForCleanup owner.uid o) ↔ o.ns = owner.ns := by
  simp [Owner.Marks, markForCleanup]

theorem Owner.selects_iff {owner : Owner} {k : Kind} {o : Object} :
    Store.Selects k owner.selector (some owner.ns) o = true ↔ o.kind = k ∧ owner.Marks o := by
  simp only [Store.Selects, Owner.selector, StrMap.matchingLabels, Owner.Marks, Bool.and_eq_true,
    decide_eq_true_eq, List.all_cons, List.all_nil, Bool.and_true, beq_iff_eq, Option.all_some]
  exact ⟨fun ⟨⟨hk, hl⟩, hn⟩ => ⟨hk, hn.symm, hl⟩, fun ⟨hk, hn, hl⟩ => ⟨⟨hk, hl⟩, hn.symm⟩⟩

/-- What a call of `CleanupObjects` of `owner` may ask, on the objects `os` it starts from:
a `DeleteAllOf` of a bulk type, a `List` of an iterative type, a `Delete` of a marked
object of an iterative type; each with the owner's selector and namespace. -/
def SweepRequest (owner : Owner) (types iterativeTypes : List Kind) (os : List Object) :
    Request → Prop
  | .deleteAllOf k sel ns => k ∈ types ∧ sel = owner.selector ∧ ns = owner.ns
  | .list k sel ns => k ∈ iterativeTypes ∧ sel = owner.selector ∧ ns = some owner.ns
  | .delete key => ∃ x ∈ os, x.key = key ∧ x.kind ∈ iterativeTypes ∧ owner.Marks x
  | _ => False

/-- When the calls of a log only ask what `SweepRequest` allows, its successful calls
removed a stored object exactly when the object is marked and the `DeleteAllOf` of its
bulk type or its own `Delete` succeeded. -/
theorem removedBy_iff_marks {owner : Owner} {types iterativeTypes : List Kind} {s : Store}
    {L : List (Request × Option Reason)}
    (hL : ∀ e ∈ L, SweepRequest owner types iterativeTypes s.objects e.1)
    {o : Object} (ho : o ∈ s.objects) :
    removedBy L o = true ↔ owner.Marks o ∧
      ((o.kind ∈ types ∧ (.deleteAllOf o.kind owner.selector owner.ns, none) ∈ L) ∨
        (o.kind ∈ iterativeTypes ∧ (.delete o.key, none) ∈ L)) := by
  rw [removedBy_iff]
  constructor
  · rintro ⟨req, he, hr⟩
    have hreq := hL _ he
    cases req with
    | deleteAllOf k sel ns =>
      obtain ⟨hk, rfl, rfl⟩ := hreq
      obtain ⟨rfl, hm⟩ := Owner.selects_iff.mp hr
      exact ⟨hm, .inl ⟨hk, he⟩⟩
    | delete key =>
      obtain ⟨x, hx, rfl, hkind, hm⟩ := hreq
      obtain rfl : o = x := Store.eq_of_key_eq ho hx (by simpa [Request.removes] using hr)
      exact ⟨hm, .inr ⟨hkind, he⟩⟩
    | _ => simp [Request.removes] at hr
  · rintro ⟨hm, ⟨-, he⟩ | ⟨-, he⟩⟩
    · exact ⟨_, he, Owner.selects_iff.mpr ⟨rfl, hm⟩⟩
    · exact ⟨_, he, by simp [Request.removes]⟩

/-! ### A run of `CleanupObjects` -/

/-- **`CleanupObjects` is a bulk run, then, when that returned nil, an iterative run** on
the objects the bulk phase left. -/
theorem cleanupObjects_run (owner : Owner) (types iterativeTypes : List Kind) (w : World) :
    ∃ Lb res, BulkRun owner.selector owner.ns types Lb res ∧
      ((∃ err, res = some err ∧ (cleanupObjects owner types iterativeTypes w).1 = some err ∧
          (cleanupObjects owner types iterativeTypes w).2.log = w.log ++ Lb) ∨
        (res = none ∧ ∃ Li errs,
          IterRun owner.selector owner.ns (w.store.objects.filter fun o => !removedBy Lb o)
            iterativeTypes Li errs ∧
          (cleanupObjects owner types iterativeTypes w).1 = newAggregate errs ∧
          (cleanupObjects owner types iterativeTypes w).2.log = w.log ++ Lb ++ Li)) := by
  obtain ⟨Lb, hLb, hrun⟩ := deleteBulk_run owner.selector owner.ns types w
  obtain ⟨Lb', hLb', -, hs⟩ := deleteBulk_logged owner.selector owner.ns types w
  obtain rfl : Lb' = Lb := List.append_cancel_left (hLb'.symm.trans hLb)
  refine ⟨Lb', _, hrun, ?_⟩
  unfold cleanupObjects
  rcases hres : (deleteBulk owner.selector owner.ns types w).1 with _ | err
  · obtain ⟨Li, hLi, hirun⟩ := deleteIterative_run owner.selector owner.ns iterativeTypes
      (deleteBulk owner.selector owner.ns types w).2
    rw [hs] at hirun
    exact .inr ⟨rfl, Li, _, hirun, by simp [hres], by simp [hres, hLi, hLb]⟩
  · exact .inl ⟨err, rfl, by simp [hres], by simp [hres, hLb]⟩

section Run

variable (owner : Owner) (types iterativeTypes : List Kind) (s : Store)
  (fs : List (Option Reason))

theorem cleanupObjects_store :
    (cleanupObjects owner types iterativeTypes ⟨s, fs, []⟩).2.store.objects =
      s.objects.filter fun o => !removedBy (cleanupObjects owner types iterativeTypes ⟨s, fs, []⟩).2.log o := by
  obtain ⟨L, hl, -, hs⟩ := cleanupObjects_logged owner types iterativeTypes ⟨s, fs, []⟩
  rw [hl, List.nil_append]
  exact hs

theorem cleanupObjects_requests :
    ∀ e ∈ (cleanupObjects owner types iterativeTypes ⟨s, fs, []⟩).2.log,
      SweepRequest owner types iterativeTypes s.objects e.1 := by
  obtain ⟨Lb, res, hb, ⟨err, rfl, -, hl⟩ | ⟨rfl, Li, errs, hi, -, hl⟩⟩ :=
    cleanupObjects_run owner types iterativeTypes ⟨s, fs, []⟩
  all_goals
    have hbulk : ∀ e ∈ Lb, SweepRequest owner types iterativeTypes s.objects e.1 := by
      intro e he
      obtain ⟨k, hk, he'⟩ := hb.requests e he
      rw [he']
      exact ⟨hk, rfl, rfl⟩
    rw [hl, List.nil_append]
  · exact hbulk
  · intro e he
    rcases List.mem_append.mp he with he | he
    · exact hbulk e he
    rcases hi.requests e he with ⟨k, hk, he'⟩ | ⟨x, hx, k, hk, hsel, he'⟩ <;> rw [he']
    · exact ⟨hk, rfl, rfl⟩
    · obtain ⟨rfl, hm⟩ := Owner.selects_iff.mp hsel
      exact ⟨x, List.mem_of_mem_filter hx, rfl, hk, hm⟩

theorem cleanupObjects_bulk_failure :
    ∀ k r, (.deleteAllOf k owner.selector owner.ns, some r) ∈
        (cleanupObjects owner types iterativeTypes ⟨s, fs, []⟩).2.log → r ≠ .notFound →
      (cleanupObjects owner types iterativeTypes ⟨s, fs, []⟩).1 = some (.status r) ∧
      (cleanupObjects owner types iterativeTypes ⟨s, fs, []⟩).2.log.getLast? =
        some (.deleteAllOf k owner.selector owner.ns, some r) := by
  intro k r he hr
  obtain ⟨Lb, res, hb, ⟨err, rfl, h₁, hl⟩ | ⟨rfl, Li, errs, hi, -, hl⟩⟩ :=
    cleanupObjects_run owner types iterativeTypes ⟨s, fs, []⟩
  · obtain ⟨L', k', r', rfl, -, rfl, hL'⟩ := hb.of_some rfl
    rw [hl, List.nil_append] at he ⊢
    rcases List.mem_append.mp he with he | he
    · rcases hL' _ he with h | h <;> simp_all
    · obtain ⟨rfl, rfl⟩ : k = k' ∧ r = r' := by simpa using he
      exact ⟨h₁, List.getLast?_concat _⟩
  · exfalso
    rw [hl, List.nil_append] at he
    rcases List.mem_append.mp he with he | he
    · rcases (hb.of_none rfl).1 _ he with h | h <;> simp_all
    · rcases hi.requests _ he with ⟨_, _, h⟩ | ⟨_, _, _, _, _, h⟩ <;> cases h

theorem cleanupObjects_tries_all :
    (∀ k r, (.deleteAllOf k owner.selector owner.ns, some r) ∈
        (cleanupObjects owner types iterativeTypes ⟨s, fs, []⟩).2.log → r = .notFound) →
      (∀ k ∈ types, ∃ out, (.deleteAllOf k owner.selector owner.ns, out) ∈
        (cleanupObjects owner types iterativeTypes ⟨s, fs, []⟩).2.log) ∧
      (∀ k ∈ iterativeTypes, ∃ out, (.list k owner.selector (some owner.ns), out) ∈
        (cleanupObjects owner types iterativeTypes ⟨s, fs, []⟩).2.log) ∧
      ∀ o ∈ (cleanupObjects owner types iterativeTypes ⟨s, fs, []⟩).2.store.objects,
        owner.Marks o → o.kind ∈ iterativeTypes →
        (∃ r, (.list o.kind owner.selector (some owner.ns), some r) ∈
          (cleanupObjects owner types iterativeTypes ⟨s, fs, []⟩).2.log) ∨
        ∃ r, (.delete o.key, some r) ∈ (cleanupObjects owner types iterativeTypes ⟨s, fs, []⟩).2.log := by
  intro hsoft
  have hstore := cleanupObjects_store owner types iterativeTypes s fs
  obtain ⟨Lb, res, hb, ⟨err, rfl, -, hl⟩ | ⟨rfl, Li, errs, hi, -, hl⟩⟩ :=
    cleanupObjects_run owner types iterativeTypes ⟨s, fs, []⟩
  · obtain ⟨L', k, r, rfl, hr, -, -⟩ := hb.of_some rfl
    exact absurd (hsoft k r (by simp [hl])) hr
  · rw [hl, List.nil_append] at hstore ⊢
    refine ⟨fun k hk => ?_, fun k hk => ?_, fun o ho hm hk => ?_⟩
    · obtain ⟨out, h⟩ := (hb.of_none rfl).2 k hk
      exact ⟨out, List.mem_append_left _ h⟩
    · obtain ⟨out, h⟩ := hi.lists k hk
      exact ⟨out, List.mem_append_right _ h⟩
    · rw [hstore, List.mem_filter] at ho
      simp only [removedBy_append, Bool.not_or, Bool.and_eq_true, Bool.not_eq_true'] at ho
      obtain ⟨ho, hrb, hri⟩ := ho
      rcases hi.survivor o (List.mem_filter.mpr ⟨ho, by simp [hrb]⟩) hri o.kind hk
          (Owner.selects_iff.mpr ⟨rfl, hm⟩) with ⟨r, h⟩ | ⟨r, h⟩
      · exact .inl ⟨r, List.mem_append_right _ h⟩
      · exact .inr ⟨r, List.mem_append_right _ h⟩

theorem cleanupObjects_error_of_failure :
    (∃ e ∈ (cleanupObjects owner types iterativeTypes ⟨s, fs, []⟩).2.log,
        ∃ r, e.2 = some r ∧ r ≠ .notFound) →
      (cleanupObjects owner types iterativeTypes ⟨s, fs, []⟩).1 ≠ none := by
  rintro ⟨e, he, r, her, hr⟩
  obtain ⟨Lb, res, hb, ⟨err, rfl, h₁, -⟩ | ⟨rfl, Li, errs, hi, h₁, hl⟩⟩ :=
    cleanupObjects_run owner types iterativeTypes ⟨s, fs, []⟩
  · simp [h₁]
  · rw [h₁, Ne, newAggregate_eq_none, hi.errs_none_iff]
    intro hall
    rw [hl, List.nil_append] at he
    rcases List.mem_append.mp he with he | he
    · rcases (hb.of_none rfl).1 e he with h | h <;> simp_all
    · simp [hall e he] at her

theorem cleanupObjects_nil_of_absorbed :
    (∀ e ∈ (cleanupObjects owner types iterativeTypes ⟨s, fs, []⟩).2.log, e.2 = none ∨
        e.2 = some .notFound ∧ ∃ k, e.1 = .deleteAllOf k owner.selector owner.ns) →
      (cleanupObjects owner types iterativeTypes ⟨s, fs, []⟩).1 = none := by
  intro hall
  obtain ⟨Lb, res, hb, ⟨err, rfl, -, hl⟩ | ⟨rfl, Li, errs, hi, h₁, hl⟩⟩ :=
    cleanupObjects_run owner types iterativeTypes ⟨s, fs, []⟩
  · obtain ⟨L', k, r, rfl, hr, -, -⟩ := hb.of_some rfl
    rcases hall _ (by simp [hl] : (Request.deleteAllOf k owner.selector owner.ns, some r) ∈ _)
      with h | ⟨h, -⟩
    · cases h
    · exact absurd (Option.some_inj.mp h) hr
  · rw [h₁, newAggregate_eq_none, hi.errs_none_iff]
    intro e he
    rcases hall e (by simp [hl, he]) with h | ⟨-, k, hk⟩
    · exact h
    · rcases hi.requests e he with ⟨_, _, h⟩ | ⟨_, _, _, _, _, h⟩ <;> rw [hk] at h <;> cases h

/-- **What `CleanupObjects` does**, for every store, owner, pair of type lists and pattern
of faults. No object is created or changed, and every call names only the owner's marked
objects of the listed types. A stored object is removed exactly when it is marked and the
`DeleteAllOf` of its bulk type or its own `Delete` succeeded. A `DeleteAllOf` that fails
with a reason other than `NotFound` is the last call and its error is returned; when none
does, every bulk type gets its `DeleteAllOf`, every iterative type its `List`, and a
marked object of an iterative type is left only if its `List` or its `Delete` failed. A
failure other than `NotFound` gives a non-nil error; a run whose calls all succeeded or
whose only failures are `NotFound`s of `DeleteAllOf`s returns nil; a run with no fault
returns nil and removes every marked object of the listed types. -/
theorem cleanupObjects_sweeps (s : Store) (fs : List (Option Reason)) (owner : Owner)
    (types iterativeTypes : List Kind) :
    let run := cleanupObjects owner types iterativeTypes ⟨s, fs, []⟩
    run.2.store.objects.Sublist s.objects ∧
    (∀ e ∈ run.2.log, SweepRequest owner types iterativeTypes s.objects e.1) ∧
    (∀ o ∈ s.objects, o ∉ run.2.store.objects ↔ owner.Marks o ∧
      ((o.kind ∈ types ∧ (.deleteAllOf o.kind owner.selector owner.ns, none) ∈ run.2.log) ∨
        (o.kind ∈ iterativeTypes ∧ (.delete o.key, none) ∈ run.2.log))) ∧
    (∀ k r, (.deleteAllOf k owner.selector owner.ns, some r) ∈ run.2.log → r ≠ .notFound →
      run.1 = some (.status r) ∧
      run.2.log.getLast? = some (.deleteAllOf k owner.selector owner.ns, some r)) ∧
    ((∀ k r, (.deleteAllOf k owner.selector owner.ns, some r) ∈ run.2.log → r = .notFound) →
      (∀ k ∈ types, ∃ out, (.deleteAllOf k owner.selector owner.ns, out) ∈ run.2.log) ∧
      (∀ k ∈ iterativeTypes, ∃ out, (.list k owner.selector (some owner.ns), out) ∈ run.2.log) ∧
      ∀ o ∈ run.2.store.objects, owner.Marks o → o.kind ∈ iterativeTypes →
        (∃ r, (.list o.kind owner.selector (some owner.ns), some r) ∈ run.2.log) ∨
        ∃ r, (.delete o.key, some r) ∈ run.2.log) ∧
    ((∃ e ∈ run.2.log, ∃ r, e.2 = some r ∧ r ≠ .notFound) → run.1 ≠ none) ∧
    ((∀ e ∈ run.2.log, e.2 = none ∨
        e.2 = some .notFound ∧ ∃ k, e.1 = .deleteAllOf k owner.selector owner.ns) →
      run.1 = none) ∧
    (fs = [] → run.1 = none ∧ ∀ o ∈ s.objects, owner.Marks o →
      o.kind ∈ types ∨ o.kind ∈ iterativeTypes → o ∉ run.2.store.objects) := by
  intro run
  have hstore := cleanupObjects_store owner types iterativeTypes s fs
  have hreq := cleanupObjects_requests owner types iterativeTypes s fs
  have hremoved : ∀ o ∈ s.objects, o ∉ run.2.store.objects ↔ owner.Marks o ∧
      ((o.kind ∈ types ∧ (.deleteAllOf o.kind owner.selector owner.ns, none) ∈ run.2.log) ∨
        (o.kind ∈ iterativeTypes ∧ (.delete o.key, none) ∈ run.2.log)) := fun o ho => by
    rw [← removedBy_iff_marks hreq ho, hstore, List.mem_filter]
    simp [ho]
  have htries := cleanupObjects_tries_all owner types iterativeTypes s fs
  have hnil := cleanupObjects_nil_of_absorbed owner types iterativeTypes s fs
  refine ⟨hstore ▸ List.filter_sublist _, hreq, hremoved,
    cleanupObjects_bulk_failure owner types iterativeTypes s fs, htries,
    cleanupObjects_error_of_failure owner types iterativeTypes s fs, hnil, ?_⟩
  rintro rfl
  obtain ⟨L, hl, hok⟩ := cleanupObjects_noFaults owner types iterativeTypes ⟨s, [], []⟩ rfl
  rw [List.nil_append] at hl
  have hok : ∀ e ∈ run.2.log, e.2 = none := hl ▸ hok
  obtain ⟨hbulk, -, hsurv⟩ := htries fun k r he => by cases hok _ he
  refine ⟨hnil fun e he => .inl (hok e he), fun o ho hm hk hin => ?_⟩
  rcases hk with hk | hk
  · obtain ⟨out, he⟩ := hbulk o.kind hk
    cases hok _ he
    exact (hremoved o ho).mpr ⟨hm, .inl ⟨hk, he⟩⟩ hin
  · rcases hsurv o hin hm hk with ⟨r, he⟩ | ⟨r, he⟩ <;> cases hok _ he

end Run

/-- Two runs against the same marked secret and service. With the types of `Mover.Cleanup`,
a `DeleteAllOf` of the first bulk type (persistent volume claims) that fails with a server
error ends the run: the marked secret and the marked service are left, and no call is made
for their types. With the secret as a bulk type and the service as an iterative one, a
`NotFound` of the `DeleteAllOf` is absorbed but a `NotFound` of the service's `Delete` is
kept: no step failed with another error, and the aggregate is not nil. -/
theorem cleanupObjects_error_runs :
    let owner : Owner := ⟨"uid-1", "ns"⟩
    let secret : Object :=
      ⟨"volsync-rsync-dst-src", "ns", [(cleanupLabelKey, "uid-1")], [], true, .secret []⟩
    let service : Object := ⟨"volsync-rsync-dst-dst", "ns", [(cleanupLabelKey, "uid-1")], [],
      true, .service ⟨[], [], "ClusterIP"⟩ []⟩
    let s : Store := ⟨[secret, service], by decide, by decide, 0⟩
    let run := cleanupObjects owner RsyncWithStunnel.cleanupTypes
      RsyncWithStunnel.iterativeCleanupTypes ⟨s, [some (.other 500)], []⟩
    let vanished := cleanupObjects owner [.secret] [.service]
      ⟨s, [some .notFound, none, some .notFound], []⟩
    owner.Marks secret ∧ owner.Marks service ∧ run.1 = some (.status (.other 500)) ∧
      run.2.store.objects = [secret, service] ∧
      run.2.log = [(.deleteAllOf .persistentVolumeClaim owner.selector owner.ns, some (.other 500))] ∧
      vanished.2.log = [(.deleteAllOf .secret owner.selector owner.ns, some .notFound),
        (.list .service owner.selector (some owner.ns), none), (.delete service.key, some .notFound)] ∧
      vanished.1 = some (.aggregate [.status .notFound]) := by
  intro owner secret service s run vanished
  exact ⟨by decide, by decide, rfl, rfl, rfl, by decide, rfl⟩

end VolSync
