import VolSync.Kube.Object

set_option autoImplicit false

/-!
# The API server and the client

The store is the API server's set of objects, at most one per key (`Store.keys_nodup`).
Each verb of `client.Client` the code uses is an operation on it that either fails with a
`metav1.StatusReason` or returns a result and the next store: `Create` fails with
`AlreadyExists` on a taken key, `Get`, `Update` and `Delete` fail with `NotFound` on a free
one, `List` and `DeleteAllOf` select by kind, labels and (optionally) namespace. A create
with `GenerateName` draws a fresh suffix from the store's counter.

A call of the code is a program in `Cmd`, state passing over a `World`: the store, the
faults still to come and the log of the calls made. Before each API call one fault is
taken: `some r` makes the call fail with reason `r` without reaching the store, `none` (or
no fault left) lets it run. Every pattern of transient failures is a list of faults. The
log is not read by any program; it records each request with its `outcome`, so that a
statement can say which calls were made and how each one ended.

`CreateOnly p`: no run of `p` removes or changes an object. It is closed under `pure` and
`bind`, holds for `Create`, `Get` and `List`, and is the frame condition of the
constructors.
-/

namespace VolSync

/-- `metav1.StatusReason`, as far as the code tells reasons apart. -/
inductive Reason
  | notFound
  | alreadyExists
  | other (code : Nat)
  deriving DecidableEq, Repr

/-- A Go `error`. `panic` is a Go runtime panic (nil dereference, index out of range):
the call stops there, and what it did to the store stays. -/
inductive Error
  | status (r : Reason)
  | msg (text : String)
  | aggregate (errs : List Error)
  | panic (what : String)
  deriving Repr

namespace Error

/-- `apierrors.IsNotFound`. -/
def isNotFound : Error → Bool
  | .status .notFound => true
  | _ => false

/-- `apierrors.IsAlreadyExists`. -/
def isAlreadyExists : Error → Bool
  | .status .alreadyExists => true
  | _ => false

/-- `errors.As(err, &status)` for an `apierrors.APIStatus`: the error is a status error. -/
def isAPIStatus : Error → Bool
  | .status _ => true
  | _ => false

end Error

/-- `client.IgnoreNotFound`. -/
def ignoreNotFound : Option Error → Option Error
  | some e => if e.isNotFound then none else some e
  | none => none

/-- `errorsutil.NewAggregate`: the non-nil errors of the list, or nil when there are none. -/
def newAggregate (errs : List (Option Error)) : Option Error :=
  match errs.filterMap id with
  | [] => none
  | es => some (.aggregate es)

@[simp] theorem newAggregate_eq_none {errs : List (Option Error)} :
    newAggregate errs = none ↔ ∀ e ∈ errs, e = none := by
  unfold newAggregate
  split
  · rename_i h
    simp only [List.filterMap_eq_nil_iff, id_eq] at h
    simpa using h
  · rename_i es h
    simp only [reduceCtorEq, false_iff, not_forall]
    obtain ⟨e, he⟩ := List.exists_mem_of_ne_nil _ h
    obtain ⟨x, hx, hxe⟩ := List.mem_filterMap.mp he
    exact ⟨x, hx, by rintro rfl; cases hxe⟩

@[simp] theorem newAggregate_map_some_eq_none {α : Type} (l : List α) (g : α → Error) :
    newAggregate (l.map fun x => some (g x)) = none ↔ l = [] := by
  cases l <;> simp

mutual

/-- The errors under an error: itself, or an aggregate's errors with every nested aggregate
opened. -/
def Error.leaves : Error → List Error
  | .aggregate errs => Error.leavesAll errs
  | e => [e]

def Error.leavesAll : List Error → List Error
  | [] => []
  | e :: es => e.leaves ++ Error.leavesAll es

end

/-- Modelled from the spec: `errors.Flatten` (`k8s.io/apimachinery`, missing from src/), the
errors of an aggregate with the nested aggregates opened; nil has none. -/
def flattenAggregate : Option Error → List Error
  | none => []
  | some e => e.leaves

@[simp] theorem flattenAggregate_msg (text : String) :
    flattenAggregate (some (.msg text)) = [.msg text] := by
  simp [flattenAggregate, Error.leaves]

@[simp] theorem flattenAggregate_newAggregate (errs : List (Option Error)) :
    flattenAggregate (newAggregate errs) = (errs.map flattenAggregate).flatten := by
  have hall : ∀ errs : List (Option Error),
      Error.leavesAll (errs.filterMap id) = (errs.map flattenAggregate).flatten := by
    intro errs
    induction errs with
    | nil => rfl
    | cons e es ih => cases e <;> simp [Error.leavesAll, flattenAggregate, ih]
  rw [← hall]
  unfold newAggregate
  split
  · rename_i h; rw [h]; rfl
  · simp [flattenAggregate, Error.leaves]

/-! ### The store -/

/-- The API server's objects, at most one per key and each with its creation timestamp set,
and the counter that `GenerateName` suffixes are drawn from. -/
structure Store where
  objects : List Object
  keys_nodup : (objects.map Object.key).Nodup
  all_created : ∀ o ∈ objects, o.created = true
  nextId : Nat

namespace Store

def empty : Store := ⟨[], List.nodup_nil, (fun _ h => nomatch h), 0⟩

/-- `Get`: the object under a key. -/
def get (s : Store) (k : Key) : Option Object := s.objects.find? (·.key = k)

/-- What `client.MatchingLabels(sel)` and an optional `client.InNamespace(ns)` select. -/
def Selects (kind : Kind) (sel : StrMap) (ns : Option String) (o : Object) : Bool :=
  o.kind = kind && StrMap.matchingLabels sel o.labels && ns.all (· = o.ns)

theorem find?_key_of_mem :
    ∀ {l : List Object}, (l.map Object.key).Nodup → ∀ {o : Object}, o ∈ l →
      l.find? (·.key = o.key) = some o
  | [], _, _, h => nomatch h
  | x :: l, hnd, o, ho => by
    rw [List.map_cons, List.nodup_cons] at hnd
    rcases List.mem_cons.mp ho with rfl | ho
    · simp
    · have hx : x.key ≠ o.key := fun h => hnd.1 (h ▸ List.mem_map_of_mem _ ho)
      simp [hx, find?_key_of_mem hnd.2 ho]

theorem get_of_mem {s : Store} {o : Object} (ho : o ∈ s.objects) : s.get o.key = some o :=
  find?_key_of_mem s.keys_nodup ho

theorem eq_of_key_eq {s : Store} {x y : Object} (hx : x ∈ s.objects) (hy : y ∈ s.objects)
    (h : x.key = y.key) : x = y := by
  have := get_of_mem hy
  rwa [← h, get_of_mem hx, Option.some_inj] at this

/-- `Create`: store the object with its creation timestamp set, unless the key is taken. -/
def create (o : Object) (s : Store) : Except Reason (Unit × Store) :=
  if h : o.key ∈ s.objects.map Object.key then .error .alreadyExists
  else .ok ((), ⟨{ o with created := true } :: s.objects,
    List.nodup_cons.mpr ⟨h, s.keys_nodup⟩,
    fun x hx => by
      rcases List.mem_cons.mp hx with rfl | hx
      · rfl
      · exact s.all_created x hx,
    s.nextId⟩)

/-- `Create` of an object with `GenerateName`: the name is the prefix and a fresh suffix. -/
def generate (generateName : String) (o : Object) (s : Store) : Except Reason (Unit × Store) :=
  create { o with name := generateName ++ toString s.nextId }
    { s with nextId := s.nextId + 1 }

theorem key_replace (o x : Object) :
    (if x.key = o.key then { o with created := true } else x).key = x.key := by
  split
  · rename_i h; exact h.symm
  · rfl

/-- `Update`: replace the object under the key, which must be taken. -/
def update (o : Object) (s : Store) : Except Reason (Unit × Store) :=
  if o.key ∈ s.objects.map Object.key then
    .ok ((), ⟨s.objects.map (fun x => if x.key = o.key then { o with created := true } else x),
      by
        rw [List.map_map]
        convert s.keys_nodup using 2
        funext x
        exact key_replace o x,
      fun x hx => by
        obtain ⟨y, hy, rfl⟩ := List.mem_map.mp hx
        split
        · rfl
        · exact s.all_created y hy,
      s.nextId⟩)
  else .error .notFound

/-- `Delete`: remove the object under the key, which must be taken. -/
def delete (k : Key) (s : Store) : Except Reason (Unit × Store) :=
  if k ∈ s.objects.map Object.key then
    .ok ((), ⟨s.objects.filter (·.key ≠ k),
      s.keys_nodup.sublist ((List.filter_sublist _).map _),
      fun x hx => s.all_created x (List.mem_of_mem_filter hx), s.nextId⟩)
  else .error .notFound

/-- `DeleteAllOf`: remove every object the selection matches. -/
def deleteAllOf (kind : Kind) (sel : StrMap) (ns : String) (s : Store) :
    Except Reason (Unit × Store) :=
  .ok ((), ⟨s.objects.filter (fun o => !Selects kind sel (some ns) o),
    s.keys_nodup.sublist ((List.filter_sublist _).map _),
    fun x hx => s.all_created x (List.mem_of_mem_filter hx), s.nextId⟩)

end Store

/-! ### Programs over the store -/

/-- What a call of the client asks the API server: the verb and what it names. -/
inductive Request
  | create (k : Key)
  | generate (kind : Kind) (ns generateName : String)
  | get (k : Key)
  | list (kind : Kind) (sel : StrMap) (ns : Option String)
  | update (k : Key)
  | delete (k : Key)
  | deleteAllOf (kind : Kind) (sel : StrMap) (ns : String)
  deriving DecidableEq, Repr

/-- The API server, the faults its next calls are forced to, and the log of the calls made
so far, each with the reason it failed (`none` when it succeeded). -/
structure World where
  store : Store
  faults : List (Option Reason)
  log : List (Request × Option Reason)

/-- The fault the next call is forced to: `some r` fails it with `r`. -/
def World.nextFault (w : World) : Option Reason := w.faults.head?.join

@[simp] theorem World.nextFault_mk_nil (s : Store) (l : List (Request × Option Reason)) :
    (⟨s, [], l⟩ : World).nextFault = none := rfl

theorem World.nextFault_of_faults_nil {w : World} (h : w.faults = []) : w.nextFault = none := by
  simp [World.nextFault, h]

/-- A program of the code: it runs against the API server. -/
abbrev Cmd := StateM World

/-- One API call: the next fault, if it is `some r`, fails the call with `r`; otherwise the
operation runs on the store. Either way the request is logged with its outcome. -/
def apiCall {α : Type} (req : Request) (op : Store → Except Reason (α × Store)) :
    Cmd (Except Error α) :=
  fun w =>
    match w.nextFault with
    | some r => (.error (.status r), ⟨w.store, w.faults.tail, w.log ++ [(req, some r)]⟩)
    | none =>
      match op w.store with
      | .ok (a, s) => (.ok a, ⟨s, w.faults.tail, w.log ++ [(req, none)]⟩)
      | .error r => (.error (.status r), ⟨w.store, w.faults.tail, w.log ++ [(req, some r)]⟩)

/-- A Go call that only returns an `error`. -/
def errorOf {α : Type} : Except Error α → Option Error
  | .ok _ => none
  | .error e => some e

def create (o : Object) : Cmd (Option Error) :=
  errorOf <$> apiCall (.create o.key) (Store.create o)

def generate (generateName : String) (o : Object) : Cmd (Option Error) :=
  errorOf <$> apiCall (.generate o.kind o.ns generateName) (Store.generate generateName o)

def get (k : Key) : Cmd (Except Error Object) :=
  apiCall (.get k) fun s => match s.get k with
    | some o => .ok (o, s)
    | none => .error .notFound

def list (kind : Kind) (sel : StrMap) (ns : Option String) : Cmd (Except Error (List Object)) :=
  apiCall (.list kind sel ns) fun s => .ok (s.objects.filter (Store.Selects kind sel ns), s)

def update (o : Object) : Cmd (Option Error) :=
  errorOf <$> apiCall (.update o.key) (Store.update o)

def delete (k : Key) : Cmd (Option Error) :=
  errorOf <$> apiCall (.delete k) (Store.delete k)

def deleteAllOf (kind : Kind) (sel : StrMap) (ns : String) : Cmd (Option Error) :=
  errorOf <$> apiCall (.deleteAllOf kind sel ns) (Store.deleteAllOf kind sel ns)

@[simp] theorem bind_apply {α β : Type} (x : Cmd α) (f : α → Cmd β) (w : World) :
    (x >>= f) w = f (x w).1 (x w).2 := rfl

@[simp] theorem pure_apply {α : Type} (a : α) (w : World) : (pure a : Cmd α) w = (a, w) := rfl

@[simp] theorem map_apply {α β : Type} (f : α → β) (x : Cmd α) (w : World) :
    (f <$> x) w = (f (x w).1, (x w).2) := rfl

/-! ### What one call does -/

section Call

variable {α : Type} {req : Request} {op : Store → Except Reason (α × Store)} {w : World}

/-- How a call ends: the next fault, if there is one, else the operation's own failure;
`none` when it succeeds. -/
def outcome (op : Store → Except Reason (α × Store)) (w : World) : Option Reason :=
  match w.nextFault with
  | some r => some r
  | none =>
    match op w.store with
    | .ok _ => none
    | .error r => some r

theorem apiCall_log : (apiCall req op w).2.log = w.log ++ [(req, outcome op w)] := by
  unfold apiCall outcome
  rcases w.nextFault with _ | r
  · rcases op w.store with r | ⟨a, s⟩ <;> rfl
  · rfl

theorem apiCall_faults : (apiCall req op w).2.faults = w.faults.tail := by
  unfold apiCall
  split
  · rfl
  · split <;> rfl

theorem errorOf_apiCall : errorOf (apiCall req op w).1 = (outcome op w).map .status := by
  unfold apiCall outcome
  rcases w.nextFault with _ | r
  · rcases op w.store with r | ⟨a, s⟩ <;> rfl
  · rfl

/-- An operation that cannot fail ends as the next fault says. -/
theorem outcome_of_total (hop : ∀ s, ∃ x, op s = .ok x) : outcome op w = w.nextFault := by
  obtain ⟨x, hx⟩ := hop w.store
  unfold outcome
  rw [hx]
  rcases w.nextFault <;> rfl

@[simp] theorem list_store (kind : Kind) (sel : StrMap) (ns : Option String) (w : World) :
    (list kind sel ns w).2.store = w.store := by
  unfold list apiCall
  rcases w.nextFault <;> rfl

end Call

/-! ### Failure-free calls -/

section NoFaults

variable {s : Store} {l : List (Request × Option Reason)}

theorem get_of_mem {o : Object} (ho : o ∈ s.objects) :
    get o.key ⟨s, [], l⟩ = (.ok o, ⟨s, [], l ++ [(.get o.key, none)]⟩) := by
  simp [get, apiCall, Store.get_of_mem ho]

theorem list_noFaults (kind : Kind) (sel : StrMap) (ns : Option String) :
    list kind sel ns ⟨s, [], l⟩ =
      (.ok (s.objects.filter (Store.Selects kind sel ns)), ⟨s, [], l ++ [(.list kind sel ns, none)]⟩) :=
  rfl

theorem update_of_mem {o : Object} (hk : o.key ∈ s.objects.map Object.key) :
    ∃ s', update o ⟨s, [], l⟩ = (none, ⟨s', [], l ++ [(.update o.key, none)]⟩) ∧
      s'.objects = s.objects.map fun x => if x.key = o.key then { o with created := true } else x := by
  simp only [update, Store.update, hk, map_apply, apiCall]
  exact ⟨_, rfl, rfl⟩

end NoFaults

/-! ### Programs that only create -/

/-- No run of `p` removes or changes an object of the store. -/
def CreateOnly {α : Type} (p : Cmd α) : Prop :=
  ∀ w, ∀ o ∈ w.store.objects, o ∈ (p w).2.store.objects

namespace CreateOnly

variable {α β : Type}

theorem pure (a : α) : CreateOnly (Pure.pure a : Cmd α) := fun _ _ h => h

theorem bind {p : Cmd α} {f : α → Cmd β} (hp : CreateOnly p) (hf : ∀ a, CreateOnly (f a)) :
    CreateOnly (p >>= f) :=
  fun w o h => hf _ _ o (hp w o h)

theorem map {p : Cmd α} (f : α → β) (hp : CreateOnly p) : CreateOnly (f <$> p) := hp

theorem ite {c : Prop} [Decidable c] {p q : Cmd α} (hp : CreateOnly p) (hq : CreateOnly q) :
    CreateOnly (if c then p else q) := by
  split
  · exact hp
  · exact hq

theorem apiCall {req : Request} {op : Store → Except Reason (α × Store)}
    (hop : ∀ s a s', op s = .ok (a, s') → ∀ o ∈ s.objects, o ∈ s'.objects) :
    CreateOnly (VolSync.apiCall req op) := by
  intro w o ho
  unfold VolSync.apiCall
  split
  · exact ho
  · split
    · exact hop _ _ _ ‹_› o ho
    · exact ho

end CreateOnly

theorem create_createOnly (o : Object) : CreateOnly (create o) := by
  refine CreateOnly.map _ (CreateOnly.apiCall ?_)
  intro s a s' h x hx
  unfold Store.create at h
  split at h
  · cases h
  · cases h
    exact List.mem_cons_of_mem _ hx

theorem generate_createOnly (generateName : String) (o : Object) :
    CreateOnly (generate generateName o) := by
  refine CreateOnly.map _ (CreateOnly.apiCall ?_)
  intro s a s' h x hx
  unfold Store.generate Store.create at h
  split at h
  · cases h
  · cases h
    exact List.mem_cons_of_mem _ hx

theorem get_createOnly (k : Key) : CreateOnly (get k) := by
  refine CreateOnly.apiCall ?_
  intro s a s' h x hx
  split at h
  · cases h; exact hx
  · cases h

theorem list_createOnly (kind : Kind) (sel : StrMap) (ns : Option String) :
    CreateOnly (list kind sel ns) :=
  CreateOnly.apiCall fun _ _ _ h _ hx => by cases h; exact hx

end VolSync
