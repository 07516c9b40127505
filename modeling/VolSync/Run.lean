import Mathlib.Data.List.Nodup
import VolSync.Rsync.Client

set_option autoImplicit false

/-!
# Runs of a constructor

The reconciler calls a transfer constructor again and again with the same inputs, from the
empty store, while API calls fail now and then and other controllers publish the status of
the objects: the host of a route, the ingress of a load balancer, the container statuses of
a pod. This file defines such runs and a way to prove what holds along them.

* `Object.withoutStatus`: what the code writes of an object.
* `StatusStep`, `Transient`, `Reach`: the runs. A fault of a run is a server error; a
  `NotFound` or `AlreadyExists` that the store does not back is not a transient failure.
* `Builds A ok Ks p`: a call of `p` under transient faults keeps every object of the store,
  up to its status, in `A`, keeps every key taken, and when it succeeds (`ok`) leaves every
  key of `Ks` taken. It is closed under `pure`, `bind` and `<$>`, and holds of each API
  call the constructors make.
* `Reach.within`: the stores a run reaches stay in `A` when its calls do.
-/

namespace VolSync

/-! ### What the code writes -/

/-- A body without the status other controllers publish. -/
def Body.withoutStatus : Body → Body
  | .pod spec _ => .pod spec []
  | .service spec _ => .service spec []
  | .route backendPort _ => .route backendPort ""
  | b => b

@[simp] theorem Body.kind_withoutStatus (b : Body) : b.withoutStatus.kind = b.kind := by
  cases b <;> rfl

/-- What the code writes of an object: no status and no creation timestamp. -/
def Object.withoutStatus (o : Object) : Object :=
  { o with created := false, body := o.body.withoutStatus }

@[simp] theorem Object.key_withoutStatus (o : Object) : o.withoutStatus.key = o.key := by
  simp [Object.withoutStatus, Object.key, Object.kind]

@[simp] theorem Object.kind_withoutStatus (o : Object) : o.withoutStatus.kind = o.kind :=
  Body.kind_withoutStatus o.body

/-! ### Runs -/

/-- A change other controllers make: statuses, nothing else. -/
def StatusStep (s s' : Store) : Prop :=
  s'.objects.map Object.withoutStatus = s.objects.map Object.withoutStatus

/-- Faults that are server errors. -/
def Transient (fs : List (Option Reason)) : Prop :=
  ∀ f ∈ fs, f = none ∨ ∃ n, f = some (.other n)

theorem Transient.tail {fs : List (Option Reason)} (h : Transient fs) : Transient fs.tail :=
  fun f hf => h f (List.mem_of_mem_tail hf)

theorem Transient.nextFault {w : World} (h : Transient w.faults) :
    w.nextFault = none ∨ ∃ n, w.nextFault = some (.other n) := by
  unfold World.nextFault
  cases hw : w.faults with
  | nil => simp
  | cons f fs => rcases h f (by simp [hw]) with rfl | ⟨n, rfl⟩ <;> simp

/-- The stores reached from the empty one by calls `p i`, each under transient faults, and
by status changes of other controllers. -/
inductive Reach {ι α : Type} (p : ι → Cmd α) : Store → Prop
  | empty : Reach p Store.empty
  | call {s : Store} (i : ι) (fs : List (Option Reason)) (l : List (Request × Option Reason)) :
      Reach p s → Transient fs → Reach p (p i ⟨s, fs, l⟩).2.store
  | status {s s' : Store} : Reach p s → StatusStep s s' → Reach p s'

/-- The stores a run of `p` reaches from `s`. -/
inductive Steps {ι α : Type} (p : ι → Cmd α) (s : Store) : Store → Prop
  | refl : Steps p s s
  | call {s' : Store} (i : ι) (fs : List (Option Reason)) (l : List (Request × Option Reason)) :
      Steps p s s' → Transient fs → Steps p s (p i ⟨s', fs, l⟩).2.store
  | status {s' s'' : Store} : Steps p s s' → StatusStep s' s'' → Steps p s s''

/-! ### Calls that keep a run in bounds -/

/-- Every object of the store is, up to its status, one `A` allows. -/
def Within (A : Object → Prop) (s : Store) : Prop := ∀ o ∈ s.objects, A o.withoutStatus

/-- Every key of `Ks` is taken. -/
def Has (Ks : List Key) (s : Store) : Prop := ∀ k ∈ Ks, k ∈ s.objects.map Object.key

theorem Within.status {A : Object → Prop} {s s' : Store} (h : Within A s) (hs : StatusStep s s') :
    Within A s' := by
  intro o ho
  have : o.withoutStatus ∈ s.objects.map Object.withoutStatus :=
    hs ▸ List.mem_map_of_mem _ ho
  obtain ⟨o₀, ho₀, he⟩ := List.mem_map.mp this
  exact he ▸ h o₀ ho₀

/-- A call of `p` under transient faults keeps the store within `A` and every key taken, and
when its result is `ok`, every key of `Ks` is taken. -/
def Builds {α : Type} (A : Object → Prop) (ok : α → Prop) (Ks : List Key) (p : Cmd α) : Prop :=
  ∀ w, Within A w.store → Transient w.faults →
    Within A (p w).2.store ∧ Transient (p w).2.faults ∧
    (∀ k ∈ w.store.objects.map Object.key, k ∈ (p w).2.store.objects.map Object.key) ∧
    (ok (p w).1 → Has Ks (p w).2.store)

theorem Has.status {Ks : List Key} {s s' : Store} (h : Has Ks s) (hs : StatusStep s s') :
    Has Ks s' := by
  have hkeys : s'.objects.map Object.key = s.objects.map Object.key := by
    simpa only [List.map_map, Function.comp_def, Object.key_withoutStatus] using
      congrArg (List.map Object.key) hs
  exact fun k hk => hkeys ▸ h k hk

/-- **A run stays within `A`** when every call of it does. -/
theorem Reach.within {ι α : Type} {p : ι → Cmd α} {A : Object → Prop} {ok : ι → α → Prop}
    {Ks : ι → List Key} (hp : ∀ i, Builds A (ok i) (Ks i) (p i)) {s : Store} (h : Reach p s) :
    Within A s := by
  induction h with
  | empty => intro o ho; cases ho
  | call i fs l _ hfs ih => exact (hp i _ ih hfs).1
  | status _ hs ih => exact ih.status hs

/-- **A run from a store within `A` that has the keys `Ks` keeps both** when every call of
it keeps the store within `A` and keeps every key taken. -/
theorem Steps.within_has {ι α : Type} {p : ι → Cmd α} {A : Object → Prop} {ok : ι → α → Prop}
    {Ks' : ι → List Key} (hp : ∀ i, Builds A (ok i) (Ks' i) (p i)) {Ks : List Key} {s s' : Store}
    (h : Steps p s s') (hW : Within A s) (hH : Has Ks s) : Within A s' ∧ Has Ks s' := by
  induction h with
  | refl => exact ⟨hW, hH⟩
  | @call s₁ i fs l _ hfs ih =>
    obtain ⟨hW₁, -, hk₁, -⟩ := hp i ⟨s₁, fs, l⟩ ih.1 hfs
    exact ⟨hW₁, fun k hk => hk₁ k (ih.2 k hk)⟩
  | status _ hs ih => exact ⟨ih.1.status hs, ih.2.status hs⟩

namespace Builds

variable {α β : Type} {A : Object → Prop} {ok : β → Prop} {Ks : List Key}

theorem pure_nil (b : β) : Builds A ok [] (Pure.pure b : Cmd β) :=
  fun _ hA hf => ⟨hA, hf, fun _ h => h, fun _ _ h => nomatch h⟩

theorem pure_not {b : β} (h : ¬ ok b) : Builds A ok Ks (Pure.pure b : Cmd β) :=
  fun _ hA hf => ⟨hA, hf, fun _ h => h, fun hok => absurd hok h⟩

theorem weaken {ok' : β → Prop} {Ks' : List Key} {p : Cmd β} (hp : Builds A ok Ks p)
    (hok : ∀ b, ok' b → ok b) (hKs : ∀ k ∈ Ks', k ∈ Ks) : Builds A ok' Ks' p := by
  intro w hA hf
  obtain ⟨h₁, h₂, h₃, h₄⟩ := hp w hA hf
  exact ⟨h₁, h₂, h₃, fun h k hk => h₄ (hok _ h) k (hKs k hk)⟩

/-- Sequencing: the keys of both parts are taken when the whole succeeds, provided the
whole fails whenever the first part does. `R` is what every result of `p` satisfies, `Ks₂`
the keys the rest takes. -/
theorem bind {okp : α → Prop} {R : α → Prop} {Ks₁ : List Key} {p : Cmd α}
    {f : α → Cmd β} (hp : Builds A okp Ks₁ p) (Ks₂ : List Key) (hR : ∀ w, R (p w).1)
    (hf : ∀ a, R a → Builds A ok Ks₂ (f a)) (hpass : ∀ a, R a → ¬ okp a → ∀ w, ¬ ok (f a w).1) :
    Builds A ok (Ks₁ ++ Ks₂) (p >>= f) := by
  intro w hA hfl
  obtain ⟨hA₁, hf₁, hk₁, hok₁⟩ := hp w hA hfl
  obtain ⟨hA₂, hf₂, hk₂, hok₂⟩ := hf _ (hR w) _ hA₁ hf₁
  refine ⟨hA₂, hf₂, fun k hk => hk₂ k (hk₁ k hk), fun hok k hk => ?_⟩
  rcases List.mem_append.mp hk with hk | hk
  · by_cases h : okp (p w).1
    · exact hk₂ k (hok₁ h k hk)
    · exact absurd hok (hpass _ (hR w) h _)
  · exact hok₂ hok k hk

theorem andThen {okp : α → Prop} {p : Cmd α} {f : α → Cmd β} (hp : Builds A okp [] p)
    (hf : ∀ a, Builds A ok Ks (f a)) : Builds A ok Ks (p >>= f) := by
  intro w hA hfl
  obtain ⟨h₁, h₂, h₃, -⟩ := hp w hA hfl
  obtain ⟨g₁, g₂, g₃, g₄⟩ := hf _ _ h₁ h₂
  exact ⟨g₁, g₂, fun k hk => g₃ k (h₃ k hk), g₄⟩

theorem map {okp : α → Prop} {p : Cmd α} (g : α → β) (hp : Builds A okp Ks p)
    (hg : ∀ a, ok (g a) → okp a) : Builds A ok Ks (g <$> p) := by
  intro w hA hf
  obtain ⟨h₁, h₂, h₃, h₄⟩ := hp w hA hf
  exact ⟨h₁, h₂, h₃, fun h => h₄ (hg _ h)⟩

end Builds

/-- **A store within the objects `T` that has all their keys holds exactly them**, up to
status, when `T` names each key once. -/
theorem Within.iff_of_has {T : List Object} {s : Store} (hT : (T.map Object.key).Nodup)
    (hW : Within (· ∈ T) s) (hH : Has (T.map Object.key) s) :
    ∀ x, x ∈ s.objects.map Object.withoutStatus ↔ x ∈ T := by
  intro x
  constructor
  · rintro hx
    obtain ⟨o, ho, rfl⟩ := List.mem_map.mp hx
    exact hW o ho
  · intro hx
    obtain ⟨o, ho, hk⟩ := List.mem_map.mp (hH _ (List.mem_map_of_mem _ hx))
    have : o.withoutStatus = x :=
      List.inj_on_of_nodup_map hT (hW o ho) hx (by rw [Object.key_withoutStatus, hk])
    exact this ▸ List.mem_map_of_mem _ ho

/-! ### The API calls -/

section Calls

variable {A : Object → Prop}

theorem get_store (k : Key) (w : World) : (get k w).2.store = w.store := by
  unfold get apiCall
  rcases w.nextFault with _ | r
  · dsimp only
    cases w.store.get k <;> rfl
  · rfl

theorem get_ok {k : Key} {w : World} {o : Object} (h : (get k w).1 = .ok o) :
    o ∈ w.store.objects ∧ o.key = k := by
  unfold get apiCall at h
  rcases hn : w.nextFault with _ | r <;> simp only [hn] at h
  · cases hs : w.store.get k <;> simp only [hs] at h
    · cases h
    · cases h
      exact ⟨List.mem_of_find?_eq_some hs, by simpa using List.find?_some hs⟩
  · cases h

theorem get_builds (k : Key) : Builds A (fun r => ∃ o, r = .ok o) [k] (get k) := by
  intro w hA hf
  have hs := get_store k w
  refine ⟨hs ▸ hA, apiCall_faults ▸ hf.tail, fun _ h => hs ▸ h, fun ⟨o, ho⟩ k' hk' => ?_⟩
  obtain ⟨hmem, rfl⟩ := get_ok ho
  rw [List.mem_singleton.mp hk', hs]
  exact List.mem_map_of_mem _ hmem

theorem list_ok {kind : Kind} {sel : StrMap} {ns : Option String} {w : World} {os : List Object}
    (h : (list kind sel ns w).1 = .ok os) : os = w.store.objects.filter (Store.Selects kind sel ns) := by
  unfold list apiCall at h
  rcases hn : w.nextFault with _ | r <;> simp only [hn] at h <;> cases h
  rfl

theorem list_builds (kind : Kind) (sel : StrMap) (ns : Option String) :
    Builds A (fun _ => True) [] (list kind sel ns) := by
  intro w hA hf
  unfold list apiCall
  rcases hf.nextFault with h | ⟨n, h⟩ <;> rw [h] <;>
    exact ⟨hA, hf.tail, fun _ h => h, fun _ _ h => nomatch h⟩

/-- `Create` of an object `A` allows leaves its key taken when it returns nil or
`AlreadyExists`: a transient fault is never `AlreadyExists`. -/
theorem create_builds {o : Object} (hA : A o.withoutStatus) :
    Builds A (fun r => ∀ e, r = some e → e.isAlreadyExists = true) [o.key] (create o) := by
  intro w hAw hf
  rcases hf.nextFault with h | ⟨n, h⟩
  · by_cases hk : o.key ∈ w.store.objects.map Object.key
    · simp only [create, apiCall, Store.create, h, hk, dite_true, map_apply, errorOf]
      exact ⟨hAw, hf.tail, fun _ h => h, fun _ k hk' => List.mem_singleton.mp hk' ▸ hk⟩
    · simp only [create, apiCall, Store.create, h, hk, dite_false, map_apply, errorOf]
      refine ⟨fun x hx => ?_, hf.tail, fun _ h => List.mem_cons_of_mem _ h, fun _ k hk' => ?_⟩
      · rcases List.mem_cons.mp hx with rfl | hx
        · exact hA
        · exact hAw x hx
      · rw [List.mem_singleton.mp hk']
        exact List.mem_map.mpr ⟨_, List.mem_cons_self _ _, rfl⟩
  · simp only [create, apiCall, h, map_apply, errorOf]
    exact ⟨hAw, hf.tail, fun _ h => h, fun h => absurd (h _ rfl) nofun⟩

theorem createOrKeep_builds {o : Object} (hA : A o.withoutStatus) :
    Builds A (· = none) [o.key] (createOrKeep o) := by
  refine ((create_builds hA).bind [] (R := fun _ => True) (fun _ => trivial) (fun e _ => ?_)
    ?_).weaken (fun _ h => h) fun k hk => List.mem_append_left _ hk
  · rcases e with _ | e <;> exact Builds.pure_nil _
  · rintro (_ | e) _ h w
    · exact absurd (fun _ h => nomatch h) h
    · have he : e.isAlreadyExists = false := by simpa using h
      simp [he]

theorem generate_builds {o : Object} (generateName : String)
    (hA : ∀ n : Nat, A { o with name := generateName ++ toString n }.withoutStatus) :
    Builds A (fun _ => True) [] (generate generateName o) := by
  intro w hAw hf
  rcases hf.nextFault with h | ⟨n, h⟩
  · by_cases hk : ({ o with name := generateName ++ toString w.store.nextId } : Object).key ∈
        w.store.objects.map Object.key
    · simp only [generate, apiCall, Store.generate, Store.create, h, hk, dite_true, map_apply]
      exact ⟨hAw, hf.tail, fun _ h => h, fun _ _ h => nomatch h⟩
    · simp only [generate, apiCall, Store.generate, Store.create, h, hk, dite_false, map_apply]
      refine ⟨fun x hx => ?_, hf.tail, fun _ h => List.mem_cons_of_mem _ h,
        fun _ _ h => nomatch h⟩
      rcases List.mem_cons.mp hx with rfl | hx
      · exact hA _
      · exact hAw x hx
  · simp only [generate, apiCall, h, map_apply]
    exact ⟨hAw, hf.tail, fun _ h => h, fun _ _ h => nomatch h⟩

/-- A `Create` with `GenerateName` adds the object, under the generated name, exactly when
it returns nil. -/
theorem generate_objects (generateName : String) (o : Object) (w : World) :
    (generate generateName o w).2.store.objects =
      (if (generate generateName o w).1.isNone then
        [{ o with name := generateName ++ toString w.store.nextId, created := true }] else []) ++
      w.store.objects := by
  rcases h : w.nextFault with _ | r
  · by_cases hk : ({ o with name := generateName ++ toString w.store.nextId } : Object).key ∈
        w.store.objects.map Object.key
    · simp [generate, apiCall, Store.generate, Store.create, h, hk, errorOf]
    · simp [generate, apiCall, Store.generate, Store.create, h, hk, errorOf]
  · simp [generate, apiCall, h, errorOf]

theorem update_builds {o : Object} (hA : A o.withoutStatus) :
    Builds A (fun _ => True) [] (update o) := by
  intro w hAw hf
  rcases hf.nextFault with h | ⟨n, h⟩
  · by_cases hk : o.key ∈ w.store.objects.map Object.key
    · simp only [update, apiCall, Store.update, h, hk, ite_true, map_apply]
      refine ⟨fun x hx => ?_, hf.tail, fun k hk => ?_, fun _ _ h => nomatch h⟩
      · obtain ⟨y, hy, rfl⟩ := List.mem_map.mp hx
        split
        · exact hA
        · exact hAw y hy
      · obtain ⟨y, hy, rfl⟩ := List.mem_map.mp hk
        exact List.mem_map.mpr ⟨_, List.mem_map_of_mem _ hy, Store.key_replace o y⟩
    · simp only [update, apiCall, Store.update, h, hk, ite_false, map_apply]
      exact ⟨hAw, hf.tail, fun _ h => h, fun _ _ h => nomatch h⟩
  · simp only [update, apiCall, h, map_apply]
    exact ⟨hAw, hf.tail, fun _ h => h, fun _ _ h => nomatch h⟩

/-- `CreateOrUpdate` keeps the store within `A` when the object it creates is in `A` and
the mutate function takes a stored object under the key that is in `A` into `A`; when it
returns nil the key is taken. -/
theorem createOrUpdate_builds {fresh : Object} {mutate : Object → Object}
    (hA : A (mutate fresh).withoutStatus) (hkey : (mutate fresh).key = fresh.key)
    (hmut : ∀ x, x.key = fresh.key → x.created = true → A x.withoutStatus →
      A (mutate x).withoutStatus) :
    Builds A (· = none) [fresh.key] (createOrUpdate fresh mutate) := by
  intro w hAw hf
  obtain ⟨hA₁, hf₁, hk₁, -⟩ := get_builds (A := A) fresh.key w hAw hf
  unfold createOrUpdate
  simp only [bind_apply]
  rcases hr : (get fresh.key w).1 with err | existing
  · dsimp only
    split
    · obtain ⟨hA₂, hf₂, hk₂, hH⟩ := create_builds hA _ hA₁ hf₁
      exact ⟨hA₂, hf₂, fun k hk => hk₂ k (hk₁ k hk),
        fun h => hkey ▸ hH fun _ he => nomatch h.symm.trans he⟩
    · exact ⟨hA₁, hf₁, hk₁, fun h => nomatch h⟩
  · obtain ⟨hmem, hkey'⟩ := get_ok hr
    have hstored : fresh.key ∈ (get fresh.key w).2.store.objects.map Object.key := by
      rw [get_store, ← hkey']
      exact List.mem_map_of_mem _ hmem
    dsimp only
    split
    · exact ⟨hA₁, hf₁, hk₁, fun _ k hk => List.mem_singleton.mp hk ▸ hstored⟩
    · obtain ⟨hA₂, hf₂, hk₂, -⟩ := update_builds
        (hmut existing hkey' (w.store.all_created _ hmem) (hAw _ hmem)) _ hA₁ hf₁
      exact ⟨hA₂, hf₂, fun k hk => hk₂ k (hk₁ k hk),
        fun _ k hk => hk₂ k (List.mem_singleton.mp hk ▸ hstored)⟩

end Calls

end VolSync
