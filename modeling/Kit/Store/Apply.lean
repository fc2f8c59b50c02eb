import Kit.Store.Object

/-!
# The apply primitives `EnsureCreate` and `EnsurePatch`

`kubeprovider.Client` is not in the source; its two primitives are modelled
from the spec (§4.1): `EnsureCreate` creates and takes `AlreadyExists` as
success, `EnsurePatch` gets the live object and creates the desired one when it
is absent, else merge-patches the live object to the desired fields.

They run through a `Client`, which says how the cluster's API server answers:
any call may fail with any error (the server unreachable, the request rejected
as invalid, forbidden or in conflict), and a failed call leaves the store as it
was. `Client.reliable` fails no call.

An `Apply` is one primitive call with its object, and `runAll` runs a list of
them through the reliable client, stopping at the first error. Each call leaves
a fact behind (`Holds`), touches no other key, and changes nothing where its
fact already holds; from these three, `runAll_idem` shows that a run over
distinct keys is a fixed point. Through the reliable client no call fails
(`Apply.run_ok`). Through any client a call touches no key but its own
(`Apply.find_runWith_of_ne`), and through one that never claims on its own that
an object exists, a call that succeeds does what the reliable call does
(`Apply.run_of_runWith`): failures can stop a run, not change what it writes.
-/

namespace Kit.Store
set_option autoImplicit false

/-- The calls of `client.Client` that the primitives and the controllers make. -/
inductive Verb where
  | get
  | create
  | patch
deriving DecidableEq, Repr

/-- A client of a cluster, as its API server answers: `fault v k` is the error
with which the server answers a call of `v` on the key `k` instead of carrying
it out, `none` when it carries the call out. -/
structure Client where
  fault : Verb → ObjectKey → Option Error

namespace Client

/-- The client whose server carries out every call. -/
def reliable : Client := ⟨fun _ _ => none⟩

/-- A server that never answers a create with an `AlreadyExists` of its own. -/
def Honest (c : Client) : Prop := ∀ k e, c.fault .create k = some e → e.isAlreadyExists = false

/-- The server fails no call on the keys `ks`. -/
def CarriesOut (c : Client) (ks : List ObjectKey) : Prop := ∀ v, ∀ k ∈ ks, c.fault v k = none

variable (c : Client) (s : Store)

/-- `client.Get`. -/
def get (k : ObjectKey) : Except Error Object :=
  match c.fault .get k with
  | some e => .error e
  | none => s.get k

/-- `client.Create`. -/
def create (o : Object) : Except Error Store :=
  match c.fault .create o.key with
  | some e => .error e
  | none => s.create o

/-- `client.Patch`. -/
def patch (o : Object) : Except Error Store :=
  match c.fault .patch o.key with
  | some e => .error e
  | none => s.patch o

/-- Modelled from the spec: `kubeprovider.Client.EnsureCreate`. -/
def ensureCreate (o : Object) : Except Error Store :=
  match c.create s o with
  | .ok s' => .ok s'
  | .error e => if e.isAlreadyExists then .ok s else .error e

/-- Modelled from the spec: `kubeprovider.Client.EnsurePatch`. -/
def ensurePatch (o : Object) : Except Error Store :=
  match c.get s o.key with
  | .ok _ => c.patch s o
  | .error e => if e.isNotFound then c.create s o else .error e

variable {c s} {s' : Store} {o x : Object}

@[simp] theorem reliable_get (k : ObjectKey) : reliable.get s k = s.get k := rfl

@[simp] theorem reliable_create : reliable.create s o = s.create o := rfl

@[simp] theorem reliable_patch : reliable.patch s o = s.patch o := rfl

theorem reliable_carriesOut (ks : List ObjectKey) : reliable.CarriesOut ks := fun _ _ _ => rfl

/-- A Get that succeeds is the store's answer. -/
theorem get_eq_ok {k : ObjectKey} (h : c.get s k = .ok x) : s.get k = .ok x := by
  cases hf : c.fault .get k <;> simp_all [get]

/-- A Create that succeeds is the store's. -/
theorem create_eq_ok (h : c.create s o = .ok s') : s.create o = .ok s' := by
  cases hf : c.fault .create o.key <;> simp_all [create]

/-- A Patch that succeeds is the store's. -/
theorem patch_eq_ok (h : c.patch s o = .ok s') : s.patch o = .ok s' := by
  cases hf : c.fault .patch o.key <;> simp_all [patch]

theorem ensureCreate_of_find_some (hc : c.fault .create o.key = none) (h : s.find o.key = some x) :
    c.ensureCreate s o = .ok s := by
  have : s.create o = .error (.status .alreadyExists) := create_eq_error_iff.2 ⟨rfl, by simp [h]⟩
  simp [ensureCreate, create, hc, this, Error.isAlreadyExists, Error.reason]

theorem ensureCreate_of_find_none (hc : c.fault .create o.key = none) (h : s.find o.key = none) :
    c.ensureCreate s o = s.create o := by
  cases hcr : s.create o with
  | ok s₁ => simp [ensureCreate, create, hc, hcr]
  | error e => exact absurd (create_eq_error_iff.1 hcr).2 (by simp [h])

theorem ensurePatch_of_find_some (hg : c.fault .get o.key = none) (h : s.find o.key = some x) :
    c.ensurePatch s o = c.patch s o := by
  simp [ensurePatch, get, hg, h]

theorem ensurePatch_of_find_none (hg : c.fault .get o.key = none) (h : s.find o.key = none) :
    c.ensurePatch s o = c.create s o := by
  simp [ensurePatch, get, hg, h, Error.isNotFound, Error.reason]

end Client

/-- One call of an apply primitive and the object it applies. -/
inductive Apply where
  /-- `EnsureCreate(ctx, o)`. -/
  | create (o : Object)
  /-- `EnsurePatch(ctx, &T{}, o)`. -/
  | patch (o : Object)

namespace Apply

/-- The object the call applies. -/
def obj : Apply → Object
  | create o => o
  | patch o => o

/-- The call through the client `c`. -/
def runWith (c : Client) : Apply → Store → Except Error Store
  | create o, s => c.ensureCreate s o
  | patch o, s => c.ensurePatch s o

/-- The call through the client whose server carries out every call. -/
def run (a : Apply) (s : Store) : Except Error Store := a.runWith .reliable s

/-- What the call leaves behind: an object under the key, and for a patch one
with the desired fields. -/
def Holds (s : Store) : Apply → Prop
  | create o => s.find o.key ≠ none
  | patch o => ∃ x, s.find o.key = some x ∧ x.fields = o.fields

variable {s s' : Store} {a : Apply} {c : Client}

@[simp] theorem run_create (o : Object) : (create o).run s = Client.reliable.ensureCreate s o := rfl

@[simp] theorem run_patch (o : Object) : (patch o).run s = Client.reliable.ensurePatch s o := rfl

theorem holds_congr (h : s'.find a.obj.key = s.find a.obj.key) : a.Holds s' ↔ a.Holds s := by
  cases a <;> simp only [Holds, obj] at h ⊢ <;> rw [h]

theorem run_holds (h : a.run s = .ok s') : a.Holds s' := by
  cases a with
  | create o =>
    rw [run_create] at h
    cases hf : s.find o.key with
    | some x => rw [Client.ensureCreate_of_find_some rfl hf] at h; cases h; simp [Holds, hf]
    | none => rw [Client.ensureCreate_of_find_none rfl hf] at h; simp [Holds, find_create h]
  | patch o =>
    rw [run_patch] at h
    cases hf : s.find o.key with
    | some x =>
      rw [Client.ensurePatch_of_find_some rfl hf, Client.reliable_patch] at h
      exact ⟨{ x with fields := o.fields }, by simp [find_patch h, hf], rfl⟩
    | none =>
      rw [Client.ensurePatch_of_find_none rfl hf, Client.reliable_create] at h
      exact ⟨o, by simp [find_create h], rfl⟩

/-- A call changes nothing where its fact already holds. -/
theorem run_of_holds (h : a.Holds s) : a.run s = .ok s := by
  cases a with
  | create o =>
    obtain ⟨x, hx⟩ := Option.ne_none_iff_exists'.1 h
    exact Client.ensureCreate_of_find_some rfl hx
  | patch o =>
    obtain ⟨x, hx, hfields⟩ := h
    exact (Client.ensurePatch_of_find_some rfl hx).trans (patch_of_find hx hfields)

/-- Through the reliable client a call never fails: the store answers only
`AlreadyExists` and `NotFound`, and the primitives take both as the way forward. -/
theorem run_ok (a : Apply) (s : Store) : ∃ s', a.run s = .ok s' := by
  have hcreate : ∀ o : Object, s.find o.key = none → ∃ s', s.create o = .ok s' := fun o hf => by
    cases hc : s.create o with
    | ok s' => exact ⟨s', rfl⟩
    | error e => exact absurd (create_eq_error_iff.1 hc).2 (by simp [hf])
  cases a with
  | create o =>
    cases hf : s.find o.key with
    | some x => exact ⟨s, Client.ensureCreate_of_find_some rfl hf⟩
    | none => simpa only [run_create, Client.ensureCreate_of_find_none (c := .reliable) rfl hf] using hcreate o hf
  | patch o =>
    cases hf : s.find o.key with
    | none =>
      simpa only [run_patch, Client.ensurePatch_of_find_none (c := .reliable) rfl hf, Client.reliable_create]
        using hcreate o hf
    | some x =>
      rw [run_patch, Client.ensurePatch_of_find_some rfl hf, Client.reliable_patch]
      cases hp : s.patch o with
      | ok s' => exact ⟨s', rfl⟩
      | error e => exact absurd (patch_eq_error_iff.1 hp).2 (by simp [hf])

/-- A call that succeeds left the store as it was, or created its object, or patched it. -/
theorem runWith_eq_ok (h : a.runWith c s = .ok s') :
    s' = s ∨ s.create a.obj = .ok s' ∨ s.patch a.obj = .ok s' := by
  cases a with
  | create o =>
    simp only [runWith, Client.ensureCreate, obj] at h ⊢
    split at h
    · rename_i s₁ hc
      cases h
      exact .inr (.inl (Client.create_eq_ok hc))
    · split at h
      · cases h; exact .inl rfl
      · cases h
  | patch o =>
    simp only [runWith, Client.ensurePatch, obj] at h ⊢
    split at h
    · exact .inr (.inr (Client.patch_eq_ok h))
    · split at h
      · exact .inr (.inl (Client.create_eq_ok h))
      · cases h

/-- Through any client, a call touches no key but its own. -/
theorem find_runWith_of_ne (h : a.runWith c s = .ok s') {k : ObjectKey} (hk : a.obj.key ≠ k) :
    s'.find k = s.find k := by
  rcases runWith_eq_ok h with rfl | hc | hp
  · rfl
  · simp [find_create hc, hk]
  · simp [find_patch hp, hk]

theorem find_run_of_ne (h : a.run s = .ok s') {k : ObjectKey} (hk : a.obj.key ≠ k) : s'.find k = s.find k :=
  find_runWith_of_ne h hk

/-- A call through a client that fails no call on its key is the reliable call. -/
theorem runWith_of_carriesOut (hc : ∀ v, c.fault v a.obj.key = none) : a.runWith c s = a.run s := by
  cases a <;> simp only [obj] at hc <;>
    simp [runWith, run, Client.ensureCreate, Client.ensurePatch, Client.get, Client.create, Client.patch,
      Client.reliable, hc]

/-- **Failures only stop a call.** Through a client that never claims on its own
that an object exists, a call that succeeds does what the reliable call does. -/
theorem run_of_runWith (hc : c.Honest) (h : a.runWith c s = .ok s') : a.run s = .ok s' := by
  cases a with
  | create o =>
    cases hf : c.fault .create o.key with
    | none => simpa [runWith, Client.ensureCreate, Client.create, Client.reliable, hf] using h
    | some e => simp [runWith, Client.ensureCreate, Client.create, hf, hc o.key e hf] at h
  | patch o =>
    rw [run_patch]
    simp only [runWith, Client.ensurePatch] at h
    split at h
    · rename_i x hx
      rw [Client.ensurePatch_of_find_some rfl (get_eq_ok_iff.1 (Client.get_eq_ok hx)), Client.reliable_patch]
      exact Client.patch_eq_ok h
    · split at h
      · have hcr := Client.create_eq_ok h
        rw [Client.ensurePatch_of_find_none rfl (create_eq_ok_iff.1 hcr).1, Client.reliable_create]
        exact hcr
      · cases h

end Apply

variable {s s' : Store}

/-- The calls in order, stopping at the first error. -/
def runAll : List Apply → Store → Except Error Store
  | [], s => .ok s
  | a :: as, s =>
    match a.run s with
    | .ok s₁ => runAll as s₁
    | .error e => .error e

/-- The keys of the calls' objects. -/
def keys (as : List Apply) : List ObjectKey := as.map (·.obj.key)

theorem runAll_cons_ok {a : Apply} {as : List Apply} :
    runAll (a :: as) s = .ok s' ↔ ∃ s₁, a.run s = .ok s₁ ∧ runAll as s₁ = .ok s' := by
  simp only [runAll]
  split <;> simp_all

theorem runAll_ok (as : List Apply) (s : Store) : ∃ s', runAll as s = .ok s' := by
  induction as generalizing s with
  | nil => exact ⟨s, rfl⟩
  | cons a as ih =>
    obtain ⟨s₁, h₁⟩ := a.run_ok s
    obtain ⟨s', h'⟩ := ih s₁
    exact ⟨s', runAll_cons_ok.2 ⟨s₁, h₁, h'⟩⟩

theorem find_runAll_of_not_mem {as : List Apply} (h : runAll as s = .ok s') {k : ObjectKey}
    (hk : k ∉ keys as) : s'.find k = s.find k := by
  induction as generalizing s with
  | nil => cases h; rfl
  | cons a as ih =>
    obtain ⟨s₁, h₁, h₂⟩ := runAll_cons_ok.1 h
    simp only [keys, List.map_cons, List.mem_cons, not_or] at hk
    rw [ih h₂ hk.2, Apply.find_run_of_ne h₁ (Ne.symm hk.1)]

/-- Over distinct keys, every call's fact holds at the end of the run. -/
theorem runAll_holds {as : List Apply} (hk : (keys as).Nodup) (h : runAll as s = .ok s') :
    ∀ a ∈ as, a.Holds s' := by
  induction as generalizing s with
  | nil => simp
  | cons a as ih =>
    obtain ⟨s₁, h₁, h₂⟩ := runAll_cons_ok.1 h
    simp only [keys, List.map_cons, List.nodup_cons] at hk
    intro b hb
    rcases List.mem_cons.1 hb with rfl | hb
    · exact (Apply.holds_congr (find_runAll_of_not_mem h₂ hk.1)).2 (Apply.run_holds h₁)
    · exact ih hk.2 h₂ b hb

theorem runAll_of_holds {as : List Apply} (h : ∀ a ∈ as, a.Holds s) : runAll as s = .ok s := by
  induction as with
  | nil => rfl
  | cons a as ih =>
    simp only [runAll, Apply.run_of_holds (h a (List.mem_cons_self _ _))]
    exact ih fun b hb => h b (List.mem_cons_of_mem _ hb)

/-- **A run of apply primitives over distinct keys is a fixed point.** -/
theorem runAll_idem {as : List Apply} (hk : (keys as).Nodup) (h : runAll as s = .ok s') :
    runAll as s' = .ok s' :=
  runAll_of_holds (runAll_holds hk h)

/-- The kube-proxy ServiceAccount created and its kubeconfig Secret patched into
an empty store. -/
def demoApplies : List Apply :=
  [.create ⟨⟨.serviceAccount, "kube-system", "kube-proxy"⟩, [], []⟩,
   .patch ⟨⟨.secret, "kube-system", "demo-kubeproxy-config"⟩, [("data.config", "apiVersion: v1")], []⟩]

theorem runAll_idem_demo :
    (keys demoApplies).Nodup ∧ ∃ s', runAll demoApplies empty = .ok s' ∧ runAll demoApplies s' = .ok s' :=
  have hk : (keys demoApplies).Nodup := by decide
  ⟨hk, _, rfl, runAll_idem (s := empty) hk rfl⟩

end Kit.Store
