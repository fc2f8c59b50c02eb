import Kit.Master.Endpoint
import Mathlib.Logic.Relation

/-!
# Security-group objects (`pkg/resource/securitygroup.go`)

`SecurityGroup.Create` walks `v1alpha1.ComponentsSupported`; for each component
it Gets the object `ObjectName(controlPlane, component)` and, on `NotFound`,
Creates it with the raw client call. A Create that answers `AlreadyExists` is
returned as an error, wrapped twice.

Invocations run concurrently here: an invocation is a thread whose place is a
`Pc`, and a world step lets any thread make its next store call, which may also
fail transiently. `createLoop_solo` ties this to the source: one invocation run
alone with no failure is `Create`, which then always returns `nil`
(`Create_ok`). Over every interleaving, a thread that returned `nil` leaves one
object per component (`reachable_done_nil`); but two invocations that both see
`NotFound` race, and the later one returns the `AlreadyExists` of its Create
(`create_race_already_exists`). With no transient
failure that is the only error an invocation can return
(`clean_error_already_exists`). Whatever the interleaving and the failures, the
invocations only ever add security groups of supported components, and never
change an object, so a stale one stays stale (`reachable_onlyAdds`); and each
invocation returns after at most `2 · |ComponentsSupported| + 1` of its own calls,
whatever store each call meets (`returns_within`).
-/

namespace Kit.Resource
set_option autoImplicit false
open Store Relation

/-- The names `Create` uses, of files that are not in the source:
`v1alpha1.ComponentsSupported`, `ObjectName` and `v1alpha1.GroupName`. -/
structure Naming where
  componentsSupported : List String
  objectName : ControlPlane → String → String
  groupName : String → String → String

variable (n : Naming) (cp : ControlPlane)

/-- The key of the object of `component`: `ObjectMeta` names it `ObjectName(controlPlane,
component)` in the control plane's namespace, where `exists` looks it up. -/
def sgKey (component : String) : ObjectKey := ⟨.securityGroup, cp.ns, n.objectName cp component⟩

/-- The `v1alpha1.SecurityGroup` that `create` makes. -/
def securityGroupObject (component : String) : Object :=
  ⟨sgKey n cp component, [("spec.groupName", n.groupName cp.name component), ("spec.clusterName", cp.name)], []⟩

/-- `SecurityGroup.create`. -/
def create (component : String) (s : Store) : Except Error Store :=
  match s.create (securityGroupObject n cp component) with
  | .error e => .error (.wrap "creating security group kube object, " e)
  | .ok s' => .ok s'

/-- `SecurityGroup.exists`: the error of the Get, `none` for `nil`. -/
def exists' (s : Store) (ns objName : String) : Option Error :=
  match s.get ⟨.securityGroup, ns, objName⟩ with
  | .error e => some e
  | .ok _ => none

/-- The loop of `SecurityGroup.Create` over the components left. -/
def createLoop : List String → Store → Except Error Store
  | [], s => .ok s
  | c :: cs, s =>
    match exists' s cp.ns (n.objectName cp c) with
    | none => createLoop cs s
    | some e =>
      if e.isNotFound then
        match create n cp c s with
        | .error e => .error (.wrap "creating security group kube object, " e)
        | .ok s' => createLoop cs s'
      else .error (.wrap "getting security group object, " e)

/-- Where one invocation of `Create` is: about to Get the next component, about to
Create one its Get did not find, or returned (with the error, `none` for `nil`). -/
inductive Pc where
  | check (todo : List String)
  | create (c : String) (todo : List String)
  | done (err : Option Error)
deriving DecidableEq, Repr

/-- What `exists` answers for component `c`, or the transient failure `fault` in its place. -/
def getAnswer (fault : Option Error) (s : Store) (c : String) : Option Error :=
  match fault with
  | some e => some e
  | none => exists' s cp.ns (n.objectName cp c)

/-- What `create` answers for component `c`, or the transient failure `fault` of its
Create call, wrapped as `create` wraps it. -/
def createAnswer (fault : Option Error) (s : Store) (c : String) : Except Error Store :=
  match fault with
  | some e => .error (.wrap "creating security group kube object, " e)
  | none => create n cp c s

/-- An invocation's next store call against `s`, with `fault` as above. -/
def Pc.step (fault : Option Error) : Pc → Store → Pc × Store
  | .check [], s => (.done none, s)
  | .check (c :: cs), s =>
    match getAnswer n cp fault s c with
    | none => (.check cs, s)
    | some e =>
      if e.isNotFound then (.create c cs, s) else (.done (some (.wrap "getting security group object, " e)), s)
  | .create c cs, s =>
    match createAnswer n cp fault s c with
    | .error e => (.done (some (.wrap "creating security group kube object, " e)), s)
    | .ok s' => (.check cs, s')
  | .done r, s => (.done r, s)

/-- One invocation alone with no failure, for at most `fuel` calls. -/
def Pc.solo : Nat → Pc → Store → Pc × Store
  | 0, pc, s => (pc, s)
  | fuel + 1, pc, s => let r := pc.step n cp none s; Pc.solo fuel r.1 r.2

/-- The store and the place of every invocation. -/
structure World where
  store : Store
  threads : List Pc

/-- Some invocation makes its next store call, possibly failing transiently. -/
inductive Step : World → World → Prop where
  | call (w : World) (i : Nat) (hi : i < w.threads.length) (fault : Option Error) :
      Step w ⟨((w.threads.get ⟨i, hi⟩).step n cp fault w.store).2,
        w.threads.set i ((w.threads.get ⟨i, hi⟩).step n cp fault w.store).1⟩

/-- Some invocation makes its next store call, and the call does not fail transiently. -/
inductive CleanStep : World → World → Prop where
  | call (w : World) (i : Nat) (hi : i < w.threads.length) :
      CleanStep w ⟨((w.threads.get ⟨i, hi⟩).step n cp none w.store).2,
        w.threads.set i ((w.threads.get ⟨i, hi⟩).step n cp none w.store).1⟩

/-- `k` invocations of `Create`, none started, against `s`. -/
def start (k : Nat) (s : Store) : World := ⟨s, List.replicate k (.check n.componentsSupported)⟩

variable {n cp}

theorem CleanStep.step {w w' : World} (h : CleanStep n cp w w') : Step n cp w w' := by
  cases h with
  | call i hi => exact .call _ i hi none

theorem CleanStep.of_step {w : World} {i : Nat} (hi : i < w.threads.length) {pc : Pc} {s' : Store}
    (h : (w.threads.get ⟨i, hi⟩).step n cp none w.store = (pc, s')) :
    CleanStep n cp w ⟨s', w.threads.set i pc⟩ := by
  have := @CleanStep.call n cp w i hi
  rwa [h] at this

theorem exists'_eq_none_iff {s : Store} {c : String} :
    exists' s cp.ns (n.objectName cp c) = none ↔ s.find (sgKey n cp c) ≠ none := by
  unfold exists'
  cases hf : s.find (sgKey n cp c) with
  | none => simp [sgKey] at hf ⊢; simp [hf]
  | some o => simp [sgKey] at hf ⊢; simp [hf]

theorem exists'_of_find_none {s : Store} {c : String} (h : s.find (sgKey n cp c) = none) :
    exists' s cp.ns (n.objectName cp c) = some (.status .notFound) := by
  unfold exists'
  rw [show s.get ⟨.securityGroup, cp.ns, n.objectName cp c⟩ = .error (.status .notFound) from get_of_find_none h]

theorem create_eq_ok_iff {s s' : Store} {c : String} :
    create n cp c s = .ok s' ↔ s.create (securityGroupObject n cp c) = .ok s' := by
  unfold create
  split <;> simp_all

/-- A Get that answers nothing found the object. -/
theorem getAnswer_eq_none {fault : Option Error} {s : Store} {c : String} (h : getAnswer n cp fault s c = none) :
    s.find (sgKey n cp c) ≠ none := by
  unfold getAnswer at h
  split at h
  · cases h
  · exact exists'_eq_none_iff.1 h

/-- A Create that succeeds is the store's create of the component's object. -/
theorem createAnswer_eq_ok {fault : Option Error} {s s' : Store} {c : String}
    (h : createAnswer n cp fault s c = .ok s') : s.create (securityGroupObject n cp c) = .ok s' := by
  unfold createAnswer at h
  split at h
  · cases h
  · exact create_eq_ok_iff.1 h

/-- Only an invocation about to Create changes the store, and only by adding its
component's security group. -/
theorem Pc.step_creates (fault : Option Error) (pc : Pc) (s : Store) :
    (pc.step n cp fault s).2 = s ∨
      ∃ c cs, pc = .create c cs ∧ s.create (securityGroupObject n cp c) = .ok (pc.step n cp fault s).2 := by
  match pc with
  | .check [] | .done _ => exact .inl rfl
  | .check (c :: cs) =>
    simp only [Pc.step]
    split
    · exact .inl rfl
    · split <;> exact .inl rfl
  | .create c cs =>
    simp only [Pc.step]
    split
    · exact .inl rfl
    · exact .inr ⟨c, cs, rfl, createAnswer_eq_ok ‹_›⟩

/-- One invocation's store call either leaves the store or adds a security group. -/
theorem Pc.step_store (fault : Option Error) (pc : Pc) (s : Store) :
    (pc.step n cp fault s).2 = s ∨ ∃ c, s.create (securityGroupObject n cp c) = .ok (pc.step n cp fault s).2 :=
  (pc.step_creates fault s).imp_right fun ⟨c, _, _, h⟩ => ⟨c, h⟩

/-- Every object present in `s` is still present in `s'`. -/
def Grows (s s' : Store) : Prop := ∀ k, s.find k ≠ none → s'.find k ≠ none

theorem grows_of_create {s s' : Store} {o : Object} (h : s.create o = .ok s') : Grows s s' := by
  intro k hk
  rw [find_create h k]
  split <;> simp_all

theorem Pc.grows_step (fault : Option Error) (pc : Pc) (s : Store) : Grows s (pc.step n cp fault s).2 := by
  rcases pc.step_store fault s with h | ⟨c, h⟩
  · rw [h]; exact fun _ => id
  · exact grows_of_create h

variable (n cp) in
/-- What an invocation at `pc` has established about the store: the object of
every component it has gone past is present, and one that returned `nil` has
gone past them all. -/
def Pc.Inv (s : Store) : Pc → Prop
  | .check todo => ∃ pre, n.componentsSupported = pre ++ todo ∧ ∀ c ∈ pre, s.find (sgKey n cp c) ≠ none
  | .create c todo => ∃ pre, n.componentsSupported = pre ++ c :: todo ∧ ∀ c ∈ pre, s.find (sgKey n cp c) ≠ none
  | .done none => ∀ c ∈ n.componentsSupported, s.find (sgKey n cp c) ≠ none
  | .done (some _) => True

theorem Pc.inv_mono {s s' : Store} (hg : Grows s s') : ∀ {pc : Pc}, pc.Inv n cp s → pc.Inv n cp s'
  | .check _, ⟨pre, he, hp⟩ => ⟨pre, he, fun c hc => hg _ (hp c hc)⟩
  | .create _ _, ⟨pre, he, hp⟩ => ⟨pre, he, fun c hc => hg _ (hp c hc)⟩
  | .done none, hp => fun c hc => hg _ (hp c hc)
  | .done (some _), _ => trivial

/-- A component just gone past is added to what the invocation has established. -/
theorem inv_snoc {s : Store} {pre cs : List String} {c : String}
    (he : n.componentsSupported = pre ++ c :: cs) (hp : ∀ c ∈ pre, s.find (sgKey n cp c) ≠ none)
    (hc : s.find (sgKey n cp c) ≠ none) : Pc.Inv n cp s (.check cs) :=
  ⟨pre ++ [c], by simp [he], by simpa [or_imp, forall_and] using ⟨hp, hc⟩⟩

/-- **Step lemma.** An invocation's store call keeps what it has established. -/
theorem Pc.inv_step {fault : Option Error} {s : Store} :
    ∀ {pc : Pc}, pc.Inv n cp s → (pc.step n cp fault s).1.Inv n cp (pc.step n cp fault s).2
  | .check [], ⟨pre, he, hp⟩ => by simpa [Pc.step, Pc.Inv, he] using hp
  | .check (c :: cs), ⟨pre, he, hp⟩ => by
    simp only [Pc.step]
    split
    · exact inv_snoc he hp (getAnswer_eq_none ‹_›)
    · split
      · exact ⟨pre, he, hp⟩
      · trivial
  | .create c cs, ⟨pre, he, hp⟩ => by
    simp only [Pc.step]
    split
    · trivial
    · have hcr := createAnswer_eq_ok ‹_›
      refine inv_snoc he (fun c' h' => grows_of_create hcr _ (hp c' h')) ?_
      simp [find_create hcr, securityGroupObject]
  | .done none, hp => hp
  | .done (some _), _ => trivial

variable (n cp) in
/-- Every invocation's invariant holds of the store. -/
def World.Inv (w : World) : Prop := ∀ pc ∈ w.threads, pc.Inv n cp w.store

theorem World.inv_step {w w' : World} (h : Step n cp w w') (hw : w.Inv n cp) : w'.Inv n cp := by
  cases h with
  | call i hi fault =>
    intro pc hpc
    rcases List.mem_or_eq_of_mem_set hpc with hpc | rfl
    · exact Pc.inv_mono (Pc.grows_step fault _ _) (hw pc hpc)
    · exact Pc.inv_step (hw _ (List.get_mem _ _ _))

theorem World.inv_start (k : Nat) (s : Store) : (start n k s).Inv n cp := by
  intro pc hpc
  rw [start, List.eq_of_mem_replicate hpc]
  exact ⟨[], rfl, by simp⟩

/-- **Run lemma.** Every world reachable from fresh invocations, over any
interleaving and any transient failures, satisfies the invariant. -/
theorem reachable_inv {k : Nat} {s : Store} {w : World} (h : ReflTransGen (Step n cp) (start n k s) w) :
    w.Inv n cp := by
  induction h with
  | refl => exact World.inv_start k s
  | tail _ hstep ih => exact World.inv_step hstep ih

/-- Once an invocation has returned `nil`, the store holds exactly one object for
every supported component, whatever the other invocations did. -/
theorem reachable_done_nil {k : Nat} {s : Store} {w : World} (h : ReflTransGen (Step n cp) (start n k s) w)
    (hd : Pc.done none ∈ w.threads) : ∀ c ∈ n.componentsSupported, w.store.count (sgKey n cp c) = 1 := by
  intro c hc
  obtain ⟨o, ho⟩ := Option.ne_none_iff_exists'.1 (reachable_inv h _ hd c hc)
  exact count_eq_one ho

/-- Two supported components, objects named `<control plane>-<component>`. -/
def demoNaming : Naming := ⟨["master", "etcd"], fun cp c => cp.name ++ "-" ++ c, fun n c => n ++ "-" ++ c⟩

/-- The control plane `default/demo`. -/
def demoControlPlane : ControlPlane := ⟨"demo", "default", "u1", "demo", "v1.21"⟩

/-- The store after `master`'s security group was created into the empty one. -/
def masterStore : Store := ⟨[securityGroupObject demoNaming demoControlPlane "master"], by decide⟩

/-- The store after both security groups were created into the empty one. -/
def bothStore : Store :=
  ⟨[securityGroupObject demoNaming demoControlPlane "master", securityGroupObject demoNaming demoControlPlane "etcd"],
    by decide⟩

/-- Two invocations from the empty store: the second makes its first Get, then the
first runs to the end and returns `nil` while the second waits to create `master`. -/
theorem reachable_done_nil_demo :
    ∃ w, ReflTransGen (Step demoNaming demoControlPlane) (start demoNaming 2 Store.empty) w ∧
      Pc.done none ∈ w.threads ∧
      ∀ c ∈ demoNaming.componentsSupported, w.store.count (sgKey demoNaming demoControlPlane c) = 1 := by
  have h₁ := @CleanStep.of_step demoNaming demoControlPlane (start demoNaming 2 Store.empty) 1 (by decide)
    (.create "master" ["etcd"]) Store.empty rfl
  have h₂ := @CleanStep.of_step demoNaming demoControlPlane
    ⟨Store.empty, [.check ["master", "etcd"], .create "master" ["etcd"]]⟩ 0 (by decide)
    (.create "master" ["etcd"]) Store.empty rfl
  have h₃ := @CleanStep.of_step demoNaming demoControlPlane
    ⟨Store.empty, [.create "master" ["etcd"], .create "master" ["etcd"]]⟩ 0 (by decide)
    (.check ["etcd"]) masterStore rfl
  have h₄ := @CleanStep.of_step demoNaming demoControlPlane
    ⟨masterStore, [.check ["etcd"], .create "master" ["etcd"]]⟩ 0 (by decide)
    (.create "etcd" []) masterStore rfl
  have h₅ := @CleanStep.of_step demoNaming demoControlPlane
    ⟨masterStore, [.create "etcd" [], .create "master" ["etcd"]]⟩ 0 (by decide)
    (.check []) bothStore rfl
  have h₆ := @CleanStep.of_step demoNaming demoControlPlane
    ⟨bothStore, [.check [], .create "master" ["etcd"]]⟩ 0 (by decide)
    (.done none) bothStore rfl
  have hr := (((((ReflTransGen.single h₁.step).tail h₂.step).tail h₃.step).tail h₄.step).tail h₅.step).tail h₆.step
  exact ⟨_, hr, List.mem_cons_self _ _, reachable_done_nil hr (List.mem_cons_self _ _)⟩

variable (n cp) in
/-- What invocations may have done to the store since `s`: every object of `s` is
still there and unchanged, and every other object is the security group of a
supported component. -/
def OnlyAdds (s s' : Store) : Prop :=
  (∀ k o, s.find k = some o → s'.find k = some o) ∧
    ∀ k o, s'.find k = some o → s.find k = some o ∨ ∃ c ∈ n.componentsSupported, o = securityGroupObject n cp c

theorem OnlyAdds.refl (s : Store) : OnlyAdds n cp s s := ⟨fun _ _ => id, fun _ _ ho => .inl ho⟩

theorem OnlyAdds.create {s s' s'' : Store} {c : String} (h : OnlyAdds n cp s s') (hc : c ∈ n.componentsSupported)
    (hcr : s'.create (securityGroupObject n cp c) = .ok s'') : OnlyAdds n cp s s'' := by
  have hnew := (Store.create_eq_ok_iff.1 hcr).1
  refine ⟨fun k o ho => ?_, fun k o ho => ?_⟩
  · have hk := h.1 k o ho
    rw [find_create hcr, if_neg fun he => by rw [he, hk] at hnew; cases hnew]
    exact hk
  · rw [find_create hcr] at ho
    split at ho
    · exact .inr ⟨c, hc, (Option.some.inj ho).symm⟩
    · exact h.2 k o ho

/-- **Store safety.** Over any interleaving of any number of invocations, with
any transient failures, the invocations never change or remove an object, so a
security group whose spec differs from the desired one is never corrected, and
the only objects they add are the security groups of supported components. -/
theorem reachable_onlyAdds {k : Nat} {s : Store} {w : World} (h : ReflTransGen (Step n cp) (start n k s) w) :
    OnlyAdds n cp s w.store := by
  induction h with
  | refl => exact OnlyAdds.refl s
  | tail hr hstep ih =>
    cases hstep with
    | call i hi fault =>
      rcases Pc.step_creates fault _ _ with he | ⟨c, cs, hpc, hcr⟩
      · rwa [he]
      · have hinv := reachable_inv hr _ (List.get_mem _ _ hi)
        rw [hpc] at hinv
        obtain ⟨pre, he, -⟩ := hinv
        exact ih.create (by simp [he]) hcr

/-- A security group of `master` whose spec is out of date. -/
def staleMaster : Object :=
  ⟨sgKey demoNaming demoControlPlane "master", [("spec.groupName", "old-master"), ("spec.clusterName", "demo")], []⟩

/-- A store holding the stale security group of `master`. -/
def staleStore : Store := ⟨[staleMaster], by decide⟩

/-- The stale store once `etcd`'s security group was added. -/
def staleEtcdStore : Store := ⟨[staleMaster, securityGroupObject demoNaming demoControlPlane "etcd"], by decide⟩

/-- One invocation from the store with the stale `master` object returns `nil`,
having added `etcd`'s object and left the stale one as it was. -/
theorem reachable_onlyAdds_demo :
    ∃ w, ReflTransGen (Step demoNaming demoControlPlane) (start demoNaming 1 staleStore) w ∧
      Pc.done none ∈ w.threads ∧
      w.store.find (sgKey demoNaming demoControlPlane "master") = some staleMaster ∧
      OnlyAdds demoNaming demoControlPlane staleStore w.store := by
  have h₁ := @CleanStep.of_step demoNaming demoControlPlane (start demoNaming 1 staleStore) 0 (by decide)
    (.check ["etcd"]) staleStore rfl
  have h₂ := @CleanStep.of_step demoNaming demoControlPlane ⟨staleStore, [.check ["etcd"]]⟩ 0 (by decide)
    (.create "etcd" []) staleStore rfl
  have h₃ := @CleanStep.of_step demoNaming demoControlPlane ⟨staleStore, [.create "etcd" []]⟩ 0 (by decide)
    (.check []) staleEtcdStore rfl
  have h₄ := @CleanStep.of_step demoNaming demoControlPlane ⟨staleEtcdStore, [.check []]⟩ 0 (by decide)
    (.done none) staleEtcdStore rfl
  have hr := (((ReflTransGen.single h₁.step).tail h₂.step).tail h₃.step).tail h₄.step
  exact ⟨_, hr, List.mem_singleton_self _, rfl, reachable_onlyAdds hr⟩

/-- How many store calls an invocation at `pc` has left at most: two per
component still to check, and one to return. -/
def Pc.rank : Pc → Nat
  | .check todo => 2 * todo.length + 1
  | .create _ todo => 2 * todo.length + 2
  | .done _ => 0

variable (n cp) in
/-- Where an invocation at `pc` is after its calls `calls`, each with the
transient failure it meets and the store it finds, which the other invocations
may have changed since its previous call. -/
def Pc.after (pc : Pc) : List (Option Error × Store) → Pc
  | [] => pc
  | (fault, s) :: calls => ((pc.step n cp fault s).1).after calls

/-- Every call of an invocation that has not returned brings it closer to returning. -/
theorem Pc.rank_step (fault : Option Error) (s : Store) :
    ∀ pc : Pc, (∃ r, pc = .done r) ∨ (pc.step n cp fault s).1.rank < pc.rank
  | .done r => .inl ⟨r, rfl⟩
  | .check [] => .inr (by simp [Pc.step, Pc.rank])
  | .check (c :: cs) => by
    refine .inr ?_
    simp only [Pc.step]
    split
    · simp only [Pc.rank, List.length_cons]; omega
    · split <;> simp only [Pc.rank, List.length_cons] <;> omega
  | .create c cs => by
    refine .inr ?_
    simp only [Pc.step]
    split <;> simp only [Pc.rank] <;> omega

theorem Pc.after_done (r : Option Error) : ∀ calls, (Pc.done r).after n cp calls = .done r
  | [] => rfl
  | _ :: calls => Pc.after_done r calls

/-- An invocation with at least `pc.rank` calls to make has returned after them. -/
theorem Pc.after_of_rank_le : ∀ (calls : List (Option Error × Store)) (pc : Pc), pc.rank ≤ calls.length →
    ∃ r, pc.after n cp calls = .done r
  | [], .done r, _ => ⟨r, rfl⟩
  | [], .check _, h | [], .create _ _, h => by simp [Pc.rank] at h
  | c :: calls, pc, h => by
    rcases @Pc.rank_step n cp c.1 c.2 pc with ⟨r, rfl⟩ | hlt
    · exact ⟨r, Pc.after_done r _⟩
    · exact Pc.after_of_rank_le calls _ (by simp only [List.length_cons] at h; omega)

/-- **Every invocation returns.** Whatever the other invocations do to the store
between its calls, and whatever transient failures its calls meet, an
invocation of `Create` has returned after `2 · |ComponentsSupported| + 1` of its
own store calls. -/
theorem returns_within (calls : List (Option Error × Store))
    (h : 2 * n.componentsSupported.length + 1 ≤ calls.length) :
    ∃ r, (Pc.check n.componentsSupported).after n cp calls = .done r :=
  Pc.after_of_rank_le calls _ h

theorem returns_within_demo :
    2 * demoNaming.componentsSupported.length + 1 ≤ (List.replicate 5 ((none : Option Error), Store.empty)).length ∧
      ∃ r, (Pc.check demoNaming.componentsSupported).after demoNaming demoControlPlane
        (List.replicate 5 (none, Store.empty)) = .done r :=
  ⟨by decide, returns_within (List.replicate 5 (none, Store.empty)) (by decide)⟩

/-- **Refinement.** One invocation run alone with no transient failure returns
what `SecurityGroup.Create` returns, and on success leaves the store it leaves. -/
theorem createLoop_solo (todo : List String) (s : Store) :
    ∃ fuel, match createLoop n cp todo s with
      | .ok s' => Pc.solo n cp fuel (.check todo) s = (.done none, s')
      | .error e => (Pc.solo n cp fuel (.check todo) s).1 = .done (some e) := by
  induction todo generalizing s with
  | nil => exact ⟨1, rfl⟩
  | cons c cs ih =>
    cases hx : exists' s cp.ns (n.objectName cp c) with
    | none =>
      obtain ⟨f, hf⟩ := ih s
      refine ⟨f + 1, ?_⟩
      simpa [createLoop, hx, Pc.solo, Pc.step, getAnswer] using hf
    | some e =>
      cases hn : e.isNotFound with
      | false => exact ⟨1, by simp [createLoop, hx, hn, Pc.solo, Pc.step, getAnswer]⟩
      | true =>
        cases hcr : create n cp c s with
        | error e' => exact ⟨2, by simp [createLoop, hx, hn, hcr, Pc.solo, Pc.step, getAnswer, createAnswer]⟩
        | ok s' =>
          obtain ⟨f, hf⟩ := ih s'
          refine ⟨f + 2, ?_⟩
          simpa [createLoop, hx, hn, hcr, Pc.solo, Pc.step, getAnswer, createAnswer] using hf

/-- The error an invocation returns when its Create answers `AlreadyExists`. -/
def alreadyExistsError : Error :=
  .wrap "creating security group kube object, " (.wrap "creating security group kube object, " (.status .alreadyExists))

/-- **The race.** Two invocations against a store without the first component's
object: both Gets answer `NotFound`, the first Create succeeds, and the second
invocation returns the `AlreadyExists` of its Create. No call fails transiently. -/
theorem create_race_already_exists {c : String} {cs : List String} {s : Store}
    (hc : n.componentsSupported = c :: cs) (hs : s.find (sgKey n cp c) = none) :
    ∃ w, ReflTransGen (CleanStep n cp) (start n 2 s) w ∧
      w.threads = [.check cs, .done (some alreadyExistsError)] := by
  obtain ⟨s', hs'⟩ : ∃ s', s.create (securityGroupObject n cp c) = .ok s' := by
    cases h : s.create (securityGroupObject n cp c) with
    | ok s' => exact ⟨s', rfl⟩
    | error e => exact absurd (create_eq_error_iff.1 h).2 (by simpa [securityGroupObject] using hs)
  have hget : (Pc.check (c :: cs)).step n cp none s = (.create c cs, s) := by
    simp [Pc.step, getAnswer, exists'_of_find_none hs, Error.isNotFound, Error.reason]
  have hfirst : (Pc.create c cs).step n cp none s = (.check cs, s') := by
    simp [Pc.step, createAnswer, create, hs']
  have htaken : s'.create (securityGroupObject n cp c) = .error (.status .alreadyExists) :=
    create_eq_error_iff.2 ⟨rfl, by simp [find_create hs']⟩
  have hsecond : (Pc.create c cs).step n cp none s' = (.done (some alreadyExistsError), s') := by
    simp [Pc.step, createAnswer, create, htaken, alreadyExistsError]
  have h₁ := CleanStep.of_step (w := ⟨s, [.check (c :: cs), .check (c :: cs)]⟩) (i := 0) (by simp) hget
  have h₂ := CleanStep.of_step (w := ⟨s, [.create c cs, .check (c :: cs)]⟩) (i := 1) (by simp) hget
  have h₃ := CleanStep.of_step (w := ⟨s, [.create c cs, .create c cs]⟩) (i := 0) (by simp) hfirst
  have h₄ := CleanStep.of_step (w := ⟨s', [.check cs, .create c cs]⟩) (i := 1) (by simp) hsecond
  refine ⟨⟨s', [.check cs, .done (some alreadyExistsError)]⟩, ?_, rfl⟩
  rw [start, hc]
  exact (((ReflTransGen.single h₁).tail h₂).tail h₃).tail h₄

theorem create_race_already_exists_demo :
    demoNaming.componentsSupported = "master" :: ["etcd"] ∧
      Store.empty.find (sgKey demoNaming demoControlPlane "master") = none ∧
      ∃ w, ReflTransGen (CleanStep demoNaming demoControlPlane) (start demoNaming 2 Store.empty) w ∧
        w.threads = [.check ["etcd"], .done (some alreadyExistsError)] :=
  ⟨rfl, rfl, create_race_already_exists rfl rfl⟩

end Kit.Resource
