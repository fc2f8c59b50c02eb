import Mathlib.Data.List.Nodup

/-!
# Errors, objects and the declarative-object store

Errors are Go errors as the controllers build and inspect them: API errors of
the store carry their `StatusReason`, and `fmt.Errorf("..., %w", err)` stays a
`wrap` around the error it wraps, so that `errors.Is` and
`apierrors.IsNotFound` are computed along the chain as Go computes them.

The store holds objects keyed by kind, namespace and name, at most one per key;
`Store.nodup` carries that, so no operation can build a store with a duplicate.
`get`, `create` and `patch` are the three calls of `client.Client` the
controllers make: `create` answers `AlreadyExists` for a taken key, and a patch
rewrites the client-owned fields of the live object and leaves its status alone.
-/

namespace Kit
set_option autoImplicit false

/-- The `metav1.StatusReason` of an API error. -/
inductive StatusReason where
  | notFound
  | alreadyExists
  | other (reason : String)
deriving DecidableEq, Repr

/-- Go errors as the modelled code builds and inspects them. -/
inductive Error where
  /-- An API error of the object store (`apierrors.StatusError`). -/
  | status (reason : StatusReason)
  /-- The sentinel `errors.WaitingForSubResources`. -/
  | waitingForSubResources
  /-- An `awserr.Error`: its code and its message. -/
  | aws (code message : String)
  /-- An error that is only a text: `os` errors, `fmt.Errorf` without `%w`. -/
  | text (msg : String)
  /-- `fmt.Errorf(format, err)` with `%w` last: the text before the `%w`, and `err`. -/
  | wrap (pre : String) (err : Error)
deriving DecidableEq, Repr

namespace Error

/-- `errors.Is(e, target)`: `target` is `e` or an error that `e` wraps. -/
def is : Error → Error → Bool
  | .wrap p e, t => Error.wrap p e == t || e.is t
  | e, t => e == t

/-- `apierrors.ReasonForError`: the reason of the API error along the wrap chain. -/
def reason : Error → Option StatusReason
  | .status r => some r
  | .wrap _ e => e.reason
  | _ => none

/-- `apierrors.IsNotFound`. -/
def isNotFound (e : Error) : Bool := e.reason == some .notFound

/-- `apierrors.IsAlreadyExists`. -/
def isAlreadyExists (e : Error) : Bool := e.reason == some .alreadyExists

/-- `errors.As(e, &aerr)` into an `awserr.Error`: the code of the first AWS error
along the wrap chain. -/
def awsCode : Error → Option String
  | .aws code _ => some code
  | .wrap _ e => e.awsCode
  | _ => none

@[simp] theorem is_wrap (p : String) (e t : Error) :
    (Error.wrap p e).is t = (Error.wrap p e == t || e.is t) := rfl

@[simp] theorem is_self (e : Error) : e.is e = true := by
  cases e <;> simp [is]

@[simp] theorem reason_wrap (p : String) (e : Error) : (Error.wrap p e).reason = e.reason := rfl

@[simp] theorem awsCode_wrap (p : String) (e : Error) : (Error.wrap p e).awsCode = e.awsCode := rfl

end Error

/-- The kinds of object the modelled controllers touch. -/
inductive Kind where
  | service
  | serviceAccount
  | clusterRoleBinding
  | secret
  | daemonSet
  | securityGroup
deriving DecidableEq, Repr

/-- `types.NamespacedName` with the kind: what identifies an object in the store.
A cluster-scoped object has namespace `""`. -/
structure ObjectKey where
  kind : Kind
  ns : String
  name : String
deriving DecidableEq, Repr

/-- One ingress point of a load balancer (`v1.LoadBalancerIngress`). -/
structure LoadBalancerIngress where
  hostname : String
  ip : String
deriving DecidableEq, Repr

/-- A stored object. `fields` is what the client writes (metadata, spec, data),
one entry per field path; `ingress` is `status.loadBalancer.ingress`, which only
the load-balancer controller writes. -/
structure Object where
  key : ObjectKey
  fields : List (String × String)
  ingress : List LoadBalancerIngress
deriving DecidableEq, Repr

/-- The objects of one cluster, at most one per key. -/
structure Store where
  objects : List Object
  nodup : (objects.map Object.key).Nodup

namespace Store

@[ext] theorem ext {s t : Store} (h : s.objects = t.objects) : s = t := by
  cases s; cases t; cases h; rfl

/-- The store with no object. -/
def empty : Store := ⟨[], List.nodup_nil⟩

/-- The object stored under `k`, if any. -/
def find (s : Store) (k : ObjectKey) : Option Object := s.objects.find? (·.key == k)

/-- How many objects are stored under `k`. -/
def count (s : Store) (k : ObjectKey) : Nat := (s.objects.map Object.key).count k

/-- `client.Get`. -/
def get (s : Store) (k : ObjectKey) : Except Error Object :=
  match s.find k with
  | some o => .ok o
  | none => .error (.status .notFound)

/-- `client.Create`: `AlreadyExists` when the key is taken, else the object is added. -/
def create (s : Store) (o : Object) : Except Error Store :=
  if h : o.key ∈ s.objects.map Object.key then .error (.status .alreadyExists)
  else .ok ⟨s.objects ++ [o], by
    rw [List.map_append, List.nodup_append]
    exact ⟨s.nodup, List.nodup_singleton _, by simpa using h⟩⟩

/-- The live objects with the client-owned fields of the one under `o.key` replaced. -/
def patched (s : Store) (o : Object) : List Object :=
  s.objects.map fun x => if x.key = o.key then { x with fields := o.fields } else x

theorem patched_keys (s : Store) (o : Object) : (s.patched o).map Object.key = s.objects.map Object.key := by
  simp only [patched, List.map_map]
  exact List.map_congr_left fun x _ => by by_cases h : x.key = o.key <;> simp [h]

/-- `client.Patch` with the merge patch from the live object to `o`: the live
object takes `o`'s fields and keeps its status; `NotFound` when there is none. -/
def patch (s : Store) (o : Object) : Except Error Store :=
  if o.key ∈ s.objects.map Object.key then .ok ⟨s.patched o, by rw [patched_keys]; exact s.nodup⟩
  else .error (.status .notFound)

/-- Two stored objects with one key are the same object. -/
theorem eq_of_key_eq {s : Store} {x y : Object} (hx : x ∈ s.objects) (hy : y ∈ s.objects)
    (h : x.key = y.key) : x = y :=
  List.inj_on_of_nodup_map s.nodup hx hy h

theorem find_eq_some_iff {s : Store} {k : ObjectKey} {o : Object} :
    s.find k = some o ↔ o ∈ s.objects ∧ o.key = k := by
  unfold find
  constructor
  · intro h
    exact ⟨List.mem_of_find?_eq_some h, by simpa using List.find?_some h⟩
  · rintro ⟨hm, rfl⟩
    cases hx : s.objects.find? (·.key == o.key) with
    | none => exact absurd (List.find?_eq_none.1 hx o hm) (by simp)
    | some x =>
      have hk : x.key = o.key := by simpa using List.find?_some hx
      rw [eq_of_key_eq (List.mem_of_find?_eq_some hx) hm hk]

theorem find_eq_none_iff {s : Store} {k : ObjectKey} :
    s.find k = none ↔ k ∉ s.objects.map Object.key := by
  simp only [find, List.find?_eq_none, beq_iff_eq, List.mem_map, not_exists, not_and]

@[simp] theorem get_of_find_some {s : Store} {k : ObjectKey} {o : Object} (h : s.find k = some o) :
    s.get k = .ok o := by
  simp [get, h]

@[simp] theorem get_of_find_none {s : Store} {k : ObjectKey} (h : s.find k = none) :
    s.get k = .error (.status .notFound) := by
  simp [get, h]

theorem get_eq_ok_iff {s : Store} {k : ObjectKey} {o : Object} : s.get k = .ok o ↔ s.find k = some o := by
  cases hf : s.find k <;> simp [get, hf]

theorem count_eq_one {s : Store} {k : ObjectKey} {o : Object} (h : s.find k = some o) : s.count k = 1 := by
  obtain ⟨hm, rfl⟩ := find_eq_some_iff.1 h
  exact List.count_eq_one_of_mem s.nodup (List.mem_map_of_mem _ hm)

theorem create_eq_ok_iff {s s' : Store} {o : Object} :
    s.create o = .ok s' ↔ s.find o.key = none ∧ s'.objects = s.objects ++ [o] := by
  rw [find_eq_none_iff]
  unfold create
  split
  · simp_all
  · rename_i h
    simp only [Except.ok.injEq, h, not_false_eq_true, true_and]
    exact ⟨fun h => h ▸ rfl, fun h' => Store.ext h'.symm⟩

theorem create_eq_error_iff {s : Store} {o : Object} {e : Error} :
    s.create o = .error e ↔ e = .status .alreadyExists ∧ s.find o.key ≠ none := by
  rw [Ne, find_eq_none_iff, not_not]
  unfold create
  split <;> simp_all [eq_comm]

/-- After a create, `o` is under its key and every other key reads as before. -/
theorem find_create {s s' : Store} {o : Object} (h : s.create o = .ok s') (k : ObjectKey) :
    s'.find k = if o.key = k then some o else s.find k := by
  obtain ⟨hn, hs⟩ := create_eq_ok_iff.1 h
  simp only [find, hs, List.find?_append, List.find?_singleton, beq_iff_eq]
  by_cases hk : o.key = k
  · subst hk
    simp [show s.objects.find? (·.key == o.key) = none from hn]
  · cases s.objects.find? (·.key == k) <;> simp [hk]

theorem patch_eq_ok_iff {s s' : Store} {o : Object} :
    s.patch o = .ok s' ↔ s.find o.key ≠ none ∧ s'.objects = s.patched o := by
  rw [Ne, find_eq_none_iff, not_not]
  unfold patch
  split
  · rename_i h
    simp only [Except.ok.injEq, h, true_and]
    exact ⟨fun h => h ▸ rfl, fun h' => Store.ext h'.symm⟩
  · simp_all

/-- A patch to the fields the live object already has leaves the store as it is. -/
theorem patch_of_find {s : Store} {o x : Object} (hx : s.find o.key = some x) (hf : x.fields = o.fields) :
    s.patch o = .ok s := by
  obtain ⟨hm, hk⟩ := find_eq_some_iff.1 hx
  have hp : s.patched o = s.objects := by
    refine (List.map_congr_left fun y hy => ?_).trans (List.map_id _)
    by_cases hyk : y.key = o.key
    · cases eq_of_key_eq hy hm (hyk.trans hk.symm)
      rw [if_pos hyk, ← hf]
      rfl
    · simp [hyk]
  simp only [patch, List.mem_map.2 ⟨x, hm, hk⟩, ↓reduceIte, Except.ok.injEq]
  exact Store.ext hp

theorem patch_eq_error_iff {s : Store} {o : Object} {e : Error} :
    s.patch o = .error e ↔ e = .status .notFound ∧ s.find o.key = none := by
  rw [find_eq_none_iff]
  unfold patch
  split <;> simp_all [eq_comm]

/-- After a patch, the object under `o.key` has `o`'s fields and every other key reads as before. -/
theorem find_patch {s s' : Store} {o : Object} (h : s.patch o = .ok s') (k : ObjectKey) :
    s'.find k = (s.find k).map fun x => if o.key = k then { x with fields := o.fields } else x := by
  obtain ⟨-, hs⟩ := patch_eq_ok_iff.1 h
  simp only [find, hs, patched, List.find?_map]
  have hp : ((·.key == k) ∘ fun x : Object => if x.key = o.key then { x with fields := o.fields } else x) =
      (·.key == k) := by
    funext x; by_cases hx : x.key = o.key <;> simp [hx]
  rw [hp]
  cases hf : s.objects.find? (·.key == k) with
  | none => rfl
  | some x =>
    have hk : x.key = k := by simpa using List.find?_some hf
    by_cases ho : o.key = k <;> simp [hk, ho, Ne.symm]

end Store

end Kit
