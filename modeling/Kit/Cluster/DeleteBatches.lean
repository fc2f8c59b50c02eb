import Kit.Cluster.Delete

/-!
# The batches of `BatchDelete`

`deleteLoop` fills a batch one key at a time, sends it once it holds
`batchSize` keys, and sends what is left at the end. `windows` is the plain
reading: the listed keys cut into consecutive windows of `batchSize`, every one
full but the last, and `sendBatches` sends them in order, the `k`-th
`DeleteObjects` call with the `k`-th window. The loop is that
(`deleteLoop_batches`).

What the calls leave over an existing bucket is then read off the windows
(`batchDelete_existing`): an object stays exactly when every call that carried
it failed, and the batch error holds one item per key of a failed call, with
that call's error. With a `DeleteBucket` that answers `NoSuchBucket` only for a
bucket that is gone, `Delete` returns `nil` only when it has left nothing, so an
object that no successful call carried makes it fail (`delete_ok_clean`).
-/

namespace Kit.Cluster
set_option autoImplicit false

/-- The keys cut into consecutive windows of `batchSize`, the last one shorter. -/
def windows : List String → List (List String)
  | [] => []
  | k :: ks => (k :: ks).take batchSize :: windows ((k :: ks).drop batchSize)
termination_by keys => keys.length
decreasing_by
  simp only [List.length_drop, List.length_cons, batchSize]
  omega

/-- The windows sent in order, the `k`-th `DeleteObjects` call with the `k`-th window. -/
def sendBatches (name : String) (fails : Nat → Option AwsError) :
    Nat → List (List String) → Option (List String) → List BatchItemError × Option (List String)
  | _, [], b => ([], b)
  | k, w :: ws, b =>
    let r := deleteBatch name (fails k) w b
    let r' := sendBatches name fails (k + 1) ws r.2
    (r.1 ++ r'.1, r'.2)

/-- Whether every call of `calls` (an index and its keys) that carried `o` failed. -/
def unsent (fails : Nat → Option AwsError) (calls : List (Nat × List String)) (o : String) : Bool :=
  calls.all fun p => decide (o ∉ p.2) || (fails p.1).isSome

/-- The items of a batch error over `calls`: one per key of a failed call, with its error. -/
def failedItems (name : String) (fails : Nat → Option AwsError) (calls : List (Nat × List String)) :
    List BatchItemError :=
  calls.flatMap fun p => match fails p.1 with
    | some e => p.2.map fun key => ⟨key, name, e⟩
    | none => []

@[simp] theorem unsent_nil (fails : Nat → Option AwsError) : unsent fails [] = fun _ => true := rfl

theorem unsent_cons (fails : Nat → Option AwsError) (k : Nat) (w : List String) (calls : List (Nat × List String)) :
    unsent fails ((k, w) :: calls) = fun o => (decide (o ∉ w) || (fails k).isSome) && unsent fails calls o := rfl

section Windows

theorem windows_nil : windows [] = [] := by
  rw [windows]

theorem windows_of_ne_nil {keys : List String} (h : keys ≠ []) :
    windows keys = keys.take batchSize :: windows (keys.drop batchSize) := by
  obtain ⟨k, ks, rfl⟩ := List.exists_cons_of_ne_nil h
  rw [windows]

/-- A full batch in front is the first window. -/
theorem windows_full_append {w : List String} (hw : w.length = batchSize) (ks : List String) :
    windows (w ++ ks) = w :: windows ks := by
  have hne : w ≠ [] := List.ne_nil_of_length_pos (by rw [hw]; decide)
  rw [windows_of_ne_nil (List.append_ne_nil_of_left_ne_nil hne ks), List.take_left' hw, List.drop_left' hw]

theorem windows_short {w : List String} (h0 : w ≠ []) (h : w.length ≤ batchSize) : windows w = [w] := by
  rw [windows_of_ne_nil h0, List.take_of_length_le h, List.drop_of_length_le h, windows_nil]

theorem flatten_windows (keys : List String) : (windows keys).flatten = keys := by
  induction keys using windows.induct with
  | case1 => rw [windows_nil]; rfl
  | case2 k ks ih => rw [windows, List.flatten_cons, ih, List.take_append_drop]

theorem windows_length (keys : List String) : ∀ w ∈ windows keys, 0 < w.length ∧ w.length ≤ batchSize := by
  induction keys using windows.induct with
  | case1 => simp [windows_nil]
  | case2 k ks ih =>
    rw [windows]
    rintro w (_ | ⟨_, hw⟩)
    · simp only [List.length_take, List.length_cons, batchSize]
      omega
    · exact ih w hw

/-- Every window but the last is full. -/
theorem windows_dropLast (keys : List String) : ∀ w ∈ (windows keys).dropLast, w.length = batchSize := by
  induction keys using windows.induct with
  | case1 => simp [windows_nil]
  | case2 k ks ih =>
    rw [windows]
    by_cases hd : (k :: ks).drop batchSize = []
    · simp [hd, windows_nil]
    · have hlong := List.drop_eq_nil_iff.not.1 hd
      rw [windows_of_ne_nil hd] at ih ⊢
      rw [List.dropLast_cons₂]
      rintro w (_ | ⟨_, hw⟩)
      · simp only [List.length_take, batchSize] at hlong ⊢
        omega
      · exact ih w hw

end Windows

section Loop

variable (name : String) (fails : Nat → Option AwsError)

/-- The loop with a partial batch `cur` in hand sends the windows of `cur ++ ks`. -/
theorem deleteLoop_eq_sendBatches : ∀ (k : Nat) (cur ks : List String) (b : Option (List String)),
    cur.length < batchSize → deleteLoop name fails k cur ks b = sendBatches name fails k (windows (cur ++ ks)) b
  | k, cur, [], b, hc => by
    rw [List.append_nil]
    by_cases h0 : cur = []
    · subst h0
      simp [deleteLoop, windows_nil, sendBatches]
    · simp [deleteLoop, h0, windows_short h0 hc.le, sendBatches]
  | k, cur, o :: os, b, hc => by
    unfold deleteLoop
    split
    · rename_i hfull
      dsimp only
      rw [List.append_cons cur o os, windows_full_append hfull, sendBatches,
        deleteLoop_eq_sendBatches (k + 1) [] os _ (by decide), List.nil_append]
    · rename_i hnot
      have hlt : (cur ++ [o]).length < batchSize := by
        simp only [List.length_append, List.length_singleton] at hnot hc ⊢
        omega
      rw [deleteLoop_eq_sendBatches k (cur ++ [o]) os b hlt, List.append_assoc, List.singleton_append]

/-- Sending windows to an existing bucket: the items of the failed calls, and the
objects no successful call carried. -/
theorem sendBatches_existing : ∀ (k : Nat) (ws : List (List String)) (objs : List String),
    sendBatches name fails k ws (some objs) =
      (failedItems name fails (ws.enumFrom k), some (objs.filter (unsent fails (ws.enumFrom k))))
  | k, [], objs => by simp [sendBatches, failedItems]
  | k, w :: ws, objs => by
    rw [List.enumFrom_cons, unsent_cons]
    cases hf : fails k with
    | some e => simp [sendBatches, deleteBatch, hf, sendBatches_existing (k + 1) ws objs, failedItems]
    | none =>
      simp only [sendBatches, deleteBatch, hf, sendBatches_existing (k + 1) ws, failedItems, List.flatMap_cons,
        List.nil_append, List.filter_filter, Option.isSome_none, Bool.or_false]
      exact congrArg _ (congrArg some (List.filter_congr fun _ _ => Bool.and_comm _ _))

end Loop

/-- **The batches.** `BatchDelete`'s loop, which fills a batch key by key, sends
the listed keys as the plain reading says: in consecutive windows, each of at
least one and at most `batchSize` keys and every one full but the last, the
`k`-th `DeleteObjects` call with the `k`-th window. -/
theorem deleteLoop_batches (name : String) (fails : Nat → Option AwsError) (keys : List String)
    (b : Option (List String)) :
    deleteLoop name fails 0 [] keys b = sendBatches name fails 0 (windows keys) b ∧
      (windows keys).flatten = keys ∧ (∀ w ∈ windows keys, 0 < w.length ∧ w.length ≤ batchSize) ∧
      ∀ w ∈ (windows keys).dropLast, w.length = batchSize :=
  ⟨deleteLoop_eq_sendBatches name fails 0 [] keys b (by decide), flatten_windows keys, windows_length keys,
    windows_dropLast keys⟩

/-- **What the calls leave.** Over an existing bucket whose listing succeeds,
with each `DeleteObjects` call failing as a whole or deleting all its keys: an
object stays exactly when every call that carried it failed, and `BatchDelete`
returns `nil` or the batch error whose items are the keys of the failed calls in
order, each with its call's error. -/
theorem batchDelete_existing {name : String} {f : Faults} (hl : f.listObjects = none) (objs : List String) :
    batchDelete name f (some objs) =
      (if failedItems name f.deleteObjects (windows objs).enum = [] then none
        else some (failedItems name f.deleteObjects (windows objs).enum),
        some (objs.filter (unsent f.deleteObjects (windows objs).enum))) := by
  simp only [batchDelete, hl, deleteLoop_eq_sendBatches name f.deleteObjects 0 [] objs _ (by decide),
    List.nil_append, sendBatches_existing, List.enum]

/-- The first `DeleteObjects` call is throttled; every other call succeeds. -/
def slowDownFaults : Faults :=
  { quietFaults with deleteObjects := fun k => if k = 0 then some ⟨"SlowDown", "Please reduce your request rate."⟩ else none }

theorem batchDelete_existing_slowDown :
    slowDownFaults.listObjects = none ∧
      batchDelete "demo" slowDownFaults (some ["kubeconfig"]) =
        (if failedItems "demo" slowDownFaults.deleteObjects (windows ["kubeconfig"]).enum = [] then none
          else some (failedItems "demo" slowDownFaults.deleteObjects (windows ["kubeconfig"]).enum),
          some (["kubeconfig"].filter (unsent slowDownFaults.deleteObjects (windows ["kubeconfig"]).enum))) :=
  ⟨rfl, batchDelete_existing rfl _⟩

section Outcome

variable {name : String} {f : Faults} {t : Teardown}

theorem runSteps_cons_of_ok {s : Teardown → Except Error Unit × Teardown}
    {ss : List (Teardown → Except Error Unit × Teardown)} (h : (runSteps (s :: ss) t).1 = .ok ()) :
    (s t).1 = .ok () ∧ runSteps (s :: ss) t = runSteps ss (s t).2 := by
  rcases hs : s t with ⟨_ | _, t'⟩ <;> simp [runSteps, hs] at h ⊢

/-- A `Delete` that returns `nil` went through its three steps. -/
theorem delete_steps_of_ok (h : (delete name f t).1 = .ok ()) :
    (deleteObjectsStep name f t).1 = .ok () ∧ (deleteBucketStep f (deleteObjectsStep name f t).2).1 = .ok () ∧
      (removeAllStep f (deleteBucketStep f (deleteObjectsStep name f t).2).2).1 = .ok () ∧
      (delete name f t).2 = (removeAllStep f (deleteBucketStep f (deleteObjectsStep name f t).2).2).2 := by
  obtain ⟨h₁, e₁⟩ := runSteps_cons_of_ok h
  rw [delete, deleteSteps, e₁] at h ⊢
  obtain ⟨h₂, e₂⟩ := runSteps_cons_of_ok h
  rw [e₂] at h ⊢
  obtain ⟨h₃, e₃⟩ := runSteps_cons_of_ok h
  exact ⟨h₁, h₂, h₃, by rw [e₃]; rfl⟩

theorem removeAllStep_of_ok (h : (removeAllStep f t).1 = .ok ()) : (removeAllStep f t).2 = { t with staging := false } := by
  rcases t with ⟨b, _ | _⟩ <;> cases hr : f.removeAll <;> simp_all [removeAllStep]

/-- With an honest `DeleteBucket`, the bucket step succeeds only on a missing or
empty bucket, and leaves none. -/
theorem deleteBucketStep_of_ok (hb : ∀ e, f.deleteBucket = some e → e.code ≠ noSuchBucket.code)
    (h : (deleteBucketStep f t).1 = .ok ()) : (t.bucket = none ∨ t.bucket = some []) ∧ (deleteBucketStep f t).2.bucket = none := by
  rcases t with ⟨_ | _ | ⟨o, os⟩, st⟩ <;> cases hf : f.deleteBucket <;>
    simp_all [deleteBucketStep, deleteBucketCall, noSuchBucket, bucketNotEmpty]

end Outcome

/-- **`nil` means nothing is left.** When `DeleteBucket` answers `NoSuchBucket`
only for a bucket that is gone, a `Delete` from any state that returns `nil`
leaves neither bucket nor staging directory, whatever the other calls did; so a
listed object that no successful `DeleteObjects` call carried makes `Delete`
return an error, whichever step reports it. -/
theorem delete_ok_clean {name : String} {f : Faults} {t : Teardown}
    (hb : ∀ e, f.deleteBucket = some e → e.code ≠ noSuchBucket.code) :
    ((delete name f t).1 = .ok () → (delete name f t).2 = Teardown.clean) ∧
      ∀ objs o, f.listObjects = none → t.bucket = some objs → o ∈ objs →
        unsent f.deleteObjects (windows objs).enum o = true → ∃ e, (delete name f t).1 = .error e := by
  refine ⟨fun h => ?_, fun objs o hl ht ho hu => ?_⟩
  · obtain ⟨-, h₂, h₃, e⟩ := delete_steps_of_ok h
    rw [e, removeAllStep_of_ok h₃]
    simp only [Teardown.clean, (deleteBucketStep_of_ok hb h₂).2]
  · rcases hd : (delete name f t).1 with ⟨e⟩ | ⟨⟩
    · exact ⟨e, rfl⟩
    · have hleft := (deleteBucketStep_of_ok hb (delete_steps_of_ok hd).2.1).1
      simp only [deleteObjectsStep_state, ht, batchDelete, hl, List.nil_append, sendBatches_existing,
        deleteLoop_eq_sendBatches name f.deleteObjects 0 [] objs _ (by decide)] at hleft
      have hmem : o ∈ objs.filter (unsent f.deleteObjects ((windows objs).enumFrom 0)) := List.mem_filter.2 ⟨ho, hu⟩
      rcases hleft with h | h <;> simp only [Option.some.injEq, reduceCtorEq] at h
      rw [h] at hmem
      cases hmem

theorem delete_ok_clean_slowDown :
    (∀ e, slowDownFaults.deleteBucket = some e → e.code ≠ noSuchBucket.code) ∧
      ((delete "demo" slowDownFaults ⟨some ["kubeconfig"], true⟩).1 = .ok () →
          (delete "demo" slowDownFaults ⟨some ["kubeconfig"], true⟩).2 = Teardown.clean) ∧
        ∀ objs o, slowDownFaults.listObjects = none → (⟨some ["kubeconfig"], true⟩ : Teardown).bucket = some objs →
          o ∈ objs → unsent slowDownFaults.deleteObjects (windows objs).enum o = true →
            ∃ e, (delete "demo" slowDownFaults ⟨some ["kubeconfig"], true⟩).1 = .error e :=
  have hb : ∀ e, slowDownFaults.deleteBucket = some e → e.code ≠ noSuchBucket.code := fun _ h => nomatch h
  ⟨hb, delete_ok_clean hb⟩

end Kit.Cluster
