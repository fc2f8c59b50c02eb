import Kit.Store.Object
import Mathlib.Data.List.Infix

/-!
# Tearing down the cluster configuration (`Config.Delete`)

`Config.Delete` deletes every object of the substrate's bucket with
`s3manager.BatchDelete` over `s3manager.NewDeleteListIterator`, then the bucket,
then the local staging directory with `os.RemoveAll`. A batch-delete error whose
text contains `NoSuchBucket` and a `DeleteBucket` error of code `NoSuchBucket`
are absorbed; the error of `os.RemoveAll` is the one `Delete` returns.

S3 keeps the bucket as the list of its object keys, or nothing, and answers from
that: `NoSuchBucket` for an absent bucket, `BucketNotEmpty` when deleting a
bucket that holds objects. Any S3 call may besides fail with an error of the
environment (`Faults`), and `os.RemoveAll` of an existing directory may fail.
`BatchDelete` is the SDK's loop: list the keys, send them in `DeleteObjects`
batches of `batchSize`, and collect one `s3manager.Error` per key that failed.

An invocation is three steps and a crash may stop it after any of them; every
state of bucket and directory is one that some such run leaves, so the results
are stated from any state (`delete_of_s3Clean`) and then over runs. Over any run,
whatever the failures, teardown only removes (`delete_runs_never_create`), and
no error `Delete` returns is one `ErrNoSuchBucket` recognises
(`delete_not_errNoSuchBucket`).
-/

namespace Kit.Cluster
set_option autoImplicit false

/-- An `awserr.Error`: its code and its message. -/
structure AwsError where
  code : String
  message : String
deriving DecidableEq, Repr

namespace AwsError

/-- `Error()`: `awserr.SprintError` of an error with no extra and no cause. -/
def text (e : AwsError) : String := e.code ++ ": " ++ e.message

/-- The error as the caller holds it. -/
def toError (e : AwsError) : Error := .aws e.code e.message

end AwsError

/-- S3's answer for a bucket that does not exist (`s3.ErrCodeNoSuchBucket`). -/
def noSuchBucket : AwsError := ⟨"NoSuchBucket", "The specified bucket does not exist"⟩

/-- S3's answer to deleting a bucket that still holds objects. -/
def bucketNotEmpty : AwsError := ⟨"BucketNotEmpty", "The bucket you tried to delete is not empty"⟩

/-- `s3manager.DefaultBatchSize`, the keys of one `DeleteObjects` call. -/
def batchSize : Nat := 100

/-- `strings.Contains`. -/
def strContains (s substr : String) : Bool := decide (List.IsInfix substr.data s.data)

/-- What `Delete` works on: the object keys of the substrate's bucket, if the
bucket exists, and whether the staging directory exists. -/
structure Teardown where
  bucket : Option (List String)
  staging : Bool
deriving DecidableEq, Repr

/-- The failures of the environment in one invocation: of the listing, of the
`k`-th `DeleteObjects` call, of `DeleteBucket`, and of `os.RemoveAll` on the
existing staging directory (the text of its `*os.PathError`). -/
structure Faults where
  listObjects : Option AwsError
  deleteObjects : Nat → Option AwsError
  deleteBucket : Option AwsError
  removeAll : Option String

/-- No S3 call of the invocation fails but as S3 answers from its state. -/
def Faults.S3Clean (f : Faults) : Prop :=
  f.listObjects = none ∧ (∀ k, f.deleteObjects k = none) ∧ f.deleteBucket = none

/-- `s3manager.Error`: the key and bucket of a failed operation, and its cause. -/
structure BatchItemError where
  key : String
  bucket : String
  origErr : AwsError
deriving DecidableEq, Repr

/-- `(*s3manager.Error).Error`. -/
def BatchItemError.text (e : BatchItemError) : String :=
  "failed to perform batch operation on \"" ++ e.key ++ "\" to \"" ++ e.bucket ++ "\":\n" ++ e.origErr.text

/-- `s3manager.Errors.Error`: the errors one per line. -/
def errorsText : List BatchItemError → String
  | [] => ""
  | [e] => e.text
  | e :: e' :: es => e.text ++ "\n" ++ errorsText (e' :: es)

/-- `Error()` of the `BatchedDeleteIncomplete` batch error holding `errs`. -/
def batchDeleteText (errs : List BatchItemError) : String :=
  "BatchedDeleteIncomplete: some objects have failed to be deleted.\ncaused by: " ++ errorsText errs

/-- `deleteBatch`: one `DeleteObjects` call for `keys`, failing with `fail` if set;
a failed call yields an error for each of its keys. A call fails as a whole or
deletes all its keys: the per-key errors a successful response may list are not
modelled. -/
def deleteBatch (name : String) (fail : Option AwsError) (keys : List String) (b : Option (List String)) :
    List BatchItemError × Option (List String) :=
  match fail, b with
  | some e, b => (keys.map fun k => ⟨k, name, e⟩, b)
  | none, none => (keys.map fun k => ⟨k, name, noSuchBucket⟩, none)
  | none, some objs => ([], some (objs.filter fun o => o ∉ keys))

/-- The loop of `BatchDelete.Delete` over the listed keys: `cur` is the batch
being filled, sent when it reaches `batchSize` and at the end; `k` counts the
`DeleteObjects` calls. -/
def deleteLoop (name : String) (fails : Nat → Option AwsError) :
    Nat → List String → List String → Option (List String) → List BatchItemError × Option (List String)
  | k, cur, [], b => if cur = [] then ([], b) else deleteBatch name (fails k) cur b
  | k, cur, o :: os, b =>
    if (cur ++ [o]).length = batchSize then
      let r := deleteBatch name (fails k) (cur ++ [o]) b
      let r' := deleteLoop name fails (k + 1) [] os r.2
      (r.1 ++ r'.1, r'.2)
    else deleteLoop name fails k (cur ++ [o]) os b

/-- `BatchDelete.Delete` over `NewDeleteListIterator`: the errors of the batch
error it returns, `none` for `nil`. A failed listing is one error with no key. -/
def batchDelete (name : String) (f : Faults) (b : Option (List String)) :
    Option (List BatchItemError) × Option (List String) :=
  let listed : Except AwsError (List String) :=
    match f.listObjects, b with
    | some e, _ => .error e
    | none, none => .error noSuchBucket
    | none, some objs => .ok objs
  match listed with
  | .error e => (some [⟨"", "", e⟩], b)
  | .ok keys =>
    let r := deleteLoop name f.deleteObjects 0 [] keys b
    (if r.1 = [] then none else some r.1, r.2)

/-- `DeleteBucketWithContext`. -/
def deleteBucketCall (fail : Option AwsError) (b : Option (List String)) : Option AwsError × Option (List String) :=
  match fail, b with
  | some e, b => (some e, b)
  | none, none => (some noSuchBucket, none)
  | none, some [] => (none, none)
  | none, some (o :: os) => (some bucketNotEmpty, some (o :: os))

/-- The first step of `Delete`: the objects. -/
def deleteObjectsStep (name : String) (f : Faults) (t : Teardown) : Except Error Unit × Teardown :=
  match batchDelete name f t.bucket with
  | (some errs, b) =>
    if !strContains (batchDeleteText errs) "NoSuchBucket" then
      (.error (.text ("deleting objects from bucket " ++ batchDeleteText errs)), { t with bucket := b })
    else (.ok (), { t with bucket := b })
  | (none, b) => (.ok (), { t with bucket := b })

/-- The second step of `Delete`: the bucket. -/
def deleteBucketStep (f : Faults) (t : Teardown) : Except Error Unit × Teardown :=
  match deleteBucketCall f.deleteBucket t.bucket with
  | (some e, b) =>
    if e.code ≠ "NoSuchBucket" then (.error (.wrap "deleting S3, " e.toError), { t with bucket := b })
    else (.ok (), { t with bucket := b })
  | (none, b) => (.ok (), { t with bucket := b })

/-- The last step of `Delete`: `os.RemoveAll` of the staging directory, which
returns `nil` when there is nothing to remove. -/
def removeAllStep (f : Faults) (t : Teardown) : Except Error Unit × Teardown :=
  if t.staging then
    match f.removeAll with
    | some e => (.error (.text e), t)
    | none => (.ok (), { t with staging := false })
  else (.ok (), t)

/-- Steps run in order, returning at the first error. -/
def runSteps : List (Teardown → Except Error Unit × Teardown) → Teardown → Except Error Unit × Teardown
  | [], t => (.ok (), t)
  | s :: ss, t =>
    match s t with
    | (.error e, t') => (.error e, t')
    | (.ok (), t') => runSteps ss t'

/-- The steps of `Delete`, in order. -/
def deleteSteps (name : String) (f : Faults) : List (Teardown → Except Error Unit × Teardown) :=
  [deleteObjectsStep name f, deleteBucketStep f, removeAllStep f]

/-- `Config.Delete` for the bucket `name`: what it returns and what it leaves. -/
def delete (name : String) (f : Faults) (t : Teardown) : Except Error Unit × Teardown :=
  runSteps (deleteSteps name f) t

/-- One invocation of a run: its faults, and the step after which a crash
stops it, if one does. -/
structure Attempt where
  faults : Faults
  crash : Option Nat

/-- What an invocation returns, `none` when it crashed, and the state it leaves. -/
def Attempt.exec (name : String) (a : Attempt) (t : Teardown) : Option (Except Error Unit) × Teardown :=
  match a.crash with
  | some n => (none, (runSteps ((deleteSteps name a.faults).take n) t).2)
  | none => ((delete name a.faults t).1, (delete name a.faults t).2)

/-- The state after a run of invocations. -/
def runState (name : String) : List Attempt → Teardown → Teardown
  | [], t => t
  | a :: as, t => runState name as (a.exec name t).2

/-- Nothing left: no bucket and no staging directory. -/
def Teardown.clean : Teardown := ⟨none, false⟩

/-- `ErrNoSuchBucket`. -/
def errNoSuchBucket (err : Option Error) : Bool :=
  match err with
  | some e => e.awsCode == some "NoSuchBucket"
  | none => false

/-- The bucket `b'` holds nothing `b` did not: no bucket where `b` had none,
and only keys of `b` otherwise. -/
def BucketWithin (b' b : Option (List String)) : Prop :=
  ∀ objs', b' = some objs' → ∃ objs, b = some objs ∧ objs' ⊆ objs

/-- `t'` holds nothing `t` did not. -/
def Teardown.Within (t' t : Teardown) : Prop :=
  BucketWithin t'.bucket t.bucket ∧ (t'.staging = true → t.staging = true)

section Text

theorem infix_errorsText {e : BatchItemError} :
    ∀ {es : List BatchItemError}, e ∈ es → List.IsInfix e.text.data (errorsText es).data
  | [], h => absurd h (List.not_mem_nil e)
  | [x], h => by
    rw [List.mem_singleton.1 h, errorsText]
  | x :: y :: es, h => by
    rw [errorsText, String.data_append, String.data_append]
    rcases List.mem_cons.1 h with rfl | h
    · exact ((List.prefix_append _ _).trans (List.prefix_append _ _)).isInfix
    · exact (infix_errorsText h).trans (List.suffix_append _ _).isInfix

/-- An error caused by `NoSuchBucket` makes the whole batch error say so. -/
theorem strContains_batchDeleteText {errs : List BatchItemError} {e : BatchItemError}
    (he : e ∈ errs) (hc : e.origErr.code = "NoSuchBucket") :
    strContains (batchDeleteText errs) "NoSuchBucket" = true := by
  have hcode : List.IsInfix e.origErr.code.data e.origErr.text.data := by
    rw [AwsError.text, String.data_append, String.data_append]
    exact ((List.prefix_append _ _).trans (List.prefix_append _ _)).isInfix
  have horig : List.IsInfix e.origErr.text.data e.text.data := by
    rw [BatchItemError.text, String.data_append]
    exact (List.suffix_append _ _).isInfix
  rw [strContains, decide_eq_true_iff, batchDeleteText, String.data_append, ← hc]
  exact ((hcode.trans horig).trans (infix_errorsText he)).trans (List.suffix_append _ _).isInfix

end Text

section Clean

variable {name : String} {f : Faults}

/-- The loop with no `DeleteObjects` failure removes every key it was given. -/
theorem deleteLoop_clean (hf : ∀ k, f.deleteObjects k = none) :
    ∀ (k : Nat) (cur ks objs : List String),
      deleteLoop name f.deleteObjects k cur ks (some objs) = ([], some (objs.filter fun o => o ∉ cur ++ ks))
  | k, cur, [], objs => by
    by_cases hc : cur = []
    · simp [deleteLoop, hc]
    · simp [deleteLoop, hc, deleteBatch, hf]
  | k, cur, o :: os, objs => by
    unfold deleteLoop
    split
    · simp only [deleteBatch, hf, deleteLoop_clean hf, List.filter_filter, List.nil_append, List.append_nil]
      refine congrArg _ (congrArg some (List.filter_congr fun a _ => ?_))
      rw [← Bool.decide_and, decide_eq_decide]
      simp only [List.mem_append, List.mem_cons, List.mem_singleton, List.not_mem_nil, or_false]
      tauto
    · rw [deleteLoop_clean hf]
      simp

theorem batchDelete_clean (hf : f.S3Clean) (b : Option (List String)) :
    batchDelete name f b = match b with
      | none => (some [⟨"", "", noSuchBucket⟩], none)
      | some _ => (none, some []) := by
  obtain ⟨hl, hd, -⟩ := hf
  cases b with
  | none => simp [batchDelete, hl]
  | some objs => simp [batchDelete, hl, deleteLoop_clean hd]

/-- With no S3 failure the first step empties the bucket, if there is one. -/
theorem deleteObjectsStep_clean (hf : f.S3Clean) (t : Teardown) :
    deleteObjectsStep name f t = (.ok (), { t with bucket := t.bucket.map fun _ => [] }) := by
  have hc := @strContains_batchDeleteText [⟨"", "", noSuchBucket⟩] ⟨"", "", noSuchBucket⟩ (by simp) rfl
  cases hb : t.bucket <;> simp [deleteObjectsStep, batchDelete_clean hf, hb, hc]

theorem deleteBucketStep_empty (hf : f.deleteBucket = none) (t : Teardown) {b : Option (List String)}
    (hb : b = none ∨ b = some []) : deleteBucketStep f { t with bucket := b } = (.ok (), { t with bucket := none }) := by
  rcases hb with hb | hb <;> simp [deleteBucketStep, deleteBucketCall, hf, hb, noSuchBucket]

theorem removeAllStep_ok (hr : f.removeAll = none) (t : Teardown) :
    removeAllStep f t = (.ok (), { t with staging := false }) := by
  cases t with
  | mk b s => cases s <;> simp [removeAllStep, hr]

/-- From any state, a `Delete` whose S3 calls fail only as S3 answers, and whose
`os.RemoveAll` does not fail, returns `nil` and leaves nothing. -/
theorem delete_of_s3Clean (hf : f.S3Clean) (hr : f.removeAll = none) (t : Teardown) :
    delete name f t = (.ok (), Teardown.clean) := by
  have hb : (t.bucket.map fun _ => ([] : List String)) = none ∨ (t.bucket.map fun _ => ([] : List String)) = some [] := by
    cases t.bucket <;> simp
  simp only [delete, deleteSteps, runSteps, deleteObjectsStep_clean hf, deleteBucketStep_empty hf.2.2 t hb,
    removeAllStep_ok hr]
  rfl

/-- From the clean state, a `Delete` with no S3 failure returns `nil` and
changes nothing, whatever `os.RemoveAll` would do. -/
theorem delete_clean_of_s3Clean (hf : f.S3Clean) : delete name f Teardown.clean = (.ok (), Teardown.clean) := by
  have h₂ := deleteBucketStep_empty hf.2.2 Teardown.clean (Or.inl rfl)
  simp only [delete, deleteSteps, runSteps, deleteObjectsStep_clean hf]
  simp [Teardown.clean, removeAllStep] at h₂ ⊢
  simp [h₂]

end Clean

section Within

variable {name : String} {f : Faults}

theorem BucketWithin.refl (b : Option (List String)) : BucketWithin b b :=
  fun objs h => ⟨objs, h, List.Subset.refl objs⟩

theorem BucketWithin.trans {b₁ b₂ b₃ : Option (List String)} (h₁ : BucketWithin b₁ b₂) (h₂ : BucketWithin b₂ b₃) :
    BucketWithin b₁ b₃ := fun objs h => by
  obtain ⟨objs₂, h₂', hs₂⟩ := h₁ objs h
  obtain ⟨objs₃, h₃, hs₃⟩ := h₂ objs₂ h₂'
  exact ⟨objs₃, h₃, hs₂.trans hs₃⟩

theorem BucketWithin.of_none (b : Option (List String)) : BucketWithin none b := fun _ h => nomatch h

theorem Teardown.Within.refl (t : Teardown) : t.Within t := ⟨BucketWithin.refl _, id⟩

theorem Teardown.Within.trans {t₁ t₂ t₃ : Teardown} (h₁ : t₁.Within t₂) (h₂ : t₂.Within t₃) : t₁.Within t₃ :=
  ⟨h₁.1.trans h₂.1, h₂.2 ∘ h₁.2⟩

/-- Only the clean state holds nothing the clean state does not. -/
theorem Teardown.Within.eq_clean {t : Teardown} (h : t.Within Teardown.clean) : t = Teardown.clean := by
  obtain ⟨hb, hs⟩ := h
  cases t with
  | mk b st =>
    cases b with
    | some objs => obtain ⟨_, h', -⟩ := hb objs rfl; cases h'
    | none =>
      cases st with
      | false => rfl
      | true => cases hs rfl

theorem deleteBatch_within (fail : Option AwsError) (keys : List String) (b : Option (List String)) :
    BucketWithin (deleteBatch name fail keys b).2 b := by
  unfold deleteBatch
  split
  · exact BucketWithin.refl _
  · exact BucketWithin.of_none _
  · rintro _ ⟨⟩
    exact ⟨_, rfl, List.filter_subset' _⟩

theorem deleteLoop_within (fails : Nat → Option AwsError) :
    ∀ (k : Nat) (cur ks : List String) (b : Option (List String)), BucketWithin (deleteLoop name fails k cur ks b).2 b
  | k, cur, [], b => by
    unfold deleteLoop
    split
    · exact BucketWithin.refl _
    · exact deleteBatch_within _ _ _
  | k, cur, o :: os, b => by
    unfold deleteLoop
    split
    · exact (deleteLoop_within fails _ _ _ _).trans (deleteBatch_within _ _ _)
    · exact deleteLoop_within fails _ _ _ _

theorem batchDelete_within (b : Option (List String)) : BucketWithin (batchDelete name f b).2 b := by
  cases hl : f.listObjects <;> cases b <;> simp only [batchDelete, hl]
  · exact BucketWithin.refl _
  · exact deleteLoop_within _ _ _ _ _
  · exact BucketWithin.refl _
  · exact BucketWithin.refl _

/-- The first step touches only the bucket. -/
theorem deleteObjectsStep_state (t : Teardown) :
    (deleteObjectsStep name f t).2 = { t with bucket := (batchDelete name f t.bucket).2 } := by
  unfold deleteObjectsStep
  rcases batchDelete name f t.bucket with ⟨_ | errs, b⟩
  · rfl
  · dsimp only
    split <;> rfl

/-- The second step touches only the bucket. -/
theorem deleteBucketStep_state (t : Teardown) :
    (deleteBucketStep f t).2 = { t with bucket := (deleteBucketCall f.deleteBucket t.bucket).2 } := by
  unfold deleteBucketStep
  rcases deleteBucketCall f.deleteBucket t.bucket with ⟨_ | e, b⟩
  · rfl
  · dsimp only
    split <;> rfl

theorem deleteObjectsStep_within (t : Teardown) : (deleteObjectsStep name f t).2.Within t := by
  rw [deleteObjectsStep_state]
  exact ⟨batchDelete_within _, id⟩

theorem deleteBucketStep_within (t : Teardown) : (deleteBucketStep f t).2.Within t := by
  rw [deleteBucketStep_state]
  refine ⟨?_, id⟩
  generalize t.bucket = b
  unfold deleteBucketCall
  split
  · exact BucketWithin.refl _
  · exact BucketWithin.of_none _
  · exact BucketWithin.of_none _
  · exact BucketWithin.refl _

theorem removeAllStep_within (t : Teardown) : (removeAllStep f t).2.Within t := by
  unfold removeAllStep
  split
  · split
    · exact Teardown.Within.refl t
    · exact ⟨BucketWithin.refl _, fun h => nomatch h⟩
  · exact Teardown.Within.refl t

theorem runSteps_within {ss : List (Teardown → Except Error Unit × Teardown)}
    (hs : ∀ s ∈ ss, ∀ t, (s t).2.Within t) (t : Teardown) : (runSteps ss t).2.Within t := by
  induction ss generalizing t with
  | nil => exact Teardown.Within.refl t
  | cons s ss ih =>
    have h₁ := hs s (List.mem_cons_self _ _) t
    unfold runSteps
    split <;> rename_i h <;> rw [h] at h₁
    · exact h₁
    · exact (ih (fun s' hs' => hs s' (List.mem_cons_of_mem _ hs')) _).trans h₁

theorem deleteSteps_within : ∀ s ∈ deleteSteps name f, ∀ t, (s t).2.Within t := by
  simp only [deleteSteps, List.mem_cons, List.mem_singleton, List.not_mem_nil, or_false]
  rintro s (rfl | rfl | rfl)
  · exact deleteObjectsStep_within
  · exact deleteBucketStep_within
  · exact removeAllStep_within

/-- Whatever its failures and wherever a crash stops it, an invocation creates
no bucket, no object and no directory. -/
theorem exec_within (a : Attempt) (t : Teardown) : (a.exec name t).2.Within t := by
  unfold Attempt.exec
  split
  · exact runSteps_within (fun s hs => deleteSteps_within s (List.mem_of_mem_take hs)) t
  · exact runSteps_within deleteSteps_within t

theorem runState_within : ∀ (run : List Attempt) (t : Teardown), (runState name run t).Within t
  | [], t => Teardown.Within.refl t
  | a :: as, t => (runState_within as _).trans (exec_within a t)

end Within

/-- **Teardown after any run.** Whatever the run of earlier invocations, each
possibly crashed after any step and each with any failures, the next `Delete`
whose S3 calls fail only as S3 answers and whose `os.RemoveAll` succeeds returns
`nil` and leaves neither bucket nor staging directory; a further `Delete` with no
S3 failure then returns `nil` and changes nothing. -/
theorem delete_after_any_run (name : String) (run : List Attempt) (t₀ : Teardown) {f g : Faults}
    (hf : f.S3Clean) (hr : f.removeAll = none) (hg : g.S3Clean) :
    delete name f (runState name run t₀) = (.ok (), Teardown.clean) ∧
      delete name g Teardown.clean = (.ok (), Teardown.clean) :=
  ⟨delete_of_s3Clean hf hr _, delete_clean_of_s3Clean hg⟩

/-- **Teardown only removes.** No run of `Delete` invocations, whatever their
failures and wherever crashes stop them, creates the bucket, adds an object to
it or creates the staging directory; so from the clean state every run stays
there. -/
theorem delete_runs_never_create (name : String) (run : List Attempt) (t₀ : Teardown) :
    (runState name run t₀).Within t₀ ∧ runState name run Teardown.clean = Teardown.clean :=
  ⟨runState_within run t₀, (runState_within run _).eq_clean⟩

/-- No failure at all. -/
def quietFaults : Faults := ⟨none, fun _ => none, none, none⟩

/-- An earlier invocation that failed to list the bucket and crashed after its first step. -/
def demoRun : List Attempt := [⟨{ quietFaults with listObjects := some ⟨"SlowDown", "Please reduce your request rate."⟩ }, some 1⟩]

theorem delete_after_any_run_demo :
    quietFaults.S3Clean ∧ quietFaults.removeAll = none ∧
      delete "demo" quietFaults (runState "demo" demoRun ⟨some ["kubeconfig", "etc/kubernetes/pki/ca.crt"], true⟩) =
        (.ok (), Teardown.clean) ∧
      delete "demo" quietFaults Teardown.clean = (.ok (), Teardown.clean) :=
  have hq : quietFaults.S3Clean := ⟨rfl, fun _ => rfl, rfl⟩
  ⟨hq, rfl, delete_after_any_run "demo" demoRun _ hq rfl hq⟩

/-- No S3 failure, and a staging directory that `os.RemoveAll` cannot remove. -/
def demoFaults : Faults := ⟨none, fun _ => none, none, some "unlinkat /tmp/demo/etc: permission denied"⟩

/-- With the bucket already gone and every S3 call answering as S3 does, `Delete`
fails with the error of `os.RemoveAll`, and the directory stays. -/
theorem delete_fails_on_removeAll :
    demoFaults.S3Clean ∧
      delete "demo" demoFaults ⟨none, true⟩ = (.error (.text "unlinkat /tmp/demo/etc: permission denied"), ⟨none, true⟩) := by
  have hf : demoFaults.S3Clean := ⟨rfl, fun _ => rfl, rfl⟩
  refine ⟨hf, ?_⟩
  simp only [delete, deleteSteps, runSteps, deleteObjectsStep_clean hf]
  simp [deleteBucketStep, deleteBucketCall, demoFaults, noSuchBucket, removeAllStep]

section Surfaced

variable {name : String} {f : Faults} {e : Error}

theorem runSteps_error {ss : List (Teardown → Except Error Unit × Teardown)} {t : Teardown}
    (h : (runSteps ss t).1 = .error e) : ∃ s ∈ ss, ∃ t', (s t').1 = .error e := by
  induction ss generalizing t with
  | nil => cases h
  | cons s ss ih =>
    unfold runSteps at h
    split at h
    · rename_i e' t' hs
      exact ⟨s, List.mem_cons_self _ _, t, by rw [hs]; exact h⟩
    · obtain ⟨s', hs', t'', h'⟩ := ih h
      exact ⟨s', List.mem_cons_of_mem _ hs', t'', h'⟩

theorem deleteObjectsStep_error {t : Teardown} (h : (deleteObjectsStep name f t).1 = .error e) : e.awsCode = none := by
  unfold deleteObjectsStep at h
  split at h
  · split at h
    · cases h; rfl
    · cases h
  · cases h

theorem deleteBucketStep_error {t : Teardown} (h : (deleteBucketStep f t).1 = .error e) :
    e.awsCode ≠ some "NoSuchBucket" := by
  unfold deleteBucketStep at h
  split at h
  · split at h
    · rename_i hc
      cases h
      simpa [AwsError.toError, Error.awsCode] using hc
    · cases h
  · cases h

theorem removeAllStep_error {t : Teardown} (h : (removeAllStep f t).1 = .error e) : e.awsCode = none := by
  unfold removeAllStep at h
  split at h
  · split at h
    · cases h; rfl
    · cases h
  · cases h

/-- **`NoSuchBucket` is never surfaced.** Whatever the state and the failures,
an error `Delete` returns is not one `ErrNoSuchBucket` recognises: a missing
bucket is absorbed at both S3 steps, the batch-delete error is returned as text,
and the error of `os.RemoveAll` is not an AWS error. -/
theorem delete_not_errNoSuchBucket {t : Teardown} (h : (delete name f t).1 = .error e) :
    errNoSuchBucket (some e) = false := by
  obtain ⟨s, hs, t', h'⟩ := runSteps_error h
  simp only [deleteSteps, List.mem_cons, List.mem_singleton, List.not_mem_nil, or_false] at hs
  rcases hs with rfl | rfl | rfl
  · simp [errNoSuchBucket, deleteObjectsStep_error h']
  · simpa [errNoSuchBucket] using deleteBucketStep_error h'
  · simp [errNoSuchBucket, removeAllStep_error h']

end Surfaced

theorem delete_not_errNoSuchBucket_demo :
    (delete "demo" demoFaults ⟨none, true⟩).1 = .error (.text "unlinkat /tmp/demo/etc: permission denied") ∧
      errNoSuchBucket (some (.text "unlinkat /tmp/demo/etc: permission denied")) = false := by
  have hf : demoFaults.S3Clean := ⟨rfl, fun _ => rfl, rfl⟩
  have h : (delete "demo" demoFaults ⟨none, true⟩).1 = .error (.text "unlinkat /tmp/demo/etc: permission denied") := by
    simp only [delete, deleteSteps, runSteps, deleteObjectsStep_clean hf]
    simp [deleteBucketStep, deleteBucketCall, demoFaults, noSuchBucket, removeAllStep]
  exact ⟨h, delete_not_errNoSuchBucket h⟩

end Kit.Cluster
