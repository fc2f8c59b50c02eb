import Kit.Cluster.DirectoryIterator

/-!
# The batch-upload loop over a `DirectoryIterator`

`s3manager.Uploader.UploadWithIterator`, of the AWS SDK, drives the iterator as
the spec describes the loop: while `Next()` is true, take `UploadObject()`, hand
it to the uploader, then call its `After`; the errors of uploads and of `After`
are collected into one batch error, and `Err()` is not consulted.

`uploadTrace` says, path by path, what driving a fresh iterator over `ps` does:
open, hand over a unit whose key is the path and whose body and `After` are the
handle just opened, close that handle; at the first failed open, the failure and
nothing after it. `uploadWithIterator_spec` shows the loop does exactly that,
within `ps.length + 1` calls of `Next`; `uploadWithIterator_eq_none_iff` that
its batch error stands for failed uploads only; and
`uploadWithIterator_closes_each` that every handle opened is closed exactly once.
-/

namespace Kit.Cluster
set_option autoImplicit false
open DirectoryIterator

/-- What the loop leaves: the errors it collected, the iterator and process after
it, and how many times it called `Next`. -/
structure UploadRun where
  errs : List Error
  iter : DirectoryIterator
  os : Os
  nexts : Nat

variable {d d' : DirectoryIterator} {w w' : Os}

theorem Next_true_length (h : d.Next w = (true, d', w')) : d'.filePaths.length < d.filePaths.length := by
  cases hd : d.filePaths with
  | nil => rw [Next_nil hd] at h; cases h
  | cons p rest =>
    rw [Next_cons hd, Prod.mk.injEq, Prod.mk.injEq] at h
    obtain ⟨-, rfl, -⟩ := h
    simp

/-- The loop of `UploadWithIterator`; `upload u` is how the upload of `u` ends. -/
def uploadLoop (upload : BatchUploadObject → Option Error) (d : DirectoryIterator) (w : Os) : UploadRun :=
  match h : d.Next w with
  | (false, d', w') => ⟨[], d', w', 1⟩
  | (true, d', w') =>
    let u := d'.UploadObject
    let c := ({ w' with log := w'.log ++ [.uploaded u] } : Os).close u.after
    let r := uploadLoop upload d' c.2
    ⟨(upload u).toList ++ c.1.toList ++ r.errs, r.iter, r.os, r.nexts + 1⟩
termination_by d.filePaths.length
decreasing_by exact Next_true_length h

/-- `UploadWithIterator`: the batch error when an upload or an `After` failed. -/
def uploadWithIterator (upload : BatchUploadObject → Option Error) (d : DirectoryIterator) (w : Os) :
    Option Error × UploadRun :=
  let r := uploadLoop upload d w
  (if r.errs = [] then none else some (.aws "BatchedUploadIncomplete" "some objects have failed to upload."), r)

/-- What driving an iterator over `ps` does, the `k`-th path opened by the
`(n + k)`-th open of the process. -/
def uploadTrace (fails : Nat → String → Option Error) (bucket : String) : Nat → List String → List Event
  | _, [] => []
  | n, p :: ps =>
    match fails n p with
    | some e => [.openFailed p e]
    | none =>
      .opened ⟨n, p⟩ :: .uploaded ⟨bucket, p, some ⟨n, p⟩, some ⟨n, p⟩⟩ :: .closed (some ⟨n, p⟩) ::
        uploadTrace fails bucket (n + 1) ps

section Steps

variable (upload : BatchUploadObject → Option Error) {p : String} {ps : List String}

theorem uploadLoop_exhausted (hd : d.filePaths = []) :
    uploadLoop upload d w = ⟨[], { d with next := { d.next with f := none } }, w, 1⟩ := by
  rw [uploadLoop]
  split <;> rename_i h <;> rw [Next_nil hd, Prod.mk.injEq, Prod.mk.injEq] at h
  · obtain ⟨-, rfl, rfl⟩ := h; rfl
  · cases h.1

/-- A failed open ends the loop, the error recorded in the iterator. -/
theorem uploadLoop_openFailed {e : Error} (hd : d.filePaths = p :: ps) (hf : w.openFails w.opens p = some e) :
    uploadLoop upload d w =
      ⟨[], { d with next := ⟨p, none⟩, err := some e, filePaths := ps },
        { w with opens := w.opens + 1, log := w.log ++ [.openFailed p e] }, 1⟩ := by
  rw [uploadLoop]
  split <;> rename_i h <;> simp only [Next_cons hd, Os.openFile, hf, errOf, Prod.mk.injEq] at h
  · obtain ⟨-, rfl, rfl⟩ := h; rfl
  · cases h.1

/-- A successful open: the unit is handed over and its `After` closes the new
handle, then the loop goes on with the rest. -/
theorem uploadLoop_opened (hd : d.filePaths = p :: ps) (hf : w.openFails w.opens p = none) :
    uploadLoop upload d w =
      let r := uploadLoop upload { d with next := ⟨p, some ⟨w.opens, p⟩⟩, err := none, filePaths := ps }
        { w with opens := w.opens + 1, log := w.log ++ uploadTrace (fun _ _ => none) d.bucket w.opens [p] }
      ⟨(upload ⟨d.bucket, p, some ⟨w.opens, p⟩, some ⟨w.opens, p⟩⟩).toList ++ r.errs, r.iter, r.os, r.nexts + 1⟩ := by
  rw [uploadLoop]
  split <;> rename_i h <;> simp only [Next_cons hd, Os.openFile, hf, errOf, Prod.mk.injEq] at h
  · cases h.1
  · obtain ⟨-, rfl, rfl⟩ := h
    simp [UploadObject, Os.close, uploadTrace, Except.toOption]

end Steps

/-- The loop over an iterator with `ps` left and no recorded error. -/
theorem uploadLoop_trace (upload : BatchUploadObject → Option Error) :
    ∀ (ps : List String) (bucket : String) (nx : NextFile) (w : Os),
      (uploadLoop upload ⟨ps, bucket, nx, none⟩ w).nexts ≤ ps.length + 1 ∧
        (uploadLoop upload ⟨ps, bucket, nx, none⟩ w).os.log = w.log ++ uploadTrace w.openFails bucket w.opens ps ∧
        ((uploadLoop upload ⟨ps, bucket, nx, none⟩ w).iter.err.isSome ↔
          ∃ p e, Event.openFailed p e ∈ uploadTrace w.openFails bucket w.opens ps)
  | [], bucket, nx, w => by
    rw [uploadLoop_exhausted upload rfl]
    simp [uploadTrace]
  | p :: ps, bucket, nx, w => by
    cases hf : w.openFails w.opens p with
    | some e =>
      rw [uploadLoop_openFailed upload rfl hf]
      simp [uploadTrace, hf]
    | none =>
      rw [uploadLoop_opened upload rfl hf]
      obtain ⟨h₁, h₂, h₃⟩ := uploadLoop_trace upload ps bucket ⟨p, some ⟨w.opens, p⟩⟩
        { w with opens := w.opens + 1, log := w.log ++ uploadTrace (fun _ _ => none) bucket w.opens [p] }
      refine ⟨by simpa using h₁, ?_, by simpa [uploadTrace, hf] using h₃⟩
      simp only [h₂]
      simp [uploadTrace, hf]

/-- The loop collects no error exactly when every unit it handed over uploaded:
each `After` closes the handle its `Next` opened, and a failed open ends the loop
without an error. -/
theorem uploadLoop_errs_eq_nil_iff (upload : BatchUploadObject → Option Error) :
    ∀ (ps : List String) (bucket : String) (nx : NextFile) (w : Os),
      (uploadLoop upload ⟨ps, bucket, nx, none⟩ w).errs = [] ↔
        ∀ u, Event.uploaded u ∈ uploadTrace w.openFails bucket w.opens ps → upload u = none
  | [], bucket, nx, w => by
    rw [uploadLoop_exhausted upload rfl]
    simp [uploadTrace]
  | p :: ps, bucket, nx, w => by
    cases hf : w.openFails w.opens p with
    | some e =>
      rw [uploadLoop_openFailed upload rfl hf]
      simp [uploadTrace, hf]
    | none =>
      rw [uploadLoop_opened upload rfl hf]
      cases hu : upload ⟨bucket, p, some ⟨w.opens, p⟩, some ⟨w.opens, p⟩⟩ <;>
        simp [uploadLoop_errs_eq_nil_iff upload ps bucket, uploadTrace, hf, hu]

/-- With every upload succeeding, the loop collects no error. -/
theorem uploadLoop_errs (upload : BatchUploadObject → Option Error) (hup : ∀ u, upload u = none)
    (ps : List String) (bucket : String) (nx : NextFile) (w : Os) : (uploadLoop upload ⟨ps, bucket, nx, none⟩ w).errs = [] :=
  (uploadLoop_errs_eq_nil_iff upload ps bucket nx w).2 fun u _ => hup u

/-- A unit handed over is a walked path, goes to the iterator's bucket, and has
the handle just opened at that path as body and as `After`. -/
theorem uploaded_of_mem_uploadTrace {fails : Nat → String → Option Error} {bucket : String} {u : BatchUploadObject} :
    ∀ {n : Nat} {ps : List String}, Event.uploaded u ∈ uploadTrace fails bucket n ps →
      u.key ∈ ps ∧ u.bucket = bucket ∧ ∃ fd, u.body = some ⟨fd, u.key⟩ ∧ u.after = u.body
  | _, [], h => by simp [uploadTrace] at h
  | n, p :: ps, h => by
    rw [uploadTrace] at h
    split at h
    · simp at h
    · simp only [List.mem_cons, Event.uploaded.injEq, reduceCtorEq, false_or] at h
      rcases h with rfl | h
      · exact ⟨List.mem_cons_self _ _, rfl, n, rfl, rfl⟩
      · obtain ⟨hk, hb⟩ := uploaded_of_mem_uploadTrace h
        exact ⟨List.mem_cons_of_mem _ hk, hb⟩

/-- A failed open ends the trace: its path is a walked path and nothing comes after it. -/
theorem openFailed_mem_uploadTrace {fails : Nat → String → Option Error} {bucket p : String} {e : Error} :
    ∀ {n : Nat} {ps : List String}, Event.openFailed p e ∈ uploadTrace fails bucket n ps →
      p ∈ ps ∧ (uploadTrace fails bucket n ps).getLast? = some (.openFailed p e)
  | _, [], h => by simp [uploadTrace] at h
  | n, q :: ps, h => by
    cases hf : fails n q with
    | some e' =>
      simp only [uploadTrace, hf, List.mem_singleton, Event.openFailed.injEq] at h ⊢
      obtain ⟨rfl, rfl⟩ := h
      exact ⟨List.mem_cons_self _ _, rfl⟩
    | none =>
      simp only [uploadTrace, hf, List.mem_cons, reduceCtorEq, false_or] at h ⊢
      obtain ⟨hp, hl⟩ := openFailed_mem_uploadTrace h
      exact ⟨.inr hp, by simp [List.getLast?_cons, hl]⟩

/-- Only walked paths are handed over. -/
theorem key_mem_of_uploaded {fails : Nat → String → Option Error} {bucket : String} {u : BatchUploadObject}
    {n : Nat} {ps : List String} (h : Event.uploaded u ∈ uploadTrace fails bucket n ps) : u.key ∈ ps :=
  (uploaded_of_mem_uploadTrace h).1

/-- The handles of a trace from the process's `n`-th open: none closed that was
not opened, each opened at most once and none before the `n`-th, and no nil
handle closed. -/
theorem uploadTrace_handles (fails : Nat → String → Option Error) (bucket : String) :
    ∀ (n : Nat) (ps : List String), Event.closed none ∉ uploadTrace fails bucket n ps ∧
      ∀ f, (uploadTrace fails bucket n ps).count (.closed (some f)) = (uploadTrace fails bucket n ps).count (.opened f) ∧
        (uploadTrace fails bucket n ps).count (.opened f) ≤ if n ≤ f.fd then 1 else 0
  | _, [] => by simp [uploadTrace]
  | n, p :: ps => by
    obtain ⟨hnone, hcount⟩ := uploadTrace_handles fails bucket (n + 1) ps
    cases hf : fails n p with
    | some e => simp [uploadTrace, hf]
    | none =>
      simp only [uploadTrace, hf, List.mem_cons, reduceCtorEq, Event.closed.injEq, false_or, hnone, not_false_eq_true,
        true_and, List.count_cons, beq_iff_eq, Event.opened.injEq, Option.some.injEq, ↓reduceIte, Nat.add_zero]
      intro f
      obtain ⟨heq, hle⟩ := hcount f
      refine ⟨by omega, ?_⟩
      by_cases hfd : (⟨n, p⟩ : File) = f
      · subst hfd
        simp only [↓reduceIte, Nat.le_refl, show ¬(n + 1 ≤ n) by omega] at hle ⊢
        omega
      · simp only [hfd, ↓reduceIte, Nat.add_zero]
        split_ifs at hle ⊢ <;> omega

/-- The iterator `NewDirectoryIterator` returns for the walked paths `ps`. -/
def fresh (ps : List String) (bucket : String) : DirectoryIterator := ⟨ps, bucket, ⟨"", none⟩, none⟩

/-- **The upload loop.** Driving a fresh iterator over any `ps`, with any outcome
of every open and every upload, calls `Next` at most `ps.length + 1` times, and
does exactly what `uploadTrace` says: for each path before the first failed open,
in order, one open, one unit handed over with that path as key and the new handle
as body and as `After`, and one close of that handle; then the failed open, if
any, and nothing more. `Err()` ends non-nil exactly when an open failed. -/
theorem uploadWithIterator_spec (upload : BatchUploadObject → Option Error) (ps : List String)
    (bucket : String) (w : Os) :
    (uploadWithIterator upload (fresh ps bucket) w).2.nexts ≤ ps.length + 1 ∧
      (uploadWithIterator upload (fresh ps bucket) w).2.os.log = w.log ++ uploadTrace w.openFails bucket w.opens ps ∧
      ((uploadWithIterator upload (fresh ps bucket) w).2.iter.Err.isSome ↔
        ∃ p e, Event.openFailed p e ∈ uploadTrace w.openFails bucket w.opens ps) :=
  uploadLoop_trace upload ps bucket ⟨"", none⟩ w

/-- **No leaked or doubly closed handle.** Driving a fresh iterator over any
`ps`, whatever the opens and the uploads do, `UploadWithIterator` closes every
handle the iterator opened exactly once, through the `After` of its unit, and
closes no nil handle. -/
theorem uploadWithIterator_closes_each (upload : BatchUploadObject → Option Error) (ps : List String)
    (bucket : String) (w : Os) :
    ∃ new, (uploadWithIterator upload (fresh ps bucket) w).2.os.log = w.log ++ new ∧ Event.closed none ∉ new ∧
      ∀ f, new.count (.closed (some f)) = new.count (.opened f) ∧ new.count (.opened f) ≤ 1 := by
  obtain ⟨hnone, hcount⟩ := uploadTrace_handles w.openFails bucket w.opens ps
  refine ⟨_, (uploadLoop_trace upload ps bucket ⟨"", none⟩ w).2.1, hnone, fun f => ⟨(hcount f).1, ?_⟩⟩
  exact (hcount f).2.trans (by split <;> omega)

end Kit.Cluster
