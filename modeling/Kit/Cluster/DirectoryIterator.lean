import Kit.Store.Object

/-!
# `DirectoryIterator` (package `cluster`)

The iterator holds the walked file paths. `Next` opens the first of them,
records the handle and the open's error, drops the path and returns whether the
open succeeded; with no path left it clears the handle and returns false. `Err`
returns the recorded error; `UploadObject` hands out the current path and
handle, with that handle's `Close` as `After`.

`os.Open` is the environment: `Os.openFails` says how every open of the process
ends, and the log records each open, failed open, close and hand-over. A
sequence of calls is `calls`. Over any sequence the iterator opens its paths in
order, each once, one per `Next`, and does nothing else to the process: it never
closes the handle it replaces (`calls_opens`). Once the paths are exhausted the
iterator is inert (`calls_of_exhausted`), but an open failure does not stop it:
a later `Next` opens the next path and clears the error
(`next_after_open_failure`).
-/

namespace Kit.Cluster
set_option autoImplicit false

/-- An open `*os.File`: its descriptor and the path it was opened at. -/
structure File where
  fd : Nat
  path : String
deriving DecidableEq, Repr

/-- `s3manager.BatchUploadObject`: the upload input (bucket, key, body) and the file
its `After` closes, `d.next.f.Close` bound when the object was built. -/
structure BatchUploadObject where
  bucket : String
  key : String
  body : Option File
  after : Option File
deriving DecidableEq, Repr

/-- What the process did, in order. -/
inductive Event where
  | opened (f : File)
  | openFailed (path : String) (err : Error)
  | closed (f : Option File)
  | uploaded (u : BatchUploadObject)
deriving DecidableEq, Repr

/-- The file-system side of the process. -/
structure Os where
  /-- How the `k`-th `os.Open` of the process ends on a path: `some e` fails with `e`. -/
  openFails : Nat → String → Option Error
  /-- How many opens were made: the index, and the descriptor, of the next one. -/
  opens : Nat
  log : List Event

namespace Os

/-- `os.Open`: a new handle, or the error with no handle. -/
def openFile (w : Os) (path : String) : Except Error File × Os :=
  match w.openFails w.opens path with
  | some e => (.error e, { w with opens := w.opens + 1, log := w.log ++ [.openFailed path e] })
  | none => (.ok ⟨w.opens, path⟩, { w with opens := w.opens + 1, log := w.log ++ [.opened ⟨w.opens, path⟩] })

/-- `(*os.File).Close`; on a nil handle it fails with `os.ErrInvalid`. -/
def close (w : Os) (f : Option File) : Option Error × Os :=
  (if f.isSome then none else some (.text "invalid argument"), { w with log := w.log ++ [.closed f] })

end Os

/-- The error of a result, `none` for `nil`. -/
def errOf {α : Type} : Except Error α → Option Error
  | .error e => some e
  | .ok _ => none

/-- The `next` field of the iterator: the current path and handle. -/
structure NextFile where
  path : String
  f : Option File
deriving DecidableEq, Repr

/-- `DirectoryIterator`. -/
structure DirectoryIterator where
  filePaths : List String
  bucket : String
  next : NextFile
  err : Option Error
deriving DecidableEq, Repr

namespace DirectoryIterator

/-- `Next`. -/
def Next (d : DirectoryIterator) (w : Os) : Bool × DirectoryIterator × Os :=
  match d.filePaths with
  | [] => (false, { d with next := { d.next with f := none } }, w)
  | p :: rest =>
    let r := w.openFile p
    (errOf r.1 == none, { d with next := ⟨p, r.1.toOption⟩, err := errOf r.1, filePaths := rest }, r.2)

/-- `Err`. -/
def Err (d : DirectoryIterator) : Option Error := d.err

/-- `UploadObject`. -/
def UploadObject (d : DirectoryIterator) : BatchUploadObject := ⟨d.bucket, d.next.path, d.next.f, d.next.f⟩

/-- A call of the iterator's interface. -/
inductive Call where
  | next
  | err
  | uploadObject
deriving DecidableEq, Repr

/-- What a call returns. -/
inductive Response where
  | next (more : Bool)
  | err (e : Option Error)
  | uploadObject (u : BatchUploadObject)
deriving DecidableEq, Repr

/-- One call. -/
def call (d : DirectoryIterator) (w : Os) : Call → Response × DirectoryIterator × Os
  | .next => let r := d.Next w; (.next r.1, r.2.1, r.2.2)
  | .err => (.err d.Err, d, w)
  | .uploadObject => (.uploadObject d.UploadObject, d, w)

/-- A sequence of calls: the responses in order, and the final iterator and process. -/
def calls : List Call → DirectoryIterator → Os → List Response × DirectoryIterator × Os
  | [], d, w => ([], d, w)
  | c :: cs, d, w =>
    let r := d.call w c
    let rs := calls cs r.2.1 r.2.2
    (r.1 :: rs.1, rs.2.1, rs.2.2)

variable {d : DirectoryIterator} {w : Os}

@[simp] theorem Next_nil (h : d.filePaths = []) : d.Next w = (false, { d with next := { d.next with f := none } }, w) := by
  simp [Next, h]

theorem Next_cons {p : String} {rest : List String} (h : d.filePaths = p :: rest) :
    d.Next w = (errOf (w.openFile p).1 == none,
      { d with next := ⟨p, (w.openFile p).1.toOption⟩, err := errOf (w.openFile p).1, filePaths := rest }, (w.openFile p).2) := by
  simp [Next, h]

/-- One call on an exhausted iterator: `Next` is false, `Err` keeps its value,
and the process is left as it was. -/
theorem call_of_exhausted (h : d.filePaths = []) (c : Call) :
    ((d.call w c).1 = .next false ∨ (d.call w c).1 = .err d.err ∨ ∃ u, (d.call w c).1 = .uploadObject u) ∧
      (d.call w c).2.2 = w ∧ (d.call w c).2.1.filePaths = [] ∧ (d.call w c).2.1.err = d.err := by
  cases c <;> simp [call, h, Err]

/-- Calls on an exhausted iterator: every `Next` is false, `Err` keeps its value,
and the process is left as it was. -/
theorem calls_of_exhausted (h : d.filePaths = []) :
    ∀ cs : List Call, (∀ r ∈ (calls cs d w).1, r = .next false ∨ r = .err d.err ∨ ∃ u, r = .uploadObject u) ∧
      (calls cs d w).2.2 = w ∧ (calls cs d w).2.1.filePaths = [] ∧ (calls cs d w).2.1.err = d.err := by
  intro cs
  induction cs generalizing d with
  | nil => simp [calls, h]
  | cons c cs ih =>
    obtain ⟨hr, hw, hp, he⟩ := call_of_exhausted (w := w) h c
    obtain ⟨ih₁, ih₂, ih₃, ih₄⟩ := ih hp
    rw [he] at ih₁ ih₄
    simp only [calls, hw, List.forall_mem_cons]
    exact ⟨⟨hr, ih₁⟩, ih₂, ih₃, ih₄⟩

/-- What opening `ps` in turn records, the first open being the process's `n`-th. -/
def openTrace (fails : Nat → String → Option Error) : Nat → List String → List Event
  | _, [] => []
  | n, p :: ps =>
    (match fails n p with
      | some e => .openFailed p e
      | none => .opened ⟨n, p⟩) :: openTrace fails (n + 1) ps

/-- `Next` with a path left: it opens it, whatever the open does. -/
theorem next_cons {p : String} {rest : List String} (h : d.filePaths = p :: rest) :
    (d.Next w).2.1.filePaths = rest ∧
      (d.Next w).2.2 = { w with opens := w.opens + 1, log := w.log ++ openTrace w.openFails w.opens [p] } := by
  rw [Next_cons h]
  refine ⟨rfl, ?_⟩
  cases hf : w.openFails w.opens p <;> simp [Os.openFile, hf, openTrace]

/-- **The opens over any calls.** From any iterator and any process, a sequence of
calls with `m` calls of `Next` opens the first `m` paths the iterator holds, in
order and each once, and drops them; the process gains nothing else: no close,
no hand-over, and `Err` and `UploadObject` make no call. -/
theorem calls_opens (cs : List Call) (d : DirectoryIterator) (w : Os) :
    (calls cs d w).2.1.filePaths = d.filePaths.drop (cs.count .next) ∧
      (calls cs d w).2.2 = ⟨w.openFails, w.opens + (d.filePaths.take (cs.count .next)).length,
        w.log ++ openTrace w.openFails w.opens (d.filePaths.take (cs.count .next))⟩ := by
  induction cs generalizing d w with
  | nil => simp [calls, openTrace]
  | cons c cs ih =>
    obtain ⟨ih₁, ih₂⟩ := ih (d.call w c).2.1 (d.call w c).2.2
    simp only [calls]
    rw [ih₁, ih₂]
    cases c with
    | err | uploadObject => simp [call]
    | next =>
      cases hd : d.filePaths with
      | nil => simp [call, hd]
      | cons p rest =>
        obtain ⟨hn₁, hn₂⟩ := next_cons (w := w) hd
        simp only [call, hd, hn₁, hn₂, List.count_cons_self, List.drop_succ_cons, List.take_succ_cons,
          List.length_cons, openTrace, List.append_assoc, List.singleton_append, Os.mk.injEq, true_and, and_true]
        omega

/-- An iterator that has handed out its last path, and a process that has made one open. -/
def spentIterator : DirectoryIterator := ⟨[], "demo", ⟨"/tmp/demo/a", some ⟨0, "/tmp/demo/a"⟩⟩, none⟩

/-- The process after opening `/tmp/demo/a`. -/
def spentOs : Os := ⟨fun _ _ => none, 1, [.opened ⟨0, "/tmp/demo/a"⟩]⟩

theorem calls_of_exhausted_spent :
    spentIterator.filePaths = [] ∧ ∀ cs : List Call,
      (∀ r ∈ (calls cs spentIterator spentOs).1, r = .next false ∨ r = .err spentIterator.err ∨ ∃ u, r = .uploadObject u) ∧
        (calls cs spentIterator spentOs).2.2 = spentOs ∧ (calls cs spentIterator spentOs).2.1.filePaths = [] ∧
        (calls cs spentIterator spentOs).2.1.err = spentIterator.err :=
  ⟨rfl, calls_of_exhausted rfl⟩

/-- **An open failure does not stop the iterator.** With another path left, the
`Next` after a failed open opens that path, returns true, and `Err` is then nil. -/
theorem next_after_open_failure {p q : String} {rest : List String} {e : Error}
    (hd : d.filePaths = p :: q :: rest) (hp : w.openFails w.opens p = some e)
    (hq : w.openFails (w.opens + 1) q = none) :
    (calls [.next, .err, .next, .err] d w).1 = [.next false, .err (some e), .next true, .err none] ∧
      Event.opened ⟨w.opens + 1, q⟩ ∈ (calls [.next, .err, .next, .err] d w).2.2.log := by
  simp [calls, call, Next, hd, Os.openFile, hp, hq, Err, errOf]

/-- Two walked paths; the first open is refused, the second succeeds. -/
def demoIterator : DirectoryIterator := ⟨["/tmp/demo/a", "/tmp/demo/b"], "demo", ⟨"", none⟩, none⟩

/-- The process whose first open fails with a permission error. -/
def demoOs : Os :=
  ⟨fun k _ => if k = 0 then some (.text "open /tmp/demo/a: permission denied") else none, 0, []⟩

theorem next_after_open_failure_demo :
    demoIterator.filePaths = "/tmp/demo/a" :: "/tmp/demo/b" :: [] ∧
      demoOs.openFails demoOs.opens "/tmp/demo/a" = some (.text "open /tmp/demo/a: permission denied") ∧
      demoOs.openFails (demoOs.opens + 1) "/tmp/demo/b" = none ∧
      (calls [.next, .err, .next, .err] demoIterator demoOs).1 =
        [.next false, .err (some (.text "open /tmp/demo/a: permission denied")), .next true, .err none] ∧
      Event.opened ⟨demoOs.opens + 1, "/tmp/demo/b"⟩ ∈ (calls [.next, .err, .next, .err] demoIterator demoOs).2.2.log :=
  ⟨rfl, rfl, rfl, next_after_open_failure rfl rfl rfl⟩

end DirectoryIterator

end Kit.Cluster
