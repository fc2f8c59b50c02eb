import Kit.Store.Object
import Mathlib.Data.List.Infix

/-!
# The control-plane composer (`controllers/controlplane/controlplane.go`)

`controlPlane.Reconcile` calls `Reconcile` of the etcd, master and addons
controllers in that order and returns at the first error, wrapped in
`control plane reconciling, %w`; all three succeeding gives `results.Created`.
`controlPlane.Finalize` calls only the master controller's `Finalize`:
`results.Terminated` when it succeeds, else `results.Failed` with its error.

The three controllers are of files that are not in the source, so what each of
their calls returns is an input, chosen afresh for every invocation: a run is a
list of invocations, each with its own outcomes, and covers every pattern of
stage failures. Every sub-controller call is logged with what it returned.
-/

namespace Kit.Controlplane
set_option autoImplicit false

/-- The sub-controllers of the composer. -/
inductive Stage where
  | etcd
  | master
  | addons
deriving DecidableEq, Repr

/-- Which method of a sub-controller is called. -/
inductive Phase where
  | reconcile
  | finalize
deriving DecidableEq, Repr

/-- One sub-controller call and the error it returned. -/
structure Call where
  stage : Stage
  phase : Phase
  err : Option Error
deriving DecidableEq, Repr

/-- `results.Created`, `results.Failed` and `results.Terminated`. -/
inductive Result where
  | created
  | failed
  | terminated
deriving DecidableEq, Repr

/-- What an invocation returns: `(*reconcile.Result, error)`, `none` for `nil`. -/
structure Reply where
  result : Option Result
  err : Option Error
deriving DecidableEq, Repr

/-- The sub-controllers `Reconcile` iterates over, in order. -/
def stages : List Stage := [.etcd, .master, .addons]

/-- The loop of `Reconcile`: the calls it makes and the error it stops at; `out s`
is what the call of stage `s` returns. -/
def reconcileStages (out : Stage → Option Error) : List Stage → List Call × Option Error
  | [] => ([], none)
  | s :: ss =>
    match out s with
    | some e => ([⟨s, .reconcile, some e⟩], some e)
    | none => ((⟨s, .reconcile, none⟩ :: (reconcileStages out ss).1), (reconcileStages out ss).2)

/-- `controlPlane.Reconcile`. -/
def reconcile (out : Stage → Option Error) : List Call × Reply :=
  match reconcileStages out stages with
  | (calls, some e) => (calls, ⟨none, some (.wrap "control plane reconciling, " e)⟩)
  | (calls, none) => (calls, ⟨some .created, none⟩)

/-- `controlPlane.Finalize`. -/
def finalize (out : Stage → Option Error) : List Call × Reply :=
  match out .master with
  | some e => ([⟨.master, .finalize, some e⟩], ⟨some .failed, some e⟩)
  | none => ([⟨.master, .finalize, none⟩], ⟨some .terminated, none⟩)

/-- One invocation of the composer, with what its sub-controller calls return. -/
inductive Invocation where
  | reconcile (out : Stage → Option Error)
  | finalize (out : Stage → Option Error)

/-- The calls an invocation makes and its reply. -/
def Invocation.exec : Invocation → List Call × Reply
  | .reconcile out => Kit.Controlplane.reconcile out
  | .finalize out => Kit.Controlplane.finalize out

/-- Every sub-controller call of a run, in order. -/
def runLog (run : List Invocation) : List Call := run.flatMap fun i => i.exec.1

/-- The calls a forward pass over `ss` may make: the stages in order, each only
after the one before it succeeded, ending at a failure or after the last. -/
inductive Chain (out : Stage → Option Error) : List Stage → List Call → Prop where
  | done : Chain out [] []
  | fail (s : Stage) (ss : List Stage) (e : Error) (he : out s = some e) :
      Chain out (s :: ss) [⟨s, .reconcile, some e⟩]
  | next (s : Stage) (ss : List Stage) (calls : List Call) (hs : out s = none) :
      Chain out ss calls → Chain out (s :: ss) (⟨s, .reconcile, none⟩ :: calls)

variable {out : Stage → Option Error}

theorem reconcileStages_chain : ∀ ss, Chain out ss (reconcileStages out ss).1
  | [] => .done
  | s :: ss => by
    unfold reconcileStages
    cases hs : out s with
    | some e => exact .fail s ss e hs
    | none => exact .next s ss _ hs (reconcileStages_chain ss)

/-- The pass stops with no error exactly when every stage succeeded. -/
theorem reconcileStages_err_eq_none : ∀ ss, (reconcileStages out ss).2 = none ↔ ∀ s ∈ ss, out s = none
  | [] => by simp [reconcileStages]
  | s :: ss => by
    unfold reconcileStages
    cases hs : out s with
    | some e => simp [hs]
    | none => simp [hs, reconcileStages_err_eq_none ss]

/-- Every call of a chain is a `Reconcile`. -/
theorem Chain.phase_eq {ss : List Stage} {calls : List Call} (h : Chain out ss calls) :
    ∀ c ∈ calls, c.phase = .reconcile := by
  induction h with
  | done => simp
  | fail s ss e _ => simp
  | next s ss calls _ _ ih => simpa using ih

/-- A pass whose stages before `s` succeed and whose stage `s` fails calls exactly
those stages and `s`, and stops with the error of `s`. -/
theorem reconcileStages_of_first_failure {s : Stage} {e₀ : Error} (post : List Stage) (hs : out s = some e₀) :
    ∀ pre : List Stage, (∀ t ∈ pre, out t = none) →
      reconcileStages out (pre ++ s :: post) =
        (pre.map (fun t => ⟨t, .reconcile, none⟩) ++ [⟨s, .reconcile, some e₀⟩], some e₀)
  | [], _ => by simp [reconcileStages, hs]
  | t :: pre, hpre => by
    have ih := reconcileStages_of_first_failure post hs pre fun u hu => hpre u (List.mem_cons_of_mem _ hu)
    rw [List.cons_append, reconcileStages, hpre t (List.mem_cons_self _ _)]
    dsimp only
    rw [ih]
    rfl

/-- The calls of `Reconcile` are those of its loop. -/
theorem reconcile_fst : (reconcile out).1 = (reconcileStages out stages).1 := by
  unfold reconcile
  split <;> simp_all

/-- The calls of a Reconcile invocation and its reply: a chain of calls, `Created`
exactly when every stage succeeded, and at the first stage that fails, the calls
up to it and its error wrapped. -/
theorem reconcile_spec (out : Stage → Option Error) :
    Chain out stages (reconcile out).1 ∧
      ((reconcile out).2 = ⟨some .created, none⟩ ↔ ∀ s ∈ stages, out s = none) ∧
      ∀ pre s post e₀, stages = pre ++ s :: post → (∀ t ∈ pre, out t = none) → out s = some e₀ →
        (reconcile out).1 = pre.map (fun t => ⟨t, .reconcile, none⟩) ++ [⟨s, .reconcile, some e₀⟩] ∧
          (reconcile out).2 = ⟨none, some (.wrap "control plane reconciling, " e₀)⟩ := by
  refine ⟨reconcile_fst ▸ reconcileStages_chain stages, ?_, fun pre s post e₀ hst hpre hs => ?_⟩
  · have hn := @reconcileStages_err_eq_none out stages
    unfold reconcile
    cases h : reconcileStages out stages with
    | mk calls err => rw [h] at hn; cases err <;> simpa using hn
  · unfold reconcile
    rw [hst, reconcileStages_of_first_failure post hs pre hpre]
    exact ⟨rfl, rfl⟩

/-- The calls of a Finalize invocation and its reply: only the master controller's
`Finalize` is called. -/
theorem finalize_spec (out : Stage → Option Error) :
    (finalize out).1 = [⟨.master, .finalize, out .master⟩] ∧
      (finalize out).2 = match out .master with
        | some e => ⟨some .failed, some e⟩
        | none => ⟨some .terminated, none⟩ := by
  unfold finalize
  cases out .master <;> simp

/-- **The composer over any run.** Every Reconcile invocation makes a chain of
calls and is `Created` exactly when all three stages succeeded; at the first
stage that fails it stops, having called the stages before it, and replies no
result and that stage's error wrapped. Every Finalize invocation calls the master
controller's `Finalize` alone and is `Terminated` with no error exactly when
that call succeeded, `Failed` with its error otherwise. No Finalize of etcd or
addons is ever called. -/
theorem composer_run_spec (run : List Invocation) :
    (∀ out, .reconcile out ∈ run →
      Chain out stages (reconcile out).1 ∧
        ((reconcile out).2 = ⟨some .created, none⟩ ↔ ∀ s ∈ stages, out s = none) ∧
        ∀ pre s post e₀, stages = pre ++ s :: post → (∀ t ∈ pre, out t = none) → out s = some e₀ →
          (reconcile out).1 = pre.map (fun t => ⟨t, .reconcile, none⟩) ++ [⟨s, .reconcile, some e₀⟩] ∧
            (reconcile out).2 = ⟨none, some (.wrap "control plane reconciling, " e₀)⟩) ∧
    (∀ out, .finalize out ∈ run →
      (finalize out).1 = [⟨.master, .finalize, out .master⟩] ∧
        ((finalize out).2 = ⟨some .terminated, none⟩ ↔ out .master = none) ∧
        ∀ e, out .master = some e → (finalize out).2 = ⟨some .failed, some e⟩) ∧
    ∀ c ∈ runLog run, c.phase = .finalize → c.stage = .master := by
  refine ⟨fun out _ => reconcile_spec out, fun out _ => ?_, ?_⟩
  · obtain ⟨h₁, h₂⟩ := finalize_spec out
    refine ⟨h₁, ?_, fun e he => by rw [h₂, he]⟩
    rw [h₂]
    cases out .master <;> simp
  · intro c hc hp
    obtain ⟨i, -, hi⟩ := List.mem_flatMap.1 hc
    cases i with
    | reconcile out => exact absurd ((reconcile_spec out).1.phase_eq c hi) (by rw [hp]; decide)
    | finalize out =>
      rw [Invocation.exec, (finalize_spec out).1, List.mem_singleton] at hi
      rw [hi]

/-- The teardown order the spec asks of a run: a Finalize that replies
`Terminated` with no error comes after Finalize of addons, master and etcd were
called in that order and succeeded. -/
def TeardownInOrder (run : List Invocation) : Prop :=
  ∀ n (hn : n < run.length), (run.get ⟨n, hn⟩).exec.2 = ⟨some .terminated, none⟩ →
    List.Sublist [⟨.addons, .finalize, none⟩, ⟨.master, .finalize, none⟩, ⟨.etcd, .finalize, none⟩]
      (runLog (run.take (n + 1)))

/-- A run that reconciles all three stages and then finalizes: the Finalize is
`Terminated` though etcd and addons were reconciled and never finalized. -/
theorem finalize_terminates_without_teardown :
    ¬ TeardownInOrder [.reconcile fun _ => none, .finalize fun _ => none] := by
  intro h
  have := h 1 (by decide) rfl
  simp only [runLog, List.take, List.flatMap_cons, List.flatMap_nil, Invocation.exec, reconcile, finalize,
    reconcileStages, stages, List.cons_append, List.nil_append, List.append_nil] at this
  exact absurd this (by decide)

end Kit.Controlplane
