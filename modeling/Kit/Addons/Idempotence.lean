import Kit.Addons.KubeProxy

/-!
# Idempotence of the endpoint and kube-proxy reconciliation

A pass is master's `reconcileEndpoint` on the substrate cluster followed by
`KubeProxy.Reconcile` on the guest cluster; it returns the clusters it reached
with its outcome. The kubeconfig step of the second reads the Service the first
ensures, so the passes are not independent: what makes them idempotent is that
`EnsureCreate` leaves an existing Service as it is, so a later pass reads the
same Service, builds the same request, and finds every object it applies
already in place (`runAll_idem`).

The starting stores are arbitrary, half-built ones included. With servers that
fail none of the pass's calls, a pass succeeds exactly when the substrate holds
the root CA Secret and the Service has been given an ingress point, and
otherwise, with the Secret there, fails with a `WaitingForSubResources` error,
keeping the Service it created and the guest objects applied before the reads.
A guest server that fails the pass's first call ends it with that error before
the substrate is read (`reconcilePass_outcome`).
-/

namespace Kit.Addons
set_option autoImplicit false
open Store Master

/-- The two clusters a pass touches. -/
structure Clusters where
  substrate : Store
  guest : Store

variable (h : Helpers) (cp : ControlPlane)

/-- One pass through the clients of `k`: `reconcileEndpoint` through the substrate
client, then `KubeProxy.Reconcile` against the substrate it left. The clusters it
reached come back with the outcome. -/
def KubeProxy.reconcilePass (k : KubeProxy) (c : Clusters) : Except Error Unit × Clusters :=
  match reconcileEndpoint k.substrateCluster h.apiServerLabels cp c.substrate with
  | .error e => (.error e, c)
  | .ok substrate =>
    let r := k.reconcile h cp substrate c.guest
    (r.1, ⟨substrate, r.2⟩)

/-- One pass with servers that carry out every call: the clusters it reached, or its error. -/
def reconcilePass (c : Clusters) : Except Error Clusters :=
  match KubeProxy.reliable.reconcilePass h cp c with
  | (.ok (), c₁) => .ok c₁
  | (.error e, _) => .error e

/-- `n` passes in succession on an unchanged control plane, stopping at the first error. -/
def reconcilePasses : Nat → Clusters → Except Error Clusters
  | 0, c => .ok c
  | n + 1, c =>
    match reconcilePass h cp c with
    | .error e => .error e
    | .ok c' => reconcilePasses n c'

/-- Exactly one of each object the pass manages. -/
structure ManagedOnce (c : Clusters) : Prop where
  service : c.substrate.count (serviceKey ⟨cp.ns, cp.clusterName⟩) = 1
  serviceAccount : c.guest.count ⟨.serviceAccount, kubeSystem, "kube-proxy"⟩ = 1
  clusterRoleBinding : c.guest.count ⟨.clusterRoleBinding, "", "kit:kube-proxy"⟩ = 1
  kubeconfig : c.guest.count ⟨.secret, kubeSystem, kubeProxyConfigNameFor cp.clusterName⟩ = 1
  daemonSet : c.guest.count ⟨.daemonSet, kubeSystem, kubeProxyDaemonSetName⟩ = 1

variable {h cp} {k : KubeProxy}

/-- Once `reconcileEndpoint` has succeeded, the pass is `Reconcile` against the substrate it left. -/
theorem KubeProxy.reconcilePass_of_endpoint {c : Clusters} {s₁ : Store}
    (hs : reconcileEndpoint k.substrateCluster h.apiServerLabels cp c.substrate = .ok s₁) :
    k.reconcilePass h cp c = ((k.reconcile h cp s₁ c.guest).1, ⟨s₁, (k.reconcile h cp s₁ c.guest).2⟩) := by
  simp only [KubeProxy.reconcilePass, hs]

theorem reconcilePass_eq_ok_iff {c c₁ : Clusters} :
    reconcilePass h cp c = .ok c₁ ↔
      reconcileEndpoint .reliable h.apiServerLabels cp c.substrate = .ok c₁.substrate ∧
        KubeProxy.reliable.reconcile h cp c₁.substrate c.guest = (.ok (), c₁.guest) := by
  obtain ⟨s₁, hs₁⟩ := (Apply.create (endpointService h.apiServerLabels cp)).run_ok c.substrate
  have hs : reconcileEndpoint .reliable h.apiServerLabels cp c.substrate = .ok s₁ := hs₁
  rw [reconcilePass, KubeProxy.reconcilePass_of_endpoint (k := .reliable) hs, hs]
  rcases c₁ with ⟨sub₁, g₁⟩
  rcases hr : KubeProxy.reliable.reconcile h cp s₁ c.guest with ⟨_ | ⟨⟩, g⟩
  · simp only [reduceCtorEq, false_iff, not_and, Except.ok.injEq]
    rintro rfl
    simp [hr]
  · simp only [Except.ok.injEq, Clusters.mk.injEq]
    constructor
    · rintro ⟨rfl, rfl⟩
      exact ⟨rfl, hr⟩
    · rintro ⟨rfl, hr'⟩
      rw [hr] at hr'
      cases hr'
      exact ⟨rfl, rfl⟩

/-- Everything a successful pass leaves in the stores. -/
theorem reconcilePass_holds {c c₁ : Clusters} (hp : reconcilePass h cp c = .ok c₁) :
    (Apply.create (endpointService h.apiServerLabels cp)).Holds c₁.substrate ∧
      ∃ req, kubeConfigRequestFor h cp c₁.substrate = .ok req ∧
        ∀ a ∈ proxyApplies h cp req, a.Holds c₁.guest := by
  obtain ⟨he, hr⟩ := reconcilePass_eq_ok_iff.1 hp
  obtain ⟨req, hreq, hrun⟩ := reliable_reconcile_eq_ok_iff.1 hr
  exact ⟨Apply.run_holds (a := .create (endpointService h.apiServerLabels cp)) he, req, hreq,
    runAll_holds (proxyApplies_keys_nodup h cp req) hrun⟩

/-- A pass from where a pass ended changes nothing. -/
theorem reconcilePass_fixed {c c₁ : Clusters} (hp : reconcilePass h cp c = .ok c₁) :
    reconcilePass h cp c₁ = .ok c₁ := by
  obtain ⟨hsvc, req, hreq, happ⟩ := reconcilePass_holds hp
  exact reconcilePass_eq_ok_iff.2
    ⟨Apply.run_of_holds hsvc, reliable_reconcile_eq_ok_iff.2 ⟨req, hreq, runAll_of_holds happ⟩⟩

theorem reconcilePasses_of_fixed {c : Clusters} (hc : reconcilePass h cp c = .ok c) :
    ∀ n, reconcilePasses h cp n c = .ok c
  | 0 => rfl
  | n + 1 => by simp only [reconcilePasses, hc, reconcilePasses_of_fixed hc n]

theorem count_of_holds {s : Store} {a : Apply} (ha : a.Holds s) : s.count a.obj.key = 1 := by
  cases a with
  | create o => obtain ⟨x, hx⟩ := Option.ne_none_iff_exists'.1 ha; exact count_eq_one hx
  | patch o => obtain ⟨x, hx, -⟩ := ha; exact count_eq_one hx

theorem managedOnce_of_pass {c c₁ : Clusters} (hp : reconcilePass h cp c = .ok c₁) : ManagedOnce cp c₁ := by
  obtain ⟨hsvc, req, hreq, happ⟩ := reconcilePass_holds hp
  have hsec := kubeconfigSecret_key hreq
  have hof := fun a (ha : a ∈ proxyApplies h cp req) => count_of_holds (happ a ha)
  simp only [proxyApplies, List.mem_cons, List.mem_singleton, forall_eq_or_imp, forall_eq,
    Apply.obj, hsec] at hof
  exact ⟨count_of_holds hsvc, hof.1, hof.2.1, hof.2.2.1, hof.2.2.2.1⟩

/-- **Idempotence.** From any stores, if a first pass succeeds, every number
`n + 1` of passes succeeds and ends where the first did, with exactly one
Service, ServiceAccount, ClusterRoleBinding, kubeconfig Secret and DaemonSet. -/
theorem reconcilePasses_idempotent {c c₁ : Clusters} (first : reconcilePass h cp c = .ok c₁) (n : Nat) :
    reconcilePasses h cp (n + 1) c = .ok c₁ ∧ ManagedOnce cp c₁ := by
  refine ⟨?_, managedOnce_of_pass first⟩
  simp only [reconcilePasses, first, reconcilePasses_of_fixed (reconcilePass_fixed first) n]

section Outcome

/-- `reconcileEndpoint` keeps the Service that is there, or creates it with no
ingress point yet, and changes no other key. -/
theorem reconcileEndpoint_find {s s₁ : Store} (he : reconcileEndpoint .reliable h.apiServerLabels cp s = .ok s₁) :
    s₁.find (serviceKey ⟨cp.ns, cp.clusterName⟩) =
        some ((s.find (serviceKey ⟨cp.ns, cp.clusterName⟩)).getD (endpointService h.apiServerLabels cp)) ∧
      ∀ key, key ≠ serviceKey ⟨cp.ns, cp.clusterName⟩ → s₁.find key = s.find key := by
  refine ⟨?_, fun key hk => Apply.find_run_of_ne (a := .create (endpointService h.apiServerLabels cp)) he (Ne.symm hk)⟩
  cases hf : s.find (serviceKey ⟨cp.ns, cp.clusterName⟩) with
  | some svc =>
    rw [reconcileEndpoint, Client.ensureCreate_of_find_some (o := endpointService h.apiServerLabels cp) rfl hf] at he
    cases he
    simp [hf]
  | none =>
    rw [reconcileEndpoint, Client.ensureCreate_of_find_none (o := endpointService h.apiServerLabels cp) rfl hf] at he
    simp [find_create he, endpointService]

/-- The reads of the kubeconfig step succeed exactly when the root CA Secret is
there and the Service has an ingress point. -/
theorem kubeConfigRequestFor_ok_iff {s : Store} :
    (∃ req, kubeConfigRequestFor h cp s = .ok req) ↔
      s.find (caSecretKey h cp) ≠ none ∧
        ∃ svc, s.find (serviceKey ⟨cp.ns, cp.clusterName⟩) = some svc ∧ svc.ingress ≠ [] := by
  simp only [kubeConfigRequestFor, KubeProxy.kubeConfigRequestFor_eq_ok_iff, KubeProxy.controlPlaneCASecret,
    KubeProxy.controlPlaneEndPoint, KubeProxy.reliable, Client.reliable_get, getClusterEndpoint_eq_ok_iff,
    get_eq_ok_iff, ne_eq, Option.ne_none_iff_exists']
  constructor
  · rintro ⟨_, ca, _, hca, ⟨svc, i, rest, hs, hi, -⟩, -⟩
    exact ⟨⟨ca, hca⟩, svc, hs, by simp [hi]⟩
  · rintro ⟨⟨ca, hca⟩, svc, hs, hne⟩
    obtain ⟨i, rest, hi⟩ := List.exists_cons_of_ne_nil hne
    exact ⟨_, ca, _, hca, ⟨svc, i, rest, hs, hi, rfl⟩, rfl⟩

/-- After `reconcileEndpoint`, the reads succeed exactly when the root CA Secret
was there and the Service already had an ingress point; with the Secret there
and no ingress point they fail with a `WaitingForSubResources` error. -/
theorem kubeConfigRequestFor_after_endpoint {s s₁ : Store}
    (he : reconcileEndpoint .reliable h.apiServerLabels cp s = .ok s₁) :
    ((∃ req, kubeConfigRequestFor h cp s₁ = .ok req) ↔
      s.find (caSecretKey h cp) ≠ none ∧
        ∃ svc, s.find (serviceKey ⟨cp.ns, cp.clusterName⟩) = some svc ∧ svc.ingress ≠ []) ∧
      (s.find (caSecretKey h cp) ≠ none →
        (∀ svc, s.find (serviceKey ⟨cp.ns, cp.clusterName⟩) = some svc → svc.ingress = []) →
        ∃ e, kubeConfigRequestFor h cp s₁ = .error e ∧ e.is .waitingForSubResources = true) := by
  obtain ⟨hsvc, hother⟩ := reconcileEndpoint_find he
  have hca : s₁.find (caSecretKey h cp) = s.find (caSecretKey h cp) := hother _ (by simp [caSecretKey, serviceKey])
  refine ⟨?_, fun hc hnone => ?_⟩
  · rw [kubeConfigRequestFor_ok_iff, hca, hsvc]
    cases s.find (serviceKey ⟨cp.ns, cp.clusterName⟩) <;> simp [endpointService]
  · obtain ⟨ca, hca'⟩ := Option.ne_none_iff_exists'.1 (hca ▸ hc)
    have hi : ((s.find (serviceKey ⟨cp.ns, cp.clusterName⟩)).getD (endpointService h.apiServerLabels cp)).ingress = [] := by
      cases hf : s.find (serviceKey ⟨cp.ns, cp.clusterName⟩) with
      | some svc => exact hnone svc hf
      | none => rfl
    refine ⟨_, ?_, (by simp : (Error.wrap "getting cluster endpoint, "
      (.wrap "endpoint name, " .waitingForSubResources)).is .waitingForSubResources = true)⟩
    simp [kubeConfigRequestFor, KubeProxy.kubeConfigRequestFor, KubeProxy.controlPlaneCASecret,
      KubeProxy.controlPlaneEndPoint, KubeProxy.reliable, getClusterEndpoint, hca', hsvc, hi]

/-- **What a pass needs.** From any state of both clusters, through servers that
fail none of the pass's calls, a pass succeeds exactly when the substrate holds
the control plane's root CA Secret and its API-server Service has been given an
ingress point. With the Secret there but the Service absent or without an
ingress point, the pass fails with an error that is `WaitingForSubResources`, so
the controller waits for the load balancer. Whatever the outcome, the Service
is then in the substrate and the ServiceAccount and the ClusterRoleBinding in
the guest cluster. The guest cluster can still end a pass first: when the guest
server fails the ServiceAccount's Get (it is unreachable, or refuses the
request), the pass returns that error with the guest store as it was, whatever
the substrate holds. -/
theorem reconcilePass_outcome (k : KubeProxy) (c : Clusters) :
    (k.substrateCluster.CarriesOut [serviceKey ⟨cp.ns, cp.clusterName⟩, caSecretKey h cp] →
      k.kubeClient.CarriesOut (proxyKeys cp) →
        ((k.reconcilePass h cp c).1 = .ok () ↔
          c.substrate.find (caSecretKey h cp) ≠ none ∧
            ∃ svc, c.substrate.find (serviceKey ⟨cp.ns, cp.clusterName⟩) = some svc ∧ svc.ingress ≠ []) ∧
        (c.substrate.find (caSecretKey h cp) ≠ none →
          (∀ svc, c.substrate.find (serviceKey ⟨cp.ns, cp.clusterName⟩) = some svc → svc.ingress = []) →
          ∃ e, (k.reconcilePass h cp c).1 = .error e ∧ e.is .waitingForSubResources = true) ∧
        (Apply.create (endpointService h.apiServerLabels cp)).Holds (k.reconcilePass h cp c).2.substrate ∧
        (Apply.patch serviceAccountObject).Holds (k.reconcilePass h cp c).2.guest ∧
        (Apply.create clusterRoleBindingObject).Holds (k.reconcilePass h cp c).2.guest) ∧
      ∀ e, e.isNotFound = false → k.kubeClient.fault .get serviceAccountObject.key = some e →
        k.substrateCluster.fault .create (serviceKey ⟨cp.ns, cp.clusterName⟩) = none →
          (k.reconcilePass h cp c).1 = .error e ∧ (k.reconcilePass h cp c).2.guest = c.guest := by
  obtain ⟨s₁, hs₁⟩ := (Apply.create (endpointService h.apiServerLabels cp)).run_ok c.substrate
  have he : reconcileEndpoint .reliable h.apiServerLabels cp c.substrate = .ok s₁ := hs₁
  refine ⟨fun hs hg => ?_, fun e hnf hget hcreate => ?_⟩
  · have hend : reconcileEndpoint k.substrateCluster h.apiServerLabels cp c.substrate = .ok s₁ :=
      (Apply.runWith_of_carriesOut (a := .create (endpointService h.apiServerLabels cp))
        fun v => hs v _ (List.mem_cons_self _ _)).trans he
    rw [KubeProxy.reconcilePass_of_endpoint hend]
    obtain ⟨hok, hwait⟩ := kubeConfigRequestFor_after_endpoint he
    obtain ⟨herr, hsa, hcrb, -⟩ := reconcile_outcome_of_carriesOut hg s₁ c.guest
    rw [kubeConfigRequestFor_of_carriesOut hs] at herr
    refine ⟨(ok_iff_of_error_iff herr).trans hok, fun hc hnone => ?_,
      Apply.run_holds (a := .create (endpointService h.apiServerLabels cp)) he, hsa, hcrb⟩
    obtain ⟨e, hr, hw⟩ := hwait hc hnone
    exact ⟨e, (herr e).2 hr, hw⟩
  · have hend : reconcileEndpoint k.substrateCluster h.apiServerLabels cp c.substrate = .ok s₁ := by
      rw [← he]
      simp only [reconcileEndpoint, Client.ensureCreate, Client.create, Client.reliable,
        show (endpointService h.apiServerLabels cp).key = serviceKey ⟨cp.ns, cp.clusterName⟩ from rfl, hcreate]
    have hsa : k.serviceAccount c.guest = .error e := by
      simp [KubeProxy.serviceAccount, Client.ensurePatch, Client.get, hget, hnf]
    rw [KubeProxy.reconcilePass_of_endpoint hend, KubeProxy.reconcile, KubeProxy.reconcileProxyResources,
      runSteps_cons_of_error hsa]
    exact ⟨rfl, rfl⟩

end Outcome

/-- A substrate cluster whose Service already has a hostname and which holds the root CA
Secret, and an empty guest cluster. -/
def demoClusters : Clusters :=
  ⟨⟨[⟨⟨.service, "default", "demo-cp"⟩, [], [⟨"lb.example", ""⟩]⟩, ⟨⟨.secret, "default", "demo-ca"⟩, [], []⟩],
    by decide⟩, Store.empty⟩

theorem reconcilePasses_idempotent_demo : ∃ c₁, reconcilePass demoHelpers demoControlPlane demoClusters = .ok c₁ ∧
    reconcilePasses demoHelpers demoControlPlane 3 demoClusters = .ok c₁ ∧ ManagedOnce demoControlPlane c₁ := by
  obtain ⟨c₁, hc⟩ : ∃ c₁, reconcilePass demoHelpers demoControlPlane demoClusters = .ok c₁ := ⟨_, rfl⟩
  exact ⟨c₁, hc, reconcilePasses_idempotent hc 2⟩

end Kit.Addons
