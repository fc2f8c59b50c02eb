import Kit.Master.Endpoint

/-!
# The kube-proxy add-on (`addons/kubeproxy.go`)

`KubeProxy.Reconcile` runs its four resource steps against the guest cluster
and stops at the first error: the ServiceAccount `kube-system/kube-proxy`
(`EnsurePatch`), the ClusterRoleBinding `kit:kube-proxy` (`EnsureCreate`), the
kubeconfig Secret, and the DaemonSet `kube-system/kubeproxy-daemonset`
(`EnsurePatch`). The kubeconfig step first reads the root CA Secret and the
API-server endpoint from the substrate cluster, then hands a request to the
kubeconfig reconciler of `utils/kubeconfigs`, which is not in the source.

A `KubeProxy` holds the two clients, whose servers may fail any call, and
`Reconcile` returns the guest store its steps reached with its outcome. Whatever
the servers answer, it touches no guest object but its four; failures of a guest
server that does not claim objects into existence only cut the run short; and
with a guest server that fails none of its calls the outcome is decided by the
substrate reads (`reconcile_any_guest`). The functions without a client are
those of the clients whose servers carry out every call.
-/

namespace Kit.Addons
set_option autoImplicit false
open Store Master

/-- `kubeSystem`. -/
def kubeSystem : String := "kube-system"

/-- `defaultStr`. -/
def defaultStr : String := "default"

/-- `KubeProxyDaemonSetName`. -/
def kubeProxyDaemonSetName : String := "kubeproxy-daemonset"

/-- A context entry of a `kubeconfigs.Request` (`clientcmdapi.Context`). -/
structure KubeContext where
  cluster : String
  ns : String
  authInfo : String
deriving DecidableEq, Repr

/-- `authRequest`. -/
structure AuthRequest where
  name : String
  caCert : String
deriving DecidableEq, Repr

/-- `authRequest.Generate`: one `AuthInfo`, authenticating by the service-account token file. -/
def AuthRequest.generate (_ : AuthRequest) : List (String × String) :=
  [(defaultStr, "/var/run/secrets/kubernetes.io/serviceaccount/token")]

/-- `kubeconfigs.Request`. -/
structure Request where
  clusterContext : String
  clusterName : String
  ns : String
  apiServerEndpoint : String
  name : String
  authInfo : AuthRequest
  contexts : List (String × KubeContext)
deriving DecidableEq, Repr

/-- The pure helpers of packages that are not in the source, which the add-on
and the master controller call. -/
structure Helpers where
  /-- `master.APIServerLabels`. -/
  apiServerLabels : String → List (String × String)
  /-- `master.RootCASecretNameFor`. -/
  rootCASecretNameFor : String → String
  /-- `imageprovider.KubeProxy`. -/
  kubeProxyImage : String → String
  /-- The CA certificate that `secrets.Parse` reads out of a Secret. -/
  parseCACert : Object → String
  /-- The kubeconfig file the kubeconfig generator writes for a request. -/
  kubeconfigFor : Request → String

variable (h : Helpers) (cp : ControlPlane)

/-- `KubeProxyConfigNameFor`. -/
def kubeProxyConfigNameFor (clusterName : String) : String := clusterName ++ "-kubeproxy-config"

/-- `labelsForKubeProxy`. -/
def labelsForKubeProxy : List (String × String) := [("k8s-app", "kube-proxy")]

/-- `kubeConfigRequest`. -/
def kubeConfigRequest (endpoint ns : String) (auth : AuthRequest) : Request where
  clusterContext := defaultStr
  clusterName := defaultStr
  ns := ns
  apiServerEndpoint := endpoint
  name := auth.name
  authInfo := auth
  contexts := [(defaultStr, ⟨defaultStr, defaultStr, defaultStr⟩)]

/-- `authRequestFor`. -/
def authRequestFor (clusterName : String) (caSecret : Object) : AuthRequest :=
  ⟨kubeProxyConfigNameFor clusterName, h.parseCACert caSecret⟩

/-- The ServiceAccount of `serviceAccount`. -/
def serviceAccountObject : Object := ⟨⟨.serviceAccount, kubeSystem, "kube-proxy"⟩, [], []⟩

/-- The ClusterRoleBinding of `clusterRoleBinding`. -/
def clusterRoleBindingObject : Object :=
  ⟨⟨.clusterRoleBinding, "", "kit:kube-proxy"⟩,
    [("roleRef.apiGroup", "rbac.authorization.k8s.io"), ("roleRef.kind", "ClusterRole"),
      ("roleRef.name", "system:node-proxier"), ("subjects[0].kind", "ServiceAccount"),
      ("subjects[0].name", "kube-proxy"), ("subjects[0].namespace", kubeSystem)], []⟩

/-- `kubeProxyPodSpecFor`, as field paths under the pod spec. -/
def kubeProxyPodSpecFor : List (String × String) :=
  [("terminationGracePeriodSeconds", "1"), ("serviceAccountName", "kube-proxy"),
    ("hostNetwork", "true"), ("dnsPolicy", "ClusterFirst"),
    ("priorityClassName", "system-node-critical"), ("tolerations[0].operator", "Exists"),
    ("containers[0].name", "kubeproxy"),
    ("containers[0].image", h.kubeProxyImage cp.kubernetesVersion),
    ("containers[0].resources.requests.cpu", "1"),
    ("containers[0].securityContext.privileged", "true"),
    ("containers[0].command[0]", "kube-proxy"),
    ("containers[0].args[0]", "--kubeconfig=/var/lib/kube-proxy/kubeconfig"),
    ("containers[0].args[1]", "--iptables-min-sync-period=0s"),
    ("containers[0].args[2]", "--oom-score-adj=-998"),
    ("containers[0].volumeMounts[0].name", "varlog"),
    ("containers[0].volumeMounts[0].mountPath", "/var/log"),
    ("containers[0].volumeMounts[1].name", "xtables-lock"),
    ("containers[0].volumeMounts[1].mountPath", "/run/xtables.lock"),
    ("containers[0].volumeMounts[2].name", "lib-modules"),
    ("containers[0].volumeMounts[2].mountPath", "/lib/modules"),
    ("containers[0].volumeMounts[2].readOnly", "true"),
    ("containers[0].volumeMounts[3].name", "kubeproxy-kubeconfig"),
    ("containers[0].volumeMounts[3].mountPath", "/var/lib/kube-proxy"),
    ("containers[0].volumeMounts[3].readOnly", "true"),
    ("volumes[0].name", "varlog"), ("volumes[0].hostPath.path", "/var/log"),
    ("volumes[1].name", "xtables-lock"), ("volumes[1].hostPath.path", "/run/xtables.lock"),
    ("volumes[1].hostPath.type", "FileOrCreate"),
    ("volumes[2].name", "lib-modules"), ("volumes[2].hostPath.path", "/lib/modules"),
    ("volumes[3].name", "kubeproxy-kubeconfig"),
    ("volumes[3].secret.secretName", kubeProxyConfigNameFor cp.clusterName),
    ("volumes[3].secret.defaultMode", "256"), ("volumes[3].secret.items[0].key", "config"),
    ("volumes[3].secret.items[0].path", "kubeconfig")]

/-- The DaemonSet of `daemonsetForKubeProxy`. -/
def daemonSetObject : Object :=
  ⟨⟨.daemonSet, kubeSystem, kubeProxyDaemonSetName⟩,
    [("spec.updateStrategy.type", "RollingUpdate")] ++
      labelsForKubeProxy.map (fun l => ("spec.selector.matchLabels." ++ l.1, l.2)) ++
      labelsForKubeProxy.map (fun l => ("spec.template.metadata.labels." ++ l.1, l.2)) ++
      (kubeProxyPodSpecFor h cp).map (fun f => ("spec.template.spec." ++ f.1, f.2)), []⟩

/-- Modelled from the spec: the Secret that `kubeconfigs.Reconciler.ReconcileConfigFor`
keeps for a request, holding the generated kubeconfig under `config`. -/
def kubeconfigSecret (req : Request) : Object :=
  ⟨⟨.secret, req.ns, req.name⟩, [("data.config", h.kubeconfigFor req)], []⟩

/-- The key of the root CA Secret of the control plane in the substrate cluster. -/
def caSecretKey : ObjectKey := ⟨.secret, cp.ns, h.rootCASecretNameFor cp.clusterName⟩

/-- The keys of the four objects `Reconcile` applies in the guest cluster. -/
def proxyKeys : List ObjectKey :=
  [serviceAccountObject.key, clusterRoleBindingObject.key, ⟨.secret, kubeSystem, kubeProxyConfigNameFor cp.clusterName⟩,
    ⟨.daemonSet, kubeSystem, kubeProxyDaemonSetName⟩]

/-- `KubeProxy`: the client of the guest cluster and that of the substrate cluster. -/
structure KubeProxy where
  kubeClient : Client
  substrateCluster : Client

namespace KubeProxy

/-- Both servers carry out every call. -/
def reliable : KubeProxy := ⟨.reliable, .reliable⟩

variable (k : KubeProxy)

/-- `serviceAccount`. -/
def serviceAccount (guest : Store) : Except Error Store := k.kubeClient.ensurePatch guest serviceAccountObject

/-- `clusterRoleBinding`. -/
def clusterRoleBinding (guest : Store) : Except Error Store := k.kubeClient.ensureCreate guest clusterRoleBindingObject

/-- `controlPlaneCASecret`; `keypairs.Reconciler.GetSecretFromServer` is a Get of the Secret. -/
def controlPlaneCASecret (substrate : Store) : Except Error Object := k.substrateCluster.get substrate (caSecretKey h cp)

/-- `controlPlaneEndPoint`. -/
def controlPlaneEndPoint (substrate : Store) : Except Error String :=
  getClusterEndpoint (k.substrateCluster.get substrate) ⟨cp.ns, cp.clusterName⟩

/-- The reads of `kubeConfig`, up to the request it hands to the kubeconfig reconciler. -/
def kubeConfigRequestFor (substrate : Store) : Except Error Request :=
  match k.controlPlaneCASecret h cp substrate with
  | .error e => .error (.wrap "getting ca certificate, " e)
  | .ok caSecret =>
    match k.controlPlaneEndPoint cp substrate with
    | .error e => .error (.wrap "getting cluster endpoint, " e)
    | .ok endpoint => .ok (kubeConfigRequest endpoint kubeSystem (authRequestFor h cp.clusterName caSecret))

/-- Modelled from the spec: `kubeconfigs.Reconciler.ReconcileConfigFor` with no
owner, which applies the kubeconfig Secret with `EnsurePatch` through the guest client. -/
def reconcileConfigFor (guest : Store) (req : Request) : Except Error Store :=
  k.kubeClient.ensurePatch guest (kubeconfigSecret h req)

/-- `kubeConfig`. -/
def kubeConfig (substrate guest : Store) : Except Error Store :=
  match k.kubeConfigRequestFor h cp substrate with
  | .error e => .error e
  | .ok req =>
    match k.reconcileConfigFor h guest req with
    | .error e => .error (.wrap "reconciling kubeconfig for kube-proxy, " e)
    | .ok guest' => .ok guest'

/-- `daemonsetForKubeProxy`. -/
def daemonsetForKubeProxy (guest : Store) : Except Error Store := k.kubeClient.ensurePatch guest (daemonSetObject h cp)

/-- The resource steps of `Reconcile`, in its order. -/
def reconcileProxyResources (substrate : Store) : List (Store → Except Error Store) :=
  [k.serviceAccount, k.clusterRoleBinding, k.kubeConfig h cp substrate, k.daemonsetForKubeProxy h cp]

end KubeProxy

/-- The loop of `Reconcile`: each step in turn, stopping at the first error. The
guest store the steps reached comes back with the outcome, so the writes of the
steps before a failing one are kept. -/
def runSteps : List (Store → Except Error Store) → Store → Except Error Unit × Store
  | [], guest => (.ok (), guest)
  | f :: fs, guest =>
    match f guest with
    | .error e => (.error e, guest)
    | .ok guest' => runSteps fs guest'

/-- `KubeProxy.Reconcile`: the guest store is written, the substrate store only read. -/
def KubeProxy.reconcile (k : KubeProxy) (substrate guest : Store) : Except Error Unit × Store :=
  runSteps (k.reconcileProxyResources h cp substrate) guest

/-- `controlPlaneEndPoint` through a substrate server that carries out every call. -/
def controlPlaneEndPoint (substrate : Store) : Except Error String := KubeProxy.reliable.controlPlaneEndPoint cp substrate

/-- The reads of `kubeConfig` through a substrate server that carries out every call. -/
def kubeConfigRequestFor (substrate : Store) : Except Error Request :=
  KubeProxy.reliable.kubeConfigRequestFor h cp substrate

/-- `ReconcileConfigFor` through a guest server that carries out every call. -/
def reconcileConfigFor (guest : Store) (req : Request) : Except Error Store :=
  KubeProxy.reliable.reconcileConfigFor h guest req

/-- `kubeConfig` with servers that carry out every call. -/
def kubeConfig (substrate guest : Store) : Except Error Store := KubeProxy.reliable.kubeConfig h cp substrate guest

/-- The apply primitives a run makes once the reads have given `req`. -/
def proxyApplies (req : Request) : List Apply :=
  [.patch serviceAccountObject, .create clusterRoleBindingObject, .patch (kubeconfigSecret h req),
    .patch (daemonSetObject h cp)]

theorem proxyApplies_keys_nodup (req : Request) : (keys (proxyApplies h cp req)).Nodup := by
  simp [keys, proxyApplies, Apply.obj, serviceAccountObject, clusterRoleBindingObject,
    kubeconfigSecret, daemonSetObject]

variable {h cp} {k : KubeProxy}

section Run

variable {g g₁ : Store} {f : Store → Except Error Store} {fs : List (Store → Except Error Store)}

theorem runSteps_cons_of_ok (hf : f g = .ok g₁) : runSteps (f :: fs) g = runSteps fs g₁ := by
  simp [runSteps, hf]

theorem runSteps_cons_of_error {e : Error} (hf : f g = .error e) : runSteps (f :: fs) g = (.error e, g) := by
  simp [runSteps, hf]

/-- An outcome that fails with the errors of `x`, and only those, succeeds when `x` does. -/
theorem ok_iff_of_error_iff {β : Type} {r : Except Error Unit} {x : Except Error β}
    (h : ∀ e, r = .error e ↔ x = .error e) : r = .ok () ↔ ∃ b, x = .ok b := by
  rcases r with e | ⟨⟩ <;> cases x <;> simp_all

/-- A run of steps none of which touches `key` leaves it as it was. -/
theorem find_runSteps {key : ObjectKey} (hfs : ∀ f ∈ fs, ∀ g g', f g = .ok g' → g'.find key = g.find key) (g : Store) :
    (runSteps fs g).2.find key = g.find key := by
  induction fs generalizing g with
  | nil => rfl
  | cons f fs ih =>
    cases hf : f g with
    | error e => rw [runSteps_cons_of_error hf]
    | ok g₁ =>
      rw [runSteps_cons_of_ok hf, ih (fun f' hf' => hfs f' (List.mem_cons_of_mem _ hf')) g₁,
        hfs f (List.mem_cons_self _ _) g g₁ hf]

/-- **Failing steps only cut a run short.** When every step of `fs` that succeeds
does what the matching step of `gs` does, the run of `fs` reaches the store that
a prefix of the run of `gs` reaches, and when it succeeds it is the run of `gs`. -/
theorem runSteps_prefix {gs : List (Store → Except Error Store)}
    (hfg : List.Forall₂ (fun f f' => ∀ s s', f s = .ok s' → f' s = .ok s') fs gs) (g : Store) :
    ∃ j, (runSteps fs g).2 = (runSteps (gs.take j) g).2 ∧
      ((runSteps fs g).1 = .ok () → runSteps fs g = runSteps gs g) := by
  induction hfg generalizing g with
  | nil => exact ⟨0, rfl, fun _ => rfl⟩
  | @cons f₀ f₀' fs₀ gs₀ hstep _ ih =>
    cases hf : f₀ g with
    | error e =>
      rw [runSteps_cons_of_error hf]
      exact ⟨0, rfl, fun h => nomatch h⟩
    | ok g₁ =>
      obtain ⟨j, hj, hok⟩ := ih g₁
      rw [runSteps_cons_of_ok hf, runSteps_cons_of_ok (hstep g g₁ hf)]
      exact ⟨j + 1, by rw [List.take_succ_cons, runSteps_cons_of_ok (hstep g g₁ hf), hj], hok⟩

end Run

section Steps

variable {substrate g g' : Store} {req : Request}

theorem KubeProxy.kubeConfigRequestFor_eq_ok_iff :
    k.kubeConfigRequestFor h cp substrate = .ok req ↔
      ∃ ca endpoint, k.controlPlaneCASecret h cp substrate = .ok ca ∧
        k.controlPlaneEndPoint cp substrate = .ok endpoint ∧
        req = kubeConfigRequest endpoint kubeSystem (authRequestFor h cp.clusterName ca) := by
  unfold KubeProxy.kubeConfigRequestFor
  split
  · rename_i e he; simp [he]
  · rename_i ca hca
    split
    · rename_i e he; simp [hca, he]
    · rename_i endpoint he; simp [hca, he, eq_comm]

theorem KubeProxy.kubeConfig_eq_ok_iff :
    k.kubeConfig h cp substrate g = .ok g' ↔
      ∃ req, k.kubeConfigRequestFor h cp substrate = .ok req ∧
        (Apply.patch (kubeconfigSecret h req)).runWith k.kubeClient g = .ok g' := by
  unfold KubeProxy.kubeConfig
  split
  · rename_i e he; simp [he]
  · rename_i req hr
    simp only [hr, Except.ok.injEq, exists_eq_left', Apply.runWith, KubeProxy.reconcileConfigFor]
    split <;> simp_all

/-- The request names the Secret `kube-system/<cluster>-kubeproxy-config`. -/
theorem kubeconfigSecret_key (hr : k.kubeConfigRequestFor h cp substrate = .ok req) :
    (kubeconfigSecret h req).key = ⟨.secret, kubeSystem, kubeProxyConfigNameFor cp.clusterName⟩ := by
  obtain ⟨ca, endpoint, -, -, rfl⟩ := KubeProxy.kubeConfigRequestFor_eq_ok_iff.1 hr
  rfl

/-- Reads that succeed through any substrate client read what the reliable client reads. -/
theorem kubeConfigRequestFor_of_ok (hr : k.kubeConfigRequestFor h cp substrate = .ok req) :
    kubeConfigRequestFor h cp substrate = .ok req := by
  obtain ⟨ca, endpoint, hca, he, rfl⟩ := KubeProxy.kubeConfigRequestFor_eq_ok_iff.1 hr
  obtain ⟨svc, i, rest, hs, hi, rfl⟩ := getClusterEndpoint_eq_ok_iff.1 he
  exact KubeProxy.kubeConfigRequestFor_eq_ok_iff.2
    ⟨ca, _, Client.get_eq_ok hca, getClusterEndpoint_eq_ok_iff.2 ⟨svc, i, rest, Client.get_eq_ok hs, hi, rfl⟩, rfl⟩

/-- Through a substrate server that fails none of their calls, the reads are the reliable ones. -/
theorem kubeConfigRequestFor_of_carriesOut
    (hc : k.substrateCluster.CarriesOut [serviceKey ⟨cp.ns, cp.clusterName⟩, caSecretKey h cp]) :
    k.kubeConfigRequestFor h cp substrate = kubeConfigRequestFor h cp substrate := by
  have hget : ∀ key ∈ [serviceKey ⟨cp.ns, cp.clusterName⟩, caSecretKey h cp],
      k.substrateCluster.get substrate key = substrate.get key := fun key hk => by
    simp [Client.get, hc .get key hk]
  simp only [kubeConfigRequestFor, KubeProxy.kubeConfigRequestFor, KubeProxy.controlPlaneCASecret,
    KubeProxy.controlPlaneEndPoint, getClusterEndpoint, hget _ (List.mem_cons_self _ _),
    hget _ (List.mem_cons_of_mem _ (List.mem_singleton_self _))]
  rfl

/-- Through a guest server that never claims on its own that an object exists,
each step that succeeds does what the reliable step does. -/
theorem reconcileProxyResources_refine (hc : k.kubeClient.Honest) (substrate : Store) :
    List.Forall₂ (fun f f' => ∀ s s', f s = .ok s' → f' s = .ok s')
      (k.reconcileProxyResources h cp substrate) (KubeProxy.reliable.reconcileProxyResources h cp substrate) := by
  refine .cons (fun _ _ => Apply.run_of_runWith (a := .patch serviceAccountObject) hc)
    (.cons (fun _ _ => Apply.run_of_runWith (a := .create clusterRoleBindingObject) hc)
      (.cons (fun s s' hs => ?_) (.cons (fun _ _ => Apply.run_of_runWith (a := .patch (daemonSetObject h cp)) hc) .nil)))
  obtain ⟨req, hr, hs⟩ := KubeProxy.kubeConfig_eq_ok_iff.1 hs
  exact KubeProxy.kubeConfig_eq_ok_iff.2 ⟨req, kubeConfigRequestFor_of_ok hr, Apply.run_of_runWith hc hs⟩

/-- No step of `Reconcile` touches a key outside `proxyKeys`, whatever the servers answer. -/
theorem reconcileProxyResources_frame (substrate : Store) {key : ObjectKey} (hk : key ∉ proxyKeys cp) :
    ∀ f ∈ k.reconcileProxyResources h cp substrate, ∀ g g', f g = .ok g' → g'.find key = g.find key := by
  simp only [proxyKeys, List.mem_cons, List.mem_singleton, not_or, List.not_mem_nil, not_false_eq_true, and_true] at hk
  simp only [KubeProxy.reconcileProxyResources, List.mem_cons, List.mem_singleton, forall_eq_or_imp, forall_eq,
    List.not_mem_nil, false_imp_iff, implies_true, and_true]
  refine ⟨fun _ _ hg => Apply.find_runWith_of_ne (a := .patch serviceAccountObject) hg (Ne.symm hk.1),
    fun _ _ hg => Apply.find_runWith_of_ne (a := .create clusterRoleBindingObject) hg (Ne.symm hk.2.1),
    fun _ _ hg => ?_, fun _ _ hg => Apply.find_runWith_of_ne (a := .patch (daemonSetObject h cp)) hg (Ne.symm hk.2.2.2)⟩
  obtain ⟨req, hr, hs⟩ := KubeProxy.kubeConfig_eq_ok_iff.1 hg
  exact Apply.find_runWith_of_ne hs (by rw [Apply.obj, kubeconfigSecret_key hr]; exact Ne.symm hk.2.2.1)

/-- Through a guest server that fails no call on the four keys, the two steps
before the kubeconfig succeed; `Reconcile` then stops with the reads' error, or
goes on through all four apply primitives. -/
theorem reconcile_of_carriesOut (hc : k.kubeClient.CarriesOut (proxyKeys cp)) (substrate g : Store) :
    (∀ e, k.kubeConfigRequestFor h cp substrate = .error e →
      ∃ g₂, runAll [.patch serviceAccountObject, .create clusterRoleBindingObject] g = .ok g₂ ∧
        k.reconcile h cp substrate g = (.error e, g₂)) ∧
    ∀ req, k.kubeConfigRequestFor h cp substrate = .ok req →
      ∃ g', runAll (proxyApplies h cp req) g = .ok g' ∧ k.reconcile h cp substrate g = (.ok (), g') := by
  have hrel : ∀ (a : Apply) (s : Store), a.obj.key ∈ proxyKeys cp → a.runWith k.kubeClient s = a.run s :=
    fun a s ha => Apply.runWith_of_carriesOut fun v => hc v _ ha
  obtain ⟨g₁, h₁⟩ := (Apply.patch serviceAccountObject).run_ok g
  obtain ⟨g₂, h₂⟩ := (Apply.create clusterRoleBindingObject).run_ok g₁
  have hsa : k.serviceAccount g = .ok g₁ := (hrel _ g (by simp [proxyKeys, Apply.obj])).trans h₁
  have hcrb : k.clusterRoleBinding g₁ = .ok g₂ := (hrel _ g₁ (by simp [proxyKeys, Apply.obj])).trans h₂
  refine ⟨fun e hr => ⟨g₂, by simp only [runAll, h₁, h₂], ?_⟩, fun req hr => ?_⟩
  · have hkc : k.kubeConfig h cp substrate g₂ = .error e := by simp [KubeProxy.kubeConfig, hr]
    rw [KubeProxy.reconcile, KubeProxy.reconcileProxyResources, runSteps_cons_of_ok hsa, runSteps_cons_of_ok hcrb,
      runSteps_cons_of_error hkc]
  · have hsec : (kubeconfigSecret h req).key ∈ proxyKeys cp := by simp [kubeconfigSecret_key hr, proxyKeys]
    obtain ⟨g₃, h₃⟩ := (Apply.patch (kubeconfigSecret h req)).run_ok g₂
    obtain ⟨g₄, h₄⟩ := (Apply.patch (daemonSetObject h cp)).run_ok g₃
    have hkc : k.kubeConfig h cp substrate g₂ = .ok g₃ :=
      KubeProxy.kubeConfig_eq_ok_iff.2 ⟨req, hr, (hrel (.patch (kubeconfigSecret h req)) g₂ hsec).trans h₃⟩
    have hds : k.daemonsetForKubeProxy h cp g₃ = .ok g₄ :=
      (hrel (.patch (daemonSetObject h cp)) g₃ (by simp [proxyKeys, Apply.obj, daemonSetObject])).trans h₄
    refine ⟨g₄, by simp only [proxyApplies, runAll, h₁, h₂, h₃, h₄], ?_⟩
    rw [KubeProxy.reconcile, KubeProxy.reconcileProxyResources, runSteps_cons_of_ok hsa, runSteps_cons_of_ok hcrb,
      runSteps_cons_of_ok hkc, runSteps_cons_of_ok hds]
    rfl

/-- **What a successful run is**, with servers that carry out every call. The
reads succeed with a request, and the steps are the four apply primitives of
`proxyApplies` in order. -/
theorem reliable_reconcile_eq_ok_iff :
    KubeProxy.reliable.reconcile h cp substrate g = (.ok (), g') ↔
      ∃ req, kubeConfigRequestFor h cp substrate = .ok req ∧ runAll (proxyApplies h cp req) g = .ok g' := by
  obtain ⟨herr, hok⟩ := reconcile_of_carriesOut (k := .reliable) (Client.reliable_carriesOut _) substrate g
  rcases hr : kubeConfigRequestFor h cp substrate with e | req
  · obtain ⟨g₂, -, he⟩ := herr e hr
    simp [he]
  · obtain ⟨g₄, h₄, he⟩ := hok req hr
    rw [he]
    constructor
    · rintro ⟨⟩
      exact ⟨req, rfl, h₄⟩
    · rintro ⟨req', ⟨⟩, h'⟩
      rw [h₄] at h'
      cases h'
      rfl

/-- Through a guest server that fails no call on the four keys, `Reconcile` fails
exactly when the reads fail, and with their error; the ServiceAccount and the
ClusterRoleBinding are in place either way, and all four objects once the reads
succeed. -/
theorem reconcile_outcome_of_carriesOut (hc : k.kubeClient.CarriesOut (proxyKeys cp)) (substrate g : Store) :
    (∀ e, (k.reconcile h cp substrate g).1 = .error e ↔ k.kubeConfigRequestFor h cp substrate = .error e) ∧
      (Apply.patch serviceAccountObject).Holds (k.reconcile h cp substrate g).2 ∧
      (Apply.create clusterRoleBindingObject).Holds (k.reconcile h cp substrate g).2 ∧
      ∀ req, k.kubeConfigRequestFor h cp substrate = .ok req →
        ∀ a ∈ proxyApplies h cp req, a.Holds (k.reconcile h cp substrate g).2 := by
  obtain ⟨herr, hok⟩ := reconcile_of_carriesOut hc substrate g
  rcases hr : k.kubeConfigRequestFor h cp substrate with e | req
  · obtain ⟨g₂, h₂, he⟩ := herr e hr
    have hold := runAll_holds (by simp [keys, Apply.obj, serviceAccountObject, clusterRoleBindingObject]) h₂
    rw [he]
    exact ⟨fun e' => by simp, hold _ (List.mem_cons_self _ _), hold _ (List.mem_cons_of_mem _ (List.mem_singleton_self _)),
      fun _ hreq => nomatch hreq⟩
  · obtain ⟨g', h', he⟩ := hok req hr
    have hold := runAll_holds (proxyApplies_keys_nodup h cp req) h'
    rw [he]
    refine ⟨fun e => by simp, hold _ (List.mem_cons_self _ _),
      hold _ (List.mem_cons_of_mem _ (List.mem_cons_self _ _)), fun req' hreq' => ?_⟩
    cases hreq'
    exact hold

end Steps

/-- **From any guest store, whatever the servers answer.** `Reconcile` changes no
object of the guest cluster but the ServiceAccount, the ClusterRoleBinding, the
kubeconfig Secret and the DaemonSet. Through a guest server that never claims on
its own that an object exists, failures only cut the run short: the guest store
it leaves is the one the run with servers that carry out every call reaches
after some of its steps, and when it returns `nil` it is that run. Through a
guest server that fails no call on the four objects, it fails exactly when the
reads of the substrate cluster fail, and with their error; the ServiceAccount
and the ClusterRoleBinding are in place either way, and once the reads succeed
all four objects are, with their desired fields. -/
theorem reconcile_any_guest (k : KubeProxy) (substrate g : Store) :
    (∀ key ∉ proxyKeys cp, (k.reconcile h cp substrate g).2.find key = g.find key) ∧
      (k.kubeClient.Honest →
        ∃ j, (k.reconcile h cp substrate g).2 =
            (runSteps ((KubeProxy.reliable.reconcileProxyResources h cp substrate).take j) g).2 ∧
          ((k.reconcile h cp substrate g).1 = .ok () →
            k.reconcile h cp substrate g = KubeProxy.reliable.reconcile h cp substrate g)) ∧
      (k.kubeClient.CarriesOut (proxyKeys cp) →
        (∀ e, (k.reconcile h cp substrate g).1 = .error e ↔ k.kubeConfigRequestFor h cp substrate = .error e) ∧
          (Apply.patch serviceAccountObject).Holds (k.reconcile h cp substrate g).2 ∧
          (Apply.create clusterRoleBindingObject).Holds (k.reconcile h cp substrate g).2 ∧
          ∀ req, k.kubeConfigRequestFor h cp substrate = .ok req →
            ∀ a ∈ proxyApplies h cp req, a.Holds (k.reconcile h cp substrate g).2) :=
  ⟨fun _ hk => find_runSteps (reconcileProxyResources_frame substrate hk) g,
    fun hc => runSteps_prefix (reconcileProxyResources_refine hc substrate) g,
    fun hc => reconcile_outcome_of_carriesOut hc substrate g⟩

/-- A Service whose first ingress point has an IP and no hostname gives the empty
endpoint with no error, and the kubeconfig reconciler is handed a request with it. -/
theorem kubeConfig_empty_endpoint {substrate : Store} {ca svc : Object} {ip : String}
    {rest : List LoadBalancerIngress} (hca : substrate.find (caSecretKey h cp) = some ca)
    (hsvc : substrate.find (serviceKey ⟨cp.ns, cp.clusterName⟩) = some svc)
    (hi : svc.ingress = ⟨"", ip⟩ :: rest) :
    controlPlaneEndPoint cp substrate = .ok "" ∧
      ∃ req, req.apiServerEndpoint = "" ∧ kubeConfigRequestFor h cp substrate = .ok req ∧
        ∀ g g', kubeConfig h cp substrate g = .ok g' ↔ reconcileConfigFor h g req = .ok g' := by
  have he : controlPlaneEndPoint cp substrate = .ok "" :=
    getClusterEndpoint_eq_ok_iff.2 ⟨svc, _, rest, get_of_find_some hsvc, hi, rfl⟩
  have hr : kubeConfigRequestFor h cp substrate =
      .ok (kubeConfigRequest "" kubeSystem (authRequestFor h cp.clusterName ca)) :=
    KubeProxy.kubeConfigRequestFor_eq_ok_iff.2 ⟨ca, "", get_of_find_some hca, he, rfl⟩
  refine ⟨he, _, rfl, hr, fun g g' => (KubeProxy.kubeConfig_eq_ok_iff (k := .reliable)).trans
    ⟨fun ⟨req, hreq, hs⟩ => ?_, fun hs => ⟨_, hr, hs⟩⟩⟩
  cases hr.symm.trans hreq
  exact hs

/-- The control plane `default/demo`. -/
def demoControlPlane : ControlPlane := ⟨"demo", "default", "u1", "demo", "v1.21"⟩

/-- Helpers for runs on concrete stores: labels, CA name, image, CA and kubeconfig texts. -/
def demoHelpers : Helpers :=
  ⟨fun _ => [], fun n => n ++ "-ca", fun v => "kube-proxy:" ++ v, fun _ => "CA", fun r => r.apiServerEndpoint⟩

/-- A substrate cluster whose Service has an IP-only ingress point, with the root CA Secret. -/
def ipOnlySubstrate : Store :=
  ⟨[⟨⟨.service, "default", "demo-cp"⟩, [], [⟨"", "203.0.113.10"⟩]⟩, ⟨⟨.secret, "default", "demo-ca"⟩, [], []⟩],
    by decide⟩

theorem kubeConfig_empty_endpoint_demo :
    ipOnlySubstrate.find (caSecretKey demoHelpers demoControlPlane) = some ⟨⟨.secret, "default", "demo-ca"⟩, [], []⟩ ∧
      ipOnlySubstrate.find (serviceKey ⟨demoControlPlane.ns, demoControlPlane.clusterName⟩) =
        some ⟨⟨.service, "default", "demo-cp"⟩, [], [⟨"", "203.0.113.10"⟩]⟩ ∧
      controlPlaneEndPoint demoControlPlane ipOnlySubstrate = .ok "" ∧
      ∃ req, req.apiServerEndpoint = "" ∧ kubeConfigRequestFor demoHelpers demoControlPlane ipOnlySubstrate = .ok req ∧
        ∀ g g', kubeConfig demoHelpers demoControlPlane ipOnlySubstrate g = .ok g' ↔
          reconcileConfigFor demoHelpers g req = .ok g' :=
  ⟨rfl, rfl, kubeConfig_empty_endpoint rfl rfl rfl⟩

end Kit.Addons
