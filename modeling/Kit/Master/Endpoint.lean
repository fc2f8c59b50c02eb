import Kit.Store.Apply

/-!
# The API-server endpoint (`master/endpoint.go`)

`reconcileEndpoint` ensures the load-balancer Service `<namespace>/<cluster>-cp`
in the substrate cluster; `GetClusterEndpoint` reads it back and returns the
hostname of its first ingress point, or an error wrapping
`WaitingForSubResources` while the Service is absent or has no ingress point.
The client `GetClusterEndpoint` reads through is any function from keys to Get
results, so that every answer of the store, failures included, is covered.
`reconcileEndpoint` writes through a `Client`, whose server may fail the call.
-/

namespace Kit
set_option autoImplicit false
open Store

/-- The fields of a `v1alpha1.ControlPlane` that the modelled code reads. -/
structure ControlPlane where
  name : String
  ns : String
  uid : String
  /-- What `controlPlane.ClusterName()` returns. -/
  clusterName : String
  /-- `Spec.KubernetesVersion`. -/
  kubernetesVersion : String
deriving DecidableEq, Repr

/-- `types.NamespacedName`. -/
structure NamespacedName where
  ns : String
  name : String
deriving DecidableEq, Repr

/-- Modelled from the spec: `object.WithOwner`, which gives the object one owner
reference, to the control plane. -/
def withOwner (cp : ControlPlane) (fields : List (String × String)) : List (String × String) :=
  fields ++ [("metadata.ownerReferences[0].kind", "ControlPlane"),
    ("metadata.ownerReferences[0].name", cp.name), ("metadata.ownerReferences[0].uid", cp.uid),
    ("metadata.ownerReferences[0].controller", "true")]

namespace Master

/-- `ServiceNameFor`. -/
def serviceNameFor (clusterName : String) : String := clusterName ++ "-cp"

/-- `apiserverPortName`. -/
def apiserverPortName (clusterName : String) : String := serviceNameFor clusterName ++ "-port"

/-- The key of the API-server Service of a cluster. -/
def serviceKey (nn : NamespacedName) : ObjectKey := ⟨.service, nn.ns, serviceNameFor nn.name⟩

/-- The Service that `reconcileEndpoint` ensures; `apiServerLabels` is
`APIServerLabels`, of a file that is not in the source. -/
def endpointService (apiServerLabels : String → List (String × String)) (cp : ControlPlane) : Object where
  key := serviceKey ⟨cp.ns, cp.clusterName⟩
  fields := withOwner cp <|
    [("metadata.annotations.service.beta.kubernetes.io/aws-load-balancer-scheme", "internet-facing"),
      ("metadata.annotations.service.beta.kubernetes.io/aws-load-balancer-type", "nlb-ip"),
      ("metadata.annotations.service.beta.kubernetes.io/aws-load-balancer-target-group-attributes",
        "stickiness.enabled=true,stickiness.type=source_ip"),
      ("spec.type", "LoadBalancer")] ++
    (apiServerLabels cp.clusterName).map (fun l => ("spec.selector." ++ l.1, l.2)) ++
    [("spec.ports[0].port", "443"), ("spec.ports[0].name", apiserverPortName cp.clusterName),
      ("spec.ports[0].targetPort", "443"), ("spec.ports[0].protocol", "TCP")]
  ingress := []

/-- `Controller.reconcileEndpoint`, through the controller's client `kubeClient`
of the substrate cluster. -/
def reconcileEndpoint (kubeClient : Client) (apiServerLabels : String → List (String × String)) (cp : ControlPlane)
    (substrate : Store) : Except Error Store :=
  kubeClient.ensureCreate substrate (endpointService apiServerLabels cp)

/-- `GetClusterEndpoint`: `get` is `client.Get` of the client it is given. -/
def getClusterEndpoint (get : ObjectKey → Except Error Object) (nn : NamespacedName) : Except Error String :=
  match get (serviceKey nn) with
  | .error e =>
    if e.isNotFound then .error (.wrap "getting control plane endpoint, " .waitingForSubResources)
    else .error (.wrap "getting cluster endpoint, " e)
  | .ok svc =>
    match svc.ingress with
    | i :: _ => .ok i.hostname
    | [] => .error (.wrap "endpoint name, " .waitingForSubResources)

variable {get : ObjectKey → Except Error Object} {nn : NamespacedName}

/-- The endpoint is the hostname of the Service's first ingress point, whatever it is. -/
theorem getClusterEndpoint_eq_ok_iff {endpoint : String} :
    getClusterEndpoint get nn = .ok endpoint ↔
      ∃ svc i rest, get (serviceKey nn) = .ok svc ∧ svc.ingress = i :: rest ∧ endpoint = i.hostname := by
  unfold getClusterEndpoint
  split
  · rename_i e he
    split <;> simp [he]
  · rename_i svc hs
    split
    · rename_i i rest hi; simp [hs, hi, @eq_comm _ endpoint]
    · rename_i hi; simp [hs, hi]

/-- The three ways `GetClusterEndpoint` fails, with the errors it returns. -/
theorem getClusterEndpoint_eq_error_iff {e : Error} :
    getClusterEndpoint get nn = .error e ↔
      (∃ e₀, get (serviceKey nn) = .error e₀ ∧ e₀.isNotFound = true ∧
        e = .wrap "getting control plane endpoint, " .waitingForSubResources) ∨
      (∃ e₀, get (serviceKey nn) = .error e₀ ∧ e₀.isNotFound = false ∧ e = .wrap "getting cluster endpoint, " e₀) ∨
      (∃ svc, get (serviceKey nn) = .ok svc ∧ svc.ingress = [] ∧
        e = .wrap "endpoint name, " .waitingForSubResources) := by
  unfold getClusterEndpoint
  split
  · rename_i e₀ he
    cases hn : e₀.isNotFound <;> simp [he, hn, @eq_comm _ e]
  · rename_i svc hs
    split
    · rename_i i rest hi; simp [hs, hi]
    · rename_i hi; simp [hs, hi, @eq_comm _ e]

/-- The failure is classified as waiting exactly when the Service is absent or
has no ingress point yet, as long as no answer of the store is itself a waiting
error (a store's answers never are). -/
theorem getClusterEndpoint_waiting_iff {e : Error} (h : getClusterEndpoint get nn = .error e)
    (hget : ∀ e₀, get (serviceKey nn) = .error e₀ → e₀.is .waitingForSubResources = false) :
    e.is .waitingForSubResources = true ↔
      (∃ e₀, get (serviceKey nn) = .error e₀ ∧ e₀.isNotFound = true) ∨
      (∃ svc, get (serviceKey nn) = .ok svc ∧ svc.ingress = []) := by
  rcases getClusterEndpoint_eq_error_iff.1 h with ⟨e₀, he, hn, rfl⟩ | ⟨e₀, he, hn, rfl⟩ | ⟨svc, hs, hi, rfl⟩
  · simp [he, hn]
  · simp [he, hn, hget e₀ he]
  · simp [hs, hi]

/-- A substrate whose Service has no load-balancer address yet. -/
def serviceUnassigned (k : ObjectKey) : Except Error Object := .ok ⟨k, [], []⟩

theorem getClusterEndpoint_waiting_iff_unassigned :
    getClusterEndpoint serviceUnassigned ⟨"default", "demo"⟩ = .error (.wrap "endpoint name, " .waitingForSubResources) ∧
      (∀ e₀, serviceUnassigned (serviceKey ⟨"default", "demo"⟩) = .error e₀ → e₀.is .waitingForSubResources = false) ∧
      ((Error.wrap "endpoint name, " .waitingForSubResources).is .waitingForSubResources = true ↔
        (∃ e₀, serviceUnassigned (serviceKey ⟨"default", "demo"⟩) = .error e₀ ∧ e₀.isNotFound = true) ∨
        (∃ svc, serviceUnassigned (serviceKey ⟨"default", "demo"⟩) = .ok svc ∧ svc.ingress = [])) :=
  have hget : ∀ e₀, serviceUnassigned (serviceKey ⟨"default", "demo"⟩) = .error e₀ →
      e₀.is .waitingForSubResources = false := fun _ he => nomatch he
  ⟨rfl, hget, getClusterEndpoint_waiting_iff rfl hget⟩

end Master

end Kit
