import Kit.Cluster.Walk
import Kit.Cluster.Delete

/-!
# Building and uploading the cluster configuration (`Config.Create`)

`Config.Create` requeues until the substrate has an address; it then makes the
bucket, generates the certificates, kubeconfigs, static pod manifests, kubelet
unit and authenticator files under the staging directory, uploads that
directory with `UploadWithIterator` over `NewDirectoryIterator`, and records the
kubeconfig path in the substrate's status. Each helper returns at its first
failing call, with the call's error wrapped in the helper's text, and `Create`
wraps a helper's error in its own; a failed `Create` records nothing
(`create_err`).

The calls into kubeadm, STS, the authenticator and the file system are the
environment (`CreateEnv`): how each ends is an input. What those calls write
into the staging directory is not followed; the tree the walk sees is an input
too, with any entry unreadable.

`NewDirectoryIterator` drops the walk's error, and `UploadWithIterator` does not
read `Err()`: a walk stopped by an unreadable entry leaves the files after it out
of the upload, and `Create` still returns `nil` and records the kubeconfig
(`create_ok_with_file_left_out`). On every path, what `Create` uploads is a file
of the staging tree, to the bucket of its name (`create_uploads_staging_files`).
-/

namespace Kit.Cluster
set_option autoImplicit false

/-- How `os.Stat` of the kubelet unit directory ends. -/
inductive StatOutcome where
  | found
  | notExist
  | failed (e : Error)

/-- How each call of `Create` other than the walk, the opens and the uploads ends. -/
structure CreateEnv where
  createBucket : Option AwsError
  certTree : Option Error
  createCertTree : Option Error
  serviceAccountKeys : Option Error
  createKubeConfigFile : String → Option Error
  etcdManifest : Option Error
  staticPodFile : String → Option Error
  statKubeletDir : StatOutcome
  mkdirKubeletDir : Option Error
  writeKubeletService : Option Error
  callerIdentity : Option Error
  authenticatorConfig : Option Error
  mkdirAuthenticatorDir : Option Error
  writeAuthenticatorConfig : Option Error
  marshalPod : Option Error
  writeAuthenticatorPod : Option Error

/-- A call a helper makes, and the text it wraps the call's error in with
`fmt.Errorf(pre + "%w", err)`; `none` when it returns the error as it is. -/
structure Check where
  pre : Option String
  out : Option Error

/-- The error a helper returns for a failed call. -/
def Check.err (c : Check) : Option Error :=
  c.out.map fun e => match c.pre with
    | some p => .wrap p e
    | none => e

/-- Calls made in order, returning at the first error. -/
def firstError (cs : List Check) : Option Error := cs.findSome? Check.err

/-- `ensureBucket`: a bucket we already own is no error. -/
def ensureBucket (env : CreateEnv) : Option Error :=
  match env.createBucket with
  | some e => if e.code ≠ "BucketAlreadyOwnedByYou" then some (.wrap "creating S3 bucket, " e.toError) else none
  | none => none

/-- `generateCerts`. -/
def generateCerts (env : CreateEnv) : Option Error :=
  firstError [⟨none, env.certTree⟩, ⟨some "error creating cert tree, ", env.createCertTree⟩, ⟨none, env.serviceAccountKeys⟩]

/-- kubeadm's `AdminKubeConfigFileName`, `KubeletKubeConfigFileName`,
`ControllerManagerKubeConfigFileName` and `SchedulerKubeConfigFileName`. -/
def kubeConfigFileNames : List String := ["admin.conf", "kubelet.conf", "controller-manager.conf", "scheduler.conf"]

/-- `kubeConfigs`. -/
def kubeConfigs (env : CreateEnv) : Option Error :=
  firstError (kubeConfigFileNames.map fun n => ⟨some ("creating " ++ n ++ ", "), env.createKubeConfigFile n⟩)

/-- kubeadm's `KubeAPIServer`, `KubeControllerManager` and `KubeScheduler`. -/
def staticPodComponents : List String := ["kube-apiserver", "kube-controller-manager", "kube-scheduler"]

/-- `generateStaticPodManifests`. -/
def generateStaticPodManifests (env : CreateEnv) : Option Error :=
  firstError (⟨some "error creating local etcd static pod manifest file ", env.etcdManifest⟩ ::
    staticPodComponents.map fun n => ⟨some ("creating static pod file for " ++ n ++ ", "), env.staticPodFile n⟩)

/-- `kubeletSystemService`: a missing directory is made first. -/
def kubeletSystemService (env : CreateEnv) : Option Error :=
  match env.statKubeletDir with
  | .failed e => some e
  | .notExist => firstError [⟨none, env.mkdirKubeletDir⟩, ⟨some "writing kubelet configuration, ", env.writeKubeletService⟩]
  | .found => firstError [⟨some "writing kubelet configuration, ", env.writeKubeletService⟩]

/-- `ensureAuthenticatorConfig`. -/
def ensureAuthenticatorConfig (env : CreateEnv) : Option Error :=
  firstError [⟨some "getting caller identity, ", env.callerIdentity⟩,
    ⟨some "creating authenticator config, ", env.authenticatorConfig⟩,
    ⟨some "failed to create directory, ", env.mkdirAuthenticatorDir⟩,
    ⟨some "writing authenticator config, ", env.writeAuthenticatorConfig⟩]

/-- `staticPodSpecForAuthenticator`. -/
def staticPodSpecForAuthenticator (env : CreateEnv) : Option Error :=
  firstError [⟨some "failed to marshal config map manifest, ", env.marshalPod⟩,
    ⟨some "writing authenticator pod yaml, ", env.writeAuthenticatorPod⟩]

/-- The part of `Create` before the upload: each helper in order, its error
wrapped in `Create`'s text for it. -/
def generateConfig (env : CreateEnv) : Option Error :=
  firstError [⟨some "ensuring S3 bucket, ", ensureBucket env⟩, ⟨some "generating certs, ", generateCerts env⟩,
    ⟨some "generating kube config, ", kubeConfigs env⟩, ⟨some "generating manifests, ", generateStaticPodManifests env⟩,
    ⟨some "generating kubelet service config, ", kubeletSystemService env⟩,
    ⟨some "generating authenticator config, ", ensureAuthenticatorConfig env⟩,
    ⟨some "generating authenticator config, ", staticPodSpecForAuthenticator env⟩]

/-- The fields of the `Substrate` that `Create` reads and writes:
`Status.Cluster.Address` and `Status.Cluster.KubeConfig`. -/
structure Substrate where
  address : Option String
  kubeConfig : Option String
deriving DecidableEq, Repr

/-- `reconcile.Result`. -/
structure ReconcileResult where
  requeue : Bool
deriving DecidableEq, Repr

/-- What `Create` returns, and the substrate and process after it. -/
structure CreateRun where
  result : ReconcileResult
  err : Option Error
  substrate : Substrate
  os : Os

/-- `path.Join(ClusterCertsBasePath, name)`. -/
def stagingDir (name : String) : String := "/tmp/" ++ name

/-- `Config.Create` for the bucket `name`, with the staging tree `tree` and
`upload u` the outcome of uploading `u`. -/
def create (kubeconfigFile name : String) (env : CreateEnv) (tree : FsNode)
    (upload : BatchUploadObject → Option Error) (w : Os) (sub : Substrate) : CreateRun :=
  if sub.address = none then ⟨⟨true⟩, none, sub, w⟩
  else
    match generateConfig env with
    | some e => ⟨⟨false⟩, some e, sub, w⟩
    | none =>
      let r := uploadWithIterator upload (newDirectoryIterator name (stagingDir name) tree) w
      match r.1 with
      | some e => ⟨⟨false⟩, some (.wrap "uploading to S3 " e), sub, r.2.os⟩
      | none => ⟨⟨false⟩, none, { sub with kubeConfig := some (pathJoin (stagingDir name) kubeconfigFile) }, r.2.os⟩

/-- The texts `Create` wraps a helper's error in, and the upload's. -/
def createErrorTexts : List String :=
  ["ensuring S3 bucket, ", "generating certs, ", "generating kube config, ", "generating manifests, ",
    "generating kubelet service config, ", "generating authenticator config, ", "uploading to S3 "]

theorem firstError_eq_some {cs : List Check} {e : Error} (h : firstError cs = some e) : ∃ c ∈ cs, c.err = some e :=
  List.exists_of_findSome?_eq_some h

/-- The error of `generateConfig` is a helper's error wrapped in `Create`'s text for it. -/
theorem generateConfig_eq_some {env : CreateEnv} {e : Error} (h : generateConfig env = some e) :
    ∃ p e₀, e = .wrap p e₀ ∧ p ∈ createErrorTexts := by
  obtain ⟨c, hc, he⟩ := firstError_eq_some h
  simp only [List.mem_cons, List.mem_singleton, List.not_mem_nil, or_false] at hc
  obtain ⟨e₀, -, rfl⟩ := Option.map_eq_some'.1 he
  rcases hc with rfl | rfl | rfl | rfl | rfl | rfl | rfl <;> exact ⟨_, e₀, rfl, by simp [createErrorTexts]⟩

/-- **Errors of `Create`.** A requeued `Create` does nothing else; a failed one
records no kubeconfig, and its error is a helper's error, or the upload's,
wrapped in `Create`'s text for that step. -/
theorem create_err {kubeconfigFile name : String} {env : CreateEnv} {tree : FsNode}
    {upload : BatchUploadObject → Option Error} {w : Os} {sub : Substrate} :
    ((create kubeconfigFile name env tree upload w sub).result.requeue = true →
      create kubeconfigFile name env tree upload w sub = ⟨⟨true⟩, none, sub, w⟩) ∧
    ∀ e, (create kubeconfigFile name env tree upload w sub).err = some e →
      (create kubeconfigFile name env tree upload w sub).substrate = sub ∧
        ∃ p e₀, e = .wrap p e₀ ∧ p ∈ createErrorTexts := by
  unfold create
  split
  · refine ⟨fun _ => rfl, fun _ h => ?_⟩
    cases h
  · split
    · rename_i e₀ hg
      refine ⟨fun h => ?_, fun e h => ⟨rfl, @generateConfig_eq_some env e ?_⟩⟩
      · cases h
      · cases h; exact hg
    · dsimp only
      split
      · refine ⟨fun h => ?_, fun e h => ⟨rfl, _, _, (Option.some.inj h).symm, by simp [createErrorTexts]⟩⟩
        cases h
      · refine ⟨fun h => ?_, fun _ h => ?_⟩ <;> cases h

section Upload

variable {kubeconfigFile name : String} {env : CreateEnv} {tree : FsNode} {upload : BatchUploadObject → Option Error}
  {w : Os} {sub : Substrate}

/-- With the address set, the files generated and every upload succeeding,
`Create` returns `nil`, records the kubeconfig, and its process has done what
the upload loop does over the walked paths. -/
theorem create_of_uploads_ok (ha : sub.address ≠ none) (hg : generateConfig env = none)
    (hup : ∀ u, upload u = none) :
    create kubeconfigFile name env tree upload w sub =
      ⟨⟨false⟩, none, { sub with kubeConfig := some (pathJoin (stagingDir name) kubeconfigFile) },
        (uploadLoop upload (fresh (filepathWalk (stagingDir name) tree).1 name) w).os⟩ := by
  have he := uploadLoop_errs upload hup (filepathWalk (stagingDir name) tree).1 name ⟨"", none⟩ w
  simp only [create, ha, if_false, hg, uploadWithIterator, newDirectoryIterator, fresh] at he ⊢
  simp [he]

/-- **Files left out, and `nil` returned.** Once the files are generated and
with every upload succeeding, `Create` returns `nil` without requeue and records
the kubeconfig, whatever the walk and the opens do. Yet a file of the staging
tree that the walk did not collect, because an unreadable entry stopped the walk
before it, is never handed to the uploader; and an open that fails is the last
thing the upload does, so the file it was for and every file after it are left
out. -/
theorem create_ok_with_file_left_out (ha : sub.address ≠ none) (hg : generateConfig env = none)
    (hup : ∀ u, upload u = none) :
    (create kubeconfigFile name env tree upload w sub).result = ⟨false⟩ ∧
      (create kubeconfigFile name env tree upload w sub).err = none ∧
      (create kubeconfigFile name env tree upload w sub).substrate.kubeConfig =
        some (pathJoin (stagingDir name) kubeconfigFile) ∧
      (∀ p ∈ files (stagingDir name) tree, p ∉ (filepathWalk (stagingDir name) tree).1 →
        ∀ u, Event.uploaded u ∈ (create kubeconfigFile name env tree upload w sub).os.log →
          Event.uploaded u ∈ w.log ∨ u.key ≠ p) ∧
      ∀ p e, Event.openFailed p e ∈ (create kubeconfigFile name env tree upload w sub).os.log →
        Event.openFailed p e ∉ w.log →
          p ∈ files (stagingDir name) tree ∧
            (create kubeconfigFile name env tree upload w sub).os.log.getLast? = some (.openFailed p e) := by
  have hlog := (uploadLoop_trace upload (filepathWalk (stagingDir name) tree).1 name ⟨"", none⟩ w).2.1
  rw [create_of_uploads_ok ha hg hup]
  refine ⟨rfl, rfl, rfl, fun p _ hnp u hu => ?_, fun p e hf hw => ?_⟩
  · rw [fresh, hlog, List.mem_append] at hu
    exact hu.imp id fun h hk => hnp (hk ▸ key_mem_of_uploaded h)
  · rw [fresh, hlog] at hf ⊢
    obtain ⟨hp, hl⟩ := openFailed_mem_uploadTrace ((List.mem_append.1 hf).resolve_left hw)
    exact ⟨(filepathWalk_isPrefix_files _ tree).subset hp, by rw [List.getLast?_append, hl]; rfl⟩

/-- `Create` makes no call of the process but the upload's. -/
theorem create_os : (create kubeconfigFile name env tree upload w sub).os = w ∨
    (create kubeconfigFile name env tree upload w sub).os =
      (uploadLoop upload (fresh (filepathWalk (stagingDir name) tree).1 name) w).os := by
  unfold create
  split
  · exact .inl rfl
  · split
    · exact .inl rfl
    · dsimp only
      split <;> exact .inr rfl

/-- **What `Create` uploads.** On every path through `Create`, whatever the
staging tree, the walk, the opens and the uploads do, every unit it hands to the
uploader is a file of the staging tree `/tmp/<name>`, goes to the bucket `name`,
and carries as body the handle just opened at its path, which its `After` closes. -/
theorem create_uploads_staging_files (kubeconfigFile name : String) (env : CreateEnv) (tree : FsNode)
    (upload : BatchUploadObject → Option Error) (w : Os) (sub : Substrate) :
    ∀ u, Event.uploaded u ∈ (create kubeconfigFile name env tree upload w sub).os.log →
      Event.uploaded u ∈ w.log ∨
        u.key ∈ files (stagingDir name) tree ∧ u.bucket = name ∧ ∃ fd, u.body = some ⟨fd, u.key⟩ ∧ u.after = u.body := by
  intro u hu
  rcases @create_os kubeconfigFile name env tree upload w sub with h | h <;> rw [h] at hu
  · exact .inl hu
  · rw [fresh, (uploadLoop_trace upload _ name ⟨"", none⟩ w).2.1, List.mem_append] at hu
    refine hu.imp id fun hu => ?_
    obtain ⟨hk, hrest⟩ := uploaded_of_mem_uploadTrace hu
    exact ⟨(filepathWalk_isPrefix_files _ tree).subset hk, hrest⟩

end Upload

/-- Every call of the environment succeeds, the kubelet directory exists. -/
def quietEnv : CreateEnv :=
  ⟨none, none, none, none, fun _ => none, none, fun _ => none, .found, none, none, none, none, none, none, none, none⟩

/-- A staging tree whose first entry is a directory that cannot be read. -/
def demoTree : FsNode :=
  .dir "demo" none none
    [.dir "etc" none (some (.text "open /tmp/demo/etc: permission denied")) [.file "admin.conf" none],
     .file "kubelet.service" none]

/-- A substrate with its address. -/
def demoSubstrate : Substrate := ⟨some "203.0.113.7", none⟩

/-- Every upload succeeds. -/
def quietUpload : BatchUploadObject → Option Error := fun _ => none

/-- A staging tree every entry of which can be read. -/
def readableTree : FsNode :=
  .dir "demo" none none [.dir "etc" none none [.file "admin.conf" none], .file "kubelet.service" none]

/-- The error of an open of `/tmp/demo/kubelet.service` that is refused. -/
def kubeletDenied : Error := .text "open /tmp/demo/kubelet.service: permission denied"

/-- A process that has made no open yet and in which every open of
`/tmp/demo/kubelet.service` fails. -/
def kubeletUnopenable : Os :=
  ⟨fun _ p => if p = "/tmp/demo/kubelet.service" then some kubeletDenied else none, 0, []⟩

theorem create_ok_with_file_left_out_demo :
    demoSubstrate.address ≠ none ∧ generateConfig quietEnv = none ∧ (∀ u, quietUpload u = none) ∧
      "/tmp/demo/kubelet.service" ∈ files (stagingDir "demo") demoTree ∧
      "/tmp/demo/kubelet.service" ∉ (filepathWalk (stagingDir "demo") demoTree).1 ∧
      (create "admin.conf" "demo" quietEnv demoTree quietUpload ⟨fun _ _ => none, 0, []⟩ demoSubstrate).err = none ∧
      (∀ u, Event.uploaded u ∈
          (create "admin.conf" "demo" quietEnv demoTree quietUpload ⟨fun _ _ => none, 0, []⟩ demoSubstrate).os.log →
        u.key ≠ "/tmp/demo/kubelet.service") ∧
      (create "admin.conf" "demo" quietEnv readableTree quietUpload kubeletUnopenable demoSubstrate).err = none ∧
      (create "admin.conf" "demo" quietEnv readableTree quietUpload kubeletUnopenable demoSubstrate).os.log.getLast? =
        some (.openFailed "/tmp/demo/kubelet.service" kubeletDenied) := by
  have ha : demoSubstrate.address ≠ none := by simp [demoSubstrate]
  have hp : "/tmp/demo/kubelet.service" ∈ files (stagingDir "demo") demoTree := by
    simp [files, entryFiles, demoTree, stagingDir, pathJoin, FsNode.name]
  have hw : "/tmp/demo/kubelet.service" ∉ (filepathWalk (stagingDir "demo") demoTree).1 := by
    simp [filepathWalk, demoTree, FsNode.lstatErr, walk, walkEntries]
  have left := @create_ok_with_file_left_out "admin.conf" "demo" quietEnv demoTree quietUpload
    ⟨fun _ _ => none, 0, []⟩ demoSubstrate ha rfl fun _ => rfl
  have denied := @create_ok_with_file_left_out "admin.conf" "demo" quietEnv readableTree quietUpload
    kubeletUnopenable demoSubstrate ha rfl fun _ => rfl
  have hf : Event.openFailed "/tmp/demo/kubelet.service" kubeletDenied ∈
      (create "admin.conf" "demo" quietEnv readableTree quietUpload kubeletUnopenable demoSubstrate).os.log := by
    rw [@create_of_uploads_ok "admin.conf" "demo" quietEnv readableTree quietUpload kubeletUnopenable
      demoSubstrate ha rfl (fun _ => rfl), fresh, (uploadLoop_trace quietUpload _ "demo" ⟨"", none⟩ _).2.1]
    decide
  exact ⟨ha, rfl, fun _ => rfl, hp, hw, left.2.1,
    fun u hu => (left.2.2.2.1 _ hp hw u hu).resolve_left (List.not_mem_nil _), denied.2.1,
    (denied.2.2.2.2 _ _ hf (List.not_mem_nil _)).2⟩

/-- The kubeconfig of the readable tree, as the upload loop hands it over. -/
def adminConfUnit : BatchUploadObject :=
  ⟨"demo", "/tmp/demo/etc/admin.conf", some ⟨0, "/tmp/demo/etc/admin.conf"⟩, some ⟨0, "/tmp/demo/etc/admin.conf"⟩⟩

theorem create_uploads_staging_files_readable :
    Event.uploaded adminConfUnit ∈
        (create "admin.conf" "demo" quietEnv readableTree quietUpload ⟨fun _ _ => none, 0, []⟩ demoSubstrate).os.log ∧
      (Event.uploaded adminConfUnit ∈ ([] : List Event) ∨
        adminConfUnit.key ∈ files (stagingDir "demo") readableTree ∧ adminConfUnit.bucket = "demo" ∧
          ∃ fd, adminConfUnit.body = some ⟨fd, adminConfUnit.key⟩ ∧ adminConfUnit.after = adminConfUnit.body) := by
  have hu : Event.uploaded adminConfUnit ∈
      (create "admin.conf" "demo" quietEnv readableTree quietUpload ⟨fun _ _ => none, 0, []⟩ demoSubstrate).os.log := by
    rw [@create_of_uploads_ok "admin.conf" "demo" quietEnv readableTree quietUpload ⟨fun _ _ => none, 0, []⟩
      demoSubstrate (by simp [demoSubstrate]) rfl (fun _ => rfl), fresh,
      (uploadLoop_trace quietUpload _ "demo" ⟨"", none⟩ _).2.1]
    decide
  exact ⟨hu, create_uploads_staging_files "admin.conf" "demo" quietEnv readableTree quietUpload _ demoSubstrate _ hu⟩

end Kit.Cluster
