import Kit.Cluster.BatchUpload
import Mathlib.Data.List.Infix

/-!
# Walking the staging directory (`NewDirectoryIterator`)

`NewDirectoryIterator` collects the paths of the staging tree with
`filepath.Walk`, whose walk function returns any error it is handed and
appends every path that is not a directory. `walk` is the standard library's
recursion with that function plugged in: a directory whose names cannot be
read, or an entry whose `os.Lstat` fails, ends the whole walk with that error.
`NewDirectoryIterator` drops the error `filepath.Walk` returns and builds the
iterator from the paths collected so far.

The tree is the state of the file system: for each node, how `os.Lstat` of it
ends, and for a directory how reading its names ends and its entries, in the
sorted order `readDirNames` gives them. `files` is every non-directory path of
the tree; a walk collects a prefix of it (`walk_isPrefix_files`), all of it when it
returns no error (`walk_of_ok`), which it does exactly when every node can be
`os.Lstat`ed and every directory read (`filepathWalk_ok_iff`).
-/

namespace Kit.Cluster
set_option autoImplicit false

/-- A node of the staging tree. Whatever is not a directory (a regular file, a
symlink) is a `file`. -/
inductive FsNode where
  | file (name : String) (lstatErr : Option Error)
  | dir (name : String) (lstatErr : Option Error) (readDirErr : Option Error) (children : List FsNode)

namespace FsNode

/-- The node's name in its directory. -/
def name : FsNode → String
  | .file n _ => n
  | .dir n _ _ _ => n

/-- How `os.Lstat` of the node ends. -/
def lstatErr : FsNode → Option Error
  | .file _ e => e
  | .dir _ e _ _ => e

end FsNode

/-- `path.Join` of a directory and an entry name. -/
def pathJoin (dir name : String) : String := dir ++ "/" ++ name

mutual

/-- `walk` of `path/filepath` with `NewDirectoryIterator`'s walk function: the
paths it appends, and the error it returns. -/
def walk (path : String) : FsNode → List String × Option Error
  | .file _ _ => ([path], none)
  | .dir _ _ (some e) _ => ([], some e)
  | .dir _ _ none cs => walkEntries path cs

/-- The loop of `walk` over the entries of a directory. -/
def walkEntries (path : String) : List FsNode → List String × Option Error
  | [] => ([], none)
  | c :: cs =>
    match c.lstatErr with
    | some e => ([], some e)
    | none =>
      match walk (pathJoin path c.name) c with
      | (ps, some e) => (ps, some e)
      | (ps, none) => (ps ++ (walkEntries path cs).1, (walkEntries path cs).2)

end

/-- `filepath.Walk` from `root`. -/
def filepathWalk (root : String) (t : FsNode) : List String × Option Error :=
  match t.lstatErr with
  | some e => ([], some e)
  | none => walk root t

/-- `NewDirectoryIterator`: the walk's error is dropped. -/
def newDirectoryIterator (bucket dir : String) (t : FsNode) : DirectoryIterator :=
  fresh (filepathWalk dir t).1 bucket

mutual

/-- Every non-directory path of the tree at `path`. -/
def files (path : String) : FsNode → List String
  | .file _ _ => [path]
  | .dir _ _ _ cs => entryFiles path cs

/-- Every non-directory path under the entries of the directory at `path`. -/
def entryFiles (path : String) : List FsNode → List String
  | [] => []
  | c :: cs => files (pathJoin path c.name) c ++ entryFiles path cs

end

mutual

/-- A walk that returns no error has collected every file of the tree. -/
theorem walk_of_ok (path : String) : ∀ t : FsNode, (walk path t).2 = none → (walk path t).1 = files path t
  | .file _ _, _ => rfl
  | .dir _ _ (some _) _, h => nomatch h
  | .dir _ _ none cs, h => walkEntries_of_ok path cs h

theorem walkEntries_of_ok (path : String) :
    ∀ cs : List FsNode, (walkEntries path cs).2 = none → (walkEntries path cs).1 = entryFiles path cs
  | [], _ => rfl
  | c :: cs, h => by
    rw [walkEntries] at h ⊢
    rw [entryFiles]
    split at h
    · cases h
    · split at h
      · cases h
      · rename_i ps hw
        rw [← walkEntries_of_ok path cs h, ← walk_of_ok _ c (by rw [hw]), hw]

end

mutual

/-- A walk collects a prefix of the tree's files. -/
theorem walk_isPrefix_files (path : String) : ∀ t : FsNode, List.IsPrefix (walk path t).1 (files path t)
  | .file _ _ => List.prefix_refl _
  | .dir _ _ (some _) _ => List.nil_prefix
  | .dir _ _ none cs => walkEntries_isPrefix_files path cs

theorem walkEntries_isPrefix_files (path : String) :
    ∀ cs : List FsNode, List.IsPrefix (walkEntries path cs).1 (entryFiles path cs)
  | [] => List.nil_prefix
  | c :: cs => by
    rw [walkEntries, entryFiles]
    split
    · exact List.nil_prefix
    · split
      · rename_i ps e hw
        have hc := walk_isPrefix_files (pathJoin path c.name) c
        rw [hw] at hc
        exact hc.trans (List.prefix_append _ _)
      · rename_i ps hw
        have hc := walk_of_ok (pathJoin path c.name) c (by rw [hw])
        rw [hw] at hc
        rw [← hc]
        exact (List.prefix_append_right_inj ps).2 (walkEntries_isPrefix_files path cs)

end

mutual

/-- Whether every directory at or below the node can be read, and every entry
below it can be `os.Lstat`ed. -/
def readable : FsNode → Bool
  | .file _ _ => true
  | .dir _ _ readDirErr cs => readDirErr.isNone && entriesReadable cs

/-- `readable` over the entries of a directory, each also `os.Lstat`ed. -/
def entriesReadable : List FsNode → Bool
  | [] => true
  | c :: cs => c.lstatErr.isNone && readable c && entriesReadable cs

end

mutual

/-- A walk returns no error exactly when the tree below it is readable. -/
theorem walk_ok_iff (path : String) : ∀ t : FsNode, (walk path t).2 = none ↔ readable t = true
  | .file _ _ => by simp [walk, readable]
  | .dir _ _ (some _) _ => by simp [walk, readable]
  | .dir _ _ none cs => by simpa [walk, readable] using walkEntries_ok_iff path cs

theorem walkEntries_ok_iff (path : String) :
    ∀ cs : List FsNode, (walkEntries path cs).2 = none ↔ entriesReadable cs = true
  | [] => by simp [walkEntries, entriesReadable]
  | c :: cs => by
    rw [walkEntries, entriesReadable]
    cases hl : c.lstatErr with
    | some e => simp
    | none =>
      have hc := walk_ok_iff (pathJoin path c.name) c
      rcases hw : walk (pathJoin path c.name) c with ⟨ps, _ | e⟩ <;> rw [hw] at hc
      · simp [← hc, walkEntries_ok_iff path cs]
      · simp [← hc]

end

theorem filepathWalk_of_ok {root : String} {t : FsNode} (h : (filepathWalk root t).2 = none) :
    (filepathWalk root t).1 = files root t := by
  unfold filepathWalk at h ⊢
  cases he : t.lstatErr <;> simp only [he] at h ⊢
  · exact walk_of_ok root t h
  · cases h

theorem filepathWalk_isPrefix_files (root : String) (t : FsNode) : List.IsPrefix (filepathWalk root t).1 (files root t) := by
  unfold filepathWalk
  split
  · exact List.nil_prefix
  · exact walk_isPrefix_files root t

/-- **The walked paths.** The iterator `NewDirectoryIterator` builds holds a
prefix of the tree's non-directory files, in the walk's order, and all of them
when the walk returned no error. -/
theorem newDirectoryIterator_filePaths (bucket dir : String) (t : FsNode) :
    List.IsPrefix (newDirectoryIterator bucket dir t).filePaths (files dir t) ∧
      ((filepathWalk dir t).2 = none → (newDirectoryIterator bucket dir t).filePaths = files dir t) :=
  ⟨filepathWalk_isPrefix_files dir t, filepathWalk_of_ok⟩

/-- **When the walk fails.** `filepath.Walk` of the staging tree returns `nil`
exactly when the root and every entry below it can be `os.Lstat`ed and every
directory read; on such a tree `NewDirectoryIterator` holds every non-directory
file, in the walk's order. -/
theorem filepathWalk_ok_iff (bucket dir : String) (t : FsNode) :
    ((filepathWalk dir t).2 = none ↔ t.lstatErr = none ∧ readable t = true) ∧
      (t.lstatErr = none → readable t = true → (newDirectoryIterator bucket dir t).filePaths = files dir t) := by
  have hiff : (filepathWalk dir t).2 = none ↔ t.lstatErr = none ∧ readable t = true := by
    unfold filepathWalk
    cases t.lstatErr <;> simp [walk_ok_iff]
  exact ⟨hiff, fun hl hr => filepathWalk_of_ok (hiff.2 ⟨hl, hr⟩)⟩

end Kit.Cluster
