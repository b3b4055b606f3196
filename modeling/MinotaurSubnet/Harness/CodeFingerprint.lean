import Mathlib.Data.String.Basic
import MinotaurSubnet.Library.Delimited
import MinotaurSubnet.Library.Dict
import MinotaurSubnet.Library.Fallible
import MinotaurSubnet.Library.SortedBy

/-! # The content fingerprint of a submission

`harness/code_fingerprint.py`: a digest over the sorted regular files of a checkout, a Python
source by its syntax tree without docstrings and every other file by its bytes. The parser, the
text of a syntax tree and the digest are parameters; names of files are valid Unicode.
-/

namespace MinotaurSubnet.Harness.CodeFingerprint

open Library

abbrev Bytes := List UInt8

def utf8 (s : String) : Bytes := s.toUTF8.data.toList

/-- What a field of a syntax tree holds besides nodes and lists. -/
inductive Leaf where
  | str (text : String)
  | other (spelling : String)

inductive Ast where
  | node (kind : String) (fields : List (String × Ast))
  | list (items : List Ast)
  | leaf (leaf : Leaf)

def pass : Ast := .node "Pass" []

def docstringKinds : List String := ["Module", "ClassDef", "FunctionDef", "AsyncFunctionDef"]

def isDocstring : Ast → Bool
  | .node "Expr" fields =>
    match fields.lookup "value" with
    | some (.node "Constant" value) =>
      match value.lookup "value" with
      | some (.leaf (.str _)) => true
      | _ => false
    | _ => false
  | _ => false

mutual

/-- `_StripDocstrings().visit`. -/
def strip : Ast → Ast
  | .node kind fields => .node kind (stripFields (docstringKinds.contains kind) fields)
  | .list items => .list items
  | .leaf leaf => .leaf leaf

/-- The children of a node, whose body loses its docstring first when `documented`. -/
def stripFields (documented : Bool) : List (String × Ast) → List (String × Ast)
  | [] => []
  | (name, .list items) :: rest =>
    (name, .list (stripBody (documented && name == "body") items)) :: stripFields documented rest
  | (name, child) :: rest => (name, strip child) :: stripFields documented rest

def stripBody (documented : Bool) : List Ast → List Ast
  | [] => []
  | first :: rest =>
    if documented && isDocstring first then
      -- an emptied body needs a placeholder
      if rest.isEmpty then [pass] else stripItems rest
    else strip first :: stripItems rest

def stripItems : List Ast → List Ast
  | [] => []
  | item :: rest => strip item :: stripItems rest

end

/-- `parse` is `ast.parse`, with `none` for a source that it refuses, and `dump` is `ast.dump`
    without attributes. -/
structure Python where
  parse : String → Option Ast
  dump : Ast → String

inductive Normalized where
  | ast (tree : Ast)
  | raw (bytes : Bytes)

def Normalized.bytes (python : Python) : Normalized → Bytes
  | .ast tree => utf8 (python.dump tree)
  | .raw bytes => bytes

/-- `normalized_python_bytes`, before its bytes are taken. -/
def normalizedPython (python : Python) (source : String) : Normalized :=
  match python.parse source with
  | some tree => .ast (strip tree)
  | none => .raw (utf8 source)

def suffix (name : String) : List Char :=
  let chars := name.toList
  let extension := (chars.reverse.takeWhile (· ≠ '.')).reverse
  if '.' ∈ chars ∧ extension ≠ [] ∧ extension.length + 1 < chars.length then '.' :: extension else []

def decodeUtf8 (raw : Bytes) : Option String := String.fromUTF8? ⟨raw.toArray⟩

def normalized (python : Python) (path : List String) (raw : Bytes) : Normalized :=
  if suffix (path.getLastD "") = ".py".toList then
    match decodeUtf8 raw with
    | some source => normalizedPython python source
    | none => .raw raw
  else .raw raw

/-- What is found at a path; `content` is `none` when reading it fails. -/
inductive EntryKind where
  | file (content : Option Bytes)
  | symlink
  | other

/-- What `rglob` lists, by the parts of the relative path. -/
structure RepoTree where
  entries : Dict (List String) EntryKind
  named : ∀ path ∈ entries.keys, path ≠ [] ∧ ∀ part ∈ path, part ≠ "" ∧ '/' ∉ part.toList

def excludedDirs : List String :=
  [".git", "__pycache__", ".mypy_cache", ".pytest_cache", ".ruff_cache"]

def maxFileBytes : Nat := 100 * 1024 * 1024

def excluded (path : List String) : Bool := path.dropLast.any (excludedDirs.contains ·)

def regularFile (entry : List String × EntryKind) : Option (List String × Option Bytes) :=
  match entry.2 with
  | .file content => if excluded entry.1 then none else some (entry.1, content)
  | _ => none

namespace RepoTree

def files (tree : RepoTree) : List (List String × Option Bytes) :=
  sortedBy Prod.fst (tree.entries.entries.filterMap regularFile)

/-- The files as they are hashed; `none` when one of them cannot be read. -/
def contents (python : Python) (tree : RepoTree) : Option (List (List String × Normalized)) :=
  tree.files.mapM fun file => file.2.map fun raw =>
    (file.1, normalized python file.1 (raw.take maxFileBytes))

end RepoTree

def pathBytes (path : List String) : Bytes := utf8 ("/".intercalate path)

def hashedFields (python : Python) (contents : List (List String × Normalized)) : List Bytes :=
  contents.flatMap fun file => [pathBytes file.1, file.2.bytes python]

def bar : UInt8 := 0x7c

def hashedBytes (python : Python) (contents : List (List String × Normalized)) : Bytes :=
  utf8 "v1|tree|" ++ barred bar (hashedFields python contents)

/-- `repo_fingerprint`; a path that is no directory has no tree. -/
def repoFingerprint {δ : Type} (python : Python) (sha256 : Bytes → δ) (root : Option RepoTree) : Option δ :=
  root.bind fun tree => (tree.contents python).map fun contents => sha256 (hashedBytes python contents)

namespace RepoTree

def contentAt (python : Python) (tree : RepoTree) (path : List String) : Option Normalized :=
  match tree.entries.get? path with
  | some (.file (some raw)) => if excluded path then none else some (normalized python path raw)
  | _ => none

def SameContent (python : Python) (a b : RepoTree) : Prop :=
  ∀ path, a.contentAt python path = b.contentAt python path

/-- The files that count can be read and are not larger than what is read of them. -/
def Readable (tree : RepoTree) : Prop :=
  ∀ path content, tree.entries.get? path = some (.file content) → excluded path = false →
    ∃ raw, content = some raw ∧ raw.length ≤ maxFileBytes

/-- The counted files in path order, each with its normalized content. -/
structure LaidOut (python : Python) (tree : RepoTree) (files : List (List String × Normalized)) : Prop where
  sorted : files.Pairwise fun x y => x.1 ≤ y.1
  distinct : (files.map Prod.fst).Nodup
  held : ∀ path content, (path, content) ∈ files ↔ tree.contentAt python path = some content

/-- Laid out, the paths and contents of the two trees are the same once all are cut at their bars. -/
def SamePieces (python : Python) (a b : RepoTree) : Prop :=
  ∀ files files', a.LaidOut python files → b.LaidOut python files' →
    (hashedFields python files).flatMap (List.splitOn bar) =
      (hashedFields python files').flatMap (List.splitOn bar)

def Unbarred (python : Python) (tree : RepoTree) : Prop :=
  ∀ path content, tree.contentAt python path = some content →
    bar ∉ pathBytes path ∧ bar ∉ content.bytes python

/-- No two different contents of one path are written alike. -/
def ToldApart (python : Python) (a b : RepoTree) : Prop :=
  ∀ path x y, a.contentAt python path = some x → b.contentAt python path = some y →
    x.bytes python = y.bytes python → x = y

variable {tree : RepoTree}

theorem mem_files {path content} :
    (path, content) ∈ tree.files ↔
      tree.entries.get? path = some (.file content) ∧ excluded path = false := by
  unfold files
  rw [mem_sortedBy, List.mem_filterMap, Dict.get?_eq_some]
  constructor
  · rintro ⟨⟨path', kind⟩, inside, listed⟩
    cases kind with
    | file content' =>
      simp only [regularFile] at listed
      split at listed
      · cases listed
      · next counted =>
          obtain ⟨rfl, rfl⟩ := Prod.mk.inj (Option.some.inj listed)
          exact ⟨inside, eq_false_of_ne_true counted⟩
    | symlink => cases listed
    | other => cases listed
  · rintro ⟨inside, counted⟩
    exact ⟨(path, .file content), inside, by simp [regularFile, counted]⟩

theorem nodup_files (tree : RepoTree) : (tree.files.map Prod.fst).Nodup := by
  have perm := (sortedBy_perm Prod.fst (tree.entries.entries.filterMap regularFile)).map Prod.fst
  apply perm.nodup_iff.mpr
  have paths : (tree.entries.entries.filterMap regularFile).map Prod.fst =
      (tree.entries.entries.filter fun entry => (regularFile entry).isSome).map Prod.fst := by
    induction tree.entries.entries with
    | nil => rfl
    | cons entry rest ih =>
      cases found : regularFile entry with
      | none => simp [found, ih]
      | some file =>
        have same : file.1 = entry.1 := by
          unfold regularFile at found
          grind
        simp [found, ih, same]
  rw [paths]
  exact tree.entries.keysNodup.sublist (List.filter_sublist.map Prod.fst)

theorem contents_of_readable (python : Python) (readable : tree.Readable) :
    ∃ contents, tree.contents python = some contents ∧ tree.LaidOut python contents := by
  let read (file : List String × Option Bytes) : List String × Normalized :=
    (file.1, normalized python file.1 (file.2.getD []))
  have each : ∀ file ∈ tree.files, (file.2.map fun raw =>
      (file.1, normalized python file.1 (raw.take maxFileBytes))) = some (read file) := by
    rintro ⟨path, content⟩ inside
    obtain ⟨found, counted⟩ := mem_files.mp inside
    obtain ⟨raw, rfl, small⟩ := readable path content found counted
    simp [read, List.take_of_length_le small]
  have paths : (tree.files.map read).map Prod.fst = tree.files.map Prod.fst := by
    rw [List.map_map]
    rfl
  refine ⟨tree.files.map read, mapM_eq_some_map each, ?_, paths ▸ tree.nodup_files, ?_⟩
  · exact List.pairwise_map.mpr (pairwise_sortedBy Prod.fst _)
  · intro path content
    rw [List.mem_map]
    constructor
    · rintro ⟨⟨path', stored⟩, inside, same⟩
      obtain ⟨rfl, rfl⟩ := Prod.mk.inj same
      obtain ⟨found, counted⟩ := mem_files.mp inside
      obtain ⟨raw, rfl, _⟩ := readable path' stored found counted
      simp [contentAt, found, counted]
    · intro held
      unfold contentAt at held
      split at held
      · next raw found =>
          split at held
          · cases held
          · next counted =>
              cases held
              exact ⟨(path, some raw), mem_files.mpr ⟨found, eq_false_of_ne_true counted⟩, rfl⟩
      · cases held

theorem LaidOut.eq_iff {python} {a b : RepoTree} {files files'} (laid : a.LaidOut python files)
    (laid' : b.LaidOut python files') :
    files = files' ↔ SameContent python a b := by
  constructor
  · rintro rfl path
    apply Option.ext
    intro content
    rw [← laid.held, ← laid'.held]
  · intro same
    have members : ∀ file, file ∈ files ↔ file ∈ files' := by
      rintro ⟨path, content⟩
      rw [laid.held, laid'.held, same path]
    have perm : files.Perm files' :=
      (List.perm_ext_iff_of_nodup laid.distinct.of_map laid'.distinct.of_map).mpr members
    refine perm.eq_of_pairwise ?_ laid.sorted laid'.sorted
    intro x y here there below above
    exact List.inj_on_of_nodup_map laid.distinct here ((members y).mpr there) (le_antisymm below above)

theorem pathBytes_inj {path path'} (named : path ≠ [] ∧ ∀ part ∈ path, '/' ∉ part.toList)
    (named' : path' ≠ [] ∧ ∀ part ∈ path', '/' ∉ part.toList)
    (same : pathBytes path = pathBytes path') :
    path = path' := by
  have texts : "/".intercalate path = "/".intercalate path' :=
    String.toByteArray_inj.mp (ByteArray.ext (Array.toList_inj.mp same))
  have parts : ∀ {path : List String}, (path ≠ [] ∧ ∀ part ∈ path, '/' ∉ part.toList) →
      ("/".intercalate path).toList.splitOn '/' = path.map String.toList := by
    rintro path ⟨some, plain⟩
    rw [String.toList_intercalate]
    exact List.splitOn_intercalate '/' (by simpa using plain) (by simpa using some)
  have letters : path.map String.toList = path'.map String.toList := by
    rw [← parts named, ← parts named', texts]
  exact List.map_injective_iff.mpr (fun _ _ => String.toList_inj.mp) letters

theorem flatMap_pair_inj {α β : Type*} {f g : α → β} {l l' : List α}
    (same : l.flatMap (fun x => [f x, g x]) = l'.flatMap fun x => [f x, g x]) :
    l.map (fun x => (f x, g x)) = l'.map fun x => (f x, g x) := by
  induction l generalizing l' with
  | nil =>
    cases l' with
    | nil => rfl
    | cons y rest => cases same
  | cons x l ih =>
    cases l' with
    | nil => cases same
    | cons y rest =>
      simp only [List.flatMap_cons, List.cons_append, List.nil_append, List.cons.injEq] at same
      obtain ⟨first, second, later⟩ := same
      rw [List.map_cons, List.map_cons, first, second, ih later]

theorem LaidOut.unbarred_fields {python} {files} (laid : tree.LaidOut python files)
    (unbarred : tree.Unbarred python) :
    (hashedFields python files).flatMap (List.splitOn bar) = hashedFields python files := by
  have plain : ∀ field ∈ hashedFields python files, List.splitOn bar field = [field] := by
    intro field inside
    obtain ⟨file, listed, written⟩ := List.mem_flatMap.mp inside
    obtain ⟨path, content⟩ := unbarred _ _ ((laid.held _ _).mp listed)
    obtain rfl | written := List.mem_cons.mp written
    · exact List.splitOn_eq_singleton path
    · obtain rfl := List.mem_singleton.mp written
      exact List.splitOn_eq_singleton content
  rw [List.flatMap_congr plain, List.flatMap_singleton']

theorem named_of_contentAt {python} {path content}
    (held : tree.contentAt python path = some content) :
    path ≠ [] ∧ ∀ part ∈ path, '/' ∉ part.toList := by
  unfold contentAt at held
  split at held
  · next raw found =>
    have key : path ∈ tree.entries.keys :=
      List.mem_map.mpr ⟨_, Dict.get?_eq_some.mp found, rfl⟩
    obtain ⟨some, parts⟩ := tree.named path key
    exact ⟨some, fun part inside => (parts part inside).2⟩
  · cases held

theorem contentAt_of_fields {python} {a b : RepoTree} {files files'} (laid : a.LaidOut python files)
    (laid' : b.LaidOut python files') (apart : a.ToldApart python b)
    (fields : hashedFields python files = hashedFields python files') {path content}
    (held : a.contentAt python path = some content) :
    b.contentAt python path = some content := by
  have written : (pathBytes path, content.bytes python) ∈
      files'.map fun file => (pathBytes file.1, file.2.bytes python) := by
    rw [← flatMap_pair_inj fields]
    exact List.mem_map.mpr ⟨(path, content), (laid.held _ _).mpr held, rfl⟩
  obtain ⟨⟨path', content'⟩, listed, same⟩ := List.mem_map.mp written
  obtain ⟨samePath, sameBytes⟩ := Prod.mk.inj same
  have held' := (laid'.held path' content').mp listed
  obtain rfl := pathBytes_inj (named_of_contentAt held') (named_of_contentAt held) samePath
  rw [held', apart path' content content' held held' sameBytes.symm]

end RepoTree

def barredTree : RepoTree :=
  ⟨⟨[(["a"], .file (some (utf8 "x|b|y")))], by decide⟩, by simp [Dict.keys]⟩

def twoFiles (x y : Bytes) : RepoTree :=
  ⟨⟨[(["a"], .file (some x)), (["b"], .file (some y))], by simp⟩, by simp [Dict.keys]⟩

def splitTree : RepoTree := twoFiles (utf8 "x") (utf8 "y")

def swappedTree : RepoTree := twoFiles (utf8 "y") (utf8 "x")

theorem barredTree_readable : barredTree.Readable := by
  intro path content found _
  have inside := Dict.get?_eq_some.mp found
  simp only [barredTree, List.mem_singleton, Prod.mk.injEq, EntryKind.file.injEq] at inside
  obtain ⟨_, rfl⟩ := inside
  exact ⟨_, rfl, by decide⟩

theorem twoFiles_readable {x y} (small : x.length ≤ maxFileBytes)
    (small' : y.length ≤ maxFileBytes) : (twoFiles x y).Readable := by
  intro path content found _
  have inside := Dict.get?_eq_some.mp found
  simp only [twoFiles, List.mem_cons, List.not_mem_nil, or_false, Prod.mk.injEq,
    EntryKind.file.injEq] at inside
  rcases inside with ⟨_, rfl⟩ | ⟨_, rfl⟩
  · exact ⟨_, rfl, small⟩
  · exact ⟨_, rfl, small'⟩

theorem contentAt_twoFiles {python x y path content}
    (held : (twoFiles x y).contentAt python path = some content) :
    path = ["a"] ∧ content = .raw x ∨ path = ["b"] ∧ content = .raw y := by
  unfold RepoTree.contentAt at held
  split at held
  · next raw found =>
    have inside := Dict.get?_eq_some.mp found
    simp only [twoFiles, List.mem_cons, List.not_mem_nil, or_false, Prod.mk.injEq,
      EntryKind.file.injEq, Option.some.injEq] at inside
    rcases inside with ⟨rfl, rfl⟩ | ⟨rfl, rfl⟩
    · exact .inl ⟨rfl, (Option.some.inj held).symm⟩
    · exact .inr ⟨rfl, (Option.some.inj held).symm⟩
  · cases held

theorem twoFiles_unbarred (python : Python) {x y} (plain : bar ∉ x) (plain' : bar ∉ y) :
    (twoFiles x y).Unbarred python := by
  intro path content held
  obtain ⟨rfl, rfl⟩ | ⟨rfl, rfl⟩ := contentAt_twoFiles held
  · exact ⟨by decide, plain⟩
  · exact ⟨by decide, plain'⟩

theorem not_sameContent_split (python : Python) : ¬barredTree.SameContent python splitTree := by
  intro same
  have absent : barredTree.contentAt python ["b"] = none := rfl
  have present : splitTree.contentAt python ["b"] = some (.raw (utf8 "y")) := rfl
  rw [same ["b"], present] at absent
  cases absent

/-- What the fingerprint is for. -/
def Identifies {δ : Type} (python : Python) (sha256 : Bytes → δ) (a b : RepoTree) : Prop :=
  repoFingerprint python sha256 (some a) = repoFingerprint python sha256 (some b) ↔ a.SameContent python b

def unparsed : Python := ⟨fun _ => none, fun _ => ""⟩

end MinotaurSubnet.Harness.CodeFingerprint
