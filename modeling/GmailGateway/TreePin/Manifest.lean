import GmailGateway.Python.Text

/-!
# GmailGateway.TreePin.Manifest

The canonical tree pin (`treepin.py`). A directory tree is a finite tree whose leaves are regular
files, symlinks and other entries; `rglob("*")` lists what is below the root, without following a
symlink. SHA-256 is a parameter.

`_iter_files` is a generator: the loop of `manifest` runs as far as the entries before it were
accepted, so an entry and what `manifest` does with it are one step here (`row`).
-/

namespace GmailGateway.TreePin

open Python

/-! ### Directory trees -/

/-- A name in a directory. `PurePosixPath` leaves such a part as it is. -/
structure Name where
  text : PyStr
  ne_nil : text ≠ []
  no_slash : CodePoint.ofChar '/' ∉ text
  not_dots : text ≠ str "." ∧ text ≠ str ".."
  deriving DecidableEq

/-- What a name in a directory stands for. -/
inductive Node
  | file (content : Bytes)
  | dir (children : List (Name × Node))
  | symlink
  /-- A fifo, a socket, a device. -/
  | other

/-- Induction on a node: below a directory are its entries. -/
@[elab_as_elim, induction_eliminator]
theorem Node.nested {motive : Node → Prop} (file : ∀ content, motive (.file content))
    (dir : ∀ children : List (Name × Node), (∀ child ∈ children, motive child.2) →
      motive (.dir children))
    (symlink : motive .symlink) (other : motive .other) (node : Node) : motive node :=
  match node with
  | .file content => file content
  | .symlink => symlink
  | .other => other
  | .dir children => dir children fun child hchild =>
      have hlt : sizeOf child.2 < 1 + sizeOf children := by
        have hmem := List.sizeOf_lt_of_mem hchild
        have hpair : sizeOf child = 1 + sizeOf child.1 + sizeOf child.2 := by cases child; rfl
        omega
      Node.nested file dir symlink other child.2
termination_by sizeOf node

/-- An entry: its path relative to the root, and what is there. -/
structure Entry where
  rel : List Name
  node : Node

/-- The same entry, seen from the directory above. -/
def Entry.under (name : Name) (e : Entry) : Entry := { e with rel := name :: e.rel }

mutual

/-- `rglob("*")`; the order in which a directory is read is that of its list. -/
def Node.rglob : Node → List Entry
  | .dir children => rglobChildren children
  | _ => []

/-- The entries below each child, in the order of the directory. -/
def rglobChildren : List (Name × Node) → List Entry
  | [] => []
  | (name, node) :: rest =>
      ⟨[name], node⟩ :: (node.rglob.map (Entry.under name) ++ rglobChildren rest)

end

mutual

/-- No directory has two entries of one name. -/
def Node.Distinct : Node → Prop
  | .dir children => (children.map Prod.fst).Nodup ∧ DistinctChildren children
  | _ => True

/-- So does every directory below. -/
def DistinctChildren : List (Name × Node) → Prop
  | [] => True
  | (_, node) :: rest => node.Distinct ∧ DistinctChildren rest

end

/-- The directory `root`. -/
structure Tree where
  children : List (Name × Node)
  distinct : (Node.dir children).Distinct

/-- `root.rglob("*")`. -/
def Tree.rglob (t : Tree) : List Entry := (Node.dir t.children).rglob

/-! ### Which entries are pinned -/

/-- What the script ends with. -/
inductive PinError
  /-- `SystemExit`: the message and its arguments. -/
  | systemExit (message : String) (args : List PyStr)
  | valueError (which : PyStr)
  | unicodeEncodeError

/-- `EXCLUDED_DIRS`. -/
def excludedDirs : List PyStr := [str "__pycache__", str ".pytest_cache", str ".hypothesis"]

/-- `TEST_DIR_NAME`. -/
def testDirName : PyStr := str "tests"

/-- `EXCLUDED_DIRS.intersection(rel.parts)`. -/
def excluded (rel : List Name) : Bool := rel.any fun part => excludedDirs.contains part.text

/-- `rel.as_posix()`, also `str(posix)`. -/
def asPosix (rel : List Name) : PyStr :=
  [CodePoint.ofChar '/'].intercalate (rel.map Name.text)

/-- What `_iter_files` makes of an entry: yields a regular file, skips the entry, or refuses. -/
def iterFile (e : Entry) : Except PinError (Option (List Name × Bytes)) :=
  if excluded e.rel then .ok none
  else
    match e.node with
    -- fail closed: never a link target
    | .symlink =>
        .error (.systemExit ("refusing to pin a tree containing a symlink: %r " ++
          "(a pin must bind the delivered bytes, not a link target)") [asPosix e.rel])
    | .dir _ => .ok none
    -- fifo/socket/device
    | .other => .error (.systemExit "refusing to pin a non-regular entry: %r" [asPosix e.rel])
    | .file content => .ok (some (e.rel, content))

/-- `PurePath.suffix`, of the last part. -/
def suffix (rel : List Name) : PyStr :=
  match rel.getLast? with
  | none => []
  | some name =>
      let dot := CodePoint.ofChar '.'
      let ext := (name.text.reverse.takeWhile (· ≠ dot)).reverse
      let i := name.text.length - (ext.length + 1)
      if dot ∈ name.text ∧ 0 < i ∧ ext ≠ [] then dot :: ext else []

/-- `_in_set`. -/
def inSet (rel : List Name) (which : PyStr) : Except PinError Bool :=
  if which = str "full" then .ok true
  -- any-depth tests/
  else if which = str "src" then .ok !(rel.dropLast.any fun part => part.text = testDirName)
  else if which = str "py" then .ok (suffix rel = str ".py")
  else .error (.valueError which)

/-! ### The manifest -/

/-- `hexdigest()`. -/
def hexdigest (digest : Bytes) : PyStr :=
  digest.flatMap fun b => [hexDigit (b.toNat / 16), hexDigit (b.toNat % 16)]

/-- `s.encode("ascii")`, of ASCII text. -/
def encodeAscii (s : PyStr) : Bytes := s.map fun c => .ofNat c.val

/-- `any(c in s for c in "\n\r")`. -/
def hasNewline (s : PyStr) : Bool := s.any fun c => (str "\n\r").contains c

section
variable (sha256 : Bytes → Bytes)

/-- One pass of the loop: the row of an entry, if it has one. -/
def row (which : PyStr) (e : Entry) : Except PinError (Option (Bytes × PyStr)) := do
  match ← iterFile e with
  | none => pure none
  | some (rel, content) =>
      let posix := asPosix rel
      if hasNewline posix then
        throw (.systemExit "refusing to pin a path containing a newline: PurePosixPath(%r)"
          [posix])
      if ← inSet rel which then
        match encodeUtf8 posix with
        | none => throw .unicodeEncodeError
        | some path => pure (some (path, hexdigest (sha256 content)))
      else pure none

/-- The loop. -/
def rows (which : PyStr) : List Entry → Except PinError (List (Bytes × PyStr))
  | [] => .ok []
  | e :: entries => do
      let r ← row sha256 which e
      let rest ← rows which entries
      pure (r.toList ++ rest)

/-- `path < other`, or equal: by parts. -/
def PathLe (e f : Entry) : Prop := e.rel.map Name.text ≤ f.rel.map Name.text

instance : DecidableRel PathLe := fun e f =>
  inferInstanceAs (Decidable (e.rel.map Name.text ≤ f.rel.map Name.text))

/-- `r[0]`, as the sort key. -/
def RowLe (r s : Bytes × PyStr) : Prop := r.1 ≤ s.1

instance : DecidableRel RowLe := fun r s => inferInstanceAs (Decidable (r.1 ≤ s.1))

/-- `b"%s  %s\n" % (d.encode("ascii"), p)`, without the newline. -/
def line (r : Bytes × PyStr) : Bytes := encodeAscii r.2 ++ [0x20, 0x20] ++ r.1

/-- `manifest(root, which)`, when `rglob` yields the entries in this order. -/
def manifest (root : PyStr) (which : PyStr) (entries : List Entry) : Except PinError Bytes := do
  let rows ← rows sha256 which (entries.insertionSort PathLe)
  if rows.isEmpty then
    throw (.systemExit ("set %r selected no files under %s -- refusing to emit a pin over " ++
      "an empty set (check the scope rules)") [which, root])
  pure ((rows.insertionSort RowLe).flatMap fun r => line r ++ [0x0A])

end

end GmailGateway.TreePin
