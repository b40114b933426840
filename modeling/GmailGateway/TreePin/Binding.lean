import GmailGateway.Python.Http
import GmailGateway.Python.Lines
import GmailGateway.Python.Utf8
import GmailGateway.TreePin.Manifest

/-!
# GmailGateway.TreePin.Binding

**A manifest binds the tree below the root.** Read back line by line it gives the path and the
content hash of every regular file on whose path no excluded name stands, each once; so equal
manifests come from equal maps, in whatever order the directories were read.

What lies inside an excluded directory is not looked at, be it a symlink. `_iter_files` tests the
name of the entry itself as well, where `_in_set` tests the directories above only: a symlink or a
regular file that is called `__pycache__` is skipped like a directory of that name. Nothing here
relies on it.
-/

namespace GmailGateway.TreePin

open Python

/-! ### Paths of a tree -/

@[simp] theorem Entry.under_rel (name : Name) (e : Entry) : (e.under name).rel = name :: e.rel :=
  rfl

/-- The path of an entry starts in a child of the directory. -/
theorem head_mem {children : List (Name × Node)} {e : Entry} (h : e ∈ rglobChildren children) :
    ∃ name rel, e.rel = name :: rel ∧ name ∈ children.map Prod.fst := by
  induction children with
  | nil => simp [rglobChildren] at h
  | cons child rest ih =>
      obtain ⟨name, node⟩ := child
      simp only [rglobChildren, List.mem_cons, List.mem_append, List.mem_map] at h
      rcases h with rfl | ⟨e', -, rfl⟩ | h
      · exact ⟨name, [], rfl, by simp⟩
      · exact ⟨name, e'.rel, rfl, by simp⟩
      · obtain ⟨other, rel, hrel, hmem⟩ := ih h
        exact ⟨other, rel, hrel, by simp [hmem]⟩

theorem rel_ne_nil {node : Node} {e : Entry} (h : e ∈ node.rglob) : e.rel ≠ [] := by
  cases node with
  | dir children =>
      obtain ⟨name, rel, hrel, -⟩ := head_mem h
      simp [hrel]
  | _ => simp [Node.rglob] at h

theorem distinctChildren_iff {children : List (Name × Node)} :
    DistinctChildren children ↔ ∀ child ∈ children, child.2.Distinct := by
  induction children with
  | nil => simp [DistinctChildren]
  | cons child rest ih => simp [DistinctChildren, ih]

/-- Of a child and the children after it, if its name is none of theirs. -/
theorem nodup_rels_cons {name : Name} {node : Node} {rest : List (Name × Node)}
    (hnode : (node.rglob.map Entry.rel).Nodup) (hrest : ((rglobChildren rest).map Entry.rel).Nodup)
    (hname : name ∉ rest.map Prod.fst) :
    ((rglobChildren ((name, node) :: rest)).map Entry.rel).Nodup := by
  have hother : ∀ rel, name :: rel ∉ (rglobChildren rest).map Entry.rel := by
    intro rel hmem
    obtain ⟨e, he, hrel⟩ := List.mem_map.mp hmem
    obtain ⟨other, rel', hrel', hin⟩ := head_mem he
    rw [hrel, List.cons.injEq] at hrel'
    exact hname (hrel'.1 ▸ hin)
  have hown : [name] ∉ (node.rglob.map Entry.rel).map (List.cons name) := by
    simp only [List.mem_map, List.cons.injEq, true_and, not_exists, not_and]
    rintro rel ⟨e, he, rfl⟩
    exact rel_ne_nil he
  have hlist : (rglobChildren ((name, node) :: rest)).map Entry.rel =
      [name] :: ((node.rglob.map Entry.rel).map (List.cons name) ++
        (rglobChildren rest).map Entry.rel) := by
    simp [rglobChildren, Function.comp_def]
  rw [hlist, List.nodup_cons, List.mem_append, List.nodup_append']
  refine ⟨not_or.mpr ⟨hown, hother []⟩, hnode.map List.cons_injective, hrest, ?_⟩
  intro rel hrel hin
  obtain ⟨rel', -, rfl⟩ := List.mem_map.mp hrel
  exact hother rel' hin

/-- No path occurs twice. -/
theorem nodup_rels {node : Node} (h : node.Distinct) : (node.rglob.map Entry.rel).Nodup := by
  induction node with
  | dir children ih =>
      obtain ⟨hnames, hbelow⟩ := h
      rw [distinctChildren_iff] at hbelow
      rw [Node.rglob]
      induction children with
      | nil => simp [rglobChildren]
      | cons child rest ihrest =>
          obtain ⟨hchild, hrest⟩ := List.forall_mem_cons.mp hbelow
          obtain ⟨hname, hnames⟩ := List.nodup_cons.mp hnames
          exact nodup_rels_cons (ih _ List.mem_cons_self hchild)
            (ihrest (fun child hchild => ih child (List.mem_cons_of_mem _ hchild)) hnames hrest)
            hname
  | _ => simp [Node.rglob]

theorem Name.text_injective : Function.Injective Name.text := by
  rintro ⟨a⟩ ⟨b⟩ rfl
  rfl

/-- A path can be read off its text. -/
theorem asPosix_inj {rel rel' : List Name} (hne : rel ≠ []) (hne' : rel' ≠ [])
    (h : asPosix rel = asPosix rel') : rel = rel' := by
  have hslash : ∀ (rel : List Name), ∀ p ∈ rel.map Name.text, CodePoint.ofChar '/' ∉ p := by
    intro rel p hp
    obtain ⟨name, -, rfl⟩ := List.mem_map.mp hp
    exact name.no_slash
  exact List.map_injective_iff.mpr Name.text_injective (Lines.intercalate_inj (hslash rel) (hslash rel')
    (by simpa using hne) (by simpa using hne') h)

/-! ### One entry -/

section
variable {sha256 : Bytes → Bytes}

/-- The row of a regular file that is pinned. -/
structure Pinned (sha256 : Bytes → Bytes) (e : Entry) (r : Bytes × PyStr) : Prop where
  not_excluded : excluded e.rel = false
  no_newline : hasNewline (asPosix e.rel) = false
  path : encodeUtf8 (asPosix e.rel) = some r.1
  content : ∃ content, e.node = .file content ∧ r.2 = hexdigest (sha256 content)

/-- **What one pass of the loop does, for `full`.** -/
inductive RowOf (sha256 : Bytes → Bytes) (e : Entry) :
    Except PinError (Option (Bytes × PyStr)) → Prop
  | excluded (h : excluded e.rel = true) : RowOf sha256 e (.ok none)
  | dir (children) (h : excluded e.rel = false) (hnode : e.node = .dir children) :
      RowOf sha256 e (.ok none)
  | pinned (r) (h : Pinned sha256 e r) : RowOf sha256 e (.ok (some r))
  /-- A symlink, another entry, or a regular file with a newline in its path. -/
  | refused (message) (args) (h : excluded e.rel = false)
      (hwhy : ∀ content, e.node = .file content → hasNewline (asPosix e.rel) = true)
      (hnode : ∀ children, e.node ≠ .dir children) :
      RowOf sha256 e (.error (.systemExit message args))
  | unencodable (content) (h : excluded e.rel = false) (hnode : e.node = .file content)
      (hnewline : hasNewline (asPosix e.rel) = false) (hpath : encodeUtf8 (asPosix e.rel) = none) :
      RowOf sha256 e (.error .unicodeEncodeError)

/-- A regular file that `_iter_files` yields. -/
theorem rowOf_file (sha256 : Bytes → Bytes) {e : Entry} {content : Bytes}
    (hexcluded : excluded e.rel = false) (hnode : e.node = .file content) :
    RowOf sha256 e (row sha256 (str "full") e) := by
  have hfile : iterFile e = .ok (some (e.rel, content)) := by
    simp only [iterFile, hexcluded, hnode, Bool.false_eq_true, if_false]
  have hfull : inSet e.rel (str "full") = .ok true := if_pos rfl
  cases hnewline : hasNewline (asPosix e.rel) with
  | true =>
      have hrow : ∃ message args, row sha256 (str "full") e =
          .error (.systemExit message args) := by
        simp only [row, hfile, hnewline, bind, Except.bind, if_true]
        exact ⟨_, _, rfl⟩
      obtain ⟨message, args, hrow⟩ := hrow
      exact hrow ▸ .refused message args hexcluded (fun _ _ => hnewline) (by simp [hnode])
  | false =>
      cases hpath : encodeUtf8 (asPosix e.rel) with
      | none =>
          have hrow : row sha256 (str "full") e = .error .unicodeEncodeError := by
            simp only [row, hfile, hnewline, hfull, bind, Except.bind, hpath]
            rfl
          exact hrow ▸ .unencodable content hexcluded hnode hnewline hpath
      | some path =>
          have hrow : row sha256 (str "full") e =
              .ok (some (path, hexdigest (sha256 content))) := by
            simp only [row, hfile, hnewline, hfull, bind, Except.bind, hpath]
            rfl
          exact hrow ▸ .pinned _ ⟨hexcluded, hnewline, hpath, content, hnode, rfl⟩

theorem rowOf (sha256 : Bytes → Bytes) (e : Entry) :
    RowOf sha256 e (row sha256 (str "full") e) := by
  cases hexcluded : excluded e.rel with
  | true =>
      have hrow : row sha256 (str "full") e = .ok none := by
        simp only [row, iterFile, hexcluded, if_true]
        rfl
      exact hrow ▸ .excluded hexcluded
  | false =>
      cases hnode : e.node with
      | file content => exact rowOf_file sha256 hexcluded hnode
      | dir children =>
          simp only [row, iterFile, hexcluded, hnode, Bool.false_eq_true, if_false]
          exact .dir children hexcluded hnode
      | symlink | other =>
          simp only [row, iterFile, hexcluded, hnode, Bool.false_eq_true, if_false]
          exact .refused _ _ hexcluded (by simp [hnode]) (by simp [hnode])

/-! ### The loop -/

/-- The row of an entry that did not raise. -/
def row? (sha256 : Bytes → Bytes) (e : Entry) : Option (Bytes × PyStr) :=
  match row sha256 (str "full") e with
  | .ok r => r
  | .error _ => none

theorem row?_eq_some {e : Entry} {r : Bytes × PyStr} :
    row? sha256 e = some r ↔ Pinned sha256 e r := by
  have hrow := rowOf sha256 e
  rw [row?]
  constructor
  · intro h
    generalize row sha256 (str "full") e = out at hrow h
    cases hrow with
    | pinned r' hpinned =>
        cases h
        exact hpinned
    | _ => cases h
  · rintro ⟨hexcluded, hnewline, hpath, content, hnode, hhash⟩
    generalize row sha256 (str "full") e = out at hrow
    cases hrow with
    | excluded h => simp [hexcluded] at h
    | dir _ _ h => simp [hnode] at h
    | refused _ _ _ hwhy => simp [hwhy content hnode] at hnewline
    | unencodable _ _ _ _ h => simp [hpath] at h
    | pinned r' h =>
        obtain ⟨-, -, hpath', content', hnode', hhash'⟩ := h
        rw [hpath, Option.some.injEq] at hpath'
        rw [hnode, Node.file.injEq] at hnode'
        subst hnode'
        exact congrArg some (Prod.ext hpath'.symm (hhash'.trans hhash.symm))

/-- Every entry was accepted, and the rows are those of the entries. -/
theorem rows_eq_ok {entries : List Entry} {rs : List (Bytes × PyStr)} :
    rows sha256 (str "full") entries = .ok rs ↔
      (∀ e ∈ entries, ∃ r, row sha256 (str "full") e = .ok r) ∧
        rs = entries.filterMap (row? sha256) := by
  induction entries generalizing rs with
  | nil => simp [rows, eq_comm]
  | cons e entries ih =>
      rw [rows, List.forall_mem_cons, List.filterMap_cons, row?]
      cases hrow : row sha256 (str "full") e with
      | error x => simp [bind, Except.bind]
      | ok r =>
          cases hrest : rows sha256 (str "full") entries with
          | error x =>
              have hnot : ¬ ∀ e ∈ entries, ∃ r, row sha256 (str "full") e = .ok r := by
                intro h
                rw [ih.mpr ⟨h, rfl⟩] at hrest
                cases hrest
              simp [bind, Except.bind, hnot]
          | ok rest =>
              obtain ⟨hall, rfl⟩ := ih.mp hrest
              cases r with
              | none => simpa [bind, Except.bind, pure, Except.pure, eq_comm] using fun _ => hall
              | some r => simpa [bind, Except.bind, pure, Except.pure, eq_comm] using fun _ => hall

/-- What the loop raises is what it raises on an entry. -/
theorem rows_eq_error {entries : List Entry} {x : PinError}
    (h : rows sha256 (str "full") entries = .error x) :
    ∃ e ∈ entries, row sha256 (str "full") e = .error x := by
  induction entries with
  | nil => cases h
  | cons e entries ih =>
      rw [rows] at h
      cases hrow : row sha256 (str "full") e with
      | error y =>
          rw [hrow] at h
          cases h
          exact ⟨e, List.mem_cons_self, hrow⟩
      | ok r =>
          rw [hrow] at h
          cases hrest : rows sha256 (str "full") entries with
          | error y =>
              rw [hrest] at h
              obtain ⟨e', he', hrow'⟩ := ih (hrest.trans h)
              exact ⟨e', List.mem_cons_of_mem _ he', hrow'⟩
          | ok rest =>
              rw [hrest] at h
              cases h

/-! ### Reading a manifest back -/

/-- A line: the path and its hash. -/
def readLine (text : Bytes) : Bytes × Bytes :=
  ((Lines.cut 0x20 text).2.tail, (Lines.cut 0x20 text).1)

/-- The lines of a manifest. -/
def readManifest (m : Bytes) : List (Bytes × Bytes) := (Lines.lines 0x0A m).map readLine

theorem hexDigit_byte : ∀ n < 16, (hexDigit n).val < 0x80 ∧
    UInt8.ofNat (hexDigit n).val ≠ 0x20 ∧ UInt8.ofNat (hexDigit n).val ≠ 0x0A := by
  decide

theorem mem_hexdigest {digest : Bytes} {c : CodePoint} (h : c ∈ hexdigest digest) :
    ∃ n < 16, c = hexDigit n := by
  obtain ⟨b, -, hc⟩ := List.mem_flatMap.mp h
  have hb := b.toNat_lt
  simp only [List.mem_cons, List.not_mem_nil, or_false] at hc
  rcases hc with rfl | rfl
  · exact ⟨_, by omega, rfl⟩
  · exact ⟨_, by omega, rfl⟩

/-- A hash has neither a blank nor a newline. -/
theorem not_mem_hexdigest (digest : Bytes) :
    0x20 ∉ encodeAscii (hexdigest digest) ∧ 0x0A ∉ encodeAscii (hexdigest digest) := by
  have hbyte : ∀ b ∈ encodeAscii (hexdigest digest), b ≠ 0x20 ∧ b ≠ 0x0A := by
    intro b hb
    obtain ⟨c, hc, rfl⟩ := List.mem_map.mp hb
    obtain ⟨n, hn, rfl⟩ := mem_hexdigest hc
    exact (hexDigit_byte n hn).2
  exact ⟨fun h => (hbyte _ h).1 rfl, fun h => (hbyte _ h).2 rfl⟩

theorem encodeAscii_hexdigest_inj {digest digest' : Bytes}
    (h : encodeAscii (hexdigest digest) = encodeAscii (hexdigest digest')) :
    hexdigest digest = hexdigest digest' := by
  have hbyte : ∀ digest, (encodeAscii (hexdigest digest)).map UInt8.toNat =
      (hexdigest digest).map Fin.val := by
    intro digest
    rw [encodeAscii, List.map_map]
    refine List.map_congr_left fun c hc => ?_
    obtain ⟨n, hn, rfl⟩ := mem_hexdigest hc
    exact toNat_ofNat (by have := (hexDigit_byte n hn).1; omega)
  have hval := congrArg (List.map UInt8.toNat) h
  rw [hbyte, hbyte] at hval
  exact List.map_injective_iff.mpr Fin.val_injective hval

/-- A newline byte encodes a newline. -/
theorem val_of_mem_utf8 {c : CodePoint} (h : 0x0A ∈ c.utf8) : c.val = 0x0A := by
  have hbyte : ∀ n, (0x0A : UInt8) = .ofNat n → n % 256 = 0x0A := fun n hn =>
    (congrArg UInt8.toNat hn).symm
  have hc := c.isLt
  simp only [CodePoint.utf8] at h
  split at h
  · have := hbyte _ (List.mem_singleton.mp h)
    omega
  · split at h
    · simp only [List.mem_cons, List.not_mem_nil, or_false] at h
      rcases h with h | h <;> have := hbyte _ h <;> omega
    · split at h
      · simp only [List.mem_cons, List.not_mem_nil, or_false] at h
        rcases h with h | h | h <;> have := hbyte _ h <;> omega
      · simp only [List.mem_cons, List.not_mem_nil, or_false] at h
        rcases h with h | h | h | h <;> have := hbyte _ h <;> omega

theorem not_mem_path {s : PyStr} {path : Bytes} (hpath : encodeUtf8 s = some path)
    (hnewline : hasNewline s = false) : 0x0A ∉ path := by
  intro hmem
  rw [encodeUtf8] at hpath
  split at hpath
  · cases hpath
  · cases hpath
    obtain ⟨c, hc, hbyte⟩ := List.mem_flatMap.mp hmem
    have hchar : c = CodePoint.ofChar '\n' := Fin.ext (val_of_mem_utf8 hbyte)
    subst hchar
    have hyes : hasNewline s = true := List.any_eq_true.mpr ⟨_, hc, by decide⟩
    rw [hyes] at hnewline
    cases hnewline

/-- **Round trip**, one line. -/
theorem readLine_line (path digest : Bytes) :
    readLine (line (path, hexdigest digest)) = (path, encodeAscii (hexdigest digest)) := by
  rw [readLine, line, List.append_assoc, List.cons_append, List.cons_append, List.nil_append,
    Lines.cut_append (not_mem_hexdigest digest).1, List.tail_cons]

/-- Of a row that stands for an entry. -/
theorem Pinned.line {e : Entry} {r : Bytes × PyStr} (h : Pinned sha256 e r) :
    0x0A ∉ TreePin.line r ∧ readLine (TreePin.line r) = (r.1, encodeAscii r.2) := by
  obtain ⟨-, hnewline, hpath, content, -, hhash⟩ := h
  obtain ⟨path, hash⟩ := r
  obtain rfl : hash = _ := hhash
  refine ⟨?_, readLine_line path _⟩
  simp [TreePin.line, (not_mem_hexdigest _).2, not_mem_path hpath hnewline]

/-! ### The manifest -/

/-- The rows of a manifest, in its order. -/
def sortedRows (sha256 : Bytes → Bytes) (entries : List Entry) : List (Bytes × PyStr) :=
  ((entries.insertionSort PathLe).filterMap (row? sha256)).insertionSort RowLe

theorem mem_sortedRows {entries : List Entry} {r : Bytes × PyStr} :
    r ∈ sortedRows sha256 entries ↔ ∃ e ∈ entries, Pinned sha256 e r := by
  rw [sortedRows, (List.perm_insertionSort RowLe _).mem_iff, List.mem_filterMap]
  refine exists_congr fun e => and_congr (List.perm_insertionSort PathLe _).mem_iff row?_eq_some

theorem manifest_eq_ok {root : PyStr} {entries : List Entry} {m : Bytes} :
    manifest sha256 root (str "full") entries = .ok m ↔
      (∀ e ∈ entries, ∃ r, row sha256 (str "full") e = .ok r) ∧
        (∃ e ∈ entries, ∃ r, Pinned sha256 e r) ∧
        m = Lines.unlines 0x0A ((sortedRows sha256 entries).map line) := by
  have hsorted : ∀ {p : Entry → Prop}, (∀ e ∈ entries.insertionSort PathLe, p e) ↔
      ∀ e ∈ entries, p e := by
    intro p
    simp only [(List.perm_insertionSort PathLe entries).mem_iff]
  have hlines : ∀ rs : List (Bytes × PyStr), (rs.flatMap fun r => line r ++ [0x0A]) =
      Lines.unlines 0x0A (rs.map line) := fun rs => by
    rw [Lines.unlines, List.flatMap_map]
  have hsome : (∃ e ∈ entries, ∃ r, Pinned sha256 e r) ↔
      (entries.insertionSort PathLe).filterMap (row? sha256) ≠ [] := by
    rw [ne_eq, List.filterMap_eq_nil_iff, hsorted]
    simp [Option.eq_none_iff_forall_ne_some, row?_eq_some]
  rw [manifest]
  cases hrows : rows sha256 (str "full") (entries.insertionSort PathLe) with
  | error x =>
      have hnot : ¬ ∀ e ∈ entries, ∃ r, row sha256 (str "full") e = .ok r := by
        intro h
        rw [rows_eq_ok.mpr ⟨hsorted.mpr h, rfl⟩] at hrows
        cases hrows
      simp [bind, Except.bind, hnot]
  | ok rs =>
      obtain ⟨hall, rfl⟩ := rows_eq_ok.mp hrows
      rw [hsorted] at hall
      rw [hsome]
      by_cases hnil : (entries.insertionSort PathLe).filterMap (row? sha256) = []
      · simp [bind, Except.bind, hnil, throw, throwThe, MonadExceptOf.throw]
      · have hne : ((entries.insertionSort PathLe).filterMap (row? sha256)).isEmpty = false := by
          simpa using hnil
        simp only [bind, Except.bind, hne, Bool.false_eq_true, if_false, pure, Except.pure,
          Except.ok.injEq, hlines]
        rw [← sortedRows]
        exact ⟨fun h => ⟨hall, hnil, h.symm⟩, fun h => h.2.2.symm⟩

/-- What a manifest raises: the exception of an entry, or that nothing was selected. -/
theorem manifest_eq_error {root : PyStr} {entries : List Entry} {x : PinError}
    (h : manifest sha256 root (str "full") entries = .error x) :
    (∃ e ∈ entries, row sha256 (str "full") e = .error x) ∨
      ∃ message args, x = .systemExit message args := by
  rw [manifest] at h
  cases hrows : rows sha256 (str "full") (entries.insertionSort PathLe) with
  | error y =>
      rw [hrows] at h
      cases h
      obtain ⟨e, he, hrow⟩ := rows_eq_error hrows
      exact .inl ⟨e, (List.perm_insertionSort PathLe _).mem_iff.mp he, hrow⟩
  | ok rs =>
      rw [hrows] at h
      simp only [bind, Except.bind] at h
      split at h
      · cases h
        exact .inr ⟨_, _, rfl⟩
      · cases h

/-- **Round trip.** A manifest reads back as its rows. -/
theorem readManifest_manifest {root : PyStr} {entries : List Entry} {m : Bytes}
    (h : manifest sha256 root (str "full") entries = .ok m) :
    readManifest m = (sortedRows sha256 entries).map fun r => (r.1, encodeAscii r.2) := by
  obtain ⟨-, -, rfl⟩ := manifest_eq_ok.mp h
  have hline : ∀ r ∈ sortedRows sha256 entries,
      0x0A ∉ line r ∧ readLine (line r) = (r.1, encodeAscii r.2) := by
    intro r hr
    obtain ⟨e, -, hpinned⟩ := mem_sortedRows.mp hr
    exact hpinned.line
  rw [readManifest, Lines.lines_unlines, List.map_map]
  · exact List.map_congr_left fun r hr => (hline r hr).2
  · intro text htext
    obtain ⟨r, hr, rfl⟩ := List.mem_map.mp htext
    exact (hline r hr).1

/-! ### Whole trees -/

theorem Tree.nodup_rels {t : Tree} {entries : List Entry} (horder : entries.Perm t.rglob) :
    (entries.map Entry.rel).Nodup :=
  (horder.map Entry.rel).nodup_iff.mpr (TreePin.nodup_rels t.distinct)

/-- Two entries of one path are one. -/
theorem Tree.entry_eq {t : Tree} {e f : Entry} (he : e ∈ t.rglob) (hf : f ∈ t.rglob)
    (h : e.rel = f.rel) : e = f :=
  List.inj_on_of_nodup_map (Tree.nodup_rels (List.Perm.refl t.rglob)) he hf h

/-- The order in which the directories are read does not matter. -/
theorem sorted_perm {t : Tree} {entries entries' : List Entry} (horder : entries.Perm t.rglob)
    (horder' : entries'.Perm t.rglob) :
    entries.insertionSort PathLe = entries'.insertionSort PathLe := by
  have htotal : Std.Total PathLe := ⟨fun e f => le_total _ _⟩
  have htrans : IsTrans _ PathLe := ⟨fun _ _ _ h₁ h₂ => le_trans h₁ h₂⟩
  have hmem : ∀ e ∈ entries.insertionSort PathLe, e ∈ t.rglob := fun e he =>
    horder.mem_iff.mp ((List.perm_insertionSort PathLe _).mem_iff.mp he)
  have hmem' : ∀ e ∈ entries'.insertionSort PathLe, e ∈ t.rglob := fun e he =>
    horder'.mem_iff.mp ((List.perm_insertionSort PathLe _).mem_iff.mp he)
  refine List.Perm.eq_of_pairwise (fun e f he hf hle hge => ?_)
    (List.pairwise_insertionSort PathLe entries) (List.pairwise_insertionSort PathLe entries')
    (((List.perm_insertionSort PathLe entries).trans horder).trans
      (horder'.symm.trans (List.perm_insertionSort PathLe entries').symm))
  exact Tree.entry_eq (hmem e he) (hmem' f hf)
    (List.map_injective_iff.mpr Name.text_injective (le_antisymm hle hge))

/-- Two rows with one path are of one entry. -/
theorem Pinned.entry_eq {t : Tree} {e f : Entry} {r s : Bytes × PyStr} (he : e ∈ t.rglob)
    (hf : f ∈ t.rglob) (hr : Pinned sha256 e r) (hs : Pinned sha256 f s) (h : r.1 = s.1) :
    e = f := by
  have htext := encodeUtf8_inj (hr.path.trans (congrArg some h)) hs.path
  exact Tree.entry_eq he hf (asPosix_inj (rel_ne_nil he) (rel_ne_nil hf) htext)

/-- No path has two rows. -/
theorem nodup_sortedRows {t : Tree} {entries : List Entry} (horder : entries.Perm t.rglob) :
    ((sortedRows sha256 entries).map Prod.fst).Nodup := by
  have hperm := (List.perm_insertionSort PathLe entries).trans horder
  have hnodup : (entries.insertionSort PathLe).Nodup :=
    (Tree.nodup_rels hperm).of_map
  rw [sortedRows, ((List.perm_insertionSort RowLe _).map Prod.fst).nodup_iff, List.Nodup,
    List.pairwise_map, List.pairwise_filterMap]
  refine hnodup.imp_of_mem fun he hf hne r hr s hs heq => hne ?_
  exact (row?_eq_some.mp hr).entry_eq (hperm.mem_iff.mp he) (hperm.mem_iff.mp hf)
    (row?_eq_some.mp hs) heq

/-! ### What is pinned -/

/-- A regular file below the root, with no excluded name on its path. -/
def Tree.Holds (t : Tree) (rel : List Name) (content : Bytes) : Prop :=
  (⟨rel, .file content⟩ : Entry) ∈ t.rglob ∧ excluded rel = false

/-- The map from the paths of these files to their hashes, as its graph. -/
def Tree.hashes (t : Tree) (sha256 : Bytes → Bytes) : Set (List Name × PyStr) :=
  {x | ∃ content, t.Holds x.1 content ∧ x.2 = hexdigest (sha256 content)}

/-- A message, unless a path cannot be encoded. -/
def Tree.Refuses (t : Tree) (out : Except PinError Bytes) : Prop :=
  ∃ x, out = .error x ∧ ((∃ message args, x = .systemExit message args) ∨
    ∃ rel content, t.Holds rel content ∧ encodeUtf8 (asPosix rel) = none)

/-- One line has the path, and it has the hash. -/
def ListsOnce (m : Bytes) (rel : List Name) (hash : PyStr) : Prop :=
  ∃ path, encodeUtf8 (asPosix rel) = some path ∧ ((readManifest m).map Prod.fst).count path = 1 ∧
    (path, encodeAscii hash) ∈ readManifest m

/-- Outside the excluded directories are directories and regular files that can be pinned. -/
structure Tree.Pinnable (t : Tree) : Prop where
  some_file : ∃ rel content, t.Holds rel content
  entries : ∀ e ∈ t.rglob, excluded e.rel.dropLast = false →
    (∃ children, e.node = .dir children) ∨
      excluded e.rel = false ∧ ∃ content, e.node = .file content ∧
        hasNewline (asPosix e.rel) = false ∧ (encodeUtf8 (asPosix e.rel)).isSome = true

section
variable {root : PyStr} {t : Tree} {entries : List Entry}

/-- What does not get through makes the whole manifest fail. -/
theorem manifest_refuses (horder : entries.Perm t.rglob) {e : Entry} (he : e ∈ t.rglob)
    (hexcluded : excluded e.rel = false) (hnode : ∀ children, e.node ≠ .dir children)
    (hfile : ∀ content, e.node = .file content → hasNewline (asPosix e.rel) = true) :
    t.Refuses (manifest sha256 root (str "full") entries) := by
  cases hout : manifest sha256 root (str "full") entries with
  | ok m =>
      obtain ⟨r, hr⟩ := (manifest_eq_ok.mp hout).1 e (horder.mem_iff.mpr he)
      have hrow := rowOf sha256 e
      rw [hr] at hrow
      cases hrow with
      | excluded h => simp [hexcluded] at h
      | dir children _ h => exact absurd h (hnode children)
      | pinned r h =>
          obtain ⟨content, hcontent, -⟩ := h.content
          cases (hfile content hcontent).symm.trans h.no_newline
  | error x =>
      refine ⟨x, rfl, ?_⟩
      rcases manifest_eq_error hout with ⟨e', he', hr⟩ | hmessage
      · have hrow := rowOf sha256 e'
        rw [hr] at hrow
        cases hrow with
        | refused message args => exact .inl ⟨message, args, rfl⟩
        | unencodable content h hnode' _ hpath =>
            refine .inr ⟨e'.rel, content, ⟨?_, h⟩, hpath⟩
            rw [← hnode']
            exact horder.mem_iff.mp he'
      · exact .inl hmessage

theorem manifest_returns (horder : entries.Perm t.rglob) (h : t.Pinnable) :
    ∃ m, manifest sha256 root (str "full") entries = .ok m := by
  have hpinned : ∀ e ∈ t.rglob, excluded e.rel = false →
      (∃ children, e.node = .dir children) ∨ ∃ r, Pinned sha256 e r := by
    intro e he hexcluded
    have houtside : excluded e.rel.dropLast = false := by
      refine List.any_eq_false.mpr fun name hname => ?_
      exact List.any_eq_false.mp hexcluded name (List.dropLast_subset _ hname)
    refine (h.entries e he houtside).imp_right ?_
    rintro ⟨-, content, hnode, hnewline, hpath⟩
    obtain ⟨path, hpath⟩ := Option.isSome_iff_exists.mp hpath
    exact ⟨(path, _), hexcluded, hnewline, hpath, content, hnode, rfl⟩
  refine ⟨_, manifest_eq_ok.mpr ⟨fun e he => ?_, ?_, rfl⟩⟩
  · have he := horder.mem_iff.mp he
    have hrow := rowOf sha256 e
    generalize row sha256 (str "full") e = out at hrow ⊢
    cases hrow with
    | refused _ _ hexcluded hwhy hnode =>
        rcases hpinned e he hexcluded with ⟨children, hdir⟩ | ⟨r, hr⟩
        · exact absurd hdir (hnode children)
        · obtain ⟨content, hcontent, -⟩ := hr.content
          cases (hwhy content hcontent).symm.trans hr.no_newline
    | unencodable content hexcluded hnode _ hpath =>
        rcases hpinned e he hexcluded with ⟨children, hdir⟩ | ⟨r, hr⟩
        · cases hnode.symm.trans hdir
        · cases hpath.symm.trans hr.path
    | _ => exact ⟨_, rfl⟩
  · obtain ⟨rel, content, hfile, hexcluded⟩ := h.some_file
    rcases hpinned _ hfile hexcluded with ⟨children, hdir⟩ | ⟨r, hr⟩
    · cases hdir
    · exact ⟨_, horder.mem_iff.mpr hfile, r, hr⟩

/-- A file that is pinned has its row. -/
theorem Tree.Holds.pinned {rel : List Name} {content m : Bytes} (h : t.Holds rel content)
    (horder : entries.Perm t.rglob)
    (hout : manifest sha256 root (str "full") entries = .ok m) :
    ∃ path, Pinned sha256 ⟨rel, .file content⟩ (path, hexdigest (sha256 content)) := by
  obtain ⟨hmem, hexcluded⟩ := h
  obtain ⟨r, hr⟩ := (manifest_eq_ok.mp hout).1 _ (horder.mem_iff.mpr hmem)
  have hrow := rowOf sha256 ⟨rel, .file content⟩
  rw [hr] at hrow
  cases hrow with
  | excluded h => simp [hexcluded] at h
  | dir children _ h => cases h
  | pinned r h =>
      obtain ⟨content', hcontent, hhash⟩ := h.content
      cases hcontent
      exact ⟨r.1, hhash ▸ h⟩

theorem listsOnce {rel : List Name} {content m : Bytes} (h : t.Holds rel content)
    (horder : entries.Perm t.rglob)
    (hout : manifest sha256 root (str "full") entries = .ok m) :
    ListsOnce m rel (hexdigest (sha256 content)) := by
  obtain ⟨path, hpinned⟩ := h.pinned horder hout
  have hrow := mem_sortedRows.mpr ⟨_, horder.mem_iff.mpr h.1, hpinned⟩
  have hread := readManifest_manifest hout
  refine ⟨path, hpinned.path, ?_, hread ▸ List.mem_map.mpr ⟨_, hrow, rfl⟩⟩
  have hpaths : (readManifest m).map Prod.fst = (sortedRows sha256 entries).map Prod.fst := by
    rw [hread, List.map_map]
    rfl
  rw [hpaths]
  exact List.count_eq_one_of_mem (nodup_sortedRows horder) (List.mem_map_of_mem hrow)

/-- A file of one tree is in every tree with the same manifest. -/
theorem hashes_subset {t' : Tree} {root' : PyStr} {entries' : List Entry} {m : Bytes}
    (horder : entries.Perm t.rglob) (horder' : entries'.Perm t'.rglob)
    (hout : manifest sha256 root (str "full") entries = .ok m)
    (hout' : manifest sha256 root' (str "full") entries' = .ok m) :
    t.hashes sha256 ⊆ t'.hashes sha256 := by
  rintro ⟨rel, hash⟩ ⟨content, hfile, rfl⟩
  obtain ⟨path, hpath, -, hlisted⟩ := listsOnce hfile horder hout
  rw [readManifest_manifest hout'] at hlisted
  obtain ⟨r, hr, heq⟩ := List.mem_map.mp hlisted
  obtain ⟨rfl, hbytes⟩ := Prod.mk.inj heq
  obtain ⟨e, he, hpinned⟩ := mem_sortedRows.mp hr
  have he := horder'.mem_iff.mp he
  have hrel : e.rel = rel := asPosix_inj (rel_ne_nil he) (rel_ne_nil hfile.1)
    (encodeUtf8_inj hpinned.path hpath)
  obtain ⟨content', hnode, hhash⟩ := hpinned.content
  rw [hhash] at hbytes
  refine ⟨content', ⟨?_, hrel ▸ hpinned.not_excluded⟩, (encodeAscii_hexdigest_inj hbytes).symm⟩
  rw [← hrel, ← hnode]
  exact he

end

end

/-- **A manifest binds the tree**, in whatever order the directories are read.

A symlink and a path with a newline are refused, if no excluded name is on the path; what lies in
an excluded directory is no reason to. In what is returned each regular file without such a name
on its path is listed once, and another tree with this manifest has the same hashes. -/
theorem manifest_binds (sha256 : Bytes → Bytes) (root : PyStr) (t : Tree) (entries : List Entry)
    (horder : entries.Perm t.rglob) :
    ((∃ e ∈ t.rglob, e.node = .symlink ∧ excluded e.rel = false) ∨
        (∃ rel content, t.Holds rel content ∧ hasNewline (asPosix rel) = true) →
      t.Refuses (manifest sha256 root (str "full") entries)) ∧
    (t.Pinnable → ∃ m, manifest sha256 root (str "full") entries = .ok m) ∧
    (∀ m, manifest sha256 root (str "full") entries = .ok m →
      (∀ rel content, t.Holds rel content → ListsOnce m rel (hexdigest (sha256 content))) ∧
      ∀ (t' : Tree) (root' : PyStr) (entries' : List Entry), entries'.Perm t'.rglob →
        manifest sha256 root' (str "full") entries' = .ok m →
          t.hashes sha256 = t'.hashes sha256) ∧
    ∀ entries' : List Entry, entries'.Perm t.rglob →
      manifest sha256 root (str "full") entries' = manifest sha256 root (str "full") entries := by
  refine ⟨?_, manifest_returns horder, fun m hout => ⟨fun rel content hfile =>
    listsOnce hfile horder hout, fun t' root' entries' horder' hout' =>
      (hashes_subset horder horder' hout hout').antisymm
        (hashes_subset horder' horder hout' hout)⟩, fun entries' horder' => ?_⟩
  · rintro (⟨e, he, hnode, hexcluded⟩ | ⟨rel, content, ⟨hfile, hexcluded⟩, hnewline⟩)
    · exact manifest_refuses horder he hexcluded (by simp [hnode]) (by simp [hnode])
    · exact manifest_refuses horder hfile hexcluded (by simp) fun _ _ => hnewline
  · rw [manifest, manifest, sorted_perm horder horder']

/-! An empty file, and a cache directory with a symlink in it. -/

/-- SHA-256 of nothing. -/
def sampleSha256 : Bytes → Bytes := fun _ =>
  [0xe3, 0xb0, 0xc4, 0x42, 0x98, 0xfc, 0x1c, 0x14, 0x9a, 0xfb, 0xf4, 0xc8, 0x99, 0x6f, 0xb9, 0x24,
    0x27, 0xae, 0x41, 0xe4, 0x64, 0x9b, 0x93, 0x4c, 0xa4, 0x95, 0x99, 0x1b, 0x78, 0x52, 0xb8, 0x55]

/-- A name that is written out. -/
def sampleName (s : String) (h : str s ≠ [] ∧ CodePoint.ofChar '/' ∉ str s ∧
    str s ≠ str "." ∧ str s ≠ str "..") : Name :=
  ⟨str s, h.1, h.2.1, h.2.2⟩

/-- The name of a file. -/
def fileName : Name := sampleName "a" (by decide)

/-- The directory that is left out. -/
def cacheName : Name := sampleName "__pycache__" (by decide)

/-- A tree with a symbolic link in that directory. -/
def cachedSymlink : Tree where
  children := [(fileName, .file []), (cacheName, .dir [(fileName, .symlink)])]
  distinct := ⟨by decide, trivial, ⟨by decide, trivial, trivial⟩, trivial⟩

theorem cachedSymlink_pinnable : cachedSymlink.Pinnable where
  some_file := ⟨[fileName], [], List.mem_cons_self, by decide⟩
  entries := by
    intro e he houtside
    simp only [cachedSymlink, Tree.rglob, Node.rglob, rglobChildren, List.map_cons, List.map_nil,
      List.append_nil, List.nil_append, List.mem_cons, List.not_mem_nil, or_false] at he
    rcases he with rfl | rfl | rfl
    · exact .inr ⟨by decide, [], rfl, by decide, by decide⟩
    · exact .inl ⟨_, rfl⟩
    · exact absurd houtside (by decide)

theorem manifest_binds_cached : ∃ m,
    manifest sampleSha256 (str "r") (str "full") cachedSymlink.rglob = .ok m ∧
      ListsOnce m [fileName] (hexdigest (sampleSha256 [])) := by
  obtain ⟨-, hreturns, hbinds, -⟩ := manifest_binds sampleSha256 (str "r") cachedSymlink
    cachedSymlink.rglob (List.Perm.refl _)
  obtain ⟨m, hm⟩ := hreturns cachedSymlink_pinnable
  exact ⟨m, hm, (hbinds m hm).1 _ _ ⟨List.mem_cons_self, by decide⟩⟩

/-- The symlink in the cache directory is not refused. -/
theorem manifest_ignores_cachedSymlink :
    ¬ ∀ (sha256 : Bytes → Bytes) (root : PyStr) (t : Tree) (entries : List Entry),
      entries.Perm t.rglob → (∃ e ∈ t.rglob, e.node = .symlink) →
        ∃ x, manifest sha256 root (str "full") entries = .error x := by
  intro hclaim
  have hsymlink : ∃ e ∈ cachedSymlink.rglob, e.node = .symlink :=
    ⟨⟨[cacheName, fileName], .symlink⟩, .tail _ (.tail _ (.head _)), rfl⟩
  obtain ⟨x, hx⟩ := hclaim sampleSha256 (str "r") cachedSymlink cachedSymlink.rglob
    (List.Perm.refl _) hsymlink
  obtain ⟨m, hm⟩ := manifest_returns (List.Perm.refl _) cachedSymlink_pinnable
  cases hx.symm.trans hm

end GmailGateway.TreePin
