import NcmBridge.Files
import NcmBridge.Proofs.Checks
import NcmBridge.Proofs.Text

/-!
# Files that are written

What is written at a path is read there, also where the path goes through dots: the directories that were there
are still there, and dots lead on from them as before. Whether a file can be written does not depend on its
content; at a plain path it can where only directories are on the way, and none at the end.
-/

namespace NcmBridge

/-! ### Names in paths -/

namespace Text

variable {α : Type} [DecidableEq α]

lemma splitOn_ne_nil (mark : α) (s : List α) : splitOn mark s ≠ [] := by
  cases s with
  | nil => exact List.cons_ne_nil _ _
  | cons c s =>
    rw [splitOn]
    split
    · exact List.cons_ne_nil _ _
    · split <;> exact List.cons_ne_nil _ _

/-- Behind a mark at the end there is an empty part. -/
lemma splitOn_concat (mark : α) (s : List α) : splitOn mark (s ++ [mark]) = splitOn mark s ++ [[]] := by
  induction s with
  | nil => simp [splitOn]
  | cons c s ih =>
    rw [List.cons_append, splitOn, splitOn, ih]
    split
    · rfl
    · obtain ⟨part, parts, hparts⟩ := List.exists_cons_of_ne_nil (splitOn_ne_nil mark s)
      rw [hparts]
      rfl

end Text

namespace FilePath

variable {path : Octets}

lemma ofOctets_ne_nil (path : Octets) : ofOctets path ≠ [] := by
  have hne : Text.splitOn slash path ≠ [] := Text.splitOn_ne_nil slash path
  unfold ofOctets
  dsimp only
  by_cases hlast : (Text.splitOn slash path).getLast? = some []
  · rw [if_pos hlast]
    exact List.append_ne_nil_of_right_ne_nil _ (List.cons_ne_nil _ _)
  · refine List.append_ne_nil_of_left_ne_nil (List.ne_nil_of_mem (List.mem_filter.2
      ⟨List.getLast_mem hne, ?_⟩)) _
    rw [List.getLast?_eq_some_getLast hne, Option.some_inj] at hlast
    exact decide_eq_true hlast

/-- A path that asks for a directory ends with a dot. -/
lemma dot_mem_of_endsInSlash (h : endsInSlash path = true) : [dot] ∈ ofOctets path := by
  obtain ⟨s, rfl⟩ := List.getLast?_eq_some_iff.1 (of_decide_eq_true h)
  have hlast : (Text.splitOn slash (s ++ [slash])).getLast? = some [] := by
    rw [Text.splitOn_concat, List.getLast?_concat]
  unfold ofOctets
  dsimp only
  rw [if_pos hlast]
  exact List.mem_append_right _ List.mem_cons_self

/-! ### Paths that the system takes -/

lemma check_eq_ok_iff : check path = .ok () ↔ 0 ∉ path ∧ path ≠ [] ∧ path.length ≤ maxLength := by
  unfold check
  split
  · next hnul => simp [hnul]
  · next hnul =>
    split
    · next hempty => simp [hempty]
    · next hempty =>
      split
      · next hlong => simp [Nat.not_le.2 hlong]
      · next hshort => simp [hnul, hempty, Nat.not_lt.1 hshort]

lemma trimmed_suffix (path : Octets) : trimmed path <:+ path := by
  induction path with
  | nil => exact List.suffix_rfl
  | cons b path ih =>
    cases path with
    | nil =>
      rw [trimmed]
      split
      · exact List.nil_suffix
      · exact List.suffix_rfl
    | cons c path =>
      rw [trimmed]
      split
      · exact ih.trans (List.suffix_cons ..)
      · exact List.suffix_rfl

/-- A path goes on from its parent. -/
lemma parent_isPrefix (path : Octets) : parent path <+: path := by
  have hsuffix : trimmed ((trimmed path.reverse).dropWhile (· ≠ slash)) <:+ path.reverse :=
    (trimmed_suffix _).trans ((List.dropWhile_suffix _).trans (trimmed_suffix _))
  unfold parent
  split
  · split
    · next habsolute =>
      obtain ⟨rest, rfl⟩ := List.head?_eq_some_iff.1 (of_decide_eq_true habsolute)
      exact ⟨rest, rfl⟩
    · exact List.nil_prefix
  · rwa [← List.reverse_suffix, List.reverse_reverse]

lemma parent_ne_nil (h : isAbsolute path = true) : parent path ≠ [] := by
  unfold parent
  split
  · rw [if_pos h]
    exact List.cons_ne_nil _ _
  · next hne =>
    intro hnil
    exact hne (List.reverse_eq_nil_iff.1 hnil)

/-- Where the system takes a path from the root on, it takes the parent. -/
lemma check_parent (habsolute : isAbsolute path = true) (h : check path = .ok ()) :
    check (parent path) = .ok () := by
  obtain ⟨hnul, -, hlength⟩ := check_eq_ok_iff.1 h
  have hbegins := parent_isPrefix path
  refine check_eq_ok_iff.2 ⟨fun hmem => hnul (hbegins.subset hmem), parent_ne_nil habsolute, ?_⟩
  exact Nat.le_trans hbegins.length_le hlength

end FilePath

namespace FileNode

variable {entries : List (Octets × FileNode)} {name other : Octets} {node root root' : FileNode}
  {path before : FilePath} {content : Octets}

/-! ### Entries -/

lemma lookup_put_self (entries : List (Octets × FileNode)) (name : Octets) (node : FileNode) :
    (put entries name node).lookup name = some node := by
  unfold put
  split
  · next hnone => rw [List.lookup_append, hnone, Option.none_or, List.lookup_cons_self]
  · next old hold =>
    induction entries with
    | nil => cases hold
    | cons e entries ih =>
      rw [List.map_cons]
      by_cases he : e.1 = name
      · rw [if_pos he, List.lookup_cons_self]
      · have hne : (name == e.1) = false := beq_eq_false_iff_ne.2 (Ne.symm he)
        rw [List.lookup_cons, hne] at hold
        rw [if_neg he, List.lookup_cons, hne]
        exact ih hold

lemma lookup_put_of_ne (h : other ≠ name) : (put entries name node).lookup other = entries.lookup other := by
  have hne : (other == name) = false := beq_eq_false_iff_ne.2 h
  unfold put
  split
  · rw [List.lookup_append, List.lookup_cons, hne, List.lookup_nil, Option.or_none]
  · next hold =>
    clear hold
    induction entries with
    | nil => rfl
    | cons e entries ih =>
      rw [List.map_cons, List.lookup_cons, List.lookup_cons, ih]
      by_cases he : e.1 = name
      · rw [if_pos he, he, hne]
      · rw [if_neg he]

lemma entry_eq_ok_iff {found : Option FileNode} :
    entry entries name = .ok found ↔ name.length ≤ maxName ∧ entries.lookup name = found := by
  unfold entry
  split
  · next hlong => simp [Nat.not_le.2 hlong]
  · next hshort => simp [Nat.not_lt.1 hshort]

/-! ### What is found -/

/-- A node is found under a name and beyond. -/
lemma find_cons_eq_ok_iff {found : FileNode} : find (directory entries) (name :: path) = .ok found ↔
    ∃ node, entry entries name = .ok (some node) ∧ node.find path = .ok found := by
  rw [find]
  cases entry entries name with
  | error e => simp
  | ok node? => cases node? <;> simp

/-- A file is put into an entry that is there, or under a new name. -/
lemma addFile_cons (h : addFile content root (name :: path) = .ok root') : ∃ entries, root = directory entries ∧
    ((∃ node inner, entry entries name = .ok (some node) ∧ addFile content node path = .ok inner ∧
        root' = directory (put entries name inner)) ∨
      (entry entries name = .ok none ∧ path = [] ∧ root' = directory (put entries name (file content)))) := by
  cases root with
  | file => cases h
  | directory entries =>
    refine ⟨entries, rfl, ?_⟩
    rw [addFile] at h
    split at h
    · cases h
    · next node hentry =>
      obtain ⟨inner, hinner, hroot'⟩ := Checks.map_eq_ok_iff.1 h
      exact .inl ⟨node, inner, hentry, hinner, hroot'.symm⟩
    · next hentry =>
      split at h
      · next hpath => exact .inr ⟨hentry, hpath, (Except.ok.inj h).symm⟩
      · cases h

lemma entry_put_self (h : name.length ≤ maxName) (entries : List (Octets × FileNode)) (node : FileNode) :
    entry (put entries name node) name = .ok (some node) :=
  entry_eq_ok_iff.2 ⟨h, lookup_put_self entries name node⟩

/-- A file that was put into a tree is found there. -/
lemma find_addFile (h : addFile content root path = .ok root') : root'.find path = .ok (file content) := by
  induction path generalizing root root' with
  | nil =>
    cases root with
    | directory => cases h
    | file => rw [← Except.ok.inj h, find]
  | cons name path ih =>
    obtain ⟨entries, rfl, ⟨node, inner, hentry, hinner, rfl⟩ | ⟨hentry, rfl, rfl⟩⟩ := addFile_cons h
    · exact find_cons_eq_ok_iff.2 ⟨inner, entry_put_self (entry_eq_ok_iff.1 hentry).1 _ _, ih hinner⟩
    · exact find_cons_eq_ok_iff.2 ⟨file content, entry_put_self (entry_eq_ok_iff.1 hentry).1 _ _, rfl⟩

/-- A directory is at the end of a plain path. -/
def HasDirectory (root : FileNode) (path : FilePath) : Prop :=
  ∃ entries, root.find path = .ok (directory entries)

/-- Directories stay when a file is put into their tree. -/
lemma HasDirectory.addFile {plain : FilePath} (hdirectory : root.HasDirectory plain)
    (h : addFile content root path = .ok root') : root'.HasDirectory plain := by
  induction path generalizing root root' plain with
  | nil =>
    obtain ⟨found, hfind⟩ := hdirectory
    cases root with
    | directory => cases h
    | file => cases plain <;> cases hfind
  | cons name path ih =>
    obtain ⟨entries, rfl, hroot'⟩ := addFile_cons h
    obtain ⟨found, hfind⟩ := hdirectory
    match plain with
    | [] =>
      obtain ⟨node, inner, -, -, rfl⟩ | ⟨-, -, rfl⟩ := hroot'
      · exact ⟨_, rfl⟩
      · exact ⟨_, rfl⟩
    | next :: plain =>
      obtain ⟨node', hnext, hfind⟩ := find_cons_eq_ok_iff.1 hfind
      -- the file goes into the same entry, where the directory was before, or into another one
      by_cases hsame : next = name
      · subst hsame
        obtain ⟨node, inner, hentry, hinner, rfl⟩ | ⟨hentry, -, -⟩ := hroot'
        · obtain rfl : node' = node := Option.some.inj (Except.ok.inj (hnext.symm.trans hentry))
          obtain ⟨found', hfind'⟩ := ih ⟨found, hfind⟩ hinner
          exact ⟨found', find_cons_eq_ok_iff.2 ⟨inner, entry_put_self (entry_eq_ok_iff.1 hnext).1 _ _, hfind'⟩⟩
        · cases hnext.symm.trans hentry
      · have hother (node : FileNode) : entry (put entries name node) next = .ok (some node') := by
          obtain ⟨hshort, hlookup⟩ := entry_eq_ok_iff.1 hnext
          exact entry_eq_ok_iff.2 ⟨hshort, (lookup_put_of_ne hsame).trans hlookup⟩
        obtain ⟨node, inner, -, -, rfl⟩ | ⟨-, -, rfl⟩ := hroot'
        · exact ⟨found, find_cons_eq_ok_iff.2 ⟨node', hother inner, hfind⟩⟩
        · exact ⟨found, find_cons_eq_ok_iff.2 ⟨node', hother (file content), hfind⟩⟩

/-! ### Following a path -/

/-- Where directories stay, a path leads to the same place. -/
lemma follow_eq_ok_of_stay (hstay : ∀ plain, root.HasDirectory plain → root'.HasDirectory plain)
    {plain : FilePath} (h : root.follow before path = .ok plain) : root'.follow before path = .ok plain := by
  induction path generalizing before with
  | nil => exact h
  | cons name path ih =>
    rw [follow] at h ⊢
    split at h
    · next hdots =>
      rw [if_pos hdots]
      split at h
      · next entries hfind =>
        obtain ⟨entries', hfind'⟩ := hstay before ⟨entries, hfind⟩
        rw [hfind']
        exact ih h
      · cases h
      · cases h
    · next hname =>
      rw [if_neg hname]
      exact ih h

/-- What was written is read. -/
lemma read_write (h : root.write content path = .ok root') : root'.read path = .ok content := by
  obtain ⟨plain, hfollow, hadd⟩ := Checks.bind_eq_ok_iff.1 h
  have hstay : root'.follow [] path = .ok plain :=
    follow_eq_ok_of_stay (fun _ hdirectory => hdirectory.addFile hadd) hfollow
  rw [read, reach, hstay, Checks.ok_bind, find_addFile hadd]
  rfl

lemma readText_write {text : String} (h : root.write (Octets.ofText text) path = .ok root') :
    root'.readText path = .ok text := by
  rw [readText, read_write h]
  dsimp only
  rw [Octets.text?_eq_some_iff.2 rfl]

/-! ### Whether a file can be written -/

/-- A file can be put at a path, after the directories on the way have been made. -/
def TakesFile (root : FileNode) (path : FilePath) : Prop :=
  ∃ root₁, root.makeWay [] path.directory = (.ok (), root₁) ∧ ∃ root₂, root₁.write [] path = .ok root₂

/-- Whether a file can be written does not depend on its content. -/
lemma exists_addFile_of_ok (h : addFile content root path = .ok root') (content' : Octets) :
    ∃ root'', addFile content' root path = .ok root'' := by
  induction path generalizing root root' with
  | nil =>
    cases root with
    | directory => cases h
    | file => exact ⟨_, rfl⟩
  | cons name path ih =>
    obtain ⟨entries, rfl, ⟨node, inner, hentry, hinner, rfl⟩ | ⟨hentry, rfl, rfl⟩⟩ := addFile_cons h
    · obtain ⟨inner', hinner'⟩ := ih hinner
      refine ⟨directory (put entries name inner'), ?_⟩
      rw [addFile, hentry]
      exact Checks.map_eq_ok_iff.2 ⟨inner', hinner', rfl⟩
    · refine ⟨directory (put entries name (file content')), ?_⟩
      rw [addFile, hentry]
      rfl

lemma exists_write_of_ok (h : root.write content path = .ok root') (content' : Octets) :
    ∃ root'', root.write content' path = .ok root'' := by
  obtain ⟨plain, hfollow, hadd⟩ := Checks.bind_eq_ok_iff.1 h
  obtain ⟨root'', hadd'⟩ := exists_addFile_of_ok hadd content'
  exact ⟨root'', Checks.bind_eq_ok_iff.2 ⟨plain, hfollow, hadd'⟩⟩

/-! ### Plain paths -/

/-- Only directories are on a plain path as far as it leads to something, and none is at its end; all names are
short enough. -/
def HasRoom : FileNode → FilePath → Prop
  | file _, [] => True
  | file _, _ :: _ => False
  | directory _, [] => False
  | directory entries, name :: path => name.length ≤ maxName ∧
    match entries.lookup name with
    | some node => node.HasRoom path
    | none => ∀ next ∈ path, next.length ≤ maxName

/-- In an empty directory there is room for all paths with short names. -/
lemma hasRoom_directory_nil (name : Octets) (path : FilePath) :
    (directory []).HasRoom (name :: path) ↔ ∀ next ∈ name :: path, next.length ≤ maxName := by
  rw [HasRoom, List.forall_mem_cons]
  rfl

lemma hasRoom_cons_iff (hne : path ≠ []) : (directory entries).HasRoom (name :: path) ↔
    name.length ≤ maxName ∧ ((entries.lookup name).getD (directory [])).HasRoom path := by
  obtain ⟨next, path, rfl⟩ := List.exists_cons_of_ne_nil hne
  rw [HasRoom]
  cases entries.lookup name with
  | none => rw [Option.getD_none, hasRoom_directory_nil]
  | some node => rw [Option.getD_some]

lemma addDirectories_cons_eq_ok_iff : addDirectories (directory entries) (name :: path) = (.ok (), root') ↔
    name.length ≤ maxName ∧ ∃ inner,
      addDirectories ((entries.lookup name).getD (directory [])) path = (.ok (), inner) ∧
      directory (put entries name inner) = root' := by
  by_cases hshort : name.length ≤ maxName
  · have hentry : entry entries name = .ok (entries.lookup name) := entry_eq_ok_iff.2 ⟨hshort, rfl⟩
    rw [addDirectories, hentry]
    simp only [hshort, true_and, Prod.ext_iff]
    constructor
    · rintro ⟨hok, hroot'⟩
      exact ⟨_, ⟨hok, rfl⟩, hroot'⟩
    · rintro ⟨_, ⟨hok, rfl⟩, hroot'⟩
      exact ⟨hok, hroot'⟩
  · have hentry : entry entries name = .error .nameTooLong := if_pos (Nat.not_le.1 hshort)
    rw [addDirectories, hentry]
    simp [hshort]

lemma exists_addFile_cons_iff : (∃ root', addFile content (directory entries) (name :: path) = .ok root') ↔
    name.length ≤ maxName ∧ match entries.lookup name with
      | some node => ∃ inner, addFile content node path = .ok inner
      | none => path = [] := by
  constructor
  · rintro ⟨root', h⟩
    obtain ⟨_, hentries, hput⟩ := addFile_cons h
    cases hentries
    obtain ⟨node, inner, hentry, hinner, -⟩ | ⟨hentry, hpath, -⟩ := hput
    · obtain ⟨hshort, hlookup⟩ := entry_eq_ok_iff.1 hentry
      rw [hlookup]
      exact ⟨hshort, inner, hinner⟩
    · obtain ⟨hshort, hlookup⟩ := entry_eq_ok_iff.1 hentry
      rw [hlookup]
      exact ⟨hshort, hpath⟩
  · rintro ⟨hshort, h⟩
    have hentry : entry entries name = .ok (entries.lookup name) := entry_eq_ok_iff.2 ⟨hshort, rfl⟩
    rw [addFile, hentry]
    split at h
    · next node hlookup =>
      obtain ⟨inner, hinner⟩ := h
      rw [hlookup]
      exact ⟨_, Checks.map_eq_ok_iff.2 ⟨inner, hinner, rfl⟩⟩
    · next hlookup =>
      rw [hlookup]
      exact ⟨_, if_pos h⟩

/-- Directories are made, and then a file is put at the end, exactly where there is room. -/
lemma exists_addFile_iff_hasRoom (root : FileNode) (path : FilePath) (name : Octets) :
    (∃ root₁, root.addDirectories path = (.ok (), root₁) ∧
      ∃ root₂, addFile content root₁ (path ++ [name]) = .ok root₂) ↔ root.HasRoom (path ++ [name]) := by
  induction path generalizing root with
  | nil =>
    cases root with
    | file => simp [addDirectories, HasRoom]
    | directory entries =>
      simp only [addDirectories, Prod.mk.injEq, true_and, exists_eq_left', List.nil_append,
        exists_addFile_cons_iff, HasRoom]
      cases entries.lookup name with
      | none => simp
      | some node => cases node <;> simp [addFile, HasRoom]
  | cons next path ih =>
    cases root with
    | file => simp [addDirectories, HasRoom]
    | directory entries =>
      have hne : path ++ [name] ≠ [] := List.append_ne_nil_of_right_ne_nil path (List.cons_ne_nil name [])
      rw [List.cons_append, hasRoom_cons_iff hne, ← ih]
      simp only [addDirectories_cons_eq_ok_iff]
      constructor
      · rintro ⟨root₁, ⟨hshort, inner, hinner, rfl⟩, hfile⟩
        rw [exists_addFile_cons_iff, lookup_put_self] at hfile
        exact ⟨hshort, inner, hinner, hfile.2⟩
      · rintro ⟨hshort, inner, hinner, hfile⟩
        refine ⟨_, ⟨hshort, inner, hinner, rfl⟩, ?_⟩
        rw [exists_addFile_cons_iff, lookup_put_self]
        exact ⟨hshort, hfile⟩

section Plain

variable (hplain : ∀ name ∈ path, FilePath.isDots name = false)

include hplain

lemma makeWay_of_plain : root.makeWay before path = root.addDirectories (before ++ path) := by
  induction path generalizing before with
  | nil => rw [makeWay, List.append_nil]
  | cons name path ih =>
    obtain ⟨hname, hpath⟩ := List.forall_mem_cons.1 hplain
    rw [makeWay, if_neg (by rw [hname]; decide), ih hpath, List.append_assoc, List.singleton_append]

lemma follow_of_plain : root.follow before path = .ok (before ++ path) := by
  induction path generalizing before with
  | nil => rw [follow, List.append_nil]
  | cons name path ih =>
    obtain ⟨hname, hpath⟩ := List.forall_mem_cons.1 hplain
    rw [follow, if_neg (by rw [hname]; decide), ih hpath, List.append_assoc, List.singleton_append]

/-- At a plain path a file can be written exactly where there is room. -/
lemma takesFile_iff_hasRoom (hne : path ≠ []) : root.TakesFile path ↔ root.HasRoom path := by
  obtain ⟨dir, name, rfl⟩ : ∃ dir name, path = dir ++ [name] := ⟨_, _, (List.dropLast_concat_getLast hne).symm⟩
  have hname : name ≠ [FilePath.dot] := by
    rintro rfl
    exact absurd (hplain _ (List.mem_append_right _ List.mem_cons_self)) (by decide)
  have hdir : FilePath.directory (dir ++ [name]) = dir := by
    rw [FilePath.directory, List.reverse_append, List.reverse_singleton, List.singleton_append,
      List.dropWhile_cons_of_neg (by simpa using hname), List.drop_one, List.tail_cons, List.reverse_reverse]
  have hplain' : ∀ name ∈ dir, FilePath.isDots name = false :=
    fun name hmem => hplain name (List.mem_append_left _ hmem)
  rw [TakesFile, hdir, makeWay_of_plain hplain', List.nil_append]
  simp only [write, follow_of_plain hplain, List.nil_append, Checks.ok_bind]
  exact exists_addFile_iff_hasRoom root dir name

end Plain

end FileNode

end NcmBridge
