import NcmBridge.Proofs.Files
import NcmBridge.Proofs.Settings.Document
import NcmBridge.Settings.Store

/-!
# Settings that are saved and loaded

A text for settings is there unless one of their integers has more than 63 bits, and reading it gives them back.
So what is saved under a path from the root on is loaded from there unchanged if it is accepted and the path is
a text, and what is loaded is always accepted. If there is no text, nothing is touched.
-/

namespace NcmBridge.Settings

open Toml (Entry IsWord64 Sections)

variable {s : Settings}

/-! ### Integers -/

/-- The integers among settings. -/
def integers (s : Settings) : List Nat :=
  s.vendorId.toNat :: s.productIds.map UInt16.toNat ++
    [s.scanSeconds.toNat, s.transferTimeout.toNat, s.batchLimit.toNat] ++
    (s.metricsPort.map UInt16.toNat).toList

/-- No integer is larger than the largest signed one of 64 bits. -/
def IntegersFit (s : Settings) : Prop := ∀ n ∈ s.integers, (n : Int) ≤ Int64.maxValue.toInt

instance (s : Settings) : Decidable s.IntegersFit := inferInstanceAs (Decidable (∀ n ∈ s.integers, _))

lemma isWord64_natCast_iff {n : Nat} : IsWord64 n ↔ (n : Int) ≤ Int64.maxValue.toInt :=
  and_iff_right (Int.le_trans (show Toml.Atom.minInteger ≤ 0 by decide) (Int.natCast_nonneg n))

lemma toDocument_fits_iff : Sections.Fits s.toDocument ↔ s.IntegersFit := by
  have hfits : Sections.Fits s.toDocument ↔
      ∀ part ∈ sections, ∀ f ∈ part.2, ∀ e, f.write s = some e → e.Fits := by
    simp only [Sections.Fits, toDocument, List.forall_mem_map, List.mem_filterMap, Option.map_eq_some_iff]
    constructor
    · intro h part hpart f hf e hwrite
      exact h part hpart (f.name, e) ⟨f, hf, e, hwrite, rfl⟩
    · rintro h part hpart _ ⟨f, hf, e, hwrite, rfl⟩
      exact h part hpart f hf e hwrite
  rw [hfits]
  simp only [IntegersFit, integers, List.forall_mem_append, List.forall_mem_cons, List.forall_mem_map]
  simp [sections, daemonFields, usbFields, networkFields, telemetryFields, preflightFields,
    SettingsField.ofText, SettingsField.ofBool, SettingsField.ofWord64, isWord64_natCast_iff, and_assoc]

/-! ### Texts -/

lemma exists_text_of_fit (h : s.IntegersFit) :
    ∃ text, s.text? = some text ∧ (Toml.read text).bind ofDocument = some s := by
  have hfits : Sections.Fits s.toDocument := toDocument_fits_iff.2 h
  refine ⟨_, Sections.write_of_fits hfits, ?_⟩
  rw [Sections.read_chars s.toDocument_isPlain hfits, Option.bind_some, ofDocument_toDocument]

lemma text?_of_not_fit (h : ¬s.IntegersFit) : s.text? = none :=
  Sections.write_of_not_fits fun hfits => h (toDocument_fits_iff.1 hfits)

/-- What is read from a text has been accepted. -/
lemma ofText_eq_ok_iff {path text : String} : ofText path text = .ok s ↔
    (Toml.read text).bind ofDocument = some s ∧ s.check = .ok () := by
  rw [ofText]
  cases (Toml.read text).bind ofDocument with
  | none => simp
  | some t =>
    dsimp only
    cases hcheck : t.check with
    | error fault =>
      simp only [reduceCtorEq, Option.some_inj, false_iff, not_and]
      rintro rfl h
      cases hcheck.symm.trans h
    | ok =>
      simp only [Except.ok.injEq, Option.some_inj]
      exact ⟨fun h => ⟨h, h ▸ hcheck⟩, And.left⟩

/-! ### Files -/

lemma readText_eq_ok_iff {places : Places} {root : FileNode} {path : Octets} {text : String} :
    places.readText root path = .ok text ↔
      FilePath.check path = .ok () ∧ root.readText (places.resolve path) = .ok text := by
  rw [Places.readText]
  cases FilePath.check path <;> simp

lemma loadFrom_eq_ok_iff {places : Places} {root : FileNode} {path : Octets} :
    loadFrom places root path = .ok s ↔
      ∃ text, places.readText root path = .ok text ∧ ofText path.lossyText text = .ok s := by
  rw [loadFrom]
  cases places.readText root path <;> simp

/-- What is loaded has been accepted. -/
lemma check_of_load {places : Places} {root : FileNode} {path? : Option Octets}
    (h : load places root path? = .ok s) : s.check = .ok () := by
  have hfrom {path : Octets} (h : loadFrom places root path = .ok s) : s.check = .ok () := by
    obtain ⟨text, -, htext⟩ := loadFrom_eq_ok_iff.1 h
    exact (ofText_eq_ok_iff.1 htext).2
  cases path? with
  | some path => exact hfrom h
  | none =>
    unfold load at h
    cases hfind : places.standardFiles.find? (places.isThere root) with
    | none =>
      rw [hfind] at h
      cases h
    | some path =>
      rw [hfind] at h
      exact hfrom h

section Absolute

variable {places : Places} {root root₁ root₂ : FileNode} {path : Octets}
  (habsolute : FilePath.isAbsolute path = true)

include habsolute

lemma resolve_of_absolute : places.resolve path = .ofOctets path := if_pos habsolute

/-- There is no tilde where a path starts at the root. -/
lemma expandTilde_of_absolute {shown : String} (h : path.text? = some shown) :
    places.expandTilde shown = shown := by
  have htilde : shown.toList.head? ≠ some '~' := by
    intro hhead
    obtain ⟨rest, hrest⟩ := List.head?_eq_some_iff.1 hhead
    rw [← Octets.text?_eq_some_iff.1 h, Octets.ofText_eq, hrest, List.flatMap_cons] at habsolute
    exact absurd habsolute Bool.false_ne_true
  unfold Places.expandTilde
  split
  · next hchars => simp [hchars] at htilde
  · next hchars => simp [hchars] at htilde
  · rfl

/-- A path from the root on that is a text is what it is, wherever the user's files are. -/
lemma load_of_absolute (htext : path.text?.isSome = true) : load places root (some path) = .ok s ↔
    FilePath.check path = .ok () ∧ ∃ text, root.readText (.ofOctets path) = .ok text ∧
      ofText path.lossyText text = .ok s := by
  obtain ⟨shown, hshown⟩ := Option.isSome_iff_exists.1 htext
  have hbytes : Octets.ofText shown = path := Octets.text?_eq_some_iff.1 hshown
  have hload : load places root (some path) = loadFrom places root path := by
    rw [load, ← hbytes, Octets.lossyText_ofText, expandTilde_of_absolute habsolute hshown]
  rw [hload, loadFrom_eq_ok_iff]
  simp only [readText_eq_ok_iff, resolve_of_absolute habsolute, and_assoc, exists_and_left]

lemma makeParents_eq_ok_iff : places.makeParents root path = (.ok (), root₁) ↔
    FilePath.check (FilePath.parent path) = .ok () ∧
      root.makeWay [] (FilePath.ofOctets path).directory = (.ok (), root₁) := by
  rw [Places.makeParents, if_neg (FilePath.parent_ne_nil habsolute), resolve_of_absolute habsolute]
  cases FilePath.check (FilePath.parent path) with
  | error => simp
  | ok =>
    rcases root.makeWay [] (FilePath.ofOctets path).directory with ⟨_ | _, root'⟩
    · simp
    · simp

lemma writeFile_eq_ok_iff {content : Octets} : places.writeFile root path content = .ok root₁ ↔
    FilePath.check path = .ok () ∧ FilePath.endsInSlash path = false ∧
      root.write content (.ofOctets path) = .ok root₁ := by
  rw [Places.writeFile, resolve_of_absolute habsolute]
  cases FilePath.check path with
  | error => simp [bind, Except.bind]
  | ok =>
    rw [Checks.ok_bind, Checks.unless_throw_eq_ok_iff]
    cases root.write content (.ofOctets path) <;> simp [Except.mapError]

end Absolute

section Save

variable (places : Places) (root : FileNode) (path : Octets)

lemma save_of_no_text (htext : s.text? = none) : save places root path s = (.error .unwritable, root) := by
  rw [save, htext]

variable {places root path}

lemma save_ne_unwritable (h : s.IntegersFit) : (save places root path s).1 ≠ .error .unwritable := by
  obtain ⟨text, htext, -⟩ := exists_text_of_fit h
  rw [save, htext]
  dsimp only
  split
  · nofun
  · split <;> nofun

/-- Settings with a text are saved when the directories above the path are there and the file is written. -/
lemma save_eq_ok_iff {text : String} (htext : s.text? = some text) {root₂ : FileNode} :
    save places root path s = (.ok (), root₂) ↔ ∃ root₁,
      places.makeParents root path = (.ok (), root₁) ∧ places.writeFile root₁ path text = .ok root₂ := by
  rw [save, htext]
  dsimp only
  rcases places.makeParents root path with ⟨_ | _, root₁⟩
  · simp
  · cases hwrite : places.writeFile root₁ path text <;> simp [hwrite]

/-- Settings with a text are saved where the system takes the path and the tree takes a file. -/
lemma exists_save_eq_ok_iff {text : String} (htext : s.text? = some text)
    (habsolute : FilePath.isAbsolute path = true) : (save places root path s).1 = .ok () ↔
      FilePath.check path = .ok () ∧ FilePath.endsInSlash path = false ∧
        root.TakesFile (.ofOctets path) := by
  have hexists : (save places root path s).1 = .ok () ↔
      ∃ root₂, save places root path s = (.ok (), root₂) := by
    rcases save places root path s with ⟨result, root₂⟩
    simp
  simp only [hexists, save_eq_ok_iff htext, makeParents_eq_ok_iff habsolute,
    writeFile_eq_ok_iff habsolute]
  constructor
  · rintro ⟨root₂, root₁, ⟨-, hway⟩, hcheck, hslash, hwrite⟩
    exact ⟨hcheck, hslash, root₁, hway, FileNode.exists_write_of_ok hwrite []⟩
  · rintro ⟨hcheck, hslash, root₁, hway, root', hempty⟩
    obtain ⟨root₂, hwrite⟩ := FileNode.exists_write_of_ok hempty text
    exact ⟨root₂, root₁, ⟨FilePath.check_parent habsolute hcheck, hway⟩, hcheck, hslash, hwrite⟩

/-- Settings that have been saved are loaded, if they are accepted and the path is a text. -/
lemma load_of_save (hfits : s.IntegersFit) (hcheck : s.check = .ok ())
    (habsolute : FilePath.isAbsolute path = true) (hpath : path.text?.isSome = true)
    (hsaved : (save places root path s).1 = .ok ()) (places' : Places) :
    load places' (save places root path s).2 (some path) = .ok s := by
  obtain ⟨text, htext, hread⟩ := exists_text_of_fit hfits
  obtain ⟨root₁, -, hfile⟩ := (save_eq_ok_iff htext).1 (Prod.ext hsaved rfl)
  obtain ⟨htaken, -, hwrite⟩ := (writeFile_eq_ok_iff habsolute).1 hfile
  rw [load_of_absolute habsolute hpath]
  exact ⟨htaken, text, FileNode.readText_write hwrite, ofText_eq_ok_iff.2 ⟨hread, hcheck⟩⟩

end Save

/-- Settings with a name that needs escapes, several products and a port. -/
def oddSettings : Settings :=
  { interfaceName := "\"'\\\x01\x7fé", productIds := [0x12a8, 0xffff], metricsPort := some 9100,
    scanSeconds := 0x7fffffffffffffff, batchFrames := true }

/-- A directory with a file in it. -/
def usedTree : FileNode := .directory [("etc", .directory [("ncm.toml", .file [0xff])])]

/-- A directory where settings are to be saved. -/
def occupiedTree : FileNode :=
  .directory [("f", .directory [("sub", .directory [("daemon.toml", .directory [])])])]

end NcmBridge.Settings
