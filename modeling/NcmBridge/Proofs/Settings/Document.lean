import NcmBridge.Proofs.Toml.Document
import NcmBridge.Settings.Document

/-!
# Settings that are written and read

A field takes over what it wrote, and leaves the other settings alone. Since the fields of a section have
different names, each finds its own value in the section, and a setting without value leaves none; so all
settings come back, whatever they were.
-/

namespace NcmBridge

open Toml (Entry Sections IsBare)

lemma foldlM_congr {σ α : Type} {f g : σ → α → Option σ} {l : List α} (h : ∀ a ∈ l, ∀ s, f s a = g s a)
    {s : σ} : l.foldlM f s = l.foldlM g s := by
  induction l generalizing s with
  | nil => rfl
  | cons a l ih =>
    obtain ⟨ha, hl⟩ := List.forall_mem_cons.1 h
    rw [List.foldlM_cons, List.foldlM_cons, ha]
    exact congrArg _ (funext fun _ => ih hl)

/-! ### Single fields -/

namespace SettingsField

variable {f : SettingsField} {fields : List SettingsField} {s t : Settings}

/-- Settings that take over one setting of others, as it is written and read. -/
def takeOver (s : Settings) (t : Settings) (f : SettingsField) : Option Settings :=
  match f.write s with
  | some e => f.read e.value t
  | none => some t

lemma takeOver_of_write {e : Entry} (h : f.write s = some e) : takeOver s t f = f.read e.value t := by
  rw [takeOver, h]

lemma takeOver_of_unset (h : f.write s = none) : takeOver s t f = some t := by
  rw [takeOver, h]

lemma below_of_lt {bound n : Nat} (h : n < bound) : below bound (Entry.integer n).value = some n := by
  rw [Entry.value, below, if_pos ⟨Int.natCast_nonneg n, Int.ofNat_lt.2 h⟩, Int.toNat_natCast]

lemma word16_value (n : UInt16) : word16 (Entry.integer n.toNat).value = some n := by
  unfold word16
  rw [below_of_lt n.toNat_lt_size, Option.map_some, UInt16.ofNat_toNat]

lemma word64_value (n : UInt64) : word64 (Entry.integer n.toNat).value = some n := by
  unfold word64
  rw [below_of_lt n.toNat_lt_size, Option.map_some, UInt64.ofNat_toNat]

lemma words16_value (ns : List UInt16) :
    words16 (Entry.integers (ns.map fun n => n.toNat)).value = some ns :=
  calc ((ns.map fun n => (n.toNat : Int)).map Toml.Value.integer).mapM word16
      = ns.mapM fun n => word16 (Entry.integer n.toNat).value := by
        simp only [List.map_map, List.mapM_map, Function.comp_def, Entry.value]
    _ = some (ns.map fun n => n) := Toml.mapM_eq_some_map fun n _ => word16_value n
    _ = some ns := by rw [List.map_id']

lemma takeOver_ofText (name : String) (get : Settings → String) (set : Settings → String → Settings) :
    takeOver s t (ofText name get set) = some (set t (get s)) :=
  takeOver_of_write (f := ofText name get set) (e := .text (get s)) rfl

lemma takeOver_ofBool (name : String) (get : Settings → Bool) (set : Settings → Bool → Settings) :
    takeOver s t (ofBool name get set) = some (set t (get s)) :=
  takeOver_of_write (f := ofBool name get set) (e := .boolean (get s)) rfl

lemma takeOver_ofWord64 (name : String) (get : Settings → UInt64) (set : Settings → UInt64 → Settings) :
    takeOver s t (ofWord64 name get set) = some (set t (get s)) := by
  rw [takeOver_of_write (f := ofWord64 name get set) rfl, ofWord64]
  dsimp only
  rw [word64_value, Option.map_some]

/-! ### Sections of fields -/

/-- The entries of a section. -/
def entries (s : Settings) (fields : List SettingsField) : List (String × Entry) :=
  fields.filterMap fun field => (field.write s).map (field.name, ·)

lemma names_entries_sublist (s : Settings) (fields : List SettingsField) :
    List.Sublist ((entries s fields).map Prod.fst) (fields.map name) :=
  Toml.Fields.keys_sublist fields name fun f => f.write s

/-- A field finds its own value in a section. -/
lemma find?_entries (hdistinct : (fields.map name).Nodup) (hf : f ∈ fields) :
    Toml.Fields.find? ((entries s fields).map fun e => (e.1, e.2.value)) f.name =
      (f.write s).map Entry.value := by
  have hentries : ((entries s fields).map fun e => (e.1, e.2.value)) =
      fields.filterMap fun f => ((f.write s).map Entry.value).map (f.name, ·) := by
    simp only [entries, List.map_filterMap, Option.map_map, Function.comp_def]
  rw [hentries]
  exact Toml.Fields.find?_listed hdistinct (fun f => (f.write s).map Entry.value) hf

/-- A section is read field by field, each taking over what it wrote. -/
lemma readNamed_entries (hdistinct : (fields.map name).Nodup) (t : Settings) :
    Settings.readNamed fields ((entries s fields).map fun e => (e.1, e.2.value)) t =
      fields.foldlM (takeOver s) t := by
  refine foldlM_congr fun f hf t => ?_
  rw [find?_entries hdistinct hf, takeOver]
  cases f.write s <;> rfl

end SettingsField

namespace Settings

open SettingsField

/-! ### All sections -/

/-- All names are bare, and those that stand beside each other differ. -/
lemma sections_names : (sections.map Prod.fst).Nodup ∧ ∀ part ∈ sections,
    IsBare part.1 ∧ (∀ f ∈ part.2, IsBare f.name) ∧ (part.2.map SettingsField.name).Nodup := by
  decide

lemma toDocument_isPlain (s : Settings) : Sections.IsPlain s.toDocument := by
  obtain ⟨hdistinct, hparts⟩ := sections_names
  constructor
  · intro part hpart
    obtain ⟨⟨name, fields⟩, hmem, rfl⟩ := List.mem_map.1 hpart
    obtain ⟨hname, hnames, hfields⟩ := hparts _ hmem
    have hsublist := names_entries_sublist s fields
    refine ⟨hname, fun e he => ?_, hfields.sublist hsublist⟩
    obtain ⟨f, hf, hfe⟩ := List.mem_map.1 (hsublist.subset (List.mem_map_of_mem he))
    exact hfe ▸ hnames f hf
  · rw [toDocument, List.map_map]
    exact hdistinct

/-- A section is found under its name. -/
lemma find?_sections {parts : List (String × List SettingsField)} (hdistinct : (parts.map Prod.fst).Nodup)
    {part : String × List SettingsField} (hpart : part ∈ parts) (s : Settings) :
    Toml.Fields.find? (parts.map fun part => Toml.sectionContents (part.1, entries s part.2)) part.1 =
      some (.table .header ((entries s part.2).map fun e => (e.1, e.2.value))) := by
  rw [← List.filterMap_eq_map]
  exact Toml.Fields.find?_listed hdistinct
    (fun part => some (.table .header ((entries s part.2).map fun e => (e.1, e.2.value)))) hpart

section TakeOver

variable (s t : Settings)

lemma takeOver_daemonFields : daemonFields.foldlM (takeOver s) t = some { t with logLevel := s.logLevel } := by
  simp [daemonFields, takeOver_ofText]

lemma takeOver_usbFields : usbFields.foldlM (takeOver s) t = some { t with
    vendorId := s.vendorId, productIds := s.productIds, scanSeconds := s.scanSeconds,
    transferTimeout := s.transferTimeout } := by
  simp [usbFields, takeOver_ofWord64, takeOver_of_write, word16_value, words16_value]

lemma takeOver_networkFields : networkFields.foldlM (takeOver s) t = some { t with
    interfaceName := s.interfaceName, batchFrames := s.batchFrames, batchLimit := s.batchLimit,
    resync := s.resync } := by
  simp [networkFields, takeOver_ofText, takeOver_ofBool, takeOver_ofWord64]

/-- A port that is not set is not written, and then the port stays as it is. -/
lemma takeOver_telemetryFields : telemetryFields.foldlM (takeOver s) t = some { t with
    metricsPort := s.metricsPort.or t.metricsPort, metricsAddress := s.metricsAddress } := by
  cases hport : s.metricsPort with
  | none => simp [telemetryFields, takeOver_of_unset, takeOver_ofText, hport]
  | some port => simp [telemetryFields, takeOver_of_write, takeOver_ofText, word16_value, hport]

lemma takeOver_preflightFields : preflightFields.foldlM (takeOver s) t = some { t with
    usbmuxdVersion := s.usbmuxdVersion, skipUsbmuxdCheck := s.skipUsbmuxdCheck } := by
  simp [preflightFields, takeOver_ofText, takeOver_ofBool]

end TakeOver

/-- All settings are taken over, section by section. -/
lemma takeOver_sections (s : Settings) :
    sections.foldlM (fun t part => part.2.foldlM (takeOver s) t) {} = some s := by
  simp only [sections, List.foldlM_cons, List.foldlM_nil, takeOver_daemonFields, takeOver_usbFields,
    takeOver_networkFields, takeOver_telemetryFields, takeOver_preflightFields, Option.bind_eq_bind,
    Option.bind_some, Option.pure_def, Option.or_none]

/-- Settings in a document that was written are the settings that were written. -/
lemma ofDocument_toDocument (s : Settings) : ofDocument (s.toDocument.map Toml.sectionContents) = some s := by
  obtain ⟨hdistinct, hparts⟩ := sections_names
  have hdocument : s.toDocument.map Toml.sectionContents =
      sections.map fun part => Toml.sectionContents (part.1, entries s part.2) := by
    rw [toDocument, List.map_map]
    rfl
  rw [hdocument, ← takeOver_sections s, ofDocument]
  refine foldlM_congr fun part hpart t => ?_
  rw [find?_sections hdistinct hpart s]
  exact readNamed_entries (hparts part hpart).2.2 t

end Settings

end NcmBridge
