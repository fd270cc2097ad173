import NcmBridge.Settings.Basic
import NcmBridge.Toml.Value
import NcmBridge.Toml.Writer

/-!
# Settings as a document

Settings stand in a document under fixed names, in five sections. A section that is missing, and a name
that is missing in a section, leave the value as it is; other names are passed over. One list of fields
serves for reading and for writing, so that both use the same names in the same order.
-/

namespace NcmBridge

/-- A setting with a name. -/
structure SettingsField where
  name : String
  /-- Takes over a value of the right type; there is no other way to fail. -/
  read : Toml.Value → Settings → Option Settings
  /-- The value to write; a setting without value is not written. -/
  write : Settings → Option Toml.Entry

namespace SettingsField

/-! ### Values -/

/-- The number that an integer is, if it is below a bound. -/
def below (bound : Nat) : Toml.Value → Option Nat
  | .integer n => if 0 ≤ n ∧ n < bound then some n.toNat else none
  | _ => none

def word16 (v : Toml.Value) : Option UInt16 := (below UInt16.size v).map UInt16.ofNat

def word64 (v : Toml.Value) : Option UInt64 := (below UInt64.size v).map UInt64.ofNat

def words16 : Toml.Value → Option (List UInt16)
  | .array items => items.mapM word16
  | _ => none

/-! ### Fields by type -/

/-- A setting that is a text. -/
def ofText (name : String) (get : Settings → String) (set : Settings → String → Settings) :
    SettingsField where
  name
  read v s := match v with
    | .text t => some (set s t)
    | _ => none
  write s := some (.text (get s))

def ofBool (name : String) (get : Settings → Bool) (set : Settings → Bool → Settings) :
    SettingsField where
  name
  read v s := match v with
    | .boolean b => some (set s b)
    | _ => none
  write s := some (.boolean (get s))

def ofWord64 (name : String) (get : Settings → UInt64) (set : Settings → UInt64 → Settings) :
    SettingsField where
  name
  read v s := (word64 v).map (set s)
  write s := some (.integer (get s).toNat)

end SettingsField

namespace Settings

/-! ### The sections -/

open SettingsField (ofText ofBool ofWord64 word16 words16)

def daemonFields : List SettingsField :=
  [ofText "log_level" logLevel fun s v => { s with logLevel := v }]

def usbFields : List SettingsField :=
  [{ name := "vendor_id"
     read v s := (word16 v).map fun n => { s with vendorId := n }
     write s := some (.integer s.vendorId.toNat) },
   { name := "product_ids"
     read v s := (words16 v).map fun ns => { s with productIds := ns }
     write s := some (.integers (s.productIds.map fun n => n.toNat)) },
   ofWord64 "scan_interval_secs" scanSeconds fun s v => { s with scanSeconds := v },
   ofWord64 "transfer_timeout_ms" transferTimeout fun s v => { s with transferTimeout := v }]

def networkFields : List SettingsField :=
  [ofText "interface_name" interfaceName fun s v => { s with interfaceName := v },
   ofBool "batch_frames" batchFrames fun s v => { s with batchFrames := v },
   ofWord64 "max_ntb_size" batchLimit fun s v => { s with batchLimit := v },
   ofBool "resync" resync fun s v => { s with resync := v }]

def telemetryFields : List SettingsField :=
  [{ name := "port"
     read v s := (word16 v).map fun n => { s with metricsPort := some n }
     write s := s.metricsPort.map fun n => .integer n.toNat },
   ofText "bind_addr" metricsAddress fun s v => { s with metricsAddress := v }]

def preflightFields : List SettingsField :=
  [ofText "min_usbmuxd_version" usbmuxdVersion fun s v => { s with usbmuxdVersion := v },
   ofBool "skip_usbmuxd_check" skipUsbmuxdCheck fun s v => { s with skipUsbmuxdCheck := v }]

/-- The sections in the order in which they are written. -/
def sections : List (String × List SettingsField) :=
  [("daemon", daemonFields), ("usb", usbFields), ("network", networkFields),
    ("telemetry", telemetryFields), ("preflight", preflightFields)]

/-! ### Reading and writing -/

/-- Takes over the fields that are there, by name. -/
def readNamed (fields : List SettingsField) (entries : Toml.Fields) (s : Settings) : Option Settings :=
  fields.foldlM (fun s field => match entries.find? field.name with
    | some v => field.read v s
    | none => some s) s

/-- Takes over the fields that are there, in their order. -/
def readListed (fields : List SettingsField) (items : List Toml.Value) (s : Settings) :
    Option Settings :=
  (fields.zip items).foldlM (fun s item => item.1.read item.2 s) s

/-- Takes over a section. It is a table, or a list of values in the order of the fields; a date has
no fields and is a section where nothing is set. -/
def readSection (fields : List SettingsField) (v : Toml.Value) (s : Settings) : Option Settings :=
  match v with
  | .table _ entries => readNamed fields entries s
  | .array items => readListed fields items s
  | .tables elements => readListed fields (elements.map (.table .header)) s
  | .moment _ => some s
  | _ => none

/-- The settings in a document; what it does not set keeps its first value. -/
def ofDocument (document : Toml.Fields) : Option Settings :=
  sections.foldlM (fun s part => match document.find? part.1 with
    | some v => readSection part.2 v s
    | none => some s) {}

/-- The document that has these settings. -/
def toDocument (s : Settings) : Toml.Sections :=
  sections.map fun part =>
    (part.1, part.2.filterMap fun field => (field.write s).map (field.name, ·))

end Settings

end NcmBridge
