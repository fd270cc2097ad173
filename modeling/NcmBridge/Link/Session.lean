import NcmBridge.Link.Port

/-!
# Open devices

An open device remembers which interface was claimed and whether a driver of the kernel was detached
for that, so that both can be undone. Undoing happens once: what was undone is forgotten.
-/

namespace NcmBridge

structure DeviceSession where
  ref : DeviceRef
  descriptor : DeviceDescriptor
  /-- The interface that was claimed. -/
  claimed : Option Nat := none
  /-- A driver was detached from the interface. -/
  detachedDriver : Bool := false
  deriving DecidableEq, Repr, Inhabited

namespace DeviceSession

variable {σ : Type}

/-- Opens a device. -/
def openAt (port : UsbPort σ) (ref : DeviceRef) : LinkM σ DeviceSession := do
  let descriptor ← port.ask ref .descriptor
  let _ ← port.ask ref .openHandle
  let line := s!"Opened device bus {decimalDigits 3 ref.bus} address {decimalDigits 3 ref.address}"
  modify (port.log ⟨.device, .debug, line⟩)
  return { ref, descriptor }

/-! ### Undoing -/

def releaseInterface (port : UsbPort σ) (ref : DeviceRef) (interface : Nat) (s : σ) : σ :=
  match port.call ref (.release interface) s with
  | (.ok _, s) => s
  | (.error f, s) =>
    port.log ⟨.device, .warn, s!"Failed to release interface {interface}: {f.text}"⟩ s

/-- Gives an interface back to its driver, if that can be done. -/
def reattachDriver (port : UsbPort σ) (ref : DeviceRef) (interface : Nat) (s : σ) : σ :=
  match port.call ref (.attachDriver interface) s with
  | (.ok _, s) =>
    port.log ⟨.device, .debug, s!"Reattached kernel driver to interface {interface}"⟩ s
  | (.error f, s) =>
    let line := s!"Could not reattach kernel driver to interface {interface}: {f.text}"
    port.log ⟨.device, .debug, line⟩ s

/-- Releases the interface that was claimed and gives it back to the driver it was taken from. -/
def release (port : UsbPort σ) (d : DeviceSession) (s : σ) : DeviceSession × σ :=
  match d.claimed with
  | none => (d, s)
  | some interface =>
    let s := releaseInterface port d.ref interface s
    let s := if d.detachedDriver then reattachDriver port d.ref interface s else s
    ({ d with claimed := none, detachedDriver := false },
      port.log ⟨.device, .debug, s!"Released interface {interface}"⟩ s)

/-- Undoes what was done to a device and closes it. -/
def close (port : UsbPort σ) (d : DeviceSession) (s : σ) : σ :=
  let (d, s) := d.release port s
  (port.call d.ref .closeHandle s).2

/-! ### Bringing up -/

/-- A call on the open device. -/
def ask (port : UsbPort σ) (c : DeviceCall) : LinkM (DeviceSession × σ) c.Reply :=
  ExceptT.mk fun (d, s) =>
    match port.call d.ref c s with
    | (.ok reply, s) => (.ok reply, d, s)
    | (.error f, s) => (.error (.fault f), d, s)

/-- A call on the open device whose failure is looked at. -/
def attempt (port : UsbPort σ) (c : DeviceCall) :
    LinkM (DeviceSession × σ) (Except UsbFault c.Reply) :=
  ExceptT.mk fun (d, s) =>
    match port.call d.ref c s with
    | (outcome, s) => (.ok outcome, d, s)

def say (port : UsbPort σ) (line : LogLine) : LinkM (DeviceSession × σ) Unit :=
  modify fun (d, s) => (d, port.log line s)

/-- How long a request may take, in milliseconds. -/
def controlTimeout : Nat := 1000

/-- Makes a request of the open device. -/
def vendorRequest (port : UsbPort σ) (r : VendorRequest) : LinkM (DeviceSession × σ) Unit :=
  ExceptT.mk fun (d, s) =>
    match port.call d.ref (.control r controlTimeout) s with
    | (.error f, s) => (.error (.controlTransfer r.request f), d, s)
    | (.ok (response : Octets), s) =>
      let bytes := String.intercalate ", " (response.map fun b => hexDigits 2 b.toNat)
      (.ok (), d, port.log ⟨.device, .debug, s!"Vendor request {r.request} returned [{bytes}]"⟩ s)

/-- Selects a configuration, unless it is selected already. -/
def selectConfiguration (port : UsbPort σ) (configuration : Nat) :
    LinkM (DeviceSession × σ) Unit := do
  let (active : Nat) ← ask port .activeConfiguration
  if active = configuration then
    say port ⟨.device, .debug, s!"Configuration {configuration} already active"⟩
  else
    let _ ← ask port (.setConfiguration configuration)
    say port ⟨.device, .debug, s!"Selected configuration {configuration}"⟩

/-- The settings of a configuration, which is looked for at the given indices. -/
def settingsAt (port : UsbPort σ) (configuration : Nat) :
    List Nat → LinkM (DeviceSession × σ) (List AltSetting)
  | [] => throw (.configurationNotFound configuration)
  | index :: indices => do
    let (found : Configuration) ← ask port (.configuration index)
    if found.number = configuration then
      return found.settings
    else
      settingsAt port configuration indices

/-- Claims an interface and selects a setting; a driver of the kernel that holds the interface is
detached first. Whether one does may be impossible to find out, and then none is detached. -/
def claim (port : UsbPort σ) (interface setting : Nat) : LinkM (DeviceSession × σ) Unit := do
  let (active : Except UsbFault Bool) ← attempt port (.driverActive interface)
  match active with
  | .ok true =>
    say port ⟨.device, .debug, s!"Detaching kernel driver from interface {interface}"⟩
    let _ ← ask port (.detachDriver interface)
    modify fun (d, s) => ({ d with detachedDriver := true }, s)
  | .ok false => pure ()
  | .error f =>
    let line := s!"Could not check kernel driver status for interface {interface}: {f.text}"
    say port ⟨.device, .debug, line⟩
  let _ ← ask port (.claim interface)
  modify fun (d, s) => ({ d with claimed := some interface }, s)
  let _ ← ask port (.setAlternate interface setting)
  say port ⟨.device, .debug, s!"Claimed interface {interface} alt {setting}"⟩

/-- An open device as one that can be brought up. -/
def control (port : UsbPort σ) : ControlPort (DeviceSession × σ) where
  configurationCount := return (← get).1.descriptor.configurationCount
  vendorRequest := vendorRequest port
  selectConfiguration := selectConfiguration port
  altSettings configuration := do
    let count := (← get).1.descriptor.configurationCount
    settingsAt port configuration (List.range count)
  claim := claim port
  log := say port

/-- Opens a device and brings it up; if that fails all is undone and the device closed. -/
def activate (port : UsbPort σ) (ref : DeviceRef) (serial : String) :
    LinkM σ (DeviceSession × NcmInterface) := do
  let session ← DeviceSession.openAt port ref
  ExceptT.mk fun s =>
    match (NcmBridge.activate (control port) serial).run (session, s) with
    | (.ok ncm, session, s) => (.ok (session, ncm), s)
    | (.error e, session, s) => (.error e, session.close port s)

end DeviceSession

end NcmBridge
