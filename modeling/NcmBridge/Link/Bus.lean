import NcmBridge.Link.Packets
import NcmBridge.Link.Port
import NcmBridge.Link.Transfers
import NcmBridge.Party

/-!
# A bus laid out in advance

What the devices on a bus say and do is laid out in advance, and the calls that were made are kept. A
device stays as it is when it is no longer attached: who has opened it can go on calling it.
-/

namespace NcmBridge

/-- A call that reaches the bus; what a descriptor says is read from memory. -/
inductive BusCall
  | device (c : DeviceCall)
  | bulkIn (endpoint len timeout : Nat)
  | bulkOut (endpoint : Nat) (packet : Octets) (timeout : Nat)
  deriving DecidableEq, Repr, Inhabited

structure BusDevice where
  ref : DeviceRef
  descriptor : DeviceDescriptor
  serial : String
  /-- The active configuration. -/
  active : Nat
  /-- A driver of the kernel holds the interfaces. -/
  kernelDriver : Bool
  /-- How many bytes a request is answered with, at most. -/
  controlLen : Nat
  configurations : List Configuration
  /-- The calls that fail. -/
  refuses : DeviceCall → Option UsbFault
  transfers : List TransferOutcome
  packets : List PacketOutcome

/-- The bus, its devices, and what was asked of them. -/
structure Bus where
  /-- The devices attached now. -/
  attached : List DeviceRef := []
  /-- All devices that were ever attached. -/
  devices : List BusDevice := []
  /-- Listing the devices fails. -/
  enumerationFault : Option UsbFault := none
  /-- What transfers meet when no more outcomes are laid out. -/
  silence : Silence := .failing .noDevice
  /-- Who calls now. -/
  party : Party := .owner
  /-- The calls so far, the newest first. -/
  calls : List (Party × DeviceRef × BusCall) := []
  deriving Inhabited

namespace DeviceCall

/-- Whether a call is answered from memory. -/
def isCached : DeviceCall → Bool
  | descriptor | configuration _ => true
  | _ => false

/-- The name of a call, whatever its arguments; a request is named by its number. -/
def name : DeviceCall → String
  | descriptor => "descriptor"
  | openHandle => "open"
  | readSerial => "serial"
  | control request _ => s!"control{request.request}"
  | configuration index => s!"config{index}"
  | activeConfiguration => "get_configuration"
  | setConfiguration _ => "set_configuration"
  | driverActive _ => "kernel_driver_active"
  | detachDriver _ => "detach"
  | attachDriver _ => "attach"
  | claim _ => "claim"
  | release _ => "release"
  | setAlternate _ _ => "set_alt"
  | closeHandle => "close_handle"

def text : DeviceCall → String
  | readSerial => "read_serial"
  | control r t => s!"control {r.requestType} {r.request} {r.value} {r.index} len={r.length} t={t}"
  | setConfiguration n => s!"set_configuration {n}"
  | driverActive i => s!"kernel_driver_active {i}"
  | detachDriver i => s!"detach {i}"
  | attachDriver i => s!"attach {i}"
  | claim i => s!"claim {i}"
  | release i => s!"release {i}"
  | setAlternate i n => s!"set_alt {i} {n}"
  | call => call.name

end DeviceCall

/-- A call on a line of a trace; of a packet the length and the fingerprint. -/
def BusCall.text : BusCall → String
  | device call => call.text
  | bulkIn endpoint len t => s!"bulk_in {endpoint} len={len} t={t}"
  | bulkOut endpoint packet t =>
    s!"bulk_out {endpoint} len={packet.length} fnv={packet.fingerprint} t={t}"

namespace BusDevice

/-- The answer to a call that does not fail, and the device after it. -/
def answer (d : BusDevice) : (c : DeviceCall) → Except UsbFault c.Reply × BusDevice
  | .descriptor => (.ok d.descriptor, d)
  | .readSerial => (.ok d.serial, d)
  | .control request _ => (.ok (Octets.zeros (min d.controlLen request.length)), d)
  | .configuration index =>
    match d.configurations[index]? with
    | some c => (.ok c, d)
    | none => (.error .notFound, d)
  | .activeConfiguration => (.ok d.active, d)
  | .setConfiguration configuration => (.ok (), { d with active := configuration })
  | .driverActive _ => (.ok d.kernelDriver, d)
  | .detachDriver _ => (.ok (), { d with kernelDriver := false })
  | .attachDriver _ => (.ok (), { d with kernelDriver := true })
  | .openHandle | .claim _ | .release _ | .setAlternate _ _ | .closeHandle => (.ok (), d)

end BusDevice

namespace Bus

/-- The bus as another party calls it. -/
def calledBy (b : Bus) (party : Party) : Bus := { b with party }

def note (b : Bus) (ref : DeviceRef) (call : BusCall) : Bus :=
  { b with calls := (b.party, ref, call) :: b.calls }

def noteAll (b : Bus) (ref : DeviceRef) (calls : List BusCall) : Bus :=
  { b with calls := (calls.map fun c => (b.party, ref, c)).reverse ++ b.calls }

/-- A device by its reference. -/
def device? (b : Bus) (ref : DeviceRef) : Option BusDevice :=
  b.devices.find? fun d => d.ref == ref

/-- Puts a device in its place. -/
def put (b : Bus) (device : BusDevice) : Bus :=
  { b with devices := b.devices.map fun d => if d.ref == device.ref then device else d }

/-! What a device says of itself changes only where the device is put. -/

theorem ref_of_device? {b : Bus} {ref : DeviceRef} {d : BusDevice} (h : b.device? ref = some d) :
    d.ref = ref := by
  rw [device?] at h
  have hfound := List.find?_some h
  exact eq_of_beq hfound

@[simp] theorem device?_noteAll (b : Bus) (ref ref' : DeviceRef) (calls : List BusCall) :
    (b.noteAll ref calls).device? ref' = b.device? ref' := rfl

@[simp] theorem device?_calledBy (b : Bus) (party : Party) (ref : DeviceRef) :
    (b.calledBy party).device? ref = b.device? ref := rfl

theorem device?_put (b : Bus) (d : BusDevice) (ref : DeviceRef) :
    (b.put d).device? ref = (b.device? ref).map fun e => if e.ref == d.ref then d else e := by
  have hkeys : (fun e : BusDevice => (if e.ref == d.ref then d else e).ref == ref) =
      fun e => e.ref == ref := by
    funext e
    split
    · next h => rw [eq_of_beq h]
    · rfl
  simp only [device?, put, List.find?_map, Function.comp_def, hkeys]

@[simp] theorem isSome_device?_put (b : Bus) (d : BusDevice) (ref : DeviceRef) :
    ((b.put d).device? ref).isSome = (b.device? ref).isSome := by
  rw [device?_put, Option.isSome_map]

theorem device?_put_self {b : Bus} {d d' : BusDevice} (h : b.device? d'.ref = some d) :
    (b.put d').device? d'.ref = some d' := by
  simp [device?_put, h, ref_of_device? h]

def enumerate (b : Bus) : Except UsbFault (List DeviceRef) × Bus :=
  match b.enumerationFault with
  | some f => (.error f, b)
  | none => (.ok b.attached, b)

/-- Calls a device. -/
def call (ref : DeviceRef) (c : DeviceCall) (b : Bus) : Except UsbFault c.Reply × Bus :=
  let b := if c.isCached then b else b.note ref (.device c)
  match b.device? ref with
  | none => (.error .noDevice, b)
  | some d =>
    match d.refuses c with
    | some f => (.error f, b)
    | none =>
      let (reply, d) := d.answer c
      (reply, b.put d)

/-- Replaces the attached devices; the devices attached before stay as they are. -/
def attach (b : Bus) (devices : List BusDevice) : Bus :=
  { b with attached := devices.map BusDevice.ref, devices := b.devices ++ devices }

/-- The calls so far, party by party, each behind the place of its device. -/
def trace (b : Bus) : List String :=
  (Party.arrange b.calls.reverse).map fun (ref, call) => s!"{ref.bus}.{ref.address} {call.text}"

def forget (b : Bus) : Bus := { b with calls := [] }

end Bus

end NcmBridge
