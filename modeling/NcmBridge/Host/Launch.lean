import NcmBridge.Host.Run
import NcmBridge.Supervisor.Scan

/-!
# Launching bridges on a host

A launch finds the device, brings it up, makes the interface, sets its link up and starts the bridge. A
step that fails undoes all steps before it.
-/

namespace NcmBridge

/-- Why a bridge could not be launched. -/
inductive LaunchError
  | notFound (e : UsbError)
  | activation (serial : String) (e : UsbError)
  | interface (name : String) (e : TapError)
  | linkUp (e : TapError)
  /-- A pump could not be started. -/
  | pumps (serial : String) (fault : IoFault)
  deriving DecidableEq, Repr, Inhabited

namespace LaunchError

def chain : LaunchError → List String
  | notFound e => e.chain
  | activation serial e => s!"Failed to activate NCM on {serial}" :: e.chain
  | interface name e => s!"Failed to create TAP interface {name}" :: e.chain
  | linkUp e => e.chain
  | pumps serial fault => [s!"Failed to start pumps for {serial}", fault.text]

def text (e : LaunchError) : String := String.intercalate ": " e.chain

end LaunchError

/-- How the bridges of a host are set up. -/
structure LaunchOptions where
  bridge : BridgeOptions := {}
  /-- How long a transfer may take, in milliseconds. -/
  transferTimeout : Nat := 500
  deriving DecidableEq, Repr, Inhabited

/-- Where bridges are launched: the bus, and how interfaces of type `τ` are made and bridges of type `ι`
are started. -/
structure LaunchSite (σ τ ι : Type) where
  port : UsbPort σ
  /-- Makes an interface and sets its link up. -/
  createTap : String → σ → Except LaunchError τ × σ
  /-- Starts a bridge on an interface over a link. If a pump cannot be started the bridge is closed, and with
  it both its ends. -/
  start : String → Transport → τ → σ → Except IoFault ι × σ

def launchAt {σ τ ι : Type} (site : LaunchSite σ τ ι) (timeout : Nat) (device : DeviceInfo)
    (interface : String) (s : σ) : Except LaunchError ι × σ :=
  match (site.port.find device.bus device.address).run s with
  | (.error e, s) => (.error (.notFound e), s)
  | (.ok ref, s) =>
    match (Transport.connect site.port ref device.serial timeout).run s with
    | (.error e, s) => (.error (.activation device.serial e), s)
    | (.ok transport, s) =>
      let chunk := s!"{device.serial}: read chunk {transport.ncm.readChunkLen} bytes"
      match site.createTap interface (site.port.log ⟨.launcher, .debug, chunk⟩ s) with
      | (.error e, s) => (.error e, transport.drop site.port s)
      | (.ok tap, s) =>
        match site.start interface transport tap s with
        | (.error fault, s) => (.error (.pumps device.serial fault), transport.close.drop site.port s)
        | (.ok id, s) => (.ok id, s)

namespace Host

/-- Makes an interface and sets its link up; if that fails its descriptor is given back. -/
def createTap (name : String) (h : Host) : Except LaunchError TapDevice × Host :=
  match TapDevice.create name h.kernel with
  | (.error e, kernel) => (.error (.interface name e), { h with kernel })
  | (.ok tap, kernel) =>
    let h := ({ h with kernel } : Host).log (TapDevice.createdLine name)
    match tap.bringUp h.kernel with
    | (.error e, kernel) => (.error (.linkUp e), { h with kernel := kernel.close })
    | (.ok (), kernel) => (.ok tap, ({ h with kernel } : Host).log (TapDevice.upLine name))

/-- Registers a bridge over a link and an interface. Here both pumps can always be started. -/
def startBridge (options : BridgeOptions) (interface : String) (transport : Transport)
    (tap : TapDevice) (h : Host) : Except IoFault Nat × Host :=
  let serial := transport.serial
  let h := { h with registry := h.registry.register serial interface }
  let h := h.log (Bridge.startLine serial interface options)
  let h := h.log ⟨.bridge, .debug, s!"{serial}: {Direction.uplink.name} pump started"⟩
  let h := h.log ⟨.bridge, .debug, s!"{serial}: {Direction.downlink.name} pump started"⟩
  let bridge := Bridge.start serial options transport.ncm.readChunkLen
  let h := { h with bridges := h.bridges.push ⟨bridge, transport, tap⟩ }
  (.ok (h.bridges.size - 1), h.log ⟨.launcher, .debug, s!"{serial}: bridge launched"⟩)

/-- Launches a bridge for a device on an interface, and tells its number. -/
def launch (options : LaunchOptions) (device : DeviceInfo) (interface : String) (h : Host) :
    Except LaunchError Nat × Host :=
  launchAt { port, createTap, start := startBridge options.bridge } options.transferTimeout device
    interface h

/-- A supervisor's view of a host that scans with a scanner of its own. -/
def sessions (options : LaunchOptions) : SessionHost (Scanner × Host) Nat where
  devices := fun (c, h) =>
    let (found, c, h) := c.scan port h
    (found, c, h)
  launch device interface := fun (c, h) =>
    match h.launch options device interface with
    | (.ok id, h) => (.ok id, c, h)
    | (.error e, h) => (.error e.text, c, h)
  isFinished id := fun (_, h) => h.isFinished id
  close id := fun (c, h) => (c, h.closeBridge id)
  join id := fun (c, h) => (c, h.joinBridge id)
  setDeviceCount n := fun (c, h) => (c, { h with registry := h.registry.setDeviceCount n })
  log line := fun (c, h) => (c, h.log line)

end Host

end NcmBridge
