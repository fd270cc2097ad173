import NcmBridge.Host.Basic

/-!
# Running bridges on a host

The ends of a running bridge are its link on the bus and its interface at the kernel. Each pump calls
them as a party of its own.
-/

namespace NcmBridge

/-- The ends of a bridge in the machine that they belong to. -/
structure LiveEnds where
  host : Host
  transport : Transport
  tap : TapDevice

namespace LiveEnds

/-- The link and the interface as the two ends of a bridge. -/
def ends : Endpoints LiveEnds where
  readFrame e :=
    let (got, tap, kernel) := e.tap.readFrame frameBufferLen (e.host.kernel.calledBy (.pump .uplink))
    (got, { e with tap, host := { e.host with kernel } })
  tryReadFrame e :=
    let (got, tap, kernel) := e.tap.tryReadFrame frameBufferLen (e.host.kernel.calledBy (.pump .uplink))
    (got, { e with tap, host := { e.host with kernel } })
  writeBlock block e :=
    let host := match e.transport.emptyPacketLine? block with
      | some line => e.host.log line
      | none => e.host
    let (got, transport, bus) := e.transport.writeBlock block (host.bus.calledBy (.pump .uplink))
    (got, { e with transport, host := { host with bus } })
  readTransfer len e :=
    let (got, transport, bus) := e.transport.readTransfer len (e.host.bus.calledBy (.pump .downlink))
    (got, { e with transport, host := { e.host with bus } })
  writeFrame frame e :=
    let (got, kernel) := e.tap.writeFrame frame (e.host.kernel.calledBy (.pump .downlink))
    (got, { e with host := { e.host with kernel } })
  closeLink e :=
    { e with
      transport := e.transport.close
      host := e.host.log (Transport.closeLine e.transport.serial) }
  closeInterface e :=
    { e with tap := e.tap.close, host := e.host.log (TapDevice.closeLine e.tap.name) }

/-- More steps than a pump can take before it waits or ends. -/
def fuel (e : LiveEnds) : Nat :=
  let bytes := match e.host.bus.device? e.transport.session.ref with
    | none => 0
    | some d => d.transfers.foldr (fun t n => match t.result with
        | .ok bytes => bytes.length + 1 + n
        | .error _ => 1 + n) 0
  let size := 65536 + bytes + e.host.kernel.size
  size * size

end LiveEnds

namespace Host

abbrev BridgeAction := Bridge → LiveEnds → Bridge × List Note × LiveEnds

/-- Does something to the bridge with a number; whoever called before calls after. -/
def onBridge (action : BridgeAction) (id : Nat) (h : Host) : Host :=
  match h.bridges[id]? with
  | none => h
  | some live =>
    let (bridge, notes, e) := action live.bridge ⟨h, live.transport, live.tap⟩
    let h := e.host.enter bridge.serial notes
    { h with
      bus := h.bus.calledBy .owner
      kernel := h.kernel.calledBy .owner
      bridges := h.bridges.setIfInBounds id ⟨bridge, e.transport, e.tap⟩ }

def runUplink (id : Nat) (h : Host) : Host :=
  h.onBridge (fun b e => b.runUplink LiveEnds.ends e.fuel e) id

def runDownlink (id : Nat) (h : Host) : Host :=
  h.onBridge (fun b e => b.runDownlink LiveEnds.ends e.fuel e) id

/-- Lets both pumps run until neither has a step. -/
def settle (id : Nat) (h : Host) : Host := ((h.runUplink id).runDownlink id).runUplink id

def setSilence (silence : Silence) (h : Host) : Host := { h with bus := { h.bus with silence } }

/-- The uplink of a bridge is in its first poll, past the look whether the bridge was closed. -/
def inFirstPoll (id : Nat) (h : Host) : Host :=
  { h with bridges := h.bridges.modify id fun live =>
      { live with tap := { live.tap with polling := true } } }

/-- Runs a bridge whose device goes away when it has nothing more to say: the downlink takes all that
comes, then the uplink all that waits, and then the device is gone. -/
def runToEnd (id : Nat) (h : Host) : Host :=
  let h := ((h.inFirstPoll id).setSilence .hanging).runDownlink id |>.runUplink id
  (h.setSilence (.failing .noDevice)).runDownlink id |>.runUplink id

/-- Asks a bridge to close. -/
def closeBridge (id : Nat) (h : Host) : Host := h.onBridge (fun b e => b.close LiveEnds.ends e) id

def isFinished (id : Nat) (h : Host) : Bool :=
  match h.bridges[id]? with
  | none => true
  | some live => live.bridge.isFinished

/-- Closes a bridge, waits for its pumps, and gives back its device and its descriptor. -/
def joinBridge (id : Nat) (h : Host) : Host :=
  let h := (h.closeBridge id).settle id
  match h.bridges[id]? with
  | none => h
  | some live =>
    let h := h.log (Bridge.stopLine live.bridge.serial)
    let h := live.transport.drop port h
    { h with kernel := h.kernel.close }

end Host

end NcmBridge
