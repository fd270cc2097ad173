import NcmBridge.IoFault

/-!
# Failures of the USB side

A call on the bus or a device fails with a fault. What a caller of the link is told is an error, which
also names what was being done.
-/

namespace NcmBridge

/-- How a call on the bus or a device fails. -/
inductive UsbFault
  | io
  | invalidParam
  | access
  | noDevice
  | notFound
  | busy
  | timeout
  | overflow
  | pipe
  | interrupted
  | noMemory
  | notSupported
  | badDescriptor
  | other
  deriving DecidableEq, Repr, Inhabited

namespace UsbFault

def text : UsbFault → String
  | io => "Input/Output Error"
  | invalidParam => "Invalid parameter"
  | access => "Access denied (insufficient permissions)"
  | noDevice => "No such device (it may have been disconnected)"
  | notFound => "Entity not found"
  | busy => "Resource busy"
  | timeout => "Operation timed out"
  | overflow => "Overflow"
  | pipe => "Pipe error"
  | interrupted => "System call interrupted (perhaps due to signal)"
  | noMemory => "Insufficient memory"
  | notSupported => "Operation not supported or unimplemented on this platform"
  | badDescriptor => "Malformed descriptor"
  | other => "Other error"

/-- A fault as the failure of a read or write. -/
def ioFault (f : UsbFault) : IoFault :=
  match f with
  | noDevice => ⟨.notConnected, f.text⟩
  | timeout => ⟨.timedOut, f.text⟩
  | interrupted => ⟨.interrupted, f.text⟩
  | _ => ⟨.other, f.text⟩

end UsbFault

/-- Which way an endpoint carries data, seen from the host. -/
inductive EndpointDirection
  | input
  | output
  deriving DecidableEq, Repr, Inhabited

def EndpointDirection.name : EndpointDirection → String
  | input => "In"
  | output => "Out"

/-- Why a device cannot be found or brought up. -/
inductive UsbError
  | fault (f : UsbFault)
  | controlTransfer (request : Nat) (f : UsbFault)
  | configurationNotFound (configuration : Nat)
  | noDataInterface (configuration : Nat)
  | endpointMissing (interface setting : Nat) (direction : EndpointDirection)
  | deviceGone (bus address : Nat)
  deriving DecidableEq, Repr, Inhabited

namespace UsbError

def message : UsbError → String
  | fault f => s!"USB error: {f.text}"
  | controlTransfer request f => s!"Vendor request {request} failed: {f.text}"
  | configurationNotFound c => s!"Configuration {c} is not advertised by the device"
  | noDataInterface c =>
    s!"Configuration {c} has no CDC Data alternate setting with two bulk endpoints"
  | endpointMissing interface setting direction =>
    s!"Endpoint mismatch: interface {interface} alt {setting} has no bulk {direction.name} endpoint"
  | deviceGone bus address => s!"Device at bus {bus} address {address} is gone"

/-- The fault behind an error, if there is one. -/
def cause? : UsbError → Option UsbFault
  | fault f | controlTransfer _ f => some f
  | _ => none

def chain (e : UsbError) : List String := e.message :: (e.cause?.map UsbFault.text).toList

end UsbError

end NcmBridge
