import NcmBridge.Link.Fault

/-!
# What a device says of itself

A device has configurations, a configuration has interfaces with alternate settings, and a setting has
endpoints. The data of the network function goes over a setting of class CDC Data with two bulk
endpoints, one for each way.
-/

namespace NcmBridge

/-- An endpoint of a setting. -/
structure EndpointInfo where
  address : Nat
  direction : EndpointDirection
  bulk : Bool
  maxPacketSize : Nat
  deriving DecidableEq, Repr, Inhabited

/-- An alternate setting of an interface. -/
structure AltSetting where
  interface : Nat
  setting : Nat
  classCode : Nat
  subClassCode : Nat
  endpoints : List EndpointInfo
  deriving DecidableEq, Repr, Inhabited

namespace AltSetting

/-- The class of interfaces that carry data. -/
def dataClass : Nat := 10

/-- The only subclass of that class. -/
def dataSubClass : Nat := 0

/-- Whether a setting can carry the data of the network function. -/
def isNcmData (s : AltSetting) : Bool :=
  s.classCode == dataClass && s.subClassCode == dataSubClass && s.endpoints.length == 2 &&
    s.endpoints.all EndpointInfo.bulk

def endpoint? (s : AltSetting) (direction : EndpointDirection) : Option EndpointInfo :=
  s.endpoints.find? fun e => e.direction == direction

end AltSetting

/-- A configuration with its settings in the order of the descriptor. -/
structure Configuration where
  number : Nat
  settings : List AltSetting
  deriving DecidableEq, Repr, Inhabited

/-- What the descriptor of a device says. -/
structure DeviceDescriptor where
  vendorId : Nat
  productId : Nat
  configurationCount : Nat
  deriving DecidableEq, Repr, Inhabited

/-- The setting over which data goes, and its two endpoints. -/
structure NcmInterface where
  interface : Nat
  setting : Nat
  bulkIn : EndpointInfo
  bulkOut : EndpointInfo
  deriving DecidableEq, Repr, Inhabited

namespace NcmInterface

/-- A read takes one packet, so that a read that times out holds no data. -/
def readChunkLen (n : NcmInterface) : Nat := n.bulkIn.maxPacketSize

end NcmInterface

end NcmBridge
