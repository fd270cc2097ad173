import NcmBridge.Block.Layout
import NcmBridge.Host.Launch
import NcmBridge.IpAddress
import NcmBridge.Tap.Name
import NcmBridge.Version

/-!
# Settings

What can be set, with the values that hold if nothing is, and which values the program accepts.
-/

namespace NcmBridge

/-- The settings of the program. -/
structure Settings where
  logLevel : String := "info"
  vendorId : UInt16 := 0x05ac
  productIds : List UInt16 := [0x12a8]
  /-- Seconds between two scans. -/
  scanSeconds : UInt64 := 5
  /-- How long a transfer may take, in milliseconds. -/
  transferTimeout : UInt64 := 500
  /-- The interface of the first device. -/
  interfaceName : String := "iphone"
  batchFrames : Bool := false
  batchLimit : UInt64 := 16 * 1024
  resync : Bool := true
  /-- Where metrics are served; nowhere if there is no port. -/
  metricsPort : Option UInt16 := none
  metricsAddress : String := "0.0.0.0"
  usbmuxdVersion : String := "1.1.1-56-g360619c"
  skipUsbmuxdCheck : Bool := false
  deriving DecidableEq, Repr, Inhabited

/-- Why settings are not accepted. -/
inductive SettingsFault
  | logLevel (name : String)
  | noProducts
  | noScanInterval
  | noTransferTimeout
  | interfaceName (name : String)
  | batchLimit (limit : Nat)
  | metricsAddress (text : String)
  | usbmuxdVersion (text : String) (e : VersionError)
  deriving DecidableEq, Repr, Inhabited

namespace Settings

/-! ### What settings mean -/

/-- Milliseconds between two scans. -/
def scanInterval (s : Settings) : Nat := s.scanSeconds.toNat * 1000

def bridgeOptions (s : Settings) : BridgeOptions := ⟨s.batchFrames, s.batchLimit.toNat, s.resync⟩

def launchOptions (s : Settings) : LaunchOptions := ⟨s.bridgeOptions, s.transferTimeout.toNat⟩

/-- A scanner for the devices that are asked for. -/
def scanner (s : Settings) : Scanner :=
  { vendorId := s.vendorId.toNat, productIds := s.productIds.map UInt16.toNat }

/-! ### Accepted values -/

/-- The names of the log levels. -/
def logLevels : List String := ["trace", "debug", "info", "warn", "error"]

/-- Least limit for a block: a frame of the greatest length must fit. -/
def minBatchLimit : Nat := Layout.blockLen [maxFrameLen]

/-- The oldest `usbmuxd` that will do. -/
def requiredVersion (s : Settings) : Except SettingsFault Version :=
  (Version.parse s.usbmuxdVersion).mapError (.usbmuxdVersion s.usbmuxdVersion)

/-- The first fault in the settings, if there is one. -/
def check (s : Settings) : Except SettingsFault Unit := do
  if s.logLevel ∉ logLevels then
    throw (.logLevel s.logLevel)
  if s.productIds = [] then
    throw .noProducts
  if s.scanSeconds = 0 then
    throw .noScanInterval
  if s.transferTimeout = 0 then
    throw .noTransferTimeout
  if !Tap.isValidName s.interfaceName then
    throw (.interfaceName s.interfaceName)
  if s.batchLimit.toNat < minBatchLimit ∨ maxBlockLen < s.batchLimit.toNat then
    throw (.batchLimit s.batchLimit.toNat)
  if (IpAddress.parse s.metricsAddress).isNone then
    throw (.metricsAddress s.metricsAddress)
  let _ ← s.requiredVersion

end Settings

namespace SettingsFault

def message : SettingsFault → String
  | logLevel name =>
    s!"Invalid log level '{name}', must be one of: " ++ String.intercalate ", " Settings.logLevels
  | noProducts => "usb.product_ids must not be empty"
  | noScanInterval => "usb.scan_interval_secs must be at least 1"
  | noTransferTimeout => "usb.transfer_timeout_ms must be at least 1"
  | interfaceName name => s!"Invalid interface name '{name}'"
  | batchLimit limit =>
    s!"network.max_ntb_size {limit} must be between {Settings.minBatchLimit} and {maxBlockLen}"
  | metricsAddress text => s!"Invalid telemetry.bind_addr '{text}'"
  | usbmuxdVersion text _ => s!"Invalid min_usbmuxd_version '{text}'"

def chain (f : SettingsFault) : List String :=
  f.message :: match f with
    | metricsAddress _ => ["invalid IP address syntax"]
    | usbmuxdVersion _ e => [e.message]
    | _ => []

end SettingsFault

end NcmBridge
