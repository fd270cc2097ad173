import NcmBridge.Link.Discovery

/-!
# The list of devices

What is printed about the devices that a scan found.
-/

namespace NcmBridge.Listing

def entry (d : DeviceInfo) : List String :=
  let enabled :=
    if Activation.ncmConfigurationCount ≤ d.configurationCount then " (NCM enabled)" else ""
  [s!"  {d.serial} [{hexDigits 4 d.vendorId}:{hexDigits 4 d.productId}]",
    s!"      Bus {decimalDigits 3 d.bus} Device {decimalDigits 3 d.address} Configurations: {d.configurationCount}{enabled}",
    ""]

/-- What is printed, one text for each time that a line end is added. -/
def texts : List DeviceInfo → List String
  | [] => ["No iOS devices found."]
  | devices => s!"Found {devices.length} iOS device(s):\n" :: devices.flatMap entry

/-- Why there is no list. -/
def failure (e : UsbError) : List String := "Failed to enumerate USB devices" :: e.chain

end NcmBridge.Listing
