import NcmBridge.Telemetry.Registry

/-!
# The text of a scrape

A registry is shown as lines of text: the gauge of bridged devices, and then for each counter one
sample per serial, in the order of the serials. The values of labels are written in quotes, and a
backslash, a quote or a line end in them is escaped.
-/

namespace NcmBridge

namespace Counter

/-- All counters, in the order in which they are shown. -/
def all : List Counter := [usbReceive, usbSend, networkReceive, networkSend]

def name : Counter → String
  | usbReceive => "usb_receive_bytes"
  | usbSend => "usb_send_bytes"
  | networkReceive => "network_receive_bytes"
  | networkSend => "network_send_bytes"

def help : Counter → String
  | usbReceive => "Counter metric for received bytes on the USB endpoint"
  | usbSend => "Counter metric for sent bytes on the USB endpoint"
  | networkReceive => "Counter metric for received bytes on the virtual TAP device"
  | networkSend => "Counter metric for bytes sent to the virtual TAP device"

/-- The counters of the network side also tell the interface. -/
def showsInterface : Counter → Bool
  | usbReceive | usbSend => false
  | networkReceive | networkSend => true

end Counter

namespace Exposition

/-- A character inside the quotes of a label. -/
def escapeChar : Char → List Char
  | '\\' => ['\\', '\\']
  | '"' => ['\\', '"']
  | '\n' => ['\\', 'n']
  | c => [c]

/-- The text of a label's value. -/
def escape (value : String) : String := String.ofList (value.toList.flatMap escapeChar)

def label (name value : String) : String := name ++ "=\"" ++ escape value ++ "\""

/-- The sample of a counter for one serial. -/
def sample (counter : Counter) (serial : String) (a : Account) : String :=
  let labels :=
    if counter.showsInterface then label "device" a.interface ++ "," ++ label "serial" serial
    else label "serial" serial
  counter.name ++ "\x7b" ++ labels ++ "\x7d " ++ toString (a.value counter).toNat

/-- The two lines that describe a metric. -/
def describe (name help type : String) : List String :=
  ["# HELP " ++ name ++ " " ++ help, "# TYPE " ++ name ++ " " ++ type]

/-- The lines about one counter. -/
def family (r : Registry) (counter : Counter) : List String :=
  describe counter.name counter.help "counter" ++
    r.accounts.map fun entry => sample counter entry.1 entry.2

/-- The lines about the number of devices. -/
def gauge (r : Registry) : List String :=
  describe "device_count" "How many iOS devices are connected" "gauge" ++
    ["device_count " ++ toString r.deviceCount.toNat]

def lines (r : Registry) : List String := gauge r ++ Counter.all.flatMap (family r)

end Exposition

def Registry.render (r : Registry) : String :=
  String.join ((Exposition.lines r).map (· ++ "\n"))

end NcmBridge
