/-!
# Counters of transferred bytes

Every device has four counters, known by its serial, and the name of the interface it is bridged to.
A device that goes away keeps its account, so its counters never fall. Counters wrap at 2^64.

An addition takes the registry's lock once or twice: `addKnown?` under the shared lock succeeds for a
serial that has an account, and otherwise `addOpening` under the exclusive lock opens one first.
-/

namespace NcmBridge

/-- What is counted for a device. -/
inductive Counter
  /-- Bytes read from the bulk IN endpoint. -/
  | usbReceive
  /-- Bytes written to the bulk OUT endpoint. -/
  | usbSend
  /-- Bytes read from the TAP interface. -/
  | networkReceive
  /-- Bytes written to the TAP interface. -/
  | networkSend
  deriving DecidableEq, Repr, Inhabited

/-- The four counters of a device and the interface it is bridged to. -/
structure Account where
  interface : String := ""
  usbReceive : UInt64 := 0
  usbSend : UInt64 := 0
  networkReceive : UInt64 := 0
  networkSend : UInt64 := 0
  deriving DecidableEq, Repr, Inhabited

namespace Account

def value (a : Account) : Counter → UInt64
  | .usbReceive => a.usbReceive
  | .usbSend => a.usbSend
  | .networkReceive => a.networkReceive
  | .networkSend => a.networkSend

/-- Adds to a counter. -/
def add (a : Account) (counter : Counter) (n : UInt64) : Account :=
  match counter with
  | .usbReceive => { a with usbReceive := a.usbReceive + n }
  | .usbSend => { a with usbSend := a.usbSend + n }
  | .networkReceive => { a with networkReceive := a.networkReceive + n }
  | .networkSend => { a with networkSend := a.networkSend + n }

end Account

/-- Serials are ordered by their UTF-8 bytes. -/
def serialBefore (s t : String) : Bool := decide (s.toUTF8.toList < t.toUTF8.toList)

/-- The accounts of all devices seen so far, in the order of their serials, and how many devices
are bridged now. -/
structure Registry where
  accounts : List (String × Account) := []
  deviceCount : UInt64 := 0
  deriving DecidableEq, Repr, Inhabited

namespace Registry

/-- The account of a serial. -/
def account? (r : Registry) (serial : String) : Option Account := r.accounts.lookup serial

/-- The value of a counter; a serial without an account has counted nothing. -/
def counter (r : Registry) (counter : Counter) (serial : String) : UInt64 :=
  match r.account? serial with
  | some a => a.value counter
  | none => 0

/-- Changes the account of a serial, and opens one at its place in the order if there is none. -/
def updateIn (serial : String) (change : Account → Account) :
    List (String × Account) → List (String × Account)
  | [] => [(serial, change {})]
  | (s, a) :: rest =>
    if s = serial then (s, change a) :: rest
    else if serialBefore serial s then (serial, change {}) :: (s, a) :: rest
    else (s, a) :: updateIn serial change rest

/-- Changes the account of a serial, and opens one if there is none. -/
def update (r : Registry) (serial : String) (change : Account → Account) : Registry :=
  { r with accounts := updateIn serial change r.accounts }

/-- Notes the interface that a serial is bridged to; its counters stay. -/
def register (r : Registry) (serial interface : String) : Registry :=
  r.update serial fun a => { a with interface := interface }

/-- Adds to a counter of a serial that has an account. -/
def addKnown? (r : Registry) (counter : Counter) (serial : String) (n : UInt64) :
    Option Registry :=
  (r.account? serial).map fun _ => r.update serial fun a => a.add counter n

/-- Adds to a counter, and opens an account for the serial if there is none. -/
def addOpening (r : Registry) (counter : Counter) (serial : String) (n : UInt64) : Registry :=
  r.update serial fun a => a.add counter n

/-- Adds to a counter of a serial. -/
def add (r : Registry) (counter : Counter) (serial : String) (n : UInt64) : Registry :=
  (r.addKnown? counter serial n).getD (r.addOpening counter serial n)

def setDeviceCount (r : Registry) (count : UInt64) : Registry := { r with deviceCount := count }

end Registry

end NcmBridge
