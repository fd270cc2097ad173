import NcmBridge.Text.Terminal

/-!
# Log lines

A line of the log has a source, a level and a text. Functions that have something to report give lines
back; who writes them, and which of them are shown, is decided elsewhere.
-/

namespace NcmBridge

/-- How much a log line matters, the gravest first. -/
inductive Level
  | error
  | warn
  | info
  | debug
  | trace
  deriving DecidableEq, Repr, Inhabited

namespace Level

def name : Level → String
  | error => "ERROR"
  | warn => "WARN"
  | info => "INFO"
  | debug => "DEBUG"
  | trace => "TRACE"

/-- The place of a level in the order from grave to minute. -/
def rank : Level → Nat
  | error => 1
  | warn => 2
  | info => 3
  | debug => 4
  | trace => 5

end Level

/-- The part of the program that a log line comes from. -/
inductive LogSource
  | program
  | preflight
  | supervisor
  | launcher
  | bridge
  | tap
  | discovery
  | device
  | activation
  | transport
  | metrics
  /-- The server below the metrics endpoint. -/
  | server
  deriving DecidableEq, Repr, Inhabited

namespace LogSource

/-- The name of a source in a filter: those of the parts begin with the name of the whole. -/
def name : LogSource → String
  | program => "cdc_ncm"
  | preflight => "cdc_ncm::preflight"
  | supervisor => "cdc_ncm::supervisor"
  | launcher => "cdc_ncm::launcher"
  | bridge => "cdc_ncm::bridge"
  | tap => "cdc_ncm::tap"
  | discovery => "cdc_ncm::usb::discovery"
  | device => "cdc_ncm::usb::device"
  | activation => "cdc_ncm::usb::activation"
  | transport => "cdc_ncm::usb::transport"
  | metrics => "cdc_ncm::metrics_http"
  | server => "hyper::server::shutdown"

end LogSource

structure LogLine where
  source : LogSource
  level : Level
  text : String
  deriving DecidableEq, Repr, Inhabited

namespace LogLine

def render (line : LogLine) : String := line.level.name ++ " " ++ line.text

/-- A line as it is shown to the user of the program. -/
def display (line : LogLine) : String := line.level.name ++ " " ++ Text.forTerminal line.text

end LogLine

end NcmBridge
