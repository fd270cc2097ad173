import NcmBridge.CommandLine

/-!
# Usage

What is printed when the command line does not lead to a run.
-/

namespace NcmBridge.Usage

def help : String :=
  "Bridges iOS devices that expose a USB CDC-NCM network function to layer 2
TAP interfaces on a Linux host. Each attached device gets its own TAP
interface; addressing is left to the operator (DHCP client, ip addr, ...).

Must run as root on Linux with usbmuxd installed.

EXAMPLES:
    # Run with default config
    cdc-ncm

    # Expose Prometheus metrics on port 9100
    cdc-ncm --metrics-port 9100

    # List attached iOS devices and exit
    cdc-ncm --list-devices

CONFIGURATION:
    The daemon looks for configuration files in the following order:
    1. Path specified with --config
    2. ~/.config/cdc-ncm/daemon.toml
    3. /etc/cdc-ncm/daemon.toml
    4. Built-in defaults

Usage: cdc-ncm [OPTIONS]

Options:
  -c, --config <PATH>        Path to configuration file
      --save-config          Save default configuration to default location and exit
      --list-devices         List attached iOS devices and exit
  -l, --log-level <LEVEL>    Log level (trace, debug, info, warn, error)
      --metrics-port <PORT>  Serve Prometheus metrics on this port
  -h, --help                 Print help
  -V, --version              Print version"

def version (number : String) : String := "cdc-ncm " ++ number

/-- What is wrong with the command line; empty if nothing is. -/
def complaint : CommandLine.Stop → String
  | .help | .version => ""
  | .unknown argument => s!"error: unexpected argument '{argument}' found"
  | .missingValue o => s!"error: a value is required for '{o.text}' but none was supplied"
  | .badValue o value => s!"error: invalid value '{value}' for '{o.text}'"
  | .repeated text => s!"error: the argument '{text}' cannot be used multiple times"
  | .unexpectedValue f value =>
    s!"error: unexpected value '{value}' for '{f.text}' found; no more were expected"

/-- What is written to the error output about a wrong command line. -/
def advice (stop : CommandLine.Stop) : String :=
  complaint stop ++ "\n\nUsage: cdc-ncm [OPTIONS]\n\nFor more information, try '--help'."

end NcmBridge.Usage
