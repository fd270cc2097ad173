import NcmBridge.CommandLine
import NcmBridge.Link.Listing
import NcmBridge.LogFilter.Basic
import NcmBridge.Preflight
import NcmBridge.Settings.Store

/-!
# The program

A run takes what the program finds around it to what it leaves behind. The command line decides what is
done: settings are saved, devices are listed, or bridges are supervised until a signal comes. Log lines
are shown from the moment the filter is known.
-/

namespace NcmBridge

inductive Signal
  | terminate
  | interrupt
  deriving DecidableEq, Repr, Inhabited

def Signal.name : Signal → String
  | terminate => "SIGTERM"
  | interrupt => "SIGINT"

/-- Why the program fails. -/
inductive DaemonError
  | save (e : SaveError)
  | load (e : LoadError)
  | logFilter (f : LogFilterFault)
  | bus (f : UsbFault)
  | list (e : UsbError)
  | settings (f : SettingsFault)
  | preflight (e : PreflightError)
  deriving DecidableEq, Repr, Inhabited

namespace DaemonError

def chain : DaemonError → List String
  | save e => "Failed to save configuration" :: e.chain
  | load e => "Failed to load configuration" :: e.chain
  | logFilter f =>
    ["Failed to setup logging", s!"Configuration error: Invalid log filter: {f.message}"]
  | bus f => ["Failed to open USB context", f.text]
  | list e => Listing.failure e
  | settings f => f.chain
  | preflight e => "Preflight check failed" :: e.chain

/-- A text whose further lines are indented. -/
def indent (spaces : String) (text : String) : String :=
  String.intercalate ("\n" ++ spaces) ((Text.splitOn '\n' text.toList).map String.ofList)

/-- The causes below an error; several are numbered. -/
def causes : List String → String
  | [] => ""
  | [cause] => "\n\nCaused by:\n    " ++ indent "    " cause
  | several => "\n\nCaused by:" ++ String.join (several.zipIdx.map fun (cause, i) =>
      "\n" ++ String.ofList (List.replicate (5 - (toString i).length) ' ') ++ toString i ++ ": " ++
        indent "       " cause)

/-- What is written when the program fails. -/
def report (e : DaemonError) : String :=
  match e.chain with
  | [] => "Error: \n"
  | outer :: inner => "Error: " ++ outer ++ causes inner ++ "\n"

end DaemonError

/-- What the program finds around it. -/
structure Surroundings where
  arguments : List String := []
  places : Places
  files : FileNode
  /-- The filter in the environment. -/
  logFilter : Option String := none
  /-- What opening the bus meets. -/
  busFault : Option UsbFault := none
  usbmuxd : Preflight.ProgramOutput := .missing
  userId : Nat := 0
  host : Host := {}
  /-- Opens a port to listen on, and tells the address taken, or what failed and why. -/
  listen : IpAddress → UInt16 → Except (List String) String
  /-- The signal that comes when all bridges have come to rest. -/
  signal : Signal := .terminate

/-- How a run ends. -/
inductive Ending
  | done
  | stopped (s : CommandLine.Stop)
  | failed (e : DaemonError)
  deriving DecidableEq, Repr, Inhabited

/-- What a run leaves behind. -/
structure Outcome where
  ending : Ending
  /-- What was printed, one text for each time that a line end is added. -/
  printed : List String := []
  /-- The log lines that were shown, in order. -/
  log : List LogLine := []
  files : FileNode
  host : Host

namespace Ending

def exitCode : Ending → Nat
  | done => 0
  | stopped s => s.exitCode
  | failed _ => 1

end Ending

namespace Daemon

def version : String := "0.1.0"

/-! ### Settings -/

/-- Saves the first settings in the user's place for them. -/
def saveSettings (w : Surroundings) : Outcome :=
  match ({} : Settings).save w.places w.files w.places.settingsFile with
  | (.error e, files) => { ending := .failed (.save e), files, host := w.host }
  | (.ok (), files) =>
    { ending := .done
      printed := [s!"Configuration saved to: {w.places.settingsPath}"]
      files
      host := w.host }

/-- Loads the settings. A file that is named must be good; else the first settings hold if there is
none in a standard place, and the failure is told. -/
def loadSettings (w : Surroundings) (a : Arguments) :
    Except DaemonError (Settings × Option LoadError) :=
  match a.config with
  | some _ =>
    match Settings.load w.places w.files a.config with
    | .ok s => .ok (s, none)
    | .error e => .error (.load e)
  | none => .ok (Settings.loadOrDefault w.places w.files none)

/-! ### The metrics endpoint -/

/-- The port for metrics, if they are served. -/
def metricsPort (a : Arguments) (s : Settings) : Option UInt16 := a.metricsPort.or s.metricsPort

/-- Opens the metrics endpoint if there is to be one, and tells whether it is open. -/
def openEndpoint (w : Surroundings) (a : Arguments) (s : Settings) (h : Host) : Bool × Host :=
  match metricsPort a s, IpAddress.parse s.metricsAddress with
  | some port, some ip =>
    match w.listen ip port with
    | .ok address => (true, h.log ⟨.metrics, .info, s!"Serving metrics on http://{address}/metrics"⟩)
    | .error reasons =>
      let text := String.intercalate ": "
        (s!"Failed to bind metrics endpoint to {ip.withPort (toString port)}" :: reasons)
      (false, h.log ⟨.program, .error, text⟩)
  | _, _ => (false, h)

/-- Listening on a machine that has only the addresses that every machine has. -/
def listenAlone (ip : IpAddress) (port : String) : Except (List String) String :=
  if ip.isOwn then .ok (ip.withPort port)
  else
    let cause := Errno.addressNotAvailable.text
    .error [s!"error creating server listener: {cause}", cause]

def closeEndpoint (h : Host) : Host :=
  let h := h.log ⟨.server, .debug, "signal received, starting graceful shutdown"⟩
  h.log ⟨.metrics, .info, "Metrics endpoint stopped"⟩

/-! ### Bridges -/

def settleAll (h : Host) : Host := (List.range h.bridges.size).foldl (fun h id => h.settle id) h

/-- Supervises bridges until the signal comes. -/
def supervise (w : Surroundings) (a : Arguments) (s : Settings) (h : Host) : Host :=
  let (serving, h) := openEndpoint w a s h
  let host := Host.sessions s.launchOptions
  let supervisor : Supervisor Nat := .ofBase s.interfaceName
  let (supervisor, scanner, h) := supervisor.begin host s.scanSeconds.toNat (s.scanner, h)
  let h := settleAll h
  let h := h.log ⟨.program, .info, s!"Received {w.signal.name}"⟩
  let h := h.log ⟨.program, .info, "Shutting down..."⟩
  let (_, _, h) := supervisor.stop host (scanner, h)
  let h := if serving then closeEndpoint h else h
  h.log ⟨.program, .info, "Shutdown complete"⟩

/-! ### Runs -/

/-- Lists the devices. -/
def list (s : Settings) (h : Host) : Ending × List String × Host :=
  match s.scanner.scan Host.port h with
  | (.ok devices, _, h) => (.done, Listing.texts devices, h)
  | (.error e, _, h) => (.failed (.list e), [], h)

/-- Makes the checks before the start, and then supervises bridges. -/
def serve (w : Surroundings) (a : Arguments) (s : Settings) (h : Host) : Ending × Host :=
  match s.requiredVersion with
  | .error f => (.failed (.settings f), h)
  | .ok required =>
    let (lines, result) := Preflight.run required s.skipUsbmuxdCheck w.usbmuxd w.userId
    let h := lines.foldl (fun h line => h.log line) h
    match result with
    | .error e => (.failed (.preflight e), h)
    | .ok () => (.done, supervise w a s h)

/-- What is done once the settings are there and the log is open. -/
def work (w : Surroundings) (a : Arguments) (s : Settings) (h : Host) : Ending × List String × Host :=
  match w.busFault with
  | some f => (.failed (.bus f), [], h)
  | none =>
    if a.listDevices then list s h
    else
      let (ending, h) := serve w a s h
      (ending, [], h)

/-- The first lines of the log. -/
def greet (level : String) (problem : Option LoadError) (h : Host) : Host :=
  let h := h.log ⟨.program, .info, s!"cdc-ncm v{version}"⟩
  let h := h.log ⟨.program, .info, s!"Log level: {level}"⟩
  match problem with
  | none => h
  | some e => h.log ⟨.program, .warn, s!"Failed to load config: {e.text}, using defaults"⟩

def run (w : Surroundings) : Outcome :=
  match CommandLine.parse w.arguments with
  | .error stop => { ending := .stopped stop, files := w.files, host := w.host }
  | .ok a =>
    if a.saveConfig then saveSettings w
    else
      match loadSettings w a with
      | .error e => { ending := .failed e, files := w.files, host := w.host }
      | .ok (s, problem) =>
        let level := a.logLevel.getD s.logLevel
        match LogFilter.choose w.logFilter level with
        | .error f => { ending := .failed (.logFilter f), files := w.files, host := w.host }
        | .ok filter =>
          let (ending, printed, host) := work w a s (greet level problem w.host)
          { ending, printed, log := host.lines.reverse.filter filter.admits, files := w.files, host }

end Daemon

end NcmBridge
