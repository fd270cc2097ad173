import NcmBridge.Link.Discovery
import NcmBridge.Supervisor.InterfaceNames
import NcmBridge.Telemetry.Registry
import NcmBridge.Text.Quoted

/-!
# Keeping a bridge for every device

The supervisor keeps one session per attached serial. A scan closes the sessions of devices that are
gone, joins those that stopped by themselves, and then launches a session for every device that has
none; a launch that fails is tried again at the next scan. Sessions belong to a host, which launches,
closes and joins them.
-/

namespace NcmBridge

/-- What the supervisor asks of its host; `ι` names sessions. -/
structure SessionHost (σ ι : Type) where
  /-- The devices attached now. -/
  devices : σ → Except UsbError (List DeviceInfo) × σ
  /-- Starts a session for a device on an interface, or says why it cannot. -/
  launch : DeviceInfo → String → σ → Except String ι × σ
  isFinished : ι → σ → Bool
  close : ι → σ → σ
  /-- Waits until a session has ended, and gives back what it held. -/
  join : ι → σ → σ
  setDeviceCount : UInt64 → σ → σ
  log : LogLine → σ → σ

/-- What a scan changed. -/
structure ScanReport where
  attached : List String := []
  detached : List String := []
  relaunched : List String := []
  failed : List String := []
  deriving DecidableEq, Repr, Inhabited

/-- The sessions by serial, in the order in which they were launched, and the names of interfaces. -/
structure Supervisor (ι : Type) where
  names : InterfaceNames
  sessions : List (String × ι) := []
  deriving Inhabited

namespace Supervisor

variable {σ ι : Type}

def ofBase (base : String) : Supervisor ι := ⟨⟨base, []⟩, []⟩

def serials (v : Supervisor ι) : List String := v.sessions.map Prod.fst

/-- The serials with a session, in the order of their bytes. -/
def activeSerials (v : Supervisor ι) : List String :=
  v.serials.mergeSort fun s t => !serialBefore t s

/-! ### One scan -/

/-- Closes and joins the sessions of devices that are gone. -/
def detachAll (host : SessionHost σ ι) : List (String × ι) → σ → σ
  | [], s => s
  | (serial, session) :: rest, s =>
    let s := host.log ⟨.supervisor, .info, s!"{serial}: device detached"⟩ s
    detachAll host rest (host.join session (host.close session s))

/-- Joins sessions that stopped by themselves. -/
def joinAll (host : SessionHost σ ι) : List (String × ι) → σ → σ
  | [], s => s
  | (serial, session) :: rest, s =>
    let s := host.log ⟨.supervisor, .warn, s!"{serial}: bridge stopped while attached, relaunching"⟩ s
    joinAll host rest (host.join session s)

/-- Launches a session for a device. -/
def launchOne (host : SessionHost σ ι) (stopped : List String) (v : Supervisor ι)
    (report : ScanReport) (device : DeviceInfo) (s : σ) : Supervisor ι × ScanReport × σ :=
  let serial := device.serial
  let (interface, names) := v.names.nameFor serial
  let v := { v with names }
  match host.launch device interface s with
  | (.ok session, s) =>
    let v := { v with sessions := v.sessions ++ [(serial, session)] }
    if stopped.contains serial then
      (v, { report with relaunched := report.relaunched ++ [serial] }, s)
    else
      (v, { report with attached := report.attached ++ [serial] },
        host.log ⟨.supervisor, .info, s!"{serial}: device attached as {interface}"⟩ s)
  | (.error reason, s) =>
    let line := s!"{serial}: failed to start bridge, retrying next scan: {reason}"
    (v, { report with failed := report.failed ++ [serial] }, host.log ⟨.supervisor, .warn, line⟩ s)

/-- Launches a session for every device that has none; a serial that comes twice counts once. -/
def launchAll (host : SessionHost σ ι) (stopped : List String) :
    List DeviceInfo → (seen : List String) → Supervisor ι → ScanReport → σ →
      Supervisor ι × ScanReport × σ
  | [], _, v, report, s => (v, report, s)
  | device :: devices, seen, v, report, s =>
    if seen.contains device.serial || v.serials.contains device.serial then
      launchAll host stopped devices (device.serial :: seen) v report s
    else
      let (v, report, s) := launchOne host stopped v report device s
      launchAll host stopped devices (device.serial :: seen) v report s

/-- Brings the sessions into line with the given devices. -/
def reconcile (host : SessionHost σ ι) (v : Supervisor ι) (devices : List DeviceInfo) (s : σ) :
    ScanReport × Supervisor ι × σ :=
  let present := devices.map DeviceInfo.serial
  let (kept, gone) := v.sessions.partition fun entry => present.contains entry.1
  let s := detachAll host gone s
  let (stopped, running) := kept.partition fun entry => host.isFinished entry.2 s
  let s := joinAll host stopped s
  let report : ScanReport := { detached := gone.map Prod.fst }
  let (v, report, s) :=
    launchAll host (stopped.map Prod.fst) devices [] { v with sessions := running } report s
  let s := host.setDeviceCount (UInt64.ofNat v.sessions.length) s
  let line := s!"Scan complete: {v.sessions.length} active bridge(s)"
  (report, v, host.log ⟨.supervisor, .debug, line⟩ s)

/-- Scans for devices and brings the sessions into line with them. -/
def scan (host : SessionHost σ ι) (v : Supervisor ι) (s : σ) :
    Except UsbError ScanReport × Supervisor ι × σ :=
  match host.devices s with
  | (.error e, s) => (.error e, v, s)
  | (.ok devices, s) =>
    let (report, v, s) := v.reconcile host devices s
    (.ok report, v, s)

/-! ### The end -/

/-- Closes all sessions, and then joins them. -/
def shutdown (host : SessionHost σ ι) (v : Supervisor ι) (s : σ) : Supervisor ι × σ :=
  let s := v.sessions.foldl (fun s entry => host.close entry.2 s) s
  let s := v.sessions.foldl (fun s entry =>
    host.log ⟨.supervisor, .debug, s!"{entry.1}: bridge joined"⟩ (host.join entry.2 s)) s
  ({ v with sessions := [] }, host.setDeviceCount 0 s)

/-! ### A supervisor on its own -/

/-- The first scan of a supervisor that scans every `interval` seconds. -/
def begin (host : SessionHost σ ι) (interval : Nat) (v : Supervisor ι) (s : σ) :
    Supervisor ι × σ :=
  let s := host.log ⟨.supervisor, .info, s!"Supervisor started, scanning every {interval}s"⟩ s
  match v.scan host s with
  | (.error e, v, s) => (v, host.log ⟨.supervisor, .error, s!"Device scan failed: {e.message}"⟩ s)
  | (.ok report, v, s) =>
    if report = {} then (v, s)
    else (v, host.log ⟨.supervisor, .info, s!"Active devices: {Quoted.quoteAll v.activeSerials}"⟩ s)

/-- What a supervisor does when it is told to stop. -/
def stop (host : SessionHost σ ι) (v : Supervisor ι) (s : σ) : Supervisor ι × σ :=
  let (v, s) := v.shutdown host (host.log ⟨.supervisor, .info, "Supervisor shutting down"⟩ s)
  (v, host.log ⟨.supervisor, .info, "Supervisor stopped"⟩ s)

end Supervisor

end NcmBridge
