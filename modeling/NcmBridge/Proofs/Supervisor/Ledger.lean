import Mathlib.Data.List.Nodup
import Mathlib.Tactic.Lemma
import NcmBridge.Supervisor.Scan

/-!
# A ledger of sessions

Any host can keep a ledger. It numbers the sessions in the order of their launches, so that no two are
taken for one, and enters every launch, close and join. Entering changes nothing else, so a supervisor
over a host with a ledger does what it does over the bare host, and the life of each session can be read
off the ledger.
-/

namespace NcmBridge

variable {σ ι : Type}

/-! ### Entries -/

/-- Something that a supervisor does to a session. -/
inductive SessionEvent
  | launched (serial : String) (id : Nat)
  /-- A launch that failed. -/
  | refused (serial : String)
  | closed (id : Nat)
  | joined (id : Nat)
  deriving DecidableEq

namespace SessionEvent

/-- The session that the entry is about. -/
def id? : SessionEvent → Option Nat
  | launched _ id | closed id | joined id => some id
  | refused _ => none

/-- The serial for which a launch was tried. -/
def attempt? : SessionEvent → Option String
  | launched serial _ | refused serial => some serial
  | closed _ | joined _ => none

/-- The serial for which a session was launched. -/
def launched? : SessionEvent → Option String
  | launched serial _ => some serial
  | refused _ | closed _ | joined _ => none

/-- The serial for which a launch failed. -/
def refused? : SessionEvent → Option String
  | refused serial => some serial
  | launched _ _ | closed _ | joined _ => none

lemma launched?_of_attempt? {e : SessionEvent} (h : e.attempt? = none) : e.launched? = none := by
  cases e <;> first | rfl | cases h

lemma refused?_of_attempt? {e : SessionEvent} (h : e.attempt? = none) : e.refused? = none := by
  cases e <;> first | rfl | cases h

end SessionEvent

/-- The state of a host with its ledger. -/
structure Ledger (σ : Type) where
  state : σ
  /-- How many sessions were launched; the number of the next one. -/
  launches : Nat := 0
  /-- The entries, the newest last. -/
  events : List SessionEvent := []
  deviceCount : UInt64 := 0

/-- The host with a ledger. -/
def SessionHost.recorded (host : SessionHost σ ι) : SessionHost (Ledger σ) (Nat × ι) where
  devices r :=
    let (got, s) := host.devices r.state
    (got, { r with state := s })
  launch device interface r :=
    match host.launch device interface r.state with
    | (.ok session, s) =>
      (.ok (r.launches, session),
        { r with
          state := s
          launches := r.launches + 1
          events := r.events ++ [.launched device.serial r.launches] })
    | (.error reason, s) =>
      (.error reason, { r with state := s, events := r.events ++ [.refused device.serial] })
  isFinished session r := host.isFinished session.2 r.state
  close session r :=
    { r with state := host.close session.2 r.state, events := r.events ++ [.closed session.1] }
  join session r :=
    { r with state := host.join session.2 r.state, events := r.events ++ [.joined session.1] }
  setDeviceCount n r := { r with state := host.setDeviceCount n r.state, deviceCount := n }
  log line r := { r with state := host.log line r.state }

namespace SessionHost

variable {host : SessionHost σ ι} {device : DeviceInfo} {interface : String} {r : Ledger σ} {s : σ}

lemma launch_recorded_ok {session : ι} (h : host.launch device interface r.state = (.ok session, s)) :
    host.recorded.launch device interface r =
      (.ok (r.launches, session),
        { r with
          state := s
          launches := r.launches + 1
          events := r.events ++ [.launched device.serial r.launches] }) := by
  simp only [recorded, h]

lemma launch_recorded_error {reason : String}
    (h : host.launch device interface r.state = (.error reason, s)) :
    host.recorded.launch device interface r =
      (.error reason, { r with state := s, events := r.events ++ [.refused device.serial] }) := by
  simp only [recorded, h]

end SessionHost

/-! ### The life of a session -/

/-- The entries about one session. -/
def life (id : Nat) (events : List SessionEvent) : List SessionEvent :=
  events.filter fun e => e.id? = some id

section Life

variable {id : Nat} {events new : List SessionEvent}

@[simp] lemma life_nil : life id [] = [] := rfl

@[simp] lemma life_append : life id (events ++ new) = life id events ++ life id new :=
  List.filter_append ..

lemma life_singleton (id : Nat) (e : SessionEvent) :
    life id [e] = if e.id? = some id then [e] else [] := by
  simp [life, List.filter_singleton]

lemma mem_life {e : SessionEvent} : e ∈ life id events ↔ e ∈ events ∧ e.id? = some id := by
  simp [life]

lemma life_eq_nil_of_ne (h : ∀ e ∈ events, e.id? ≠ some id) : life id events = [] := by
  simpa [life] using h

lemma life_eq_self (h : ∀ e ∈ events, e.id? = some id) : life id events = events := by
  simpa [life] using h

/-- Of entries made session by session those about one session remain. -/
lemma life_flatMap {entries : Nat → List SessionEvent} (h : ∀ i, ∀ e ∈ entries i, e.id? = some i)
    {ids : List Nat} (hids : ids.Nodup) (id : Nat) :
    life id (ids.flatMap entries) = if id ∈ ids then entries id else [] := by
  induction ids with
  | nil => rfl
  | cons i ids ih =>
    obtain ⟨hi, hrest⟩ := List.nodup_cons.1 hids
    rw [List.flatMap_cons, life_append, ih hrest]
    by_cases heq : id = i
    · subst heq
      rw [life_eq_self (h id), if_neg hi, if_pos (List.mem_cons_self ..), List.append_nil]
    · have hother : life id (entries i) = [] := by
        refine life_eq_nil_of_ne ?_
        intro e he hid
        exact heq (Option.some.inj (hid.symm.trans (h i e he)))
      simp [hother, heq]

end Life

/-- The last entries about a session. -/
def farewell (closing : Bool) (id : Nat) : List SessionEvent :=
  if closing then [.closed id, .joined id] else [.joined id]

lemma farewell_about {closing : Bool} {id : Nat} {e : SessionEvent} (h : e ∈ farewell closing id) :
    e.id? = some id ∧ e.attempt? = none := by
  cases closing with
  | false =>
    obtain rfl := List.mem_singleton.1 h
    exact ⟨rfl, rfl⟩
  | true =>
    rcases List.mem_pair.1 h with rfl | rfl
    · exact ⟨rfl, rfl⟩
    · exact ⟨rfl, rfl⟩

/-- No launch is tried where sessions end. -/
lemma attempt?_of_mem_farewells {closing : Bool} {ids : List Nat} {e : SessionEvent}
    (h : e ∈ ids.flatMap (farewell closing)) : e.attempt? = none := by
  obtain ⟨id, -, hid⟩ := List.mem_flatMap.1 h
  exact (farewell_about hid).2

/-! ### Passes over a ledger -/

namespace Supervisor

def bare (entry : String × Nat × ι) : String × ι := (entry.1, entry.2.2)

/-- The numbers of sessions. -/
def numbers (sessions : List (String × Nat × ι)) : List Nat := sessions.map fun entry => entry.2.1

variable (host : SessionHost σ ι)

/-- Sessions of devices that are gone are closed and joined one after another. -/
lemma detachAll_recorded (gone : List (String × Nat × ι)) (r : Ledger σ) :
    detachAll host.recorded gone r =
      { r with
        state := detachAll host (gone.map bare) r.state
        events := r.events ++ (numbers gone).flatMap (farewell true) } := by
  induction gone generalizing r with
  | nil => simp [detachAll, numbers]
  | cons entry gone ih =>
    rw [detachAll, ih]
    simp [SessionHost.recorded, detachAll, numbers, bare, farewell]

lemma joinAll_recorded (stopped : List (String × Nat × ι)) (r : Ledger σ) :
    joinAll host.recorded stopped r =
      { r with
        state := joinAll host (stopped.map bare) r.state
        events := r.events ++ (numbers stopped).flatMap (farewell false) } := by
  induction stopped generalizing r with
  | nil => simp [joinAll, numbers]
  | cons entry stopped ih =>
    rw [joinAll, ih]
    simp [SessionHost.recorded, joinAll, numbers, bare, farewell]

lemma closeAll_recorded (sessions : List (String × Nat × ι)) (r : Ledger σ) :
    sessions.foldl (fun r entry => host.recorded.close entry.2 r) r =
      { r with
        state := (sessions.map bare).foldl (fun s entry => host.close entry.2 s) r.state
        events := r.events ++ (numbers sessions).flatMap fun id => [.closed id] } := by
  induction sessions generalizing r with
  | nil => simp [numbers]
  | cons entry sessions ih =>
    rw [List.foldl_cons, ih]
    simp [SessionHost.recorded, numbers, bare]

lemma joinEach_recorded (line : String → LogLine) (sessions : List (String × Nat × ι)) (r : Ledger σ) :
    sessions.foldl (fun r entry => host.recorded.log (line entry.1) (host.recorded.join entry.2 r)) r =
      { r with
        state := (sessions.map bare).foldl
          (fun s entry => host.log (line entry.1) (host.join entry.2 s)) r.state
        events := r.events ++ (numbers sessions).flatMap fun id => [.joined id] } := by
  induction sessions generalizing r with
  | nil => simp [numbers]
  | cons entry sessions ih =>
    rw [List.foldl_cons, ih]
    simp [SessionHost.recorded, numbers, bare]

/-- A supervisor as the bare host knows it. -/
def forget (v : Supervisor (Nat × ι)) : Supervisor ι := ⟨v.names, v.sessions.map bare⟩

/-- At the end all sessions are closed, and then joined. -/
lemma shutdown_recorded (v : Supervisor (Nat × ι)) (r : Ledger σ) :
    v.shutdown host.recorded r =
      ({ v with sessions := [] },
        { r with
          state := (v.forget.shutdown host r.state).2
          events := r.events ++ ((numbers v.sessions).flatMap (fun id => [.closed id]) ++
            (numbers v.sessions).flatMap fun id => [.joined id])
          deviceCount := 0 }) := by
  simp only [shutdown, closeAll_recorded,
    joinEach_recorded host fun serial => ⟨.supervisor, .debug, s!"{serial}: bridge joined"⟩]
  simp [SessionHost.recorded, forget]

lemma serials_forget (v : Supervisor (Nat × ι)) : v.forget.serials = v.serials := by
  simp [serials, forget, bare]

section Launches

variable {host} {stopped : List String} {device : DeviceInfo} {s s' : σ}

lemma launchOne_ok {v : Supervisor ι} {report : ScanReport} {session : ι}
    (h : host.launch device (v.names.nameFor device.serial).1 s = (.ok session, s')) :
    launchOne host stopped v report device s =
      (⟨(v.names.nameFor device.serial).2, v.sessions ++ [(device.serial, session)]⟩,
        if stopped.contains device.serial then
          ({ report with relaunched := report.relaunched ++ [device.serial] }, s')
        else
          ({ report with attached := report.attached ++ [device.serial] },
            host.log ⟨.supervisor, .info,
              s!"{device.serial}: device attached as {(v.names.nameFor device.serial).1}"⟩ s')) := by
  simp only [launchOne, h]
  split <;> rfl

lemma launchOne_error {v : Supervisor ι} {report : ScanReport} {reason : String}
    (h : host.launch device (v.names.nameFor device.serial).1 s = (.error reason, s')) :
    launchOne host stopped v report device s =
      (⟨(v.names.nameFor device.serial).2, v.sessions⟩,
        { report with failed := report.failed ++ [device.serial] },
        host.log ⟨.supervisor, .warn,
          s!"{device.serial}: failed to start bridge, retrying next scan: {reason}"⟩ s') := by
  simp only [launchOne, h]

variable (v : Supervisor (Nat × ι)) (report : ScanReport) (r : Ledger σ)

lemma launchOne_recorded :
    launchOne host stopped v.forget report device r.state =
      ((launchOne host.recorded stopped v report device r).1.forget,
        (launchOne host.recorded stopped v report device r).2.1,
        (launchOne host.recorded stopped v report device r).2.2.state) := by
  have hnames : v.forget.names = v.names := rfl
  cases hlaunch : host.launch device (v.names.nameFor device.serial).1 r.state with
  | mk got s =>
    cases got with
    | ok session =>
      rw [launchOne_ok (hnames ▸ hlaunch), launchOne_ok (SessionHost.launch_recorded_ok hlaunch)]
      split <;> simp [forget, bare, SessionHost.recorded]
    | error reason =>
      rw [launchOne_error (hnames ▸ hlaunch),
        launchOne_error (SessionHost.launch_recorded_error hlaunch)]
      rfl

variable (host stopped) in
lemma launchAll_recorded (devices : List DeviceInfo) (seen : List String) :
    launchAll host stopped devices seen v.forget report r.state =
      ((launchAll host.recorded stopped devices seen v report r).1.forget,
        (launchAll host.recorded stopped devices seen v report r).2.1,
        (launchAll host.recorded stopped devices seen v report r).2.2.state) := by
  induction devices generalizing seen v report r with
  | nil => rfl
  | cons device devices ih =>
    simp only [launchAll, serials_forget]
    split
    · exact ih ..
    · rw [launchOne_recorded]
      exact ih ..

end Launches

/-! ### The passes of a scan -/

section Passes

variable (v : Supervisor ι) (devices : List DeviceInfo)

/-- The sessions of devices that are gone. -/
def gone : List (String × ι) :=
  v.sessions.filter fun entry => !(devices.map DeviceInfo.serial).contains entry.1

/-- The sessions of devices that are there. -/
def kept : List (String × ι) :=
  v.sessions.filter fun entry => (devices.map DeviceInfo.serial).contains entry.1

/-- The host when a scan asks which sessions have stopped: those of devices that are gone have been joined
by then. -/
def whenAsked (s : σ) : σ := detachAll host (v.gone devices) s

/-- The sessions that stopped while their device was there. -/
def stopped (s : σ) : List (String × ι) :=
  (v.kept devices).filter fun entry => host.isFinished entry.2 (v.whenAsked host devices s)

def running (s : σ) : List (String × ι) :=
  (v.kept devices).filter fun entry => !host.isFinished entry.2 (v.whenAsked host devices s)

/-- A scan joins what is gone or has stopped, launches what is missing, and counts. -/
lemma reconcile_eq (s : σ) :
    v.reconcile host devices s =
      let (next, report, s') := launchAll host ((v.stopped host devices s).map Prod.fst) devices []
        { v with sessions := v.running host devices s }
        { detached := (v.gone devices).map Prod.fst }
        (joinAll host (v.stopped host devices s) (v.whenAsked host devices s))
      (report, next,
        host.log ⟨.supervisor, .debug, s!"Scan complete: {next.sessions.length} active bridge(s)"⟩
          (host.setDeviceCount (UInt64.ofNat next.sessions.length) s')) := by
  simp only [reconcile, List.partition_eq_filter_filter]
  rfl

end Passes

section

variable (v : Supervisor (Nat × ι)) (devices : List DeviceInfo) (r : Ledger σ)

lemma gone_forget : v.forget.gone devices = (v.gone devices).map bare := by
  rw [gone, forget, List.filter_map]
  rfl

lemma kept_forget : v.forget.kept devices = (v.kept devices).map bare := by
  rw [kept, forget, List.filter_map]
  rfl

lemma whenAsked_recorded : v.forget.whenAsked host devices r.state =
    (v.whenAsked host.recorded devices r).state := by
  rw [whenAsked, whenAsked, detachAll_recorded, gone_forget]

lemma stopped_recorded : v.forget.stopped host devices r.state =
    (v.stopped host.recorded devices r).map bare := by
  simp [stopped, kept_forget, whenAsked_recorded, List.filter_map, Function.comp_def, bare,
    SessionHost.recorded]

lemma running_recorded : v.forget.running host devices r.state =
    (v.running host.recorded devices r).map bare := by
  simp [running, kept_forget, whenAsked_recorded, List.filter_map, Function.comp_def, bare,
    SessionHost.recorded]

/-- A supervisor does over a ledger what it does over the bare host. -/
theorem reconcile_recorded :
    v.forget.reconcile host devices r.state =
      ((v.reconcile host.recorded devices r).1, (v.reconcile host.recorded devices r).2.1.forget,
        (v.reconcile host.recorded devices r).2.2.state) := by
  have hserials : ((v.stopped host.recorded devices r).map bare).map Prod.fst =
      (v.stopped host.recorded devices r).map Prod.fst := by
    rw [List.map_map]
    rfl
  have hgone : ((v.gone devices).map bare).map Prod.fst = (v.gone devices).map Prod.fst := by
    rw [List.map_map]
    rfl
  have hjoined : joinAll host (v.forget.stopped host devices r.state)
      (v.forget.whenAsked host devices r.state) =
        (joinAll host.recorded (v.stopped host.recorded devices r)
          (v.whenAsked host.recorded devices r)).state := by
    rw [joinAll_recorded, stopped_recorded, whenAsked_recorded]
  have hlaunches := launchAll_recorded host ((v.stopped host.recorded devices r).map Prod.fst)
    { v with sessions := v.running host.recorded devices r }
    { detached := (v.gone devices).map Prod.fst }
    (joinAll host.recorded (v.stopped host.recorded devices r) (v.whenAsked host.recorded devices r))
    devices []
  rw [reconcile_eq, reconcile_eq, hjoined, stopped_recorded, running_recorded, gone_forget, hserials,
    hgone]
  simp only [forget] at hlaunches ⊢
  rw [hlaunches]
  simp [SessionHost.recorded]

theorem scan_recorded :
    v.forget.scan host r.state =
      ((v.scan host.recorded r).1, (v.scan host.recorded r).2.1.forget,
        (v.scan host.recorded r).2.2.state) := by
  cases hdevices : host.devices r.state with
  | mk got s =>
    have hrecorded : host.recorded.devices r = (got, { r with state := s }) := by
      simp only [SessionHost.recorded, hdevices]
    cases got with
    | error e => simp only [scan, hdevices, hrecorded]
    | ok devices =>
      have h := reconcile_recorded host v devices { r with state := s }
      simp only [scan, hdevices, hrecorded, h]

end

end Supervisor

end NcmBridge
