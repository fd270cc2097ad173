import NcmBridge.Proofs.Supervisor.Custody

/-!
# Every session is registered or was joined

A scan leaves exactly the devices registered that are there and could be launched. It gives back the
sessions of devices that are gone and those that stopped, and leaves all others alone. So over every
history of scans, and at its end, each session that was ever launched is registered or was joined once.
-/

namespace NcmBridge

variable {σ ι : Type}

/-! ### One scan -/

/-- What a scan does when `devices` are there: `v` and `r` stand before it, `v'` and `r'` after it. -/
structure Scanned (host : SessionHost σ ι) (v : Supervisor (Nat × ι)) (devices : List DeviceInfo)
    (r : Ledger σ) (report : ScanReport) (v' : Supervisor (Nat × ι)) (r' : Ledger σ) : Prop where
  /-- Every device that is there has a session, but for those whose launch failed. -/
  registered : ∀ serial, serial ∈ v'.serials ↔
    serial ∈ devices.map DeviceInfo.serial ∧ serial ∉ report.failed
  serials_nodup : v'.serials.Nodup
  gauge : r'.deviceCount = UInt64.ofNat v'.sessions.length
  detached_nodup : report.detached.Nodup
  detached : ∀ serial, serial ∈ report.detached ↔
    serial ∈ v.serials ∧ serial ∉ devices.map DeviceInfo.serial
  /-- No serial is attached, relaunched or failed twice, or in two of these ways. -/
  tried_nodup : (report.attached ++ report.relaunched ++ report.failed).Nodup
  /-- A launch is tried for the devices without a session that goes on. -/
  tried : ∀ serial, serial ∈ report.attached ++ report.relaunched ++ report.failed ↔
    serial ∈ devices.map DeviceInfo.serial ∧ ∀ session, (serial, session) ∈ v.sessions →
      host.recorded.isFinished session (v.whenAsked host.recorded devices r) = true
  attached : ∀ serial ∈ report.attached, serial ∉ v.serials
  relaunched : ∀ serial ∈ report.relaunched, serial ∈ v.serials
  /-- The ledger bears the report out. What is attached or relaunched was launched in this scan and is
  registered, and what failed was refused in this scan, in the order in which the launches were tried. -/
  entered : ∃ new, r'.events = r.events ++ new ∧
    report.attached = (new.filterMap SessionEvent.launched?).filter (· ∉ v.serials) ∧
    report.relaunched = (new.filterMap SessionEvent.launched?).filter (· ∈ v.serials) ∧
    report.failed = new.filterMap SessionEvent.refused? ∧ Registers v' new
  /-- A session that goes on is left alone. -/
  keeps : ∀ entry ∈ v.sessions, entry.1 ∈ devices.map DeviceInfo.serial →
    host.recorded.isFinished entry.2 (v.whenAsked host.recorded devices r) = false →
      entry ∈ v'.sessions ∧ life entry.2.1 r'.events = life entry.2.1 r.events
  /-- The session of a device that is gone is closed once and joined after that. -/
  detaches : ∀ entry ∈ v.sessions, entry.1 ∉ devices.map DeviceInfo.serial →
    life entry.2.1 r'.events =
      [.launched entry.1 entry.2.1, .closed entry.2.1, .joined entry.2.1]
  /-- A session that stopped is joined without being closed. -/
  joins : ∀ entry ∈ v.sessions, entry.1 ∈ devices.map DeviceInfo.serial →
    host.recorded.isFinished entry.2 (v.whenAsked host.recorded devices r) = true →
      life entry.2.1 r'.events = [.launched entry.1 entry.2.1, .joined entry.2.1]
  /-- A scan changes nothing when each device that is there has a session that goes on, and no other
  device has one; so does a second scan with the devices of the first. -/
  idle : (∀ serial, serial ∈ v.serials ↔ serial ∈ devices.map DeviceInfo.serial) →
    (∀ entry ∈ v.sessions,
      host.recorded.isFinished entry.2 (v.whenAsked host.recorded devices r) = false) →
      report = {} ∧ v' = v ∧ r'.events = r.events

namespace Supervisor

variable {host : SessionHost σ ι} {v : Supervisor (Nat × ι)} {devices : List DeviceInfo} {r : Ledger σ}

section Passes

variable {entry : String × Nat × ι}

lemma mem_gone {κ : Type} {v : Supervisor κ} {entry : String × κ} : entry ∈ v.gone devices ↔
    entry ∈ v.sessions ∧ entry.1 ∉ devices.map DeviceInfo.serial := by
  rw [gone, List.mem_filter, Bool.not_eq_true', ← Bool.not_eq_true, List.contains_iff_mem]

lemma mem_stopped : entry ∈ v.stopped host.recorded devices r ↔
    (entry ∈ v.sessions ∧ entry.1 ∈ devices.map DeviceInfo.serial) ∧
      host.recorded.isFinished entry.2 (v.whenAsked host.recorded devices r) = true := by
  rw [stopped, List.mem_filter, kept, List.mem_filter, List.contains_iff_mem]

lemma mem_running : entry ∈ v.running host.recorded devices r ↔
    (entry ∈ v.sessions ∧ entry.1 ∈ devices.map DeviceInfo.serial) ∧
      host.recorded.isFinished entry.2 (v.whenAsked host.recorded devices r) = false := by
  rw [running, List.mem_filter, kept, List.mem_filter, List.contains_iff_mem, Bool.not_eq_true']

/-- Each session is of a device that is gone, or has stopped, or goes on. -/
lemma perm_passes : v.sessions.Perm
    (v.gone devices ++ (v.stopped host.recorded devices r ++ v.running host.recorded devices r)) := by
  have hkept := List.filter_append_perm
    (fun entry => host.recorded.isFinished entry.2 (v.whenAsked host.recorded devices r))
    (v.kept devices)
  have hall := List.filter_append_perm
    (fun entry : String × Nat × ι => (devices.map DeviceInfo.serial).contains entry.1) v.sessions
  exact hall.symm.trans (List.perm_append_comm.trans (hkept.symm.append_left _))

variable (host devices) in
lemma joined_events :
    (joinAll host.recorded (v.stopped host.recorded devices r)
        (v.whenAsked host.recorded devices r)).events =
      r.events ++ ((numbers (v.gone devices)).flatMap (farewell true) ++
        (numbers (v.stopped host.recorded devices r)).flatMap (farewell false)) := by
  rw [joinAll_recorded, whenAsked, detachAll_recorded, List.append_assoc]

variable (host devices) in
lemma joined_launches :
    (joinAll host.recorded (v.stopped host.recorded devices r)
      (v.whenAsked host.recorded devices r)).launches = r.launches := by
  rw [joinAll_recorded, whenAsked, detachAll_recorded]

variable (host devices) in
lemma holds_running (h : Holds v.sessions r) :
    Holds (v.running host.recorded devices r)
      (joinAll host.recorded (v.stopped host.recorded devices r)
        (v.whenAsked host.recorded devices r)) := by
  have hdetached : Holds (v.stopped host.recorded devices r ++ v.running host.recorded devices r)
      (v.whenAsked host.recorded devices r) := by
    refine (h.perm perm_passes).retire_each true ?_ ?_
    all_goals rw [whenAsked, detachAll_recorded]
  refine hdetached.retire_each false ?_ ?_
  all_goals rw [joinAll_recorded]

/-- No two sessions have one number, so a number tells in which pass its session is. -/
lemma mem_numbers_iff {sessions pass : List (String × Nat × ι)} (hnodup : (numbers sessions).Nodup)
    (hpass : ∀ e ∈ pass, e ∈ sessions) (hentry : entry ∈ sessions) :
    entry.2.1 ∈ numbers pass ↔ entry ∈ pass := by
  constructor
  · intro hmem
    obtain ⟨other, hother, heq⟩ := List.mem_map.1 hmem
    rwa [List.inj_on_of_nodup_map hnodup hentry (hpass other hother) heq.symm]
  · exact fun hmem => List.mem_map_of_mem hmem

lemma mem_numbers_gone (hnodup : (numbers v.sessions).Nodup) (hentry : entry ∈ v.sessions) :
    entry.2.1 ∈ numbers (v.gone devices) ↔ entry.1 ∉ devices.map DeviceInfo.serial := by
  rw [mem_numbers_iff hnodup (fun e he => (mem_gone.1 he).1) hentry, mem_gone]
  exact and_iff_right hentry

lemma mem_numbers_stopped (hnodup : (numbers v.sessions).Nodup) (hentry : entry ∈ v.sessions) :
    entry.2.1 ∈ numbers (v.stopped host.recorded devices r) ↔
      entry.1 ∈ devices.map DeviceInfo.serial ∧
        host.recorded.isFinished entry.2 (v.whenAsked host.recorded devices r) = true := by
  rw [mem_numbers_iff hnodup (fun e he => (mem_stopped.1 he).1.1) hentry, mem_stopped, and_assoc]
  exact and_iff_right hentry

lemma mem_gone_serials {serial : String} : serial ∈ (v.gone devices).map Prod.fst ↔
    serial ∈ v.serials ∧ serial ∉ devices.map DeviceInfo.serial := by
  rw [List.mem_map]
  constructor
  · rintro ⟨entry, hentry, rfl⟩
    obtain ⟨hmem, habsent⟩ := mem_gone.1 hentry
    exact ⟨List.mem_map_of_mem hmem, habsent⟩
  · rintro ⟨hmem, habsent⟩
    obtain ⟨entry, hentry, rfl⟩ := List.mem_map.1 hmem
    exact ⟨entry, mem_gone.2 ⟨hentry, habsent⟩, rfl⟩

variable (host devices) in
lemma life_joined (h : Holds v.sessions r) (hentry : entry ∈ v.sessions) :
    life entry.2.1 (joinAll host.recorded (v.stopped host.recorded devices r)
        (v.whenAsked host.recorded devices r)).events =
      .launched entry.1 entry.2.1 ::
        ((if entry.2.1 ∈ numbers (v.gone devices) then farewell true entry.2.1 else []) ++
          if entry.2.1 ∈ numbers (v.stopped host.recorded devices r) then farewell false entry.2.1
          else []) := by
  have hnodup : (numbers (v.gone devices ++
      (v.stopped host.recorded devices r ++ v.running host.recorded devices r))).Nodup :=
    (h.perm perm_passes).numbers
  rw [numbers, List.map_append, List.map_append] at hnodup
  have hgone := life_flatMap (fun id e (he : e ∈ farewell true id) => (farewell_about he).1)
    hnodup.of_append_left entry.2.1
  have hstopped := life_flatMap (fun id e (he : e ∈ farewell false id) => (farewell_about he).1)
    hnodup.of_append_right.of_append_left entry.2.1
  -- each pass writes about a session only if it joins it
  rw [joined_events, life_append, life_append, h.alive entry hentry, List.singleton_append]
  exact congrArg _ (congrArg₂ _ hgone hstopped)

lemma stopped_or_running (hentry : entry ∈ v.sessions)
    (hpresent : entry.1 ∈ devices.map DeviceInfo.serial) :
    entry ∈ v.stopped host.recorded devices r ∨ entry ∈ v.running host.recorded devices r := by
  rw [mem_stopped, mem_running]
  cases host.recorded.isFinished entry.2 (v.whenAsked host.recorded devices r) with
  | true => exact .inl ⟨⟨hentry, hpresent⟩, rfl⟩
  | false => exact .inr ⟨⟨hentry, hpresent⟩, rfl⟩

end Passes

/-- A scan that has tried its launches. -/
def Relaunched (host : SessionHost σ ι) (v : Supervisor (Nat × ι)) (devices : List DeviceInfo)
    (r : Ledger σ) (report : ScanReport) (v' : Supervisor (Nat × ι)) (r' : Ledger σ) : Prop :=
  Launching (v.running host.recorded devices r) ((v.stopped host.recorded devices r).map Prod.fst)
    (joinAll host.recorded (v.stopped host.recorded devices r) (v.whenAsked host.recorded devices r))
    ((devices.map DeviceInfo.serial).reverse ++ []) v' report r'

namespace Relaunched

variable {report : ScanReport} {v' : Supervisor (Nat × ι)} {r' : Ledger σ} {serial : String}
  {entry : String × Nat × ι}

lemma mem_tried (h : Relaunched host v devices r report v' r') : serial ∈ report.tried ↔
    serial ∈ devices.map DeviceInfo.serial ∧
      serial ∉ (v.running host.recorded devices r).map Prod.fst := by
  rw [h.tried, List.append_nil, List.mem_reverse]

lemma mem_serials (h : Relaunched host v devices r report v' r') : serial ∈ v'.serials ↔
    serial ∈ devices.map DeviceInfo.serial ∧ serial ∉ report.failed := by
  have hnodup := h.nodup
  rw [ScanReport.tried, List.nodup_append] at hnodup
  rw [h.registered]
  constructor
  · rintro (hrunning | hlaunched)
    · obtain ⟨entry, hentry, rfl⟩ := List.mem_map.1 hrunning
      refine ⟨(mem_running.1 hentry).1.2, ?_⟩
      -- no launch is tried for a session that goes on, so none fails
      intro hfailed
      exact (h.mem_tried.1 (List.mem_append_right _ hfailed)).2 hrunning
    · have hmem : serial ∈ report.attached ++ report.relaunched := List.mem_append.2 hlaunched
      exact ⟨(h.mem_tried.1 (List.mem_append_left _ hmem)).1,
        fun hfailed => hnodup.2.2 serial hmem serial hfailed rfl⟩
  · rintro ⟨hpresent, hnot⟩
    by_cases hrunning : serial ∈ (v.running host.recorded devices r).map Prod.fst
    · exact .inl hrunning
    · have htried := h.mem_tried.2 ⟨hpresent, hrunning⟩
      exact .inr (List.mem_append.1 ((List.mem_append.1 htried).resolve_right hnot))

lemma mem_tried_iff (h : Relaunched host v devices r report v' r') : serial ∈ report.tried ↔
    serial ∈ devices.map DeviceInfo.serial ∧ ∀ session, (serial, session) ∈ v.sessions →
      host.recorded.isFinished session (v.whenAsked host.recorded devices r) = true := by
  rw [h.mem_tried]
  refine and_congr_right fun hpresent => ?_
  constructor
  · intro hnot session hsession
    by_contra hgoes
    rw [Bool.not_eq_true] at hgoes
    exact hnot (List.mem_map.2 ⟨_, mem_running.2 ⟨⟨hsession, hpresent⟩, hgoes⟩, rfl⟩)
  · intro hstopped hmem
    obtain ⟨⟨_, session⟩, hentry, rfl⟩ := List.mem_map.1 hmem
    obtain ⟨⟨hsession, -⟩, hgoes⟩ := mem_running.1 hentry
    rw [hstopped session hsession] at hgoes
    cases hgoes

/-- A serial for which a launch was tried had a session before the scan just when that one stopped. -/
lemma mem_stopped_iff (h : Relaunched host v devices r report v' r') (hserial : serial ∈ report.tried) :
    serial ∈ (v.stopped host.recorded devices r).map Prod.fst ↔ serial ∈ v.serials := by
  obtain ⟨hpresent, hnot⟩ := h.mem_tried.1 hserial
  constructor
  · intro hmem
    obtain ⟨entry, hentry, rfl⟩ := List.mem_map.1 hmem
    exact List.mem_map_of_mem (mem_stopped.1 hentry).1.1
  · intro hmem
    obtain ⟨entry, hentry, rfl⟩ := List.mem_map.1 hmem
    rcases stopped_or_running hentry hpresent with hstopped | hrunning
    · exact List.mem_map_of_mem hstopped
    · exact absurd (List.mem_map_of_mem hrunning) hnot

/-- The passes before the launches try none, so the report lists what the whole scan entered. -/
lemma entered (h : Relaunched host v devices r report v' r') : ∃ new, r'.events = r.events ++ new ∧
    report.attached = (new.filterMap SessionEvent.launched?).filter (· ∉ v.serials) ∧
    report.relaunched = (new.filterMap SessionEvent.launched?).filter (· ∈ v.serials) ∧
    report.failed = new.filterMap SessionEvent.refused? ∧ Registers v' new := by
  obtain ⟨new, hevents, hlists, hregisters⟩ := Launching.entered h
  set farewells := (numbers (v.gone devices)).flatMap (farewell true) ++
    (numbers (v.stopped host.recorded devices r)).flatMap (farewell false)
  have hquiet : ∀ e ∈ farewells, e.attempt? = none := by
    intro e he
    rcases List.mem_append.1 he with he | he
    · exact attempt?_of_mem_farewells he
    · exact attempt?_of_mem_farewells he
  have hlisted : report.Lists v.serials (farewells ++ new) :=
    (hlists.prepend hquiet).congr fun serial => h.mem_stopped_iff
  refine ⟨farewells ++ new, ?_, hlisted.attached, hlisted.relaunched, hlisted.failed, ?_⟩
  · rw [hevents, joined_events, List.append_assoc]
  · intro serial id hid
    refine hregisters serial id ((List.mem_append.1 hid).resolve_left fun hmem => ?_)
    cases hquiet _ hmem

/-- The launches leave the lives of the sessions before them alone. -/
lemma life_eq (h : Relaunched host v devices r report v' r') (hholds : Holds v.sessions r)
    (hentry : entry ∈ v.sessions) :
    life entry.2.1 r'.events = .launched entry.1 entry.2.1 ::
      ((if entry.2.1 ∈ numbers (v.gone devices) then farewell true entry.2.1 else []) ++
        if entry.2.1 ∈ numbers (v.stopped host.recorded devices r) then farewell false entry.2.1
        else []) := by
  rw [← life_joined host devices hholds hentry]
  refine h.undisturbed _ ?_
  rw [joined_launches]
  exact hholds.lt_launches (List.mem_map_of_mem hentry)

end Relaunched

/-- What a scan does, read off the launches after its passes. -/
lemma scanned_of_relaunched {report : ScanReport} {v' : Supervisor (Nat × ι)} {r' : Ledger σ}
    (hholds : Holds v.sessions r) (h : Relaunched host v devices r report v' r')
    (hdetached : report.detached = (v.gone devices).map Prod.fst)
    (hgauge : r'.deviceCount = UInt64.ofNat v'.sessions.length)
    (hidle : (∀ serial, serial ∈ v.serials ↔ serial ∈ devices.map DeviceInfo.serial) →
      (∀ entry ∈ v.sessions,
        host.recorded.isFinished entry.2 (v.whenAsked host.recorded devices r) = false) →
        report = {} ∧ v' = v ∧ r'.events = r.events) :
    Scanned host v devices r report v' r' := by
  have hgone : ∀ entry ∈ v.sessions,
      (entry.2.1 ∈ numbers (v.gone devices) ↔ entry.1 ∉ devices.map DeviceInfo.serial) :=
    fun entry => mem_numbers_gone hholds.numbers
  have hstopped : ∀ entry ∈ v.sessions, (entry.2.1 ∈ numbers (v.stopped host.recorded devices r) ↔
      entry.1 ∈ devices.map DeviceInfo.serial ∧
        host.recorded.isFinished entry.2 (v.whenAsked host.recorded devices r) = true) :=
    fun entry => mem_numbers_stopped hholds.numbers
  refine
    { registered := fun serial => h.mem_serials
      serials_nodup := h.holds.serials
      gauge := hgauge
      detached_nodup := ?_
      detached := ?_
      tried_nodup := h.nodup
      tried := fun serial => h.mem_tried_iff
      attached := ?_
      relaunched := ?_
      entered := h.entered
      keeps := ?_
      detaches := ?_
      joins := ?_
      idle := hidle }
  · have hperm : v.sessions.Perm (v.gone devices ++
        (v.stopped host.recorded devices r ++ v.running host.recorded devices r)) := perm_passes
    have hserials := (hholds.perm hperm).serials
    rw [List.map_append] at hserials
    rw [hdetached]
    exact hserials.of_append_left
  · intro serial
    rw [hdetached]
    exact mem_gone_serials
  · intro serial hserial
    obtain ⟨new, -, hattached, -⟩ := h.entered
    rw [hattached, List.mem_filter, decide_eq_true_eq] at hserial
    exact hserial.2
  · intro serial hserial
    obtain ⟨new, -, -, hrelaunched, -⟩ := h.entered
    rw [hrelaunched, List.mem_filter, decide_eq_true_eq] at hserial
    exact hserial.2
  · intro entry hentry hpresent hgoes
    refine ⟨h.kept.subset (mem_running.2 ⟨⟨hentry, hpresent⟩, hgoes⟩), ?_⟩
    rw [h.life_eq hholds hentry, hholds.alive entry hentry,
      if_neg (mt (hgone entry hentry).1 (not_not_intro hpresent)),
      if_neg (mt (hstopped entry hentry).1 (by simp [hgoes])), List.append_nil]
  · intro entry hentry habsent
    rw [h.life_eq hholds hentry, if_pos ((hgone entry hentry).2 habsent),
      if_neg (mt (hstopped entry hentry).1 fun hand => habsent hand.1)]
    rfl
  · intro entry hentry hpresent hstops
    rw [h.life_eq hholds hentry, if_neg (mt (hgone entry hentry).1 (not_not_intro hpresent)),
      if_pos ((hstopped entry hentry).2 ⟨hpresent, hstops⟩)]
    rfl

/-- When each device that is there has a session, no launch is tried. -/
lemma launchAll_of_mem {κ : Type} (host : SessionHost σ κ) (stopped : List String)
    {v : Supervisor κ} {devices : List DeviceInfo}
    (h : ∀ device ∈ devices, device.serial ∈ v.serials) (seen : List String) (report : ScanReport)
    (s : σ) : launchAll host stopped devices seen v report s = (v, report, s) := by
  induction devices generalizing seen with
  | nil => rfl
  | cons device devices ih =>
    rw [List.forall_mem_cons] at h
    rw [launchAll, if_pos]
    · exact ih h.2 _
    · simp [h.1]

lemma launchOne_detached {κ : Type} (host : SessionHost σ κ) (stopped : List String)
    (v : Supervisor κ) (report : ScanReport) (device : DeviceInfo) (s : σ) :
    (launchOne host stopped v report device s).2.1.detached = report.detached := by
  cases hlaunch : host.launch device (v.names.nameFor device.serial).1 s with
  | mk got s' =>
    cases got with
    | ok session =>
      rw [launchOne_ok hlaunch]
      split <;> rfl
    | error reason => rw [launchOne_error hlaunch]

lemma launchAll_detached {κ : Type} (host : SessionHost σ κ) (stopped : List String)
    (devices : List DeviceInfo) (seen : List String) (v : Supervisor κ) (report : ScanReport) (s : σ) :
    (launchAll host stopped devices seen v report s).2.1.detached = report.detached := by
  induction devices generalizing seen v report s with
  | nil => rfl
  | cons device devices ih =>
    rw [launchAll]
    split
    · exact ih ..
    · exact (ih ..).trans (launchOne_detached ..)

variable (host v devices r) in
/-- A scan that finds each device with a session that goes on, and no session without a device. -/
lemma reconcile_idle (hpresent : ∀ serial, serial ∈ v.serials ↔ serial ∈ devices.map DeviceInfo.serial)
    (hgoes : ∀ entry ∈ v.sessions,
      host.recorded.isFinished entry.2 (v.whenAsked host.recorded devices r) = false) :
    (v.reconcile host.recorded devices r).1 = {} ∧ (v.reconcile host.recorded devices r).2.1 = v ∧
      (v.reconcile host.recorded devices r).2.2.events = r.events := by
  have hgone : v.gone devices = [] := by
    rw [List.eq_nil_iff_forall_not_mem]
    intro entry hentry
    obtain ⟨hmem, habsent⟩ := mem_gone.1 hentry
    exact habsent ((hpresent _).1 (List.mem_map_of_mem hmem))
  have hstopped : v.stopped host.recorded devices r = [] := by
    rw [List.eq_nil_iff_forall_not_mem]
    intro entry hentry
    obtain ⟨⟨hmem, -⟩, hstops⟩ := mem_stopped.1 hentry
    rw [hgoes entry hmem] at hstops
    cases hstops
  have hrunning : v.running host.recorded devices r = v.sessions := by
    rw [running, kept, List.filter_filter, List.filter_eq_self]
    intro entry hentry
    rw [hgoes entry hentry, List.contains_iff_mem.2 ((hpresent _).1 (List.mem_map_of_mem hentry))]
    rfl
  have hdevices : ∀ device ∈ devices, device.serial ∈ v.serials :=
    fun device hdevice => (hpresent _).2 (List.mem_map_of_mem hdevice)
  rw [reconcile_eq, hgone, hstopped, hrunning, whenAsked, hgone,
    launchAll_of_mem host.recorded _ hdevices]
  exact ⟨rfl, rfl, rfl⟩

/-- A scan reports what it does, and holds the sessions that it leaves in place. -/
lemma scanned_reconcile (host : SessionHost σ ι) (devices : List DeviceInfo) (h : Holds v.sessions r) :
    Scanned host v devices r (v.reconcile host.recorded devices r).1
        (v.reconcile host.recorded devices r).2.1 (v.reconcile host.recorded devices r).2.2 ∧
      Holds (v.reconcile host.recorded devices r).2.1.sessions
        (v.reconcile host.recorded devices r).2.2 := by
  have hstart : Launching (v.running host.recorded devices r)
      ((v.stopped host.recorded devices r).map Prod.fst)
      (joinAll host.recorded (v.stopped host.recorded devices r)
        (v.whenAsked host.recorded devices r))
      [] { v with sessions := v.running host.recorded devices r }
      { detached := (v.gone devices).map Prod.fst }
      (joinAll host.recorded (v.stopped host.recorded devices r)
        (v.whenAsked host.recorded devices r)) := by
    refine ⟨holds_running host devices h, List.prefix_rfl, .nil, ?_, ?_, ?_, Nat.le_refl _,
      fun _ _ => rfl⟩
    · simp [ScanReport.tried]
    · simp [serials]
    · exact ⟨[], (List.append_nil _).symm, ⟨rfl, rfl, rfl⟩, by simp [Registers]⟩
  have hidle := reconcile_idle host v devices r
  have hlaunched := hstart.launchAll host devices
  have hdetached := launchAll_detached host.recorded ((v.stopped host.recorded devices r).map Prod.fst)
    devices [] { v with sessions := v.running host.recorded devices r }
    { detached := (v.gone devices).map Prod.fst }
    (joinAll host.recorded (v.stopped host.recorded devices r) (v.whenAsked host.recorded devices r))
  rw [reconcile_eq] at hidle ⊢
  generalize launchAll host.recorded _ devices [] _ _ _ = launches at hidle hlaunched hdetached ⊢
  obtain ⟨v', report, r'⟩ := launches
  dsimp only at hidle hlaunched hdetached ⊢
  exact ⟨scanned_of_relaunched h (hlaunched.congr rfl rfl) hdetached rfl hidle,
    hlaunched.holds.congr rfl rfl⟩

end Supervisor

/-! ### Histories -/

/-- What holds of a supervisor and the ledger of its host. -/
structure Accounted (host : SessionHost σ ι) (v : Supervisor (Nat × ι)) (r : Ledger σ) : Prop where
  serials_nodup : v.serials.Nodup
  gauge : r.deviceCount = UInt64.ofNat v.sessions.length
  /-- A session that was launched is registered, and neither closed nor joined, or it is not registered
  any more and has been joined once. -/
  kept_or_joined : ∀ serial id, .launched serial id ∈ r.events →
    ((∃ session, (serial, id, session) ∈ v.sessions) ∧ life id r.events = [.launched serial id]) ∨
      ((∀ entry ∈ v.sessions, entry.2.1 ≠ id) ∧
        (life id r.events = [.launched serial id, .joined id] ∨
          life id r.events = [.launched serial id, .closed id, .joined id]))
  one_at_a_time : OneAtATime r.events
  /-- A scan that cannot list the devices changes nothing. -/
  scan_error : ∀ e, (host.devices r.state).1 = .error e →
    v.scan host.recorded r = (.error e, v, { r with state := (host.devices r.state).2 })
  scan_ok : ∀ devices, (host.devices r.state).1 = .ok devices → ∃ report v' r',
    v.scan host.recorded r = (.ok report, v', r') ∧
      Scanned host v devices { r with state := (host.devices r.state).2 } report v' r'
  /-- At the end every registered session is closed once and then joined, and none is left. -/
  shutdown : ∃ v' r', v.shutdown host.recorded r = (v', r') ∧ v'.sessions = [] ∧ r'.deviceCount = 0 ∧
    OneAtATime r'.events ∧
    (∀ entry ∈ v.sessions, life entry.2.1 r'.events =
      [.launched entry.1 entry.2.1, .closed entry.2.1, .joined entry.2.1]) ∧
    ∀ serial id, .launched serial id ∈ r'.events →
      life id r'.events = [.launched serial id, .joined id] ∨
        life id r'.events = [.launched serial id, .closed id, .joined id]
  /-- The bare host sees the same scan, and the same end. -/
  scan_bare : v.forget.scan host r.state =
    ((v.scan host.recorded r).1, (v.scan host.recorded r).2.1.forget,
      (v.scan host.recorded r).2.2.state)
  shutdown_bare : v.forget.shutdown host r.state =
    ((v.shutdown host.recorded r).1.forget, (v.shutdown host.recorded r).2.state)

namespace Holds

variable {held : List (String × Nat × ι)} {r : Ledger σ}

/-- A session that was launched is held or has been joined. -/
lemma kept_or_joined (h : Holds held r) {serial : String} {id : Nat}
    (hid : .launched serial id ∈ r.events) :
    ((∃ session, (serial, id, session) ∈ held) ∧ life id r.events = [.launched serial id]) ∨
      ((∀ entry ∈ held, entry.2.1 ≠ id) ∧
        (life id r.events = [.launched serial id, .joined id] ∨
          life id r.events = [.launched serial id, .closed id, .joined id])) := by
  have hlife : .launched serial id ∈ life id r.events := mem_life.2 ⟨hid, rfl⟩
  by_cases hmem : id ∈ Supervisor.numbers held
  · obtain ⟨⟨serial', id, session⟩, hentry, rfl⟩ := List.mem_map.1 hmem
    have halive := h.alive _ hentry
    rw [halive, List.mem_singleton] at hlife
    cases hlife
    exact .inl ⟨⟨session, hentry⟩, halive⟩
  · have hlt : id < r.launches := by
      by_contra hge
      rw [h.fresh id (Nat.le_of_not_lt hge)] at hlife
      cases hlife
    obtain ⟨serial', closing, hended⟩ := h.ended id hlt hmem
    refine .inr ⟨fun entry hentry heq => hmem (List.mem_map.2 ⟨entry, hentry, heq⟩), ?_⟩
    have hserial : serial = serial' := by
      rw [hended] at hlife
      cases closing <;> simpa [farewell] using hlife
    subst hserial
    rw [hended]
    cases closing with
    | false => exact .inl rfl
    | true => exact .inr rfl

end Holds

namespace Supervisor

/-- A supervisor after scans, between which the host changed as it liked; the last change comes first. -/
def history (host : SessionHost σ ι) (base : String) (s : σ) :
    List (σ → σ) → Supervisor (Nat × ι) × Ledger σ
  | [] => (.ofBase base, ⟨s, 0, [], 0⟩)
  | change :: earlier =>
    let (v, r) := history host base s earlier
    (v.scan host.recorded { r with state := change r.state }).2

variable {host : SessionHost σ ι} {v : Supervisor (Nat × ι)} {r : Ledger σ}

lemma scan_of_error {e : UsbError} (h : (host.devices r.state).1 = .error e) :
    v.scan host.recorded r = (.error e, v, { r with state := (host.devices r.state).2 }) := by
  simp [scan, SessionHost.recorded, h]

lemma scan_of_ok {devices : List DeviceInfo} (h : (host.devices r.state).1 = .ok devices) :
    v.scan host.recorded r =
      let result := v.reconcile host.recorded devices { r with state := (host.devices r.state).2 }
      (.ok result.1, result.2) := by
  simp [scan, SessionHost.recorded, h]

/-- A scan keeps the registry and the ledger together. -/
lemma holds_scan (hholds : Holds v.sessions r) (hgauge : r.deviceCount = UInt64.ofNat v.sessions.length) :
    Holds (v.scan host.recorded r).2.1.sessions (v.scan host.recorded r).2.2 ∧
      (v.scan host.recorded r).2.2.deviceCount =
        UInt64.ofNat (v.scan host.recorded r).2.1.sessions.length := by
  cases hdevices : (host.devices r.state).1 with
  | error e =>
    rw [scan_of_error hdevices]
    exact ⟨hholds.congr rfl rfl, hgauge⟩
  | ok devices =>
    rw [scan_of_ok hdevices]
    obtain ⟨hscanned, hnext⟩ := scanned_reconcile host devices
      (r := { r with state := (host.devices r.state).2 }) (hholds.congr rfl rfl)
    exact ⟨hnext, hscanned.gauge⟩

lemma holds_history (host : SessionHost σ ι) (base : String) (s : σ) (changes : List (σ → σ)) :
    Holds (history host base s changes).1.sessions (history host base s changes).2 ∧
      (history host base s changes).2.deviceCount =
        UInt64.ofNat (history host base s changes).1.sessions.length := by
  induction changes with
  | nil => exact ⟨.start s, rfl⟩
  | cons change earlier ih => exact holds_scan (ih.1.congr rfl rfl) ih.2

/-- The end of a supervisor joins all sessions that it holds. -/
lemma holds_shutdown (host : SessionHost σ ι) (h : Holds v.sessions r) :
    Holds ([] : List (String × Nat × ι)) (v.shutdown host.recorded r).2 ∧
      ∀ entry ∈ v.sessions, life entry.2.1 (v.shutdown host.recorded r).2.events =
        [.launched entry.1 entry.2.1, .closed entry.2.1, .joined entry.2.1] := by
  have hclosed : ∀ id, life id ((numbers v.sessions).flatMap fun id => [.closed id]) =
      if id ∈ numbers v.sessions then [.closed id] else [] :=
    life_flatMap (by simp [SessionEvent.id?]) h.numbers
  have hjoined : ∀ id, life id ((numbers v.sessions).flatMap fun id => [.joined id]) =
      if id ∈ numbers v.sessions then [.joined id] else [] :=
    life_flatMap (by simp [SessionEvent.id?]) h.numbers
  have hlife : ∀ id, life id ((numbers v.sessions).flatMap (fun id => [.closed id]) ++
      (numbers v.sessions).flatMap fun id => [.joined id]) =
        if id ∈ numbers v.sessions then farewell true id else [] := by
    intro id
    rw [life_append, hclosed, hjoined]
    split <;> rfl
  rw [shutdown_recorded]
  constructor
  · have hall : Holds (v.sessions ++ []) r := by rwa [List.append_nil]
    refine hall.retire rfl rfl ?_ ?_ ?_
    · intro e he
      simp only [List.mem_append, List.mem_flatMap, List.mem_singleton] at he
      rcases he with ⟨id, -, rfl⟩ | ⟨id, -, rfl⟩
      · rfl
      · rfl
    · exact fun id hid => ⟨true, (hlife id).trans (if_pos hid)⟩
    · exact fun id hid => (hlife id).trans (if_neg hid)
  · intro entry hentry
    have hmem : entry.2.1 ∈ numbers v.sessions := List.mem_map_of_mem hentry
    rw [life_append, h.alive entry hentry, hlife, if_pos hmem]
    rfl

/-- Every session is accounted for at every point of every history of scans, whatever devices are listed,
which launches fail and which sessions stop, and at its end. -/
theorem history_accounted (host : SessionHost σ ι) (base : String) (s : σ) (changes : List (σ → σ)) :
    Accounted host (history host base s changes).1 (history host base s changes).2 := by
  obtain ⟨hholds, hgauge⟩ := holds_history host base s changes
  generalize history host base s changes = point at hholds hgauge ⊢
  obtain ⟨v, r⟩ := point
  obtain ⟨hend, hclosed⟩ := holds_shutdown host hholds
  refine
    { serials_nodup := hholds.serials
      gauge := hgauge
      kept_or_joined := fun serial id => hholds.kept_or_joined
      one_at_a_time := hholds.ordered
      scan_error := fun e => scan_of_error
      scan_ok := ?_
      shutdown := ?_
      scan_bare := scan_recorded host v r
      shutdown_bare := ?_ }
  · intro devices hdevices
    obtain ⟨hscanned, -⟩ := scanned_reconcile host devices
      (r := { r with state := (host.devices r.state).2 }) (hholds.congr rfl rfl)
    exact ⟨_, _, _, scan_of_ok hdevices, hscanned⟩
  · refine ⟨_, _, rfl, rfl, rfl, hend.ordered, hclosed, ?_⟩
    intro serial id hid
    rcases hend.kept_or_joined hid with ⟨⟨session, hmem⟩, -⟩ | ⟨-, hjoined⟩
    · cases hmem
    · exact hjoined
  · rw [shutdown_recorded]
    rfl

end Supervisor

/-! ### A device that is refused at first -/

/-- What a scan meets: the devices, the serials whose launch fails, and the sessions that have stopped. -/
structure Scene where
  serials : List String := []
  refused : List String := []
  finished : List Nat := []

/-- A host that goes through scenes. -/
structure Stage where
  now : Scene := {}
  later : List Scene
  launches : Nat := 0

namespace Stage

def device (serial : String) : DeviceInfo := ⟨serial, 1, 4, 0x05ac, 0x12a8, 5⟩

def host : SessionHost Stage Nat where
  devices stage :=
    match stage.later with
    | [] => (.ok [], stage)
    | scene :: later => (.ok (scene.serials.map device), { stage with now := scene, later })
  launch device _ stage :=
    if device.serial ∈ stage.now.refused then (.error "resource busy", stage)
    else (.ok stage.launches, { stage with launches := stage.launches + 1 })
  isFinished session stage := session ∈ stage.now.finished
  close _ stage := stage
  join _ stage := stage
  setDeviceCount _ stage := stage
  log _ stage := stage

/-- At first one device is listed twice and the other one is refused. Then the session of the former has
stopped, and no launch fails. -/
def refusedOnce : Stage where
  later := [{ serials := ["A", "B", "A"], refused := ["B"] }, { serials := ["B", "A"], finished := [0] }]

/-- The supervisor and the ledger after the first scan. -/
def onceScanned : Supervisor (Nat × Nat) × Ledger Stage :=
  Supervisor.history host "usb" refusedOnce [id]

end Stage

open Stage in
/-- The scan after a failed launch tries that device again, and launches the one whose session stopped
a second time. -/
theorem refused_device_is_launched_later :
    onceScanned.2.events = [.launched "A" 0, .refused "B"] ∧
    ∃ report v' r', onceScanned.1.scan host.recorded onceScanned.2 = (.ok report, v', r') ∧
      report = { attached := ["B"], relaunched := ["A"] } ∧
      r'.events = onceScanned.2.events ++ [.joined 0, .launched "B" 1, .launched "A" 2] ∧
      ∀ serial, serial ∈ v'.serials ↔ serial ∈ ["B", "A"] := by
  refine ⟨by decide +kernel, ?_⟩
  have haccounted := Supervisor.history_accounted host "usb" refusedOnce [id]
  obtain ⟨report, v', r', hscan, hscanned⟩ := haccounted.scan_ok (["B", "A"].map device) rfl
  have hreport : (onceScanned.1.scan host.recorded onceScanned.2).1 =
      .ok { attached := ["B"], relaunched := ["A"] } := by
    decide +kernel
  have hevents : (onceScanned.1.scan host.recorded onceScanned.2).2.2.events =
      onceScanned.2.events ++ [.joined 0, .launched "B" 1, .launched "A" 2] := by
    decide +kernel
  rw [onceScanned, hscan] at hreport hevents
  cases hreport
  refine ⟨_, v', r', hscan, rfl, hevents, ?_⟩
  intro serial
  simpa [device] using hscanned.registered serial

end NcmBridge
