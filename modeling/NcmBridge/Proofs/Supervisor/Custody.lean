import Mathlib.Data.List.Perm.Basic
import NcmBridge.Proofs.Supervisor.Ledger

/-!
# The sessions that a supervisor holds

Each session that was launched and has not been joined is held, and no two of them are for one serial.
Joining sessions takes them out of the list, launching one for a serial without a session adds it, and
nothing else changes the list. The launches of a scan keep this up from device to device, and what they
report is told apart from what was held before.
-/

namespace NcmBridge

variable {σ ι : Type}

/-! ### Sessions that are held -/

/-- The session was joined, and closed before that or not at all. -/
def Ended (id : Nat) (events : List SessionEvent) : Prop :=
  ∃ serial closing, life id events = .launched serial id :: farewell closing id

/-- A launch is tried only when all sessions launched for that serial before have been joined. -/
def OneAtATime (events : List SessionEvent) : Prop :=
  ∀ before event after serial, events = before ++ event :: after → event.attempt? = some serial →
    ∀ id, .launched serial id ∈ before → .joined id ∈ before

/-- The sessions `held` are those launched that have not been joined. -/
structure Holds (held : List (String × Nat × ι)) (r : Ledger σ) : Prop where
  serials : (held.map Prod.fst).Nodup
  numbers : (Supervisor.numbers held).Nodup
  alive : ∀ entry ∈ held, life entry.2.1 r.events = [.launched entry.1 entry.2.1]
  ended : ∀ id < r.launches, id ∉ Supervisor.numbers held → Ended id r.events
  fresh : ∀ id ≥ r.launches, life id r.events = []
  ordered : OneAtATime r.events

namespace OneAtATime

variable {events new : List SessionEvent} {event : SessionEvent}

lemma nil : OneAtATime [] := by
  intro before event after serial h
  simp at h

lemma append_singleton (h : OneAtATime events)
    (hevent : ∀ serial, event.attempt? = some serial →
      ∀ id, .launched serial id ∈ events → .joined id ∈ events) :
    OneAtATime (events ++ [event]) := by
  intro before event' after serial hsplit hattempt
  rcases List.eq_nil_or_concat after with rfl | ⟨after', last, rfl⟩
  · obtain ⟨rfl, heq⟩ := List.append_inj' hsplit rfl
    cases heq
    exact hevent serial hattempt
  · rw [List.concat_eq_append, ← List.cons_append, ← List.append_assoc] at hsplit
    obtain ⟨hevents, -⟩ := List.append_inj' hsplit rfl
    exact h before event' after' serial hevents hattempt

lemma append (h : OneAtATime events) (hnew : ∀ e ∈ new, e.attempt? = none) :
    OneAtATime (events ++ new) := by
  induction new generalizing events with
  | nil => rwa [List.append_nil]
  | cons e new ih =>
    rw [List.forall_mem_cons] at hnew
    rw [← List.singleton_append, ← List.append_assoc]
    refine ih (h.append_singleton ?_) hnew.2
    intro serial hattempt
    rw [hnew.1] at hattempt
    cases hattempt

end OneAtATime

namespace Holds

variable {held gone : List (String × Nat × ι)} {r r' : Ledger σ} {new : List SessionEvent}

lemma start (s : σ) : Holds ([] : List (String × Nat × ι)) ⟨s, 0, [], 0⟩ := by
  refine ⟨.nil, .nil, by simp, ?_, fun _ _ => rfl, .nil⟩
  intro id hid
  exact absurd hid (Nat.not_lt_zero id)

lemma perm {held' : List (String × Nat × ι)} (h : Holds held r) (hperm : held.Perm held') :
    Holds held' r := by
  have hnumbers : (Supervisor.numbers held).Perm (Supervisor.numbers held') := hperm.map _
  refine ⟨((hperm.map _).nodup_iff).1 h.serials, hnumbers.nodup_iff.1 h.numbers, ?_, ?_, h.fresh,
    h.ordered⟩
  · intro entry hentry
    exact h.alive entry (hperm.mem_iff.2 hentry)
  · intro id hid hnot
    exact h.ended id hid (mt hnumbers.mem_iff.1 hnot)

lemma congr (h : Holds held r) (hlaunches : r'.launches = r.launches)
    (hevents : r'.events = r.events) : Holds held r' :=
  ⟨h.serials, h.numbers, hevents ▸ h.alive, hevents ▸ hlaunches ▸ h.ended,
    hevents ▸ hlaunches ▸ h.fresh, hevents ▸ h.ordered⟩

lemma lt_launches (h : Holds held r) {id : Nat} (hid : id ∈ Supervisor.numbers held) :
    id < r.launches := by
  obtain ⟨entry, hentry, rfl⟩ := List.mem_map.1 hid
  by_contra hge
  have hnone := h.fresh _ (Nat.le_of_not_lt hge)
  rw [h.alive entry hentry] at hnone
  cases hnone

/-- A session that was launched for a serial without a session has been joined. -/
lemma joined_of_launched (h : Holds held r) {serial : String} {id : Nat}
    (hserial : serial ∉ held.map Prod.fst) (hid : .launched serial id ∈ r.events) :
    .joined id ∈ r.events := by
  have hlife : .launched serial id ∈ life id r.events := mem_life.2 ⟨hid, rfl⟩
  have hlt : id < r.launches := by
    by_contra hge
    rw [h.fresh id (Nat.le_of_not_lt hge)] at hlife
    cases hlife
  have hnot : id ∉ Supervisor.numbers held := by
    intro hmem
    obtain ⟨entry, hentry, rfl⟩ := List.mem_map.1 hmem
    rw [h.alive entry hentry, List.mem_singleton] at hlife
    cases hlife
    exact hserial (List.mem_map_of_mem hentry)
  obtain ⟨serial', closing, hended⟩ := h.ended id hlt hnot
  have hjoined : .joined id ∈ life id r.events := by
    cases closing <;> simp [hended, farewell]
  exact (mem_life.1 hjoined).1

/-- Sessions that are joined are held no longer. -/
lemma retire (h : Holds (gone ++ held) r) (hlaunches : r'.launches = r.launches)
    (hevents : r'.events = r.events ++ new)
    (hnew : ∀ e ∈ new, e.attempt? = none)
    (hgone : ∀ id ∈ Supervisor.numbers gone, ∃ closing, life id new = farewell closing id)
    (hother : ∀ id ∉ Supervisor.numbers gone, life id new = []) : Holds held r' := by
  have hnumbers := h.numbers
  rw [Supervisor.numbers, List.map_append, List.nodup_append] at hnumbers
  obtain ⟨-, hheld, hdisjoint⟩ := hnumbers
  have hserials := h.serials
  rw [List.map_append] at hserials
  -- the life of a session that is not joined now goes on unchanged
  have hsame : ∀ id ∉ Supervisor.numbers gone, life id r'.events = life id r.events := by
    intro id hid
    rw [hevents, life_append, hother id hid, List.append_nil]
  refine ⟨hserials.of_append_right, hheld, ?_, ?_, ?_, ?_⟩
  · intro entry hentry
    have hid : entry.2.1 ∉ Supervisor.numbers gone :=
      fun hmem => hdisjoint _ hmem _ (List.mem_map_of_mem hentry) rfl
    rw [hsame _ hid]
    exact h.alive entry (List.mem_append_right _ hentry)
  · intro id hlt hid
    rw [hlaunches] at hlt
    by_cases hmem : id ∈ Supervisor.numbers gone
    · obtain ⟨closing, hnow⟩ := hgone id hmem
      obtain ⟨entry, hentry, rfl⟩ := List.mem_map.1 hmem
      refine ⟨entry.1, closing, ?_⟩
      rw [hevents, life_append, h.alive entry (List.mem_append_left _ hentry), hnow,
        List.singleton_append]
    · unfold Ended
      rw [hsame id hmem]
      refine h.ended id hlt ?_
      rw [Supervisor.numbers, List.map_append, List.mem_append]
      exact fun hor => hor.elim hmem hid
  · intro id hge
    rw [hlaunches] at hge
    have hid : id ∉ Supervisor.numbers gone := by
      intro hmem
      have hall : id ∈ Supervisor.numbers (gone ++ held) := by
        rw [Supervisor.numbers, List.map_append]
        exact List.mem_append_left _ hmem
      have hlt := h.lt_launches hall
      omega
    rw [hsame id hid, h.fresh id hge]
  · rw [hevents]
    exact h.ordered.append hnew

lemma retire_each (h : Holds (gone ++ held) r) (closing : Bool)
    (hlaunches : r'.launches = r.launches)
    (hevents : r'.events = r.events ++ (Supervisor.numbers gone).flatMap (farewell closing)) :
    Holds held r' := by
  have hnumbers := h.numbers
  rw [Supervisor.numbers, List.map_append] at hnumbers
  have hlife := life_flatMap (fun id e (he : e ∈ farewell closing id) => (farewell_about he).1)
    hnumbers.of_append_left
  refine h.retire hlaunches hevents (fun e he => attempt?_of_mem_farewells he) ?_ ?_
  · intro id hid
    exact ⟨closing, (hlife id).trans (if_pos hid)⟩
  · intro id hid
    exact (hlife id).trans (if_neg hid)

lemma refuse {serial : String} (h : Holds held r) (hserial : serial ∉ held.map Prod.fst)
    (hlaunches : r'.launches = r.launches) (hevents : r'.events = r.events ++ [.refused serial]) :
    Holds held r' := by
  have hlife : ∀ id, life id r'.events = life id r.events := by
    intro id
    rw [hevents, life_append, life_singleton, if_neg nofun, List.append_nil]
  refine ⟨h.serials, h.numbers, ?_, ?_, ?_, ?_⟩
  · intro entry hentry
    rw [hlife, h.alive entry hentry]
  · intro id hid hnot
    unfold Ended
    rw [hlife]
    exact h.ended id (hlaunches ▸ hid) hnot
  · intro id hid
    rw [hlife, h.fresh id (hlaunches ▸ hid)]
  · rw [hevents]
    refine h.ordered.append_singleton ?_
    rintro _ ⟨⟩ id hid
    exact h.joined_of_launched hserial hid

lemma launch {serial : String} (h : Holds held r) (session : ι)
    (hserial : serial ∉ held.map Prod.fst) (hlaunches : r'.launches = r.launches + 1)
    (hevents : r'.events = r.events ++ [.launched serial r.launches]) :
    Holds (held ++ [(serial, r.launches, session)]) r' := by
  have hnew : life r.launches r'.events = [.launched serial r.launches] := by
    rw [hevents, life_append, h.fresh _ (Nat.le_refl _), life_singleton]
    simp [SessionEvent.id?]
  have hlife : ∀ id, id ≠ r.launches → life id r'.events = life id r.events := by
    intro id hid
    have hne : (SessionEvent.launched serial r.launches).id? ≠ some id := by
      rintro ⟨⟩
      exact hid rfl
    rw [hevents, life_append, life_singleton, if_neg hne, List.append_nil]
  -- the number of the new session has not been given before
  have hfresh : r.launches ∉ Supervisor.numbers held :=
    fun hmem => Nat.lt_irrefl _ (h.lt_launches hmem)
  refine ⟨?_, ?_, ?_, ?_, ?_, ?_⟩
  · rw [List.map_append, List.map_singleton, ← List.concat_eq_append, List.nodup_concat]
    exact ⟨hserial, h.serials⟩
  · rw [Supervisor.numbers, List.map_append, List.map_singleton, ← List.concat_eq_append,
      List.nodup_concat]
    exact ⟨hfresh, h.numbers⟩
  · intro entry hentry
    rcases List.mem_append.1 hentry with hentry | hentry
    · rw [hlife _ (Nat.ne_of_lt (h.lt_launches (List.mem_map_of_mem hentry))), h.alive entry hentry]
    · rw [List.mem_singleton.1 hentry]
      exact hnew
  · intro id hid hnot
    rw [Supervisor.numbers, List.map_append, List.mem_append, not_or, List.map_singleton,
      List.mem_singleton] at hnot
    unfold Ended
    rw [hlife id hnot.2]
    refine h.ended id ?_ hnot.1
    have hne : id ≠ r.launches := hnot.2
    omega
  · intro id hid
    rw [hlife id (by omega), h.fresh id (by omega)]
  · rw [hevents]
    refine h.ordered.append_singleton ?_
    rintro _ ⟨⟩ id hid
    exact h.joined_of_launched hserial hid

end Holds

/-! ### Launches of one scan -/

/-- The serials for which a launch was tried. -/
def ScanReport.tried (report : ScanReport) : List String :=
  report.attached ++ report.relaunched ++ report.failed

/-- The report lists the launches that are entered in `new`, in the order in which they were tried. -/
structure ScanReport.Lists (report : ScanReport) (stopped : List String) (new : List SessionEvent) :
    Prop where
  attached : report.attached = (new.filterMap SessionEvent.launched?).filter (· ∉ stopped)
  relaunched : report.relaunched = (new.filterMap SessionEvent.launched?).filter (· ∈ stopped)
  failed : report.failed = new.filterMap SessionEvent.refused?

namespace ScanReport.Lists

variable {report : ScanReport} {stopped : List String} {new : List SessionEvent} {serial : String}

lemma attach (h : report.Lists stopped new) (hserial : serial ∉ stopped) (id : Nat) :
    ScanReport.Lists { report with attached := report.attached ++ [serial] } stopped
      (new ++ [.launched serial id]) := by
  refine ⟨?_, ?_, ?_⟩
  · simp [h.attached, SessionEvent.launched?, hserial]
  · simp [h.relaunched, SessionEvent.launched?, hserial]
  · simp [h.failed, List.filterMap_cons, SessionEvent.refused?]

lemma relaunch (h : report.Lists stopped new) (hserial : serial ∈ stopped) (id : Nat) :
    ScanReport.Lists { report with relaunched := report.relaunched ++ [serial] } stopped
      (new ++ [.launched serial id]) := by
  refine ⟨?_, ?_, ?_⟩
  · simp [h.attached, SessionEvent.launched?, hserial]
  · simp [h.relaunched, SessionEvent.launched?, hserial]
  · simp [h.failed, List.filterMap_cons, SessionEvent.refused?]

lemma refuse (h : report.Lists stopped new) (serial : String) :
    ScanReport.Lists { report with failed := report.failed ++ [serial] } stopped
      (new ++ [.refused serial]) := by
  refine ⟨?_, ?_, ?_⟩
  · simp [h.attached, SessionEvent.launched?]
  · simp [h.relaunched, SessionEvent.launched?]
  · simp [h.failed, SessionEvent.refused?]

/-- Entries about no launch change nothing. -/
lemma prepend {quiet : List SessionEvent} (h : report.Lists stopped new)
    (hquiet : ∀ e ∈ quiet, e.attempt? = none) : report.Lists stopped (quiet ++ new) := by
  have hlaunched : quiet.filterMap SessionEvent.launched? = [] :=
    List.filterMap_eq_nil_iff.2 fun e he => SessionEvent.launched?_of_attempt? (hquiet e he)
  have hrefused : quiet.filterMap SessionEvent.refused? = [] :=
    List.filterMap_eq_nil_iff.2 fun e he => SessionEvent.refused?_of_attempt? (hquiet e he)
  refine ⟨?_, ?_, ?_⟩
  · rw [List.filterMap_append, hlaunched, List.nil_append, h.attached]
  · rw [List.filterMap_append, hlaunched, List.nil_append, h.relaunched]
  · rw [List.filterMap_append, hrefused, List.nil_append, h.failed]

lemma mem_tried (h : report.Lists stopped new) (hserial : serial ∈ new.filterMap SessionEvent.launched?) :
    serial ∈ report.tried := by
  by_cases hstopped : serial ∈ stopped
  · simp [ScanReport.tried, h.relaunched, hserial, hstopped]
  · simp [ScanReport.tried, h.attached, hserial, hstopped]

/-- Of the serials that are told apart only those matter for which a launch was tried. -/
lemma congr {others : List String} (h : report.Lists stopped new)
    (hothers : ∀ serial ∈ report.tried, (serial ∈ stopped ↔ serial ∈ others)) :
    report.Lists others new := by
  refine ⟨?_, ?_, h.failed⟩
  · rw [h.attached]
    refine List.filter_congr fun serial hserial => ?_
    simp only [hothers serial (h.mem_tried hserial)]
  · rw [h.relaunched]
    refine List.filter_congr fun serial hserial => ?_
    simp only [hothers serial (h.mem_tried hserial)]

end ScanReport.Lists

/-- Each session whose launch is entered in `new` is registered under its serial. -/
def Registers (v : Supervisor (Nat × ι)) (new : List SessionEvent) : Prop :=
  ∀ serial id, .launched serial id ∈ new → ∃ session, (serial, id, session) ∈ v.sessions

/-- Between two launches of a scan: `running` had been kept, `stopped` joined, and the devices with the
serials `seen` been looked at. -/
structure Launching (running : List (String × Nat × ι)) (stopped : List String) (before : Ledger σ)
    (seen : List String) (v : Supervisor (Nat × ι)) (report : ScanReport) (r : Ledger σ) : Prop where
  holds : Holds v.sessions r
  kept : running <+: v.sessions
  nodup : report.tried.Nodup
  tried : ∀ serial, serial ∈ report.tried ↔ serial ∈ seen ∧ serial ∉ running.map Prod.fst
  registered : ∀ serial, serial ∈ v.serials ↔
    serial ∈ running.map Prod.fst ∨ serial ∈ report.attached ∨ serial ∈ report.relaunched
  entered : ∃ new, r.events = before.events ++ new ∧ report.Lists stopped new ∧ Registers v new
  launches : before.launches ≤ r.launches
  undisturbed : ∀ id < before.launches, life id r.events = life id before.events

namespace Launching

variable {running : List (String × Nat × ι)} {stopped seen : List String} {before r : Ledger σ}
  {v : Supervisor (Nat × ι)} {report : ScanReport} {serial : String}

lemma congr {r' : Ledger σ} (h : Launching running stopped before seen v report r)
    (hlaunches : r'.launches = r.launches) (hevents : r'.events = r.events) :
    Launching running stopped before seen v report r' :=
  { h with
    holds := h.holds.congr hlaunches hevents
    entered := hevents ▸ h.entered
    launches := hlaunches ▸ h.launches
    undisturbed := hevents ▸ h.undisturbed }

/-- A device is passed over when its serial came before or has a session. -/
lemma pass_over (h : Launching running stopped before seen v report r)
    (hserial : serial ∈ seen ∨ serial ∈ v.serials) :
    Launching running stopped before (serial :: seen) v report r := by
  refine { h with tried := ?_ }
  intro t
  rw [h.tried, List.mem_cons]
  constructor
  · exact fun ht => ⟨.inr ht.1, ht.2⟩
  · rintro ⟨rfl | ht, hnot⟩
    · refine ⟨?_, hnot⟩
      rcases hserial with hseen | hregistered
      · exact hseen
      · have hnew := ((h.registered t).1 hregistered).resolve_left hnot
        have htried : t ∈ report.tried := by
          rcases hnew with hnew | hnew
          · simp [ScanReport.tried, hnew]
          · simp [ScanReport.tried, hnew]
        exact ((h.tried t).1 htried).1
    · exact ⟨ht, hnot⟩

/-- A launch is entered in the report once. -/
lemma tried_cons {report' : ScanReport} (h : Launching running stopped before seen v report r)
    (hseen : serial ∉ seen) (hnot : serial ∉ v.serials)
    (hperm : report'.tried.Perm (serial :: report.tried)) :
    report'.tried.Nodup ∧
      ∀ t, t ∈ report'.tried ↔ t ∈ serial :: seen ∧ t ∉ running.map Prod.fst := by
  have hrunning : serial ∉ running.map Prod.fst := fun hmem => hnot ((h.registered serial).2 (.inl hmem))
  constructor
  · rw [hperm.nodup_iff, List.nodup_cons]
    exact ⟨fun hmem => hseen ((h.tried serial).1 hmem).1, h.nodup⟩
  · intro t
    rw [hperm.mem_iff, List.mem_cons, List.mem_cons, h.tried]
    constructor
    · rintro (rfl | ht)
      · exact ⟨.inl rfl, hrunning⟩
      · exact ⟨.inr ht.1, ht.2⟩
    · rintro ⟨rfl | ht, hnot⟩
      · exact .inl rfl
      · exact .inr ⟨ht, hnot⟩

lemma launched {report' : ScanReport} {r' : Ledger σ} {session : ι} {names : InterfaceNames}
    (h : Launching running stopped before seen v report r) (hseen : serial ∉ seen)
    (hnot : serial ∉ v.serials) (hlaunches : r'.launches = r.launches + 1)
    (hevents : r'.events = r.events ++ [.launched serial r.launches])
    (hperm : report'.tried.Perm (serial :: report.tried))
    (hnew : ∀ t, t ∈ report'.attached ∨ t ∈ report'.relaunched ↔
      (t ∈ report.attached ∨ t ∈ report.relaunched) ∨ t = serial)
    (hlists : ∀ new, report.Lists stopped new →
      report'.Lists stopped (new ++ [.launched serial r.launches])) :
    Launching running stopped before (serial :: seen)
      ⟨names, v.sessions ++ [(serial, r.launches, session)]⟩ report' r' := by
  obtain ⟨hnodup, htried⟩ := h.tried_cons hseen hnot hperm
  refine ⟨h.holds.launch session hnot hlaunches hevents, h.kept.trans (List.prefix_append _ _), hnodup,
    htried, ?_, ?_, ?_, ?_⟩
  · intro t
    have hserials : (⟨names, v.sessions ++ [(serial, r.launches, session)]⟩ :
        Supervisor (Nat × ι)).serials = v.serials ++ [serial] := by
      simp [Supervisor.serials]
    rw [hserials, List.mem_append, List.mem_singleton, h.registered, hnew, or_assoc]
  · obtain ⟨new, hbefore, hreport, hregisters⟩ := h.entered
    refine ⟨new ++ [.launched serial r.launches], ?_, hlists new hreport, ?_⟩
    · rw [hevents, hbefore, List.append_assoc]
    · intro t id hid
      rcases List.mem_append.1 hid with hid | hid
      · obtain ⟨held, hheld⟩ := hregisters t id hid
        exact ⟨held, List.mem_append_left _ hheld⟩
      · cases List.mem_singleton.1 hid
        exact ⟨session, List.mem_append_right _ (List.mem_singleton_self _)⟩
  · have hle := h.launches
    omega
  · intro id hid
    have hle := h.launches
    have hother : (SessionEvent.launched serial r.launches).id? ≠ some id := by
      rintro ⟨⟩
      omega
    rw [hevents, life_append, life_singleton, if_neg hother, List.append_nil]
    exact h.undisturbed id hid

lemma refused {report' : ScanReport} {r' : Ledger σ} {names : InterfaceNames}
    (h : Launching running stopped before seen v report r) (hseen : serial ∉ seen)
    (hnot : serial ∉ v.serials) (hlaunches : r'.launches = r.launches)
    (hevents : r'.events = r.events ++ [.refused serial])
    (hreport : report' = { report with failed := report.failed ++ [serial] }) :
    Launching running stopped before (serial :: seen) ⟨names, v.sessions⟩ report' r' := by
  subst hreport
  have hperm : ({ report with failed := report.failed ++ [serial] } : ScanReport).tried.Perm
      (serial :: report.tried) := by
    simp only [ScanReport.tried]
    rw [← List.append_assoc]
    exact List.perm_append_singleton _ _
  obtain ⟨hnodup, htried⟩ := h.tried_cons hseen hnot hperm
  refine ⟨h.holds.refuse hnot hlaunches hevents, h.kept, hnodup, htried, h.registered, ?_, ?_, ?_⟩
  · obtain ⟨new, hbefore, hlists, hregisters⟩ := h.entered
    refine ⟨new ++ [.refused serial], ?_, hlists.refuse serial, ?_⟩
    · rw [hevents, hbefore, List.append_assoc]
    · intro t id hid
      exact hregisters t id (by simpa using hid)
  · rw [hlaunches]
    exact h.launches
  · intro id hid
    rw [hevents, life_append, life_singleton, if_neg nofun, List.append_nil]
    exact h.undisturbed id hid

/-- A launch is tried for a serial that neither came before nor has a session. -/
lemma launchOne (host : SessionHost σ ι) (device : DeviceInfo)
    (h : Launching running stopped before seen v report r) (hseen : device.serial ∉ seen)
    (hnot : device.serial ∉ v.serials) :
    Launching running stopped before (device.serial :: seen)
      (Supervisor.launchOne host.recorded stopped v report device r).1
      (Supervisor.launchOne host.recorded stopped v report device r).2.1
      (Supervisor.launchOne host.recorded stopped v report device r).2.2 := by
  cases hlaunch : host.launch device (v.names.nameFor device.serial).1 r.state with
  | mk got s =>
    cases got with
    | ok session =>
      rw [Supervisor.launchOne_ok (SessionHost.launch_recorded_ok hlaunch)]
      by_cases hstopped : device.serial ∈ stopped
      · rw [if_pos (List.contains_iff_mem.2 hstopped)]
        refine h.launched hseen hnot rfl rfl ?_ ?_ ?_
        · simp only [ScanReport.tried, List.append_assoc, List.singleton_append]
          rw [← List.append_assoc, ← List.append_assoc]
          exact List.perm_middle
        · simp [or_assoc]
        · exact fun new hlists => hlists.relaunch hstopped _
      · rw [if_neg (mt List.contains_iff_mem.1 hstopped)]
        refine h.launched hseen hnot rfl rfl ?_ ?_ ?_
        · simp only [ScanReport.tried, List.append_assoc, List.singleton_append]
          exact List.perm_middle
        · simp [or_assoc, or_comm]
        · exact fun new hlists => hlists.attach hstopped _
    | error reason =>
      rw [Supervisor.launchOne_error (SessionHost.launch_recorded_error hlaunch)]
      exact h.refused hseen hnot rfl rfl rfl

lemma launchAll (host : SessionHost σ ι) (devices : List DeviceInfo)
    (h : Launching running stopped before seen v report r) :
    Launching running stopped before ((devices.map DeviceInfo.serial).reverse ++ seen)
      (Supervisor.launchAll host.recorded stopped devices seen v report r).1
      (Supervisor.launchAll host.recorded stopped devices seen v report r).2.1
      (Supervisor.launchAll host.recorded stopped devices seen v report r).2.2 := by
  induction devices generalizing seen v report r with
  | nil => exact h
  | cons device devices ih =>
    rw [List.map_cons, List.reverse_cons, List.append_assoc, List.singleton_append,
      Supervisor.launchAll]
    split
    · next hskip =>
      simp only [Bool.or_eq_true, List.contains_iff_mem] at hskip
      exact ih (h.pass_over hskip)
    · next htry =>
      simp only [Bool.or_eq_true, List.contains_iff_mem, not_or] at htry
      exact ih (h.launchOne host device htry.1 htry.2)

end Launching

end NcmBridge
