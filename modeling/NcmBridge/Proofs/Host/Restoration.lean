import NcmBridge.Host.Launch
import NcmBridge.Proofs.Link.Holdings

/-!
# What is taken from the kernel is given back

However an attempt at a device ends, an interface that was claimed is released exactly once, and a driver
that was detached for it is attached exactly once. A driver that was detached for a claim that then fails
stays detached: what there is to undo is found through the interface that was claimed.
-/

namespace NcmBridge

/-! ### Calls counted -/

open DeviceSession

/-- How often a call on a device was tried. -/
def attempts (ref : DeviceRef) (c : DeviceCall) (calls : List Answered) : Nat :=
  calls.countP fun a => a.ref == ref && a.call == c

/-- Everything that was taken together with an interface was given back once. -/
structure Restored (ref : DeviceRef) (calls : List Answered) : Prop where
  released : ∀ i, ⟨ref, .claim i, true⟩ ∈ calls → attempts ref (.release i) calls = 1
  reattached : ∀ i, ⟨ref, .detachDriver i, true⟩ ∈ calls → ⟨ref, .claim i, true⟩ ∈ calls →
    attempts ref (.attachDriver i) calls = 1
  /-- What was not claimed is neither released nor attached. -/
  unclaimed : ∀ i, ⟨ref, .claim i, true⟩ ∉ calls →
    attempts ref (.release i) calls = 0 ∧ attempts ref (.attachDriver i) calls = 0

section

variable {ref} {calls : List Answered} {c : DeviceCall}

lemma attempts_holding (hc : c.isHolding = true) : attempts ref c (holding ref calls) = attempts ref c calls := by
  rw [attempts, holding, List.countP_filter, attempts]
  apply List.countP_congr
  intro a _
  simp only [Bool.and_eq_true, beq_iff_eq]
  constructor
  · rintro ⟨h, -⟩
    exact h
  · rintro ⟨rfl, rfl⟩
    exact ⟨⟨rfl, rfl⟩, rfl, hc⟩

lemma mem_holding (hc : c.isHolding = true) {ok : Bool} :
    ⟨ref, c, ok⟩ ∈ holding ref calls ↔ ⟨ref, c, ok⟩ ∈ calls := by
  simp [holding, hc]

lemma restored_of_undone (h : Undone ref calls) : Restored ref calls := by
  cases h with
  | nothing => exact ⟨by simp, by simp, by simp [attempts]⟩
  | driverStays i => exact ⟨by simp, by simp, by simp [attempts]⟩
  | refused i => exact ⟨by simp, by simp, by simp [attempts]⟩
  | driverLost i => exact ⟨by simp, by simp, by simp [attempts]⟩
  | released i ok =>
    refine ⟨by simp [attempts], by simp, ?_⟩
    intro j hj
    have hne : i ≠ j := by
      rintro rfl
      exact hj List.mem_cons_self
    simp [attempts, hne]
  | returned i ok ok' =>
    refine ⟨by simp [attempts], by simp [attempts], ?_⟩
    intro j hj
    have hne : i ≠ j := by
      rintro rfl
      exact hj (List.mem_cons_of_mem _ List.mem_cons_self)
    simp [attempts, hne]

lemma restored_of_holding (h : Undone ref (holding ref calls)) : Restored ref calls := by
  have hrestored := restored_of_undone h
  refine ⟨?_, ?_, ?_⟩
  · intro i hclaim
    rw [← attempts_holding rfl]
    exact hrestored.released i ((mem_holding rfl).2 hclaim)
  · intro i hdetach hclaim
    rw [← attempts_holding rfl]
    exact hrestored.reattached i ((mem_holding rfl).2 hdetach) ((mem_holding rfl).2 hclaim)
  · intro i hclaim
    rw [← attempts_holding rfl, ← attempts_holding (c := .attachDriver i) rfl]
    exact hrestored.unclaimed i (mt (mem_holding rfl).1 hclaim)

end

/-! ### Launches -/

/-- The place of launches with a record of the calls on devices. -/
def LaunchSite.recorded {σ τ ι : Type} (site : LaunchSite σ τ ι) : LaunchSite (Called σ) τ ι where
  port := site.port.recorded
  createTap name r :=
    let (tap, s) := site.createTap name r.state
    (tap, { r with state := s })
  start interface transport tap r :=
    let (started, s) := site.start interface transport tap r.state
    (started, { r with state := s })

/-- Looking for a device makes no calls on devices. -/
lemma find_recorded {σ : Type} (port : UsbPort σ) (bus address : Nat) (r : Called σ) :
    (port.recorded.find bus address).run r =
      match (port.find bus address).run r.state with
      | (found, s) => (found, { r with state := s }) := by
  have henumerate : port.recorded.enumerate r =
      ((port.enumerate r.state).1, { r with state := (port.enumerate r.state).2 }) := rfl
  simp only [UsbPort.find, ExceptT.run_mk, henumerate]
  cases port.enumerate r.state with
  | mk refs s =>
    cases refs with
    | error f => rfl
    | ok refs =>
      simp only
      cases refs.find? fun r => r.bus == bus && r.address == address <;> rfl

/-- A launch fails because no device is found, because it does not come up, because the interface cannot be
made, or because the bridge cannot be started; in the last two cases the link is dropped. -/
lemma launchAt_error {σ τ ι : Type} {site : LaunchSite σ τ ι} {timeout : Nat} {device : DeviceInfo}
    {interface : String} {s s' : σ} {e : LaunchError}
    (h : launchAt site timeout device interface s = (.error e, s')) :
    (∃ e', (site.port.find device.bus device.address).run s = (.error e', s')) ∨
      ∃ ref s₁, (site.port.find device.bus device.address).run s = (.ok ref, s₁) ∧
        ((∃ e', (Transport.connect site.port ref device.serial timeout).run s₁ = (.error e', s')) ∨
          ∃ t s₂, (Transport.connect site.port ref device.serial timeout).run s₁ = (.ok t, s₂) ∧
            ∃ line, ((∃ e' s₃, site.createTap interface (site.port.log line s₂) = (.error e', s₃) ∧
                s' = t.drop site.port s₃) ∨
              ∃ tap s₃ fault s₄, site.createTap interface (site.port.log line s₂) = (.ok tap, s₃) ∧
                site.start interface t tap s₃ = (.error fault, s₄) ∧ s' = t.close.drop site.port s₄)) := by
  unfold launchAt at h
  split at h
  · next e' s₁ hfind =>
    cases h
    exact .inl ⟨e', hfind⟩
  · next ref s₁ hfind =>
    refine .inr ⟨ref, s₁, hfind, ?_⟩
    split at h
    · next e' s₂ hconnect =>
      cases h
      exact .inl ⟨e', hconnect⟩
    · next t s₂ hconnect =>
      refine .inr ⟨t, s₂, hconnect,
        ⟨.launcher, .debug, s!"{device.serial}: read chunk {t.ncm.readChunkLen} bytes"⟩, ?_⟩
      dsimp only at h
      split at h
      · next e' s₃ hcreate =>
        cases h
        exact .inl ⟨_, s₃, hcreate, rfl⟩
      · next tap s₃ hcreate =>
        split at h
        · next fault s₄ hstart =>
          cases h
          exact .inr ⟨tap, s₃, fault, s₄, hcreate, hstart, rfl⟩
        · cases h

/-- A launch that fails undoes what it did with the device that it found. -/
lemma launch_recorded {σ τ ι : Type} (site : LaunchSite σ τ ι) (timeout : Nat) (device : DeviceInfo)
    (interface : String) (s : σ) {e : LaunchError} {r : Called σ}
    (hlaunch : launchAt site.recorded timeout device interface ⟨s, []⟩ = (.error e, r)) :
    match (site.port.find device.bus device.address).run s with
    | (.error _, _) => r.calls = []
    | (.ok found, _) => Undone found (holding found r.calls) := by
  have hport : site.recorded.port = site.port.recorded := rfl
  -- neither making the interface nor starting the bridge makes a call that takes or gives back
  have htap (r : Called σ) : (site.recorded.createTap interface r).2.calls = r.calls := rfl
  have hstart (t : Transport) (tap : τ) (r : Called σ) :
      (site.recorded.start interface t tap r).2.calls = r.calls := rfl
  have hfailed := launchAt_error hlaunch
  rw [hport, find_recorded] at hfailed
  cases hfind : (site.port.find device.bus device.address).run s with
  | mk result s' =>
    rw [hfind] at hfailed
    cases result with
    | error e' =>
      obtain ⟨_, hsame⟩ | ⟨_, _, hfound, -⟩ := hfailed
      · cases hsame
        rfl
      · cases hfound
    | ok found =>
      have hconnect := connect_recorded site.port found device.serial timeout s'
      obtain ⟨_, hnone⟩ | ⟨_, _, hfound, hrest⟩ := hfailed
      · cases hnone
      cases hfound
      obtain ⟨e', hrun⟩ | ⟨t, r₂, hrun, line, hlate⟩ := hrest
      · rw [hrun] at hconnect
        exact hconnect
      rw [hrun] at hconnect
      obtain ⟨e', r₃, hcreate, rfl⟩ | ⟨tap, r₃, fault, r₄, hcreate, hstarted, rfl⟩ := hlate
      · have hcalls : r₃.calls = r₂.calls := (congrArg (·.2.calls) hcreate).symm.trans (htap _)
        apply drop_recorded
        rw [At, hcalls]
        exact hconnect
      · have hcalls : r₄.calls = r₂.calls :=
          calc r₄.calls = r₃.calls := (congrArg (·.2.calls) hstarted).symm.trans (hstart t tap r₃)
            _ = r₂.calls := (congrArg (·.2.calls) hcreate).symm.trans (htap _)
        -- closing the link leaves the session as it is
        apply drop_recorded
        rw [At, hcalls]
        exact hconnect

/-- However an attempt at a device ends, what was claimed is undone: when the device cannot be brought up,
when the link is dropped at some later time, and when a launch fails after the device was brought up, be it
that the interface cannot be made or that a pump cannot be started. -/
theorem claims_are_undone_on_every_path {σ τ ι : Type} (site : LaunchSite σ τ ι) (ref : DeviceRef)
    (serial : String) (timeout : Nat) (s : σ) :
    (∀ e r, (Transport.connect site.port.recorded ref serial timeout).run ⟨s, []⟩ = (.error e, r) →
        Restored ref r.calls) ∧
      (∀ t r, (Transport.connect site.port.recorded ref serial timeout).run ⟨s, []⟩ = (.ok t, r) →
        ∀ (t' : Transport) (r' : Called σ) more, t'.session = t.session →
          r'.calls = r.calls ++ more → holding ref more = [] →
            Restored ref (t'.drop site.port.recorded r').calls) ∧
      ∀ device interface e r, launchAt site.recorded timeout device interface ⟨s, []⟩ = (.error e, r) →
        match (site.port.find device.bus device.address).run s with
        | (.error _, _) => r.calls = []
        | (.ok found, _) => Restored found r.calls := by
  refine ⟨?_, ?_, ?_⟩
  · intro e r hrun
    have hconnect := connect_recorded site.port ref serial timeout s
    rw [hrun] at hconnect
    exact restored_of_holding hconnect
  · intro t r hrun t' r' more hsession hcalls hmore
    have hconnect := connect_recorded site.port ref serial timeout s
    rw [hrun] at hconnect
    obtain ⟨href, hremembers⟩ := hconnect
    refine restored_of_holding (drop_recorded site.port ref ?_)
    rw [At, hsession, hcalls, holding_append, hmore, List.append_nil]
    exact ⟨href, hremembers⟩
  · intro device interface e r hlaunch
    have hlaunched := launch_recorded site timeout device interface s hlaunch
    cases hfind : (site.port.find device.bus device.address).run s with
    | mk result s' =>
      rw [hfind] at hlaunched
      cases result with
      | error e' => exact hlaunched
      | ok found => exact restored_of_holding hlaunched

/-! ### A device with a driver -/

/-- The place of a device. -/
def boundRef : DeviceRef := ⟨1, 2, 0⟩

/-- A host with one device, whose data interface a driver of the kernel holds; one kind of call fails. -/
def boundHost (refuses : DeviceCall → Option UsbFault) : Host :=
  let endpoints := [⟨134, .input, true, 512⟩, ⟨5, .output, true, 512⟩]
  let device : BusDevice :=
    { ref := boundRef
      descriptor := ⟨0x05ac, 0x12a8, 5⟩
      serial := "S1"
      active := 5
      kernelDriver := true
      controlLen := 255
      configurations := [⟨5, [⟨5, 1, 10, 0, endpoints⟩]⟩]
      refuses
      transfers := []
      packets := [] }
  { bus := { attached := [boundRef], devices := [device] } }

/-- The setting cannot be selected after the interface was claimed. -/
def refusesSetting : DeviceCall → Option UsbFault
  | .setAlternate _ _ => some .pipe
  | _ => none

/-- The interface cannot be claimed after its driver was detached. -/
def refusesClaim : DeviceCall → Option UsbFault
  | .claim _ => some .busy
  | _ => none

def boundAttempt (refuses : DeviceCall → Option UsbFault) : Except UsbError Transport × Called Host :=
  (Transport.connect Host.port.recorded boundRef "S1" 500).run ⟨boundHost refuses, []⟩

/-- When the setting is refused, the interface goes back to its driver. -/
theorem driver_returns_after_refused_setting :
    (boundAttempt refusesSetting).1 = .error (.fault .pipe) ∧
      Restored boundRef (boundAttempt refusesSetting).2.calls := by
  have hfailed : (boundAttempt refusesSetting).1 = .error (.fault .pipe) := by decide +kernel
  obtain ⟨hrestored, -, -⟩ := claims_are_undone_on_every_path
    { port := Host.port, createTap := Host.createTap, start := Host.startBridge {} } boundRef "S1" 500
    (boundHost refusesSetting)
  exact ⟨hfailed, hrestored _ _ (Prod.ext hfailed rfl)⟩

/-- It is not so that every driver that was detached is attached again: when the claim is refused, none
is. -/
theorem driver_stays_detached_after_refused_claim :
    ¬∀ (port : UsbPort Host) (ref : DeviceRef) (serial : String) (timeout : Nat) (s : Host) e r i,
      (Transport.connect port.recorded ref serial timeout).run ⟨s, []⟩ = (.error e, r) →
        ⟨ref, .detachDriver i, true⟩ ∈ r.calls → attempts ref (.attachDriver i) r.calls = 1 := by
  intro h
  have hfailed : (boundAttempt refusesClaim).1 = .error (.fault .busy) := by decide +kernel
  have hdetached : ⟨boundRef, .detachDriver 5, true⟩ ∈ (boundAttempt refusesClaim).2.calls := by
    decide +kernel
  have hattached : attempts boundRef (.attachDriver 5) (boundAttempt refusesClaim).2.calls = 0 := by
    decide +kernel
  have hone := h Host.port boundRef "S1" 500 (boundHost refusesClaim) _ _ 5 (Prod.ext hfailed rfl)
    hdetached
  exact absurd (hattached.symm.trans hone) Nat.zero_ne_one

end NcmBridge
