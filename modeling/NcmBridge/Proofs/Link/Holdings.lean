import Mathlib.Data.List.Basic
import Mathlib.Order.PropInstances
import Mathlib.Tactic.Lemma
import NcmBridge.Link.Transport

/-!
# What a device session takes and undoes

To claim an interface a session may detach a driver of the kernel first. Of all calls on the device only
those that take an interface or its driver, or give them back, matter here: every operation leads from
what the session remembers of them before to what it remembers after, whether it fails or not. There are
six ways in which they can end.
-/

namespace NcmBridge

/-! ### Recorded calls -/

/-- A call on a device, and whether it succeeded. -/
structure Answered where
  ref : DeviceRef
  call : DeviceCall
  ok : Bool
  deriving DecidableEq

/-- The state of a bus and the calls on its devices, the newest last. -/
structure Called (σ : Type) where
  state : σ
  calls : List Answered := []

/-- The bus with a record of the calls on its devices. -/
def UsbPort.recorded {σ : Type} (port : UsbPort σ) : UsbPort (Called σ) where
  enumerate r :=
    let (refs, s) := port.enumerate r.state
    (refs, { r with state := s })
  call ref c r :=
    let (reply, s) := port.call ref c r.state
    (reply, ⟨s, r.calls ++ [⟨ref, c, reply.isOk⟩]⟩)
  log line r := { r with state := port.log line r.state }

/-- Whether a call takes an interface or its driver, or gives them back. -/
def DeviceCall.isHolding : DeviceCall → Bool
  | detachDriver _ | attachDriver _ | claim _ | release _ => true
  | _ => false

/-- The calls on a device that take an interface or its driver, or give them back. -/
def holding (ref : DeviceRef) (calls : List Answered) : List Answered :=
  calls.filter fun a => a.ref == ref && a.call.isHolding

section

variable {ref : DeviceRef} {calls : List Answered}

@[simp] lemma holding_nil : holding ref [] = [] := rfl

@[simp] lemma holding_append (more : List Answered) :
    holding ref (calls ++ more) = holding ref calls ++ holding ref more :=
  List.filter_append ..

lemma holding_of_isHolding {c : DeviceCall} (h : c.isHolding = true) (ok : Bool) :
    holding ref [⟨ref, c, ok⟩] = [⟨ref, c, ok⟩] := by
  simp [holding, h]

lemma holding_of_not_isHolding {c : DeviceCall} (h : c.isHolding = false) (ok : Bool) :
    holding ref [⟨ref, c, ok⟩] = [] := by
  simp [holding, h]

end

/-- The second of two operations goes on where the first has ended, unless that failed. -/
lemma LinkM.run_bind {σ α β : Type} {x : LinkM σ α} {f : α → LinkM σ β} {s : σ} : (x >>= f).run s =
    match x.run s with
    | (.ok a, s) => (f a).run s
    | (.error e, s) => (.error e, s) := by
  simp only [ExceptT.run, Bind.bind, ExceptT.bind, ExceptT.mk, ExceptT.bindCont, StateT.bind]
  cases x s with
  | mk result s => cases result <;> rfl

namespace DeviceSession

variable {σ α β : Type} {ref : DeviceRef}

/-! ### What a session remembers -/

/-- A condition on the interface that a session has claimed, on whether it has detached a driver, and on
the calls with which it did so. -/
abbrev Stage := Option Nat → Bool → List Answered → Prop

def At (ref : DeviceRef) (stage : Stage) (d : DeviceSession) (r : Called σ) : Prop :=
  d.ref = ref ∧ stage d.claimed d.detachedDriver (holding ref r.calls)

/-- What a session remembers, beside the calls that it made. -/
inductive Remembers (ref : DeviceRef) : Stage
  | nothing : Remembers ref none false []
  | driverStays (i : Nat) : Remembers ref none false [⟨ref, .detachDriver i, false⟩]
  | refused (i : Nat) : Remembers ref none false [⟨ref, .claim i, false⟩]
  | driverLost (i : Nat) :
      Remembers ref none true [⟨ref, .detachDriver i, true⟩, ⟨ref, .claim i, false⟩]
  | claimed (i : Nat) : Remembers ref (some i) false [⟨ref, .claim i, true⟩]
  | taken (i : Nat) :
      Remembers ref (some i) true [⟨ref, .detachDriver i, true⟩, ⟨ref, .claim i, true⟩]

/-- The session remembers just this, and made just these calls. -/
def just (claimed : Option Nat) (detached : Bool) (calls : List Answered) : Stage :=
  fun c d l => c = claimed ∧ d = detached ∧ l = calls

lemma just_le {claimed : Option Nat} {detached : Bool} {calls : List Answered} {stage : Stage}
    (h : stage claimed detached calls) : just claimed detached calls ≤ stage := by
  rintro _ _ _ ⟨rfl, rfl, rfl⟩
  exact h

/-- From a stage an operation leads to another stage, and to a third one if it fails. -/
def Leads (ref : DeviceRef) (before after failed : Stage) (x : LinkM (DeviceSession × Called σ) α) :
    Prop :=
  ∀ d r, At ref before d r →
    match x.run (d, r) with
    | (.ok _, d', r') => At ref after d' r'
    | (.error _, d', r') => At ref failed d' r'

/-- An operation that takes nothing and gives nothing back. -/
def Quiet (ref : DeviceRef) (x : LinkM (DeviceSession × Called σ) α) : Prop :=
  ∀ stage, Leads ref stage stage stage x

section

variable {before mid after failed : Stage} {x : LinkM (DeviceSession × Called σ) α}
  {f : α → LinkM (DeviceSession × Called σ) β}

lemma Leads.bind (hx : Leads ref before mid failed x) (hf : ∀ a, Leads ref mid after failed (f a)) :
    Leads ref before after failed (x >>= f) := by
  intro d r hd
  have hx := hx d r hd
  rw [LinkM.run_bind]
  cases hresult : x.run (d, r) with
  | mk result st =>
    rw [hresult] at hx
    cases result with
    | ok a => exact hf a st.1 st.2 hx
    | error e => exact hx

lemma Leads.mono {after' failed' : Stage} (hx : Leads ref before after failed x)
    (hafter : after ≤ after') (hfailed : failed ≤ failed') : Leads ref before after' failed' x := by
  intro d r hd
  have hx := hx d r hd
  cases hresult : x.run (d, r) with
  | mk result st =>
    rw [hresult] at hx
    cases result with
    | ok a => exact ⟨hx.1, hafter _ _ _ hx.2⟩
    | error e => exact ⟨hx.1, hfailed _ _ _ hx.2⟩

lemma Quiet.leads (hx : Quiet ref x) (h : before ≤ failed) : Leads ref before before failed x :=
  (hx before).mono le_rfl h

lemma Quiet.bind (hx : Quiet ref x) (hf : ∀ a, Quiet ref (f a)) : Quiet ref (x >>= f) :=
  fun stage => (hx stage).bind fun a => hf a stage

lemma quiet_pure (a : α) : Quiet ref (pure a : LinkM (DeviceSession × Called σ) α) :=
  fun _ _ _ hd => hd

lemma quiet_throw (e : UsbError) : Quiet ref (throw e : LinkM (DeviceSession × Called σ) α) :=
  fun _ _ _ hd => hd

lemma Quiet.ite {c : Prop} [Decidable c] {y : LinkM (DeviceSession × Called σ) α} (hx : Quiet ref x)
    (hy : Quiet ref y) : Quiet ref (if c then x else y) := by
  by_cases h : c
  · rwa [if_pos h]
  · rwa [if_neg h]

end

/-! ### What each operation does -/

variable (port : UsbPort σ)

lemma quiet_say (line : LogLine) : Quiet ref (say port.recorded line) := fun _ _ _ hd => hd

lemma call_recorded (c : DeviceCall) (r : Called σ) : port.recorded.call ref c r =
    ((port.call ref c r.state).1,
      ⟨(port.call ref c r.state).2, r.calls ++ [⟨ref, c, (port.call ref c r.state).1.isOk⟩]⟩) := rfl

/-- A call that takes nothing and gives nothing back leaves every stage as it is. -/
lemma At.call {stage : Stage} {d : DeviceSession} {r : Called σ} {c : DeviceCall} {s : σ} {ok : Bool}
    (h : At ref stage d r) (hc : c.isHolding = false) :
    At ref stage d (⟨s, r.calls ++ [⟨d.ref, c, ok⟩]⟩ : Called σ) := by
  obtain ⟨rfl, hstage⟩ := h
  refine ⟨rfl, ?_⟩
  rw [holding_append, holding_of_not_isHolding hc, List.append_nil]
  exact hstage

lemma quiet_ask {c : DeviceCall} (hc : c.isHolding = false) : Quiet ref (ask port.recorded c) := by
  intro stage d r hd
  simp only [ask, ExceptT.run_mk, call_recorded]
  cases (port.call d.ref c r.state).1 with
  | ok reply => exact hd.call hc
  | error f => exact hd.call hc

lemma quiet_attempt {c : DeviceCall} (hc : c.isHolding = false) :
    Quiet ref (attempt port.recorded c) := by
  intro stage d r hd
  simp only [attempt, ExceptT.run_mk, call_recorded]
  exact hd.call hc

lemma quiet_vendorRequest (request : VendorRequest) :
    Quiet ref (vendorRequest port.recorded request) := by
  intro stage d r hd
  simp only [vendorRequest, ExceptT.run_mk, call_recorded]
  cases (port.call d.ref (.control request controlTimeout) r.state).1 with
  | ok response => exact hd.call rfl
  | error f => exact hd.call rfl

lemma leads_modify {before after failed : Stage}
    {f : DeviceSession × Called σ → DeviceSession × Called σ}
    (h : ∀ d r, At ref before d r → At ref after (f (d, r)).1 (f (d, r)).2) :
    Leads ref before after failed (modify f) := h

/-- A call that takes something or gives it back adds itself to the calls. -/
lemma leads_ask {c : DeviceCall} (hc : c.isHolding = true) {claimed : Option Nat} {detached : Bool}
    {calls : List Answered} :
    Leads ref (just claimed detached calls) (just claimed detached (calls ++ [⟨ref, c, true⟩]))
      (just claimed detached (calls ++ [⟨ref, c, false⟩])) (ask port.recorded c) := by
  intro d r ⟨hd, hclaimed, hdetached, hcalls⟩
  subst hd
  simp only [ask, ExceptT.run_mk, call_recorded]
  cases (port.call d.ref c r.state).1 with
  | ok reply =>
    refine ⟨rfl, hclaimed, hdetached, ?_⟩
    rw [holding_append, hcalls]
    exact congrArg _ (holding_of_isHolding hc true)
  | error f =>
    refine ⟨rfl, hclaimed, hdetached, ?_⟩
    rw [holding_append, hcalls]
    exact congrArg _ (holding_of_isHolding hc false)

lemma quiet_selectConfiguration (configuration : Nat) :
    Quiet ref (selectConfiguration port.recorded configuration) := by
  refine (quiet_ask port rfl).bind fun (active : Nat) => Quiet.ite (quiet_say port _) ?_
  exact (quiet_ask port rfl).bind fun _ => quiet_say port _

lemma quiet_settingsAt (configuration : Nat) (indices : List Nat) :
    Quiet ref (settingsAt port.recorded configuration indices) := by
  induction indices with
  | nil => exact quiet_throw _
  | cons index indices ih =>
    exact (quiet_ask port rfl).bind fun (found : Configuration) => Quiet.ite (quiet_pure _) ih

lemma leads_claim (interface setting : Nat) :
    Leads ref (just none false []) (Remembers ref) (Remembers ref)
      (claim port.recorded interface setting) := by
  -- the claim itself, after the driver was looked at
  have hrest : ∀ detached calls,
      Remembers ref none detached (calls ++ [⟨ref, .claim interface, false⟩]) →
      Remembers ref (some interface) detached (calls ++ [⟨ref, .claim interface, true⟩]) →
      Leads ref (just none detached calls) (Remembers ref) (Remembers ref) (do
        let _ ← ask port.recorded (.claim interface)
        modify fun (d, s) => ({ d with claimed := some interface }, s)
        let _ ← ask port.recorded (.setAlternate interface setting)
        say port.recorded ⟨.device, .debug, s!"Claimed interface {interface} alt {setting}"⟩) := by
    intro detached calls hrefused hclaimed
    refine ((leads_ask port rfl).mono le_rfl (just_le hrefused)).bind fun _ => ?_
    refine Leads.bind (leads_modify ?_) fun _ => ((quiet_ask port rfl).bind fun _ => quiet_say port _) _
    rintro d r ⟨hd, -, rfl, hcalls⟩
    exact ⟨hd, hcalls.symm ▸ hclaimed⟩
  unfold claim
  refine ((quiet_attempt port rfl).leads (just_le .nothing)).bind fun (active : Except UsbFault Bool) => ?_
  match active with
  | .error f =>
    refine ((quiet_say port _).leads (just_le .nothing)).bind fun _ => ?_
    exact hrest false [] (.refused interface) (.claimed interface)
  | .ok false => exact hrest false [] (.refused interface) (.claimed interface)
  | .ok true =>
    refine ((quiet_say port _).leads (just_le .nothing)).bind fun _ => ?_
    refine ((leads_ask port rfl).mono le_rfl (just_le (.driverStays interface))).bind fun _ => ?_
    have hrest := hrest true [⟨ref, .detachDriver interface, true⟩] (.driverLost interface)
      (.taken interface)
    refine Leads.bind (leads_modify ?_) fun _ => hrest
    rintro d r ⟨hd, hclaimed, -, hcalls⟩
    exact ⟨hd, hclaimed, rfl, hcalls⟩

/-- Bringing up a device remembers what it takes. -/
lemma leads_activate (serial : String) :
    Leads ref (just none false []) (Remembers ref) (Remembers ref)
      (NcmBridge.activate (control port.recorded) serial) := by
  have hstart : just none false [] ≤ Remembers ref := just_le .nothing
  have hquiet : ∀ {x : LinkM (DeviceSession × Called σ) Unit}, Quiet ref x →
      Leads ref (just none false []) (just none false []) (Remembers ref) x :=
    fun hx => hx.leads hstart
  -- after a claim nothing more is taken
  have hlift : ∀ result : Except UsbError NcmInterface,
      Quiet ref (activate.liftExcept result : LinkM (DeviceSession × Called σ) NcmInterface) := by
    rintro (e | ncm)
    · exact quiet_throw e
    · exact quiet_pure ncm
  unfold NcmBridge.activate
  have hsettings : ∀ configuration, Leads ref (just none false []) (just none false [])
      (Remembers ref) ((control port.recorded).altSettings configuration) := by
    intro configuration
    have hget : Quiet ref (get : LinkM _ (DeviceSession × Called σ)) := fun _ _ _ hd => hd
    exact (hget.bind fun st => quiet_settingsAt port configuration _).leads hstart
  have hcount : Leads ref (just none false []) (just none false []) (Remembers ref)
      (control port.recorded).configurationCount := fun _ _ hd => hd
  refine hcount.bind fun count => ?_
  extract_lets rest
  have hrest : ∀ u, Leads ref (just none false []) (Remembers ref) (Remembers ref) (rest u) := by
    intro u
    refine (hquiet (quiet_say port _)).bind fun _ => ?_
    refine (hquiet (quiet_selectConfiguration port _)).bind fun _ => ?_
    refine (hsettings _).bind fun settings => ?_
    cases Activation.choose? settings with
    | none => exact (quiet_throw _).leads hstart |>.mono hstart le_rfl
    | some data =>
      refine (leads_claim port _ _).bind fun _ => Quiet.bind (quiet_say port _) (fun _ => ?_) _
      refine (hlift _).bind fun ncm => ?_
      exact (quiet_say port _).bind fun _ => (quiet_say port _).bind fun _ => quiet_pure ncm
  split
  · refine (hquiet (quiet_say port _)).bind fun _ => ?_
    refine (hquiet (quiet_vendorRequest port _)).bind fun _ => ?_
    exact (hquiet (quiet_vendorRequest port _)).bind hrest
  · exact (hquiet (quiet_say port _)).bind hrest

/-! ### Undoing -/

/-- The calls of a session that has undone what it can. -/
inductive Undone (ref : DeviceRef) : List Answered → Prop
  | nothing : Undone ref []
  | driverStays (i : Nat) : Undone ref [⟨ref, .detachDriver i, false⟩]
  | refused (i : Nat) : Undone ref [⟨ref, .claim i, false⟩]
  | driverLost (i : Nat) : Undone ref [⟨ref, .detachDriver i, true⟩, ⟨ref, .claim i, false⟩]
  | released (i : Nat) (ok : Bool) : Undone ref [⟨ref, .claim i, true⟩, ⟨ref, .release i, ok⟩]
  | returned (i : Nat) (ok ok' : Bool) :
      Undone ref [⟨ref, .detachDriver i, true⟩, ⟨ref, .claim i, true⟩, ⟨ref, .release i, ok⟩,
        ⟨ref, .attachDriver i, ok'⟩]

lemma Remembers.undone {detached : Bool} {calls : List Answered}
    (h : Remembers ref none detached calls) : Undone ref calls := by
  cases h with
  | nothing => exact .nothing
  | driverStays i => exact .driverStays i
  | refused i => exact .refused i
  | driverLost i => exact .driverLost i

lemma release_of_none {d : DeviceSession} {s : σ} (h : d.claimed = none) :
    d.release port s = (d, s) := by
  rw [release, h]

lemma calls_releaseInterface (ref : DeviceRef) (i : Nat) (r : Called σ) : ∃ ok,
    (releaseInterface port.recorded ref i r).calls = r.calls ++ [⟨ref, .release i, ok⟩] := by
  rw [releaseInterface, call_recorded]
  cases (port.call ref (.release i) r.state).1 <;> exact ⟨_, rfl⟩

lemma calls_reattachDriver (ref : DeviceRef) (i : Nat) (r : Called σ) : ∃ ok,
    (reattachDriver port.recorded ref i r).calls = r.calls ++ [⟨ref, .attachDriver i, ok⟩] := by
  rw [reattachDriver, call_recorded]
  cases (port.call ref (.attachDriver i) r.state).1 <;> exact ⟨_, rfl⟩

variable {d : DeviceSession} {r : Called σ}

/-- Releasing undoes what the session remembers, and then there is nothing to remember. -/
lemma release_of_remembers (h : At ref (Remembers ref) d r) :
    (d.release port.recorded r).1.ref = ref ∧ (d.release port.recorded r).1.claimed = none ∧
      Undone ref (holding ref (d.release port.recorded r).2.calls) := by
  obtain ⟨rfl, hstage⟩ := h
  cases hclaimed : d.claimed with
  | none =>
    rw [hclaimed] at hstage
    rw [release_of_none port.recorded hclaimed]
    exact ⟨rfl, hclaimed, hstage.undone⟩
  | some i =>
    obtain ⟨ok, hreleased⟩ := calls_releaseInterface port d.ref i r
    rw [release, hclaimed]
    refine ⟨rfl, rfl, ?_⟩
    generalize hdetached : d.detachedDriver = detached at hstage
    generalize hcalls : holding d.ref r.calls = calls at hstage
    rw [hclaimed] at hstage
    cases hstage with
    | claimed =>
      simp only [Bool.false_eq_true, if_false]
      show Undone d.ref (holding d.ref (releaseInterface port.recorded d.ref i r).calls)
      rw [hreleased, holding_append, hcalls, holding_of_isHolding rfl]
      exact .released i ok
    | taken =>
      obtain ⟨ok', hattached⟩ := calls_reattachDriver port d.ref i
        (releaseInterface port.recorded d.ref i r)
      simp only [if_true]
      show Undone d.ref (holding d.ref
        (reattachDriver port.recorded d.ref i (releaseInterface port.recorded d.ref i r)).calls)
      rw [hattached, hreleased, holding_append, holding_append, hcalls, holding_of_isHolding rfl,
        holding_of_isHolding rfl]
      exact .returned i ok ok'

lemma close_of_remembers (h : At ref (Remembers ref) d r) :
    Undone ref (holding ref (d.close port.recorded r).calls) := by
  obtain ⟨href, -, hundone⟩ := release_of_remembers port h
  have hclose : (DeviceCall.closeHandle).isHolding = false := rfl
  rw [close]
  simp only [call_recorded, href, holding_append, holding_of_not_isHolding hclose, List.append_nil]
  exact hundone

end DeviceSession

/-! ### Attempts -/

section

open DeviceSession

variable {σ : Type} (port : UsbPort σ) (ref : DeviceRef) (serial : String) (timeout : Nat) (s : σ)

/-- A device that was just opened has claimed nothing. -/
lemma openAt_recorded :
    match (openAt port.recorded ref).run ⟨s, []⟩ with
    | (.ok d, r) => At ref (just none false []) d r
    | (.error _, r) => holding ref r.calls = [] := by
  have hdescriptor : DeviceCall.descriptor.isHolding = false := rfl
  have hopen : DeviceCall.openHandle.isHolding = false := rfl
  rw [openAt, LinkM.run_bind]
  simp only [UsbPort.ask, ExceptT.run_mk, call_recorded]
  cases (port.call ref .descriptor s).1 with
  | error f => exact holding_of_not_isHolding hdescriptor _
  | ok descriptor =>
    simp only [LinkM.run_bind, ExceptT.run_mk]
    cases (port.call ref .openHandle (port.call ref .descriptor s).2).1 with
    | error f =>
      show holding ref ([] ++ [_] ++ [_]) = []
      rw [holding_append, holding_append, holding_of_not_isHolding hdescriptor,
        holding_of_not_isHolding hopen]
      rfl
    | ok _ =>
      refine ⟨rfl, rfl, rfl, ?_⟩
      show holding ref ([] ++ [_] ++ [_]) = []
      rw [holding_append, holding_append, holding_of_not_isHolding hdescriptor,
        holding_of_not_isHolding hopen]
      rfl

/-- Bringing up a device that fails undoes what it did, and one that succeeds remembers it. -/
lemma activate_recorded :
    match (DeviceSession.activate port.recorded ref serial).run ⟨s, []⟩ with
    | (.ok (d, _), r) => At ref (Remembers ref) d r
    | (.error _, r) => Undone ref (holding ref r.calls) := by
  have hopen := openAt_recorded port ref s
  rw [DeviceSession.activate, LinkM.run_bind]
  cases hrun : (openAt port.recorded ref).run ⟨s, []⟩ with
  | mk result r =>
    rw [hrun] at hopen
    cases result with
    | error e =>
      show Undone ref (holding ref r.calls)
      rw [show holding ref r.calls = [] from hopen]
      exact .nothing
    | ok d =>
      have hup := leads_activate port serial d r hopen
      simp only [ExceptT.run_mk]
      cases hrun' : (NcmBridge.activate (control port.recorded) serial).run (d, r) with
      | mk result st =>
        rw [hrun'] at hup
        cases result with
        | error e => exact close_of_remembers port hup
        | ok ncm => exact hup

lemma connect_recorded :
    match (Transport.connect port.recorded ref serial timeout).run ⟨s, []⟩ with
    | (.ok t, r) => At ref (Remembers ref) t.session r
    | (.error _, r) => Undone ref (holding ref r.calls) := by
  have hactivate := activate_recorded port ref serial s
  rw [Transport.connect, LinkM.run_bind]
  cases hrun : (DeviceSession.activate port.recorded ref serial).run ⟨s, []⟩ with
  | mk result r =>
    rw [hrun] at hactivate
    cases result with
    | error e => exact hactivate
    | ok session => exact hactivate

lemma drop_recorded {t : Transport} {r : Called σ} (h : At ref (Remembers ref) t.session r) :
    Undone ref (holding ref (t.drop port.recorded r).calls) := by
  have hlogged : At ref (Remembers ref) t.session
      (if t.closed then r else port.recorded.log (Transport.closeLine t.serial) r) := by
    split
    · exact h
    · exact h
  obtain ⟨href, hnone, hundone⟩ := release_of_remembers port hlogged
  have hclose : DeviceCall.closeHandle.isHolding = false := rfl
  rw [Transport.drop]
  simp only [close, release_of_none port.recorded hnone, call_recorded, href, holding_append,
    holding_of_not_isHolding hclose, List.append_nil]
  exact hundone

end

end NcmBridge
