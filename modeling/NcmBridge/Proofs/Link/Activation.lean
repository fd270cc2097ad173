import Mathlib.Data.List.Basic
import Mathlib.Data.List.Permutation
import Mathlib.Data.Option.Basic
import Mathlib.Tactic.Lemma
import NcmBridge.Proofs.Link.Holdings

/-!
# What bringing up a device asks of it

A device that is brought up is asked for a fixed sequence of operations, and the first that fails is the
last. Which setting is claimed depends on the settings that were read only: it is the usual one if that
can carry data and else the first that can. After the claim nothing is asked for any more; what is left to
decide is whether the setting has an endpoint for each way.
-/

namespace NcmBridge

/-! ### The setting to claim -/

namespace AltSetting

/-- The setting is of class CDC Data and has exactly two endpoints, both of them bulk. -/
def CarriesData (s : AltSetting) : Prop :=
  s.classCode = dataClass ∧ s.subClassCode = dataSubClass ∧
    ∃ e₁ e₂, s.endpoints = [e₁, e₂] ∧ e₁.bulk = true ∧ e₂.bulk = true

lemma isNcmData_iff {s : AltSetting} : s.isNcmData = true ↔ s.CarriesData := by
  simp only [isNcmData, CarriesData, Bool.and_eq_true, beq_iff_eq, and_assoc, List.length_eq_two]
  refine and_congr_right fun _ => and_congr_right fun _ => ⟨?_, ?_⟩
  · rintro ⟨⟨e₁, e₂, hendpoints⟩, hbulk⟩
    rw [hendpoints] at hbulk
    exact ⟨e₁, e₂, hendpoints, by simpa using hbulk⟩
  · rintro ⟨e₁, e₂, hendpoints, hbulk⟩
    refine ⟨⟨e₁, e₂, hendpoints⟩, ?_⟩
    rw [hendpoints]
    simpa using hbulk

/-- The setting stands at the usual place, interface 5 with alternate setting 1. -/
def IsUsual (s : AltSetting) : Prop := s.interface = 5 ∧ s.setting = 1

/-- The endpoints of the setting are one for each way, in any order. -/
def HasPair (s : AltSetting) (bulkIn bulkOut : EndpointInfo) : Prop :=
  bulkIn.direction = .input ∧ bulkOut.direction = .output ∧ s.endpoints.Perm [bulkIn, bulkOut]

end AltSetting

namespace Activation

open AltSetting

/-- The first of some settings with a property. -/
def FirstWith (P : AltSetting → Prop) (settings : List AltSetting) (s : AltSetting) : Prop :=
  P s ∧ ∃ before after, settings = before ++ s :: after ∧ ∀ t ∈ before, ¬P t

/-- The setting to claim: the first at the usual place that carries data, or if there is none, the first
anywhere that does. -/
inductive Chosen (settings : List AltSetting) (s : AltSetting) : Prop
  | usual (hfirst : FirstWith (fun t => t.IsUsual ∧ t.CarriesData) settings s)
  | other (hnone : ∀ t ∈ settings, ¬(t.IsUsual ∧ t.CarriesData))
      (hfirst : FirstWith CarriesData settings s)

section

variable {settings : List AltSetting} {s : AltSetting}

lemma Chosen.carriesData (h : Chosen settings s) : s.CarriesData := by
  cases h with
  | usual hfirst => exact hfirst.1.2
  | other _ hfirst => exact hfirst.1

lemma Chosen.mem (h : Chosen settings s) : s ∈ settings := by
  obtain ⟨-, before, after, rfl, -⟩ | ⟨-, -, before, after, rfl, -⟩ := h <;>
  exact List.mem_append_right _ List.mem_cons_self

lemma find?_eq_some_iff_firstWith {p : AltSetting → Bool} {P : AltSetting → Prop}
    (hp : ∀ t, p t = true ↔ P t) : settings.find? p = some s ↔ FirstWith P settings s := by
  simp only [List.find?_eq_some_iff_append, FirstWith, Bool.not_eq_true', ← hp, Bool.not_eq_true]

lemma usual_and_isNcmData_iff {t : AltSetting} :
    ((t.interface, t.setting) == usualPlace && t.isNcmData) = true ↔ t.IsUsual ∧ t.CarriesData := by
  rw [Bool.and_eq_true, beq_iff_eq, isNcmData_iff, usualPlace, Prod.mk.injEq, IsUsual]

lemma choose?_eq_some_iff : choose? settings = some s ↔ Chosen settings s := by
  rw [choose?, Option.orElse_eq_some, find?_eq_some_iff_firstWith fun _ => usual_and_isNcmData_iff,
    find?_eq_some_iff_firstWith fun _ => isNcmData_iff, List.find?_eq_none]
  simp only [usual_and_isNcmData_iff]
  refine ⟨?_, ?_⟩
  · rintro (hfirst | ⟨hnone, hfirst⟩)
    · exact .usual hfirst
    · exact .other hnone hfirst
  · rintro (hfirst | ⟨hnone, hfirst⟩)
    · exact .inl hfirst
    · exact .inr ⟨hnone, hfirst⟩

lemma Chosen.unique {t : AltSetting} (hs : Chosen settings s) (ht : Chosen settings t) : s = t := by
  rw [← choose?_eq_some_iff] at hs ht
  exact Option.some.inj (hs.symm.trans ht)

lemma choose?_eq_none_iff : choose? settings = none ↔ ∀ t ∈ settings, ¬t.CarriesData := by
  rw [choose?, Option.orElse_eq_none, List.find?_eq_none, List.find?_eq_none]
  simp only [usual_and_isNcmData_iff, isNcmData_iff]
  exact ⟨And.right, fun hnone => ⟨fun t ht h => hnone t ht h.2, hnone⟩⟩

end

/-! ### Its endpoints -/

section

variable {s : AltSetting}

lemma endpoint_eq_ok_iff {direction : EndpointDirection} {e : EndpointInfo} :
    endpoint s direction = .ok e ↔ s.endpoint? direction = some e := by
  rw [endpoint]
  cases s.endpoint? direction <;> simp

lemma endpoint_eq_error {direction : EndpointDirection} {e : UsbError}
    (h : endpoint s direction = .error e) :
    (∀ e ∈ s.endpoints, e.direction ≠ direction) ∧
      e = .endpointMissing s.interface s.setting direction := by
  rw [endpoint] at h
  cases hfound : s.endpoint? direction with
  | some found =>
    rw [hfound] at h
    cases h
  | none =>
    rw [hfound] at h
    cases h
    exact ⟨by simpa [AltSetting.endpoint?] using hfound, rfl⟩

/-- A setting has an endpoint for each way if its endpoints are one for each way. -/
lemma endpoint?_of_hasPair {bulkIn bulkOut : EndpointInfo} (h : s.HasPair bulkIn bulkOut) :
    s.endpoint? .input = some bulkIn ∧ s.endpoint? .output = some bulkOut := by
  obtain ⟨hin, hout, hperm⟩ := h
  rw [List.perm_pair] at hperm
  obtain hendpoints | hendpoints := hperm <;>
  simp [AltSetting.endpoint?, hendpoints, hin, hout]

lemma hasPair_of_endpoint? (h : s.CarriesData) {bulkIn bulkOut : EndpointInfo}
    (hin : s.endpoint? .input = some bulkIn) (hout : s.endpoint? .output = some bulkOut) :
    s.HasPair bulkIn bulkOut := by
  obtain ⟨-, -, e₁, e₂, hendpoints, -⟩ := h
  have hinput : bulkIn.direction = .input := by simpa using List.find?_some hin
  have houtput : bulkOut.direction = .output := by simpa using List.find?_some hout
  have hmem := List.mem_of_find?_eq_some hin
  have hmem' := List.mem_of_find?_eq_some hout
  refine ⟨hinput, houtput, List.perm_pair.mpr ?_⟩
  rw [hendpoints, List.mem_pair] at hmem hmem'
  -- an endpoint has one direction, so the two are not the same
  obtain rfl | rfl := hmem <;> obtain rfl | rfl := hmem'
  · simp [hinput] at houtput
  · exact .inl hendpoints
  · exact .inr hendpoints
  · simp [hinput] at houtput

lemma interface_eq_ok_iff (h : s.CarriesData) {ncm : NcmInterface} : interface s = .ok ncm ↔
    ncm.interface = s.interface ∧ ncm.setting = s.setting ∧ s.HasPair ncm.bulkIn ncm.bulkOut := by
  rw [interface]
  refine ⟨?_, ?_⟩
  · intro hok
    cases hin : endpoint s .input with
    | error e =>
      rw [hin] at hok
      cases hok
    | ok bulkIn =>
      cases hout : endpoint s .output with
      | error e =>
        rw [hin, hout] at hok
        cases hok
      | ok bulkOut =>
        rw [hin, hout] at hok
        cases hok
        rw [endpoint_eq_ok_iff] at hin hout
        exact ⟨rfl, rfl, hasPair_of_endpoint? h hin hout⟩
  · obtain ⟨i, n, bulkIn, bulkOut⟩ := ncm
    rintro ⟨rfl, rfl, hpair⟩
    obtain ⟨hin, hout⟩ := endpoint?_of_hasPair hpair
    rw [← endpoint_eq_ok_iff] at hin hout
    rw [hin, hout]
    rfl

lemma interface_eq_error {e : UsbError} (h : interface s = .error e) : ∃ direction,
    (∀ e ∈ s.endpoints, e.direction ≠ direction) ∧
      e = .endpointMissing s.interface s.setting direction := by
  rw [interface] at h
  cases hin : endpoint s .input with
  | error e' =>
    rw [hin] at h
    cases h
    exact ⟨_, endpoint_eq_error hin⟩
  | ok bulkIn =>
    cases hout : endpoint s .output with
    | error e' =>
      rw [hin, hout] at h
      cases h
      exact ⟨_, endpoint_eq_error hout⟩
    | ok bulkOut =>
      rw [hin, hout] at h
      cases h

end

/-! ### Recorded operations -/

/-- What is asked of a device that is brought up. -/
inductive Operation
  | request (r : VendorRequest)
  | select (configuration : Nat)
  | readSettings (configuration : Nat)
  | claim (interface setting : Nat)
  deriving DecidableEq

/-- What an operation answers with. -/
abbrev Operation.Answer : Operation → Type
  | readSettings _ => List AltSetting
  | request _ | select _ | claim _ _ => Unit

/-- An operation and how it ended. -/
structure Performed where
  operation : Operation
  result : Except UsbError operation.Answer

/-- The error of an operation that failed. -/
def Performed.error? (p : Performed) : Option UsbError :=
  match p.result with
  | .ok _ => none
  | .error e => some e

/-- The operations alone. -/
def operations (done : List Performed) : List Operation := done.map Performed.operation

@[simp] lemma operations_append (done later : List Performed) :
    operations (done ++ later) = operations done ++ operations later :=
  List.map_append

@[simp] lemma operations_singleton (p : Performed) : operations [p] = [p.operation] := rfl

/-- The state of a device and the operations performed on it, the newest last. -/
structure Tracked (σ : Type) where
  state : σ
  done : List Performed := []

variable {σ α : Type}

/-- An operation that is recorded with its result. -/
def track (op : Operation) (x : LinkM σ op.Answer) : LinkM (Tracked σ) op.Answer :=
  ExceptT.mk fun t =>
    match x.run t.state with
    | (result, s) => (result, ⟨s, t.done ++ [⟨op, result⟩]⟩)

/-- An operation that is not recorded. -/
def untracked (x : LinkM σ α) : LinkM (Tracked σ) α :=
  ExceptT.mk fun t =>
    match x.run t.state with
    | (result, s) => (result, { t with state := s })

end Activation

open Activation

/-- The device with a record of the operations on it. -/
def ControlPort.tracked {σ : Type} (port : ControlPort σ) : ControlPort (Tracked σ) where
  configurationCount := untracked port.configurationCount
  vendorRequest r := track (.request r) (port.vendorRequest r)
  selectConfiguration c := track (.select c) (port.selectConfiguration c)
  altSettings c := track (.readSettings c) (port.altSettings c)
  claim i n := track (.claim i n) (port.claim i n)
  log line := untracked (port.log line)

/-- A device knows how many configurations it shows, and lines are written without fail. -/
structure ControlPort.Steady {σ : Type} (port : ControlPort σ) (count : σ → Nat) : Prop where
  configurationCount : ∀ s, port.configurationCount.run s = (.ok (count s), s)
  log : ∀ line s, ∃ s', (port.log line).run s = (.ok (), s')

/-- An open device is one, with the count of the descriptor that was read when it was opened. -/
lemma DeviceSession.steady_control {σ : Type} (port : UsbPort σ) :
    (control port).Steady fun st => st.1.descriptor.configurationCount where
  configurationCount _ := rfl
  log _ _ := ⟨_, rfl⟩

namespace Activation

section

variable {σ α : Type} {R : Except UsbError α → List Performed → Prop} {done : List Performed}

/-- After the given operations, recording changes neither the result nor the state, and the result and
all operations meet a condition. -/
def EndsIn (R : Except UsbError α → List Performed → Prop) (done : List Performed) (x : LinkM σ α)
    (y : LinkM (Tracked σ) α) : Prop :=
  ∀ s, ∃ result s' all, x.run s = (result, s') ∧ y.run ⟨s, done⟩ = (result, ⟨s', all⟩) ∧ R result all

lemma endsIn_pure {a : α} (h : R (.ok a) done) : EndsIn R done (pure a : LinkM σ α) (pure a) :=
  fun s => ⟨_, s, done, rfl, rfl, h⟩

lemma endsIn_throw {e : UsbError} (h : R (.error e) done) :
    EndsIn R done (throw e : LinkM σ α) (throw e) :=
  fun s => ⟨_, s, done, rfl, rfl, h⟩

/-- An operation that fails is the last, and after one that succeeds the rest follows. -/
lemma EndsIn.track (op : Operation) {x : LinkM σ op.Answer} {f : op.Answer → LinkM σ α}
    {g : op.Answer → LinkM (Tracked σ) α}
    (hfailed : ∀ e, R (.error e) (done ++ [⟨op, .error e⟩]))
    (hrest : ∀ a, EndsIn R (done ++ [⟨op, .ok a⟩]) (f a) (g a)) :
    EndsIn R done (x >>= f) (track op x >>= g) := by
  intro s
  rw [LinkM.run_bind, LinkM.run_bind, Activation.track, ExceptT.run_mk]
  cases x.run s with
  | mk result s' =>
    cases result with
    | error e => exact ⟨_, s', _, rfl, rfl, hfailed e⟩
    | ok a => exact hrest a s'

lemma EndsIn.log {x : LinkM σ Unit} {f : Unit → LinkM σ α} {g : Unit → LinkM (Tracked σ) α}
    (hx : ∀ s, ∃ s', x.run s = (.ok (), s')) (hrest : EndsIn R done (f ()) (g ())) :
    EndsIn R done (x >>= f) (untracked x >>= g) := by
  intro s
  obtain ⟨s', hs'⟩ := hx s
  rw [LinkM.run_bind, LinkM.run_bind, untracked, ExceptT.run_mk, hs']
  exact hrest s'

end

/-! ### How bringing up may end -/

/-- The requests that make a device show the network function, if it shows too few configurations. -/
def enabling (count : Nat) : List Operation :=
  if count < 5 then [.request ⟨0xC0, 69, 0, 0, 4⟩, .request ⟨0xC0, 82, 0, 3, 1⟩] else []

/-- No operation failed. -/
def AllWent (done : List Performed) : Prop := ∀ p ∈ done, p.error? = none

lemma AllWent.concat {done : List Performed} (h : AllWent done) {p : Performed} (hp : p.error? = none) :
    AllWent (done ++ [p]) := by
  rintro q hq
  obtain hq | hq := List.mem_append.mp hq
  · exact h q hq
  · rw [List.mem_singleton.mp hq, hp]

/-- The configuration is selected. -/
structure Selected (count : Nat) (done : List Performed) : Prop where
  ops : operations done = enabling count ++ [.select 5]
  went : AllWent done

/-- How bringing up a device may end, with the operations performed. -/
inductive Ending (count : Nat) : Except UsbError NcmInterface → List Performed → Prop
  | stopped {done p e} (hops : operations (done ++ [p]) <+: enabling count ++ [.select 5, .readSettings 5])
      (hwent : AllWent done) (hfailed : p.error? = some e) : Ending count (.error e) (done ++ [p])
  | barren {done} {settings : List AltSetting} (hselected : Selected count done)
      (hnone : ∀ t ∈ settings, ¬t.CarriesData) :
      Ending count (.error (.noDataInterface 5)) (done ++ [⟨.readSettings 5, .ok settings⟩])
  | claiming {done} {settings : List AltSetting} {data} (hselected : Selected count done)
      (hchosen : Chosen settings data) (result : Except UsbError Unit) :
      Ending count (result >>= fun _ => interface data)
        (done ++ [⟨.readSettings 5, .ok settings⟩] ++ [⟨.claim data.interface data.setting, result⟩])

section

variable {σ : Type} {port : ControlPort σ} {count : σ → Nat}

/-- What is done once a device shows the network function. -/
def configure (port : ControlPort σ) (serial : String) : LinkM σ NcmInterface := do
  port.log ⟨.activation, .debug, s!"{serial}: Opened -> Reconfigured"⟩
  port.selectConfiguration ncmConfiguration
  let settings ← port.altSettings ncmConfiguration
  match choose? settings with
  | none => throw (.noDataInterface ncmConfiguration)
  | some data =>
    port.claim data.interface data.setting
    port.log ⟨.activation, .debug, s!"{serial}: Reconfigured -> Claimed"⟩
    let ncm ← activate.liftExcept (interface data)
    port.log ⟨.activation, .debug, s!"{serial}: Claimed -> Ready"⟩
    port.log (readyLine serial ncm)
    return ncm

lemma activate_eq (port : ControlPort σ) (serial : String) : activate port serial = (do
    let count ← port.configurationCount
    if count < ncmConfigurationCount then
      port.log ⟨.activation, .info, s!"{serial}: {count} configurations advertised, enabling NCM"⟩
      port.vendorRequest firstRequest
      port.vendorRequest secondRequest
      configure port serial
    else
      port.log ⟨.activation, .debug, s!"{serial}: NCM configuration already present"⟩
      configure port serial) := rfl

lemma endsIn_configure {n : Nat} (hport : port.Steady count) (serial : String) {done : List Performed}
    (hops : operations done = enabling n) (hwent : AllWent done) :
    EndsIn (Ending n) done (configure port serial) (configure port.tracked serial) := by
  have hlog := hport.log
  refine EndsIn.log (hlog _) (EndsIn.track (.select 5) (fun e => ?_) fun (_ : Unit) => ?_)
  · refine .stopped ?_ hwent rfl
    rw [operations_append, hops]
    exact ⟨_, List.append_assoc ..⟩
  have hselected : Selected n (done ++ [⟨.select 5, .ok ()⟩]) :=
    ⟨by rw [operations_append, hops]; rfl, hwent.concat rfl⟩
  refine EndsIn.track (.readSettings 5) (fun e => ?_) fun (settings : List AltSetting) => ?_
  · refine .stopped ?_ hselected.went rfl
    rw [operations_append, hselected.ops, List.append_assoc]
    exact List.prefix_rfl
  cases hchoose : choose? settings with
  | none => exact endsIn_throw (.barren hselected (choose?_eq_none_iff.mp hchoose))
  | some data =>
    have hclaiming := Ending.claiming hselected (choose?_eq_some_iff.mp hchoose)
    refine EndsIn.track (.claim _ _) (fun e => hclaiming (.error e)) fun _ => EndsIn.log (hlog _) ?_
    have hclaimed := hclaiming (.ok ())
    cases hinterface : interface data with
    | error e => exact endsIn_throw (hinterface ▸ hclaimed)
    | ok ncm => exact EndsIn.log (hlog _) (EndsIn.log (hlog _) (endsIn_pure (hinterface ▸ hclaimed)))

lemma ending_activate (hport : port.Steady count) (serial : String) (s : σ) :
    ∃ result s' all, (activate port serial).run s = (result, s') ∧
      (activate port.tracked serial).run ⟨s, []⟩ = (result, ⟨s', all⟩) ∧
        Ending (count s) result all := by
  have hcount : port.tracked.configurationCount.run ⟨s, []⟩ = (.ok (count s), ⟨s, []⟩) := by
    rw [ControlPort.tracked, untracked, ExceptT.run_mk, hport.configurationCount]
  rw [activate_eq, activate_eq, LinkM.run_bind, LinkM.run_bind, hport.configurationCount, hcount]
  refine (?_ : EndsIn _ [] _ _) s
  by_cases hfew : count s < ncmConfigurationCount
  · have henabling : enabling (count s) = [.request firstRequest, .request secondRequest] := if_pos hfew
    rw [if_pos hfew, if_pos hfew]
    refine EndsIn.log (hport.log _) ?_
    refine EndsIn.track (.request firstRequest) (fun e => ?_) fun _ => ?_
    · refine .stopped ?_ (List.forall_mem_nil _) rfl
      rw [henabling]
      exact ⟨_, rfl⟩
    refine EndsIn.track (.request secondRequest) (fun e => ?_) fun _ => ?_
    · refine .stopped ?_ (AllWent.concat (List.forall_mem_nil _) rfl) rfl
      rw [henabling]
      exact ⟨_, rfl⟩
    exact endsIn_configure hport serial henabling.symm
      (AllWent.concat (AllWent.concat (List.forall_mem_nil _) rfl) rfl)
  · have henabling : enabling (count s) = [] := if_neg hfew
    rw [if_neg hfew, if_neg hfew]
    exact EndsIn.log (hport.log _) (endsIn_configure hport serial henabling.symm (List.forall_mem_nil _))

end

/-! ### The protocol -/

/-- The operations and the result of bringing up a device that shows so many configurations. -/
structure Protocol (count : Nat) (result : Except UsbError NcmInterface) (done : List Performed) :
    Prop where
  /-- The operations are these in this order, or an initial part of them. -/
  inOrder : ∃ i n, operations done <+: enabling count ++ [.select 5, .readSettings 5, .claim i n]
  /-- Nothing is asked for after an operation that failed. -/
  failureLast : ∀ p ∈ done.dropLast, p.error? = none
  /-- The error of the operation that failed is the result. -/
  failureReturned : ∀ p e, done.getLast? = some p → p.error? = some e → result = .error e
  /-- If none fails, the settings are read. -/
  settingsRead : (∀ p ∈ done, p.error? = none) →
    ∃ settings : List AltSetting, ⟨.readSettings 5, .ok settings⟩ ∈ done
  /-- The setting that is chosen among those read is claimed, and no other. -/
  claims : ∀ i n, .claim i n ∈ operations done ↔
    ∃ settings data, ⟨.readSettings 5, .ok settings⟩ ∈ done ∧ Chosen settings data ∧
      data.interface = i ∧ data.setting = n
  /-- If no setting carries data, that is the error. -/
  barren : ∀ settings : List AltSetting, ⟨.readSettings 5, .ok settings⟩ ∈ done →
    (∀ s ∈ settings, ¬s.CarriesData) → result = .error (.noDataInterface 5)
  /-- The device is up just if the claim succeeded and the setting has an endpoint for each way. -/
  ready : ∀ ncm, result = .ok ncm ↔
    ∃ settings data, ⟨.readSettings 5, .ok settings⟩ ∈ done ∧ Chosen settings data ∧
      ⟨.claim data.interface data.setting, .ok ()⟩ ∈ done ∧ ncm.interface = data.interface ∧
        ncm.setting = data.setting ∧ data.HasPair ncm.bulkIn ncm.bulkOut
  /-- If it has not, the error names a way for which there is none. -/
  oneSided : ∀ settings data, ⟨.readSettings 5, .ok settings⟩ ∈ done → Chosen settings data →
    ⟨.claim data.interface data.setting, .ok ()⟩ ∈ done →
      (¬∃ bulkIn bulkOut, data.HasPair bulkIn bulkOut) →
        ∃ direction, (∀ e ∈ data.endpoints, e.direction ≠ direction) ∧
          result = .error (.endpointMissing data.interface data.setting direction)

section

variable {count : Nat} {done : List Performed} {settings : List AltSetting} {data : AltSetting}

lemma isRequest_of_mem_enabling {op : Operation} (h : op ∈ enabling count) : ∃ r, op = .request r := by
  rw [enabling] at h
  split at h
  · obtain rfl | rfl := List.mem_pair.mp h <;> exact ⟨_, rfl⟩
  · cases h

/-- Before the settings are read, requests are made and a configuration is selected. -/
lemma early_of_mem (hops : operations done <+: enabling count ++ [.select 5]) {p : Performed}
    (hp : p ∈ done) : (∃ r, p.operation = .request r) ∨ p.operation = .select 5 := by
  have hmem : p.operation ∈ enabling count ++ [.select 5] :=
    hops.subset (List.mem_map_of_mem hp)
  obtain hmem | hmem := List.mem_append.mp hmem
  · exact .inl (isRequest_of_mem_enabling hmem)
  · exact .inr (List.mem_singleton.mp hmem)

lemma not_read_of_early (hops : operations done <+: enabling count ++ [.select 5]) {result} :
    (⟨.readSettings 5, result⟩ : Performed) ∉ done := by
  intro hmem
  obtain ⟨r, h⟩ | h := early_of_mem hops hmem <;> cases h

lemma not_claimed_of_early (hops : operations done <+: enabling count ++ [.select 5]) {i n : Nat} :
    .claim i n ∉ operations done := by
  intro hmem
  obtain ⟨p, hp, hclaim⟩ := List.mem_map.mp hmem
  obtain ⟨r, h⟩ | h := early_of_mem hops hp <;> cases hclaim.symm.trans h

lemma Selected.early (h : Selected count done) : operations done <+: enabling count ++ [.select 5] :=
  h.ops ▸ List.prefix_rfl

lemma Selected.read_mem_iff (h : Selected count done) {settings' : List AltSetting} :
    ⟨.readSettings 5, .ok settings'⟩ ∈ done ++ [(⟨.readSettings 5, .ok settings⟩ : Performed)] ↔
      settings' = settings := by
  rw [List.mem_append, List.mem_singleton, or_iff_right (not_read_of_early h.early)]
  simp

lemma protocol_of_stopped {p : Performed} {e : UsbError}
    (hops : operations (done ++ [p]) <+: enabling count ++ [.select 5, .readSettings 5])
    (hwent : AllWent done) (hfailed : p.error? = some e) :
    Protocol count (.error e) (done ++ [p]) := by
  have hearly : operations done <+: enabling count ++ [.select 5] := by
    have hops : operations done ++ [p.operation] <+:
        enabling count ++ [.select 5] ++ [.readSettings 5] := by
      rwa [List.append_assoc, ← operations_singleton, ← operations_append]
    obtain heq | hprefix := List.prefix_concat_iff.mp hops
    · exact List.append_inj_left' heq rfl ▸ List.prefix_rfl
    · exact (List.prefix_append _ _).trans hprefix
  have hread : ∀ settings : List AltSetting, ⟨.readSettings 5, .ok settings⟩ ∉ done ++ [p] := by
    intro settings hmem
    obtain hmem | hmem := List.mem_append.mp hmem
    · exact not_read_of_early hearly hmem
    · rw [← List.mem_singleton.mp hmem] at hfailed
      cases hfailed
  have hclaim : ∀ i n, .claim i n ∉ operations (done ++ [p]) := by
    intro i n hmem
    have hmem := hops.subset hmem
    obtain hmem | hmem := List.mem_append.mp hmem
    · obtain ⟨r, h⟩ := isRequest_of_mem_enabling hmem
      cases h
    · simp at hmem
  exact {
    inOrder := ⟨0, 0, hops.trans ⟨[.claim 0 0], List.append_assoc ..⟩⟩
    failureLast := by rwa [List.dropLast_concat]
    failureReturned := by
      intro q e' hlast hfailed'
      rw [List.getLast?_concat] at hlast
      cases hlast
      rw [hfailed] at hfailed'
      cases hfailed'
      rfl
    settingsRead := by
      intro hwent
      have hp := hwent p (by simp)
      rw [hfailed] at hp
      cases hp
    claims := fun i n => iff_of_false (hclaim i n) fun ⟨settings, _, hmem, _⟩ => hread settings hmem
    barren := fun settings hmem => absurd hmem (hread settings)
    ready := fun ncm => iff_of_false nofun fun ⟨settings, _, hmem, _⟩ => hread settings hmem
    oneSided := fun settings _ hmem => absurd hmem (hread settings) }

lemma protocol_of_barren (hselected : Selected count done) (hnone : ∀ t ∈ settings, ¬t.CarriesData) :
    Protocol count (.error (.noDataInterface 5)) (done ++ [⟨.readSettings 5, .ok settings⟩]) := by
  have hchosen : ∀ settings' data, ⟨.readSettings 5, .ok settings'⟩ ∈ done ++
      [(⟨.readSettings 5, .ok settings⟩ : Performed)] → ¬Chosen settings' data := by
    intro settings' data hmem hchosen
    rw [hselected.read_mem_iff] at hmem
    subst hmem
    exact hnone data hchosen.mem hchosen.carriesData
  have hclaim : ∀ i n, .claim i n ∉ operations (done ++ [⟨.readSettings 5, .ok settings⟩]) := by
    intro i n hmem
    rw [operations_append, operations_singleton, List.mem_append, List.mem_singleton] at hmem
    exact hmem.elim (not_claimed_of_early hselected.early) nofun
  exact {
    inOrder := ⟨0, 0, by
      rw [operations_append, hselected.ops, List.append_assoc]
      exact ⟨[.claim 0 0], List.append_assoc ..⟩⟩
    failureLast := by
      rw [List.dropLast_concat]
      exact hselected.went
    failureReturned := by
      intro p e hlast hfailed
      rw [List.getLast?_concat] at hlast
      cases hlast
      cases hfailed
    settingsRead := fun _ => ⟨settings, by simp⟩
    claims := fun i n => iff_of_false (hclaim i n) fun ⟨settings', data, hmem, h, _⟩ =>
      hchosen settings' data hmem h
    barren := fun _ _ _ => rfl
    ready := fun ncm => iff_of_false nofun fun ⟨settings', data, hmem, h, _⟩ =>
      hchosen settings' data hmem h
    oneSided := fun settings' data hmem h => absurd h (hchosen settings' data hmem) }

lemma protocol_of_claiming (hselected : Selected count done) (hchosen : Chosen settings data)
    (result : Except UsbError Unit) :
    Protocol count (result >>= fun _ => interface data) (done ++ [⟨.readSettings 5, .ok settings⟩] ++
      [⟨.claim data.interface data.setting, result⟩]) := by
  have hread : ∀ settings', ⟨.readSettings 5, .ok settings'⟩ ∈ done ++
      [(⟨.readSettings 5, .ok settings⟩ : Performed)] ++ [⟨.claim data.interface data.setting, result⟩] ↔
        settings' = settings := by
    intro settings'
    rw [List.mem_append, hselected.read_mem_iff]
    simp
  have hclaim : ⟨.claim data.interface data.setting, .ok ()⟩ ∈ done ++
      [(⟨.readSettings 5, .ok settings⟩ : Performed)] ++ [⟨.claim data.interface data.setting, result⟩] →
        result = .ok () := by
    intro hmem
    rw [List.mem_append, List.mem_append, or_assoc] at hmem
    obtain hmem | hmem | hmem := hmem
    · exact absurd (List.mem_map_of_mem hmem) (not_claimed_of_early hselected.early)
    · cases List.mem_singleton.mp hmem
    · cases List.mem_singleton.mp hmem
      rfl
  exact {
    inOrder := ⟨data.interface, data.setting, by
      rw [operations_append, operations_append, hselected.ops, List.append_assoc, List.append_assoc]
      exact List.prefix_rfl⟩
    failureLast := by
      rw [List.dropLast_concat]
      exact hselected.went.concat rfl
    failureReturned := by
      intro p e hlast hfailed
      rw [List.getLast?_concat] at hlast
      cases hlast
      cases result with
      | error e' =>
        cases hfailed
        rfl
      | ok _ => cases hfailed
    settingsRead := fun _ => ⟨settings, (hread settings).mpr rfl⟩
    claims := by
      intro i n
      rw [operations_append, operations_append, List.mem_append, List.mem_append,
        or_iff_right (not_or_intro (not_claimed_of_early hselected.early) (by simp))]
      refine ⟨?_, ?_⟩
      · intro hmem
        cases List.mem_singleton.mp hmem
        exact ⟨settings, data, (hread settings).mpr rfl, hchosen, rfl, rfl⟩
      · rintro ⟨settings', data', hmem, hchosen', rfl, rfl⟩
        cases (hread settings').mp hmem
        cases hchosen.unique hchosen'
        exact List.mem_singleton_self _
    barren := by
      intro settings' hmem hnone
      cases (hread settings').mp hmem
      exact absurd hchosen.carriesData (hnone data hchosen.mem)
    ready := by
      intro ncm
      refine ⟨?_, ?_⟩
      · intro hok
        cases result with
        | error e => cases hok
        | ok _ =>
          obtain hncm := (interface_eq_ok_iff hchosen.carriesData).mp hok
          exact ⟨settings, data, (hread settings).mpr rfl, hchosen, by simp, hncm⟩
      · rintro ⟨settings', data', hmem, hchosen', hclaimed, hncm⟩
        cases (hread settings').mp hmem
        cases hchosen.unique hchosen'
        cases hclaim hclaimed
        exact (interface_eq_ok_iff hchosen.carriesData).mpr hncm
    oneSided := by
      intro settings' data' hmem hchosen' hclaimed hpair
      cases (hread settings').mp hmem
      cases hchosen.unique hchosen'
      cases hclaim hclaimed
      cases hinterface : interface data with
      | ok ncm =>
        obtain ⟨-, -, hncm⟩ := (interface_eq_ok_iff hchosen.carriesData).mp hinterface
        exact absurd ⟨_, _, hncm⟩ hpair
      | error e =>
        obtain ⟨direction, hmissing, rfl⟩ := interface_eq_error hinterface
        exact ⟨direction, hmissing, rfl⟩ }

lemma Ending.protocol {result : Except UsbError NcmInterface} (h : Ending count result done) :
    Protocol count result done := by
  cases h with
  | stopped hops hwent hfailed => exact protocol_of_stopped hops hwent hfailed
  | barren hselected hnone => exact protocol_of_barren hselected hnone
  | claiming hselected hchosen result => exact protocol_of_claiming hselected hchosen result

end

end Activation

/-! ### Bringing up a device -/

/-- Bringing up a device follows the protocol, whatever the device answers and whichever operation fails;
recording the operations changes nothing. -/
theorem activation_follows_the_protocol {σ : Type} (port : ControlPort σ) (count : σ → Nat)
    (hport : port.Steady count) (serial : String) (s : σ) :
    ∃ result s' done, (activate port serial).run s = (result, s') ∧
      (activate port.tracked serial).run ⟨s, []⟩ = (result, ⟨s', done⟩) ∧
        Protocol (count s) result done := by
  obtain ⟨result, s', done, hrun, htracked, hending⟩ := ending_activate hport serial s
  exact ⟨result, s', done, hrun, htracked, hending.protocol⟩

/-- A device that shows four configurations and some settings, and does all that is asked of it. -/
def willingPort (settings : List AltSetting) : ControlPort Unit where
  configurationCount := pure 4
  vendorRequest _ := pure ()
  selectConfiguration _ := pure ()
  altSettings _ := pure settings
  claim _ _ := pure ()
  log _ := pure ()

/-- The setting at the usual place has an endpoint that is not bulk; another one carries data. -/
def oddSettings : List AltSetting :=
  [⟨5, 1, 10, 0, [⟨0x81, .input, false, 8⟩, ⟨0x02, .output, true, 512⟩]⟩,
    ⟨3, 2, 10, 0, [⟨0x02, .output, true, 512⟩, ⟨0x81, .input, true, 512⟩]⟩]

/-- Such a device is enabled, the other setting claimed, and its endpoints told apart. -/
theorem odd_device_comes_up :
    let ncm : NcmInterface := ⟨3, 2, ⟨0x81, .input, true, 512⟩, ⟨0x02, .output, true, 512⟩⟩
    (willingPort oddSettings).Steady (fun _ => 4) ∧
      ∃ done, (activate (willingPort oddSettings).tracked "S1").run ⟨(), []⟩ = (.ok ncm, ⟨(), done⟩) ∧
        operations done = [.request ⟨0xC0, 69, 0, 0, 4⟩, .request ⟨0xC0, 82, 0, 3, 1⟩, .select 5,
          .readSettings 5, .claim 3 2] ∧ Protocol 4 (.ok ncm) done := by
  intro ncm
  have hsteady : (willingPort oddSettings).Steady fun _ => 4 := ⟨fun _ => rfl, fun _ s => ⟨s, rfl⟩⟩
  obtain ⟨result, s', done, -, hrun, hprotocol⟩ := activation_follows_the_protocol _ _ hsteady "S1" ()
  cases hrun
  exact ⟨hsteady, _, rfl, rfl, hprotocol⟩

end NcmBridge
