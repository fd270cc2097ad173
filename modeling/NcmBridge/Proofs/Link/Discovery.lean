import Mathlib.Data.List.Basic
import Mathlib.Data.List.DropRight
import Mathlib.Data.List.Nodup
import Mathlib.Tactic.Lemma
import NcmBridge.Host.Basic
import NcmBridge.Link.Discovery
import NcmBridge.Proofs.Text

/-!
# Which serials a scanner remembers

A scan meets the attached devices one after another. What each of them answers makes up a sighting, and
the serials that are remembered depend on the sightings of all scans so far: the serial at a place is the
first that was read there since a scan found no matching device at that place. Scans that fail do not
count.
-/

namespace NcmBridge

/-! ### Overheard calls -/

/-- A call on a device and what it was answered with. -/
structure Heard where
  ref : DeviceRef
  call : DeviceCall
  answer : Except UsbFault call.Reply

/-- The state of a bus and the calls on its devices, the newest last. -/
structure Overheard (σ : Type) where
  state : σ
  heard : List Heard := []

/-- The bus with a record of the calls and their answers. -/
def UsbPort.overheard {σ : Type} (port : UsbPort σ) : UsbPort (Overheard σ) where
  enumerate o :=
    let (refs, s) := port.enumerate o.state
    (refs, { o with state := s })
  call ref c o :=
    let (answer, s) := port.call ref c o.state
    (answer, ⟨s, o.heard ++ [⟨ref, c, answer⟩]⟩)
  log line o := { o with state := port.log line o.state }

/-- The place of a device on the bus. -/
def DeviceRef.place (ref : DeviceRef) : Nat × Nat := (ref.bus, ref.address)

/-! ### Sightings -/

/-- How the serial of a device was read. -/
inductive SerialReading
  | notTried
  | notOpened (f : UsbFault)
  | tried (serial : Except UsbFault String) (closed : Except UsbFault Unit)

namespace SerialReading

/-- The calls that a reading consists of. -/
def heard (ref : DeviceRef) : SerialReading → List Heard
  | notTried => []
  | notOpened f => [⟨ref, .openHandle, .error f⟩]
  | tried serial closed =>
    [⟨ref, .openHandle, .ok ()⟩, ⟨ref, .readSerial, serial⟩, ⟨ref, .closeHandle, closed⟩]

/-- The serial that was read, cleaned. -/
def serial? : SerialReading → Option String
  | tried (.ok serial) _ => some (Scanner.cleanSerial serial)
  | _ => none

end SerialReading

/-- What a scan learns about an attached device. -/
structure Sighting where
  ref : DeviceRef
  descriptor : Except UsbFault DeviceDescriptor
  reading : SerialReading

/-- The serials by place, as a scanner remembers them. -/
abbrev SerialCache := List ((Nat × Nat) × String)

namespace Sighting

/-- The calls that a sighting consists of. -/
def heard (v : Sighting) : List Heard :=
  ⟨v.ref, .descriptor, v.descriptor⟩ :: v.reading.heard v.ref

/-- The device has a descriptor, and is one of those looked for. -/
def isWanted (wanted : DeviceDescriptor → Bool) (v : Sighting) : Bool :=
  match v.descriptor with
  | .ok d => wanted d
  | .error _ => false

/-- The serial that was read, with its place. -/
def learned? (v : Sighting) : Option ((Nat × Nat) × String) :=
  v.reading.serial?.map fun serial => (v.ref.place, serial)

/-- The serial that was read, if the device is at this place. -/
def readAt (place : Nat × Nat) (v : Sighting) : Option String :=
  if v.ref.place = place then v.reading.serial? else none

/-- What a scan reports of a device: its place, what its descriptor says, and the serial remembered for
its place. A device that is not looked for, or has no serial, is not reported. -/
def info? (wanted : DeviceDescriptor → Bool) (serials : SerialCache) (v : Sighting) :
    Option DeviceInfo :=
  match v.descriptor with
  | .ok d =>
    if wanted d then
      (serials.lookup v.ref.place).map fun serial =>
        ⟨serial, v.ref.bus, v.ref.address, d.vendorId, d.productId, d.configurationCount⟩
    else none
  | .error _ => none

section

variable {wanted : DeviceDescriptor → Bool} {v : Sighting} {serials : SerialCache}

/-- What is reported of a device depends on the serial at its place only. -/
lemma info?_congr {serials' : SerialCache}
    (h : serials.lookup v.ref.place = serials'.lookup v.ref.place) :
    v.info? wanted serials = v.info? wanted serials' := by
  rw [info?, info?, h]

lemma info?_of_not_wanted (h : v.isWanted wanted = false) : v.info? wanted serials = none := by
  rw [isWanted] at h
  rw [info?]
  cases hdescriptor : v.descriptor with
  | error f => rfl
  | ok d =>
    rw [hdescriptor] at h
    exact if_neg (Bool.eq_false_iff.mp h)

end

end Sighting

namespace Scanner

/-- Zeros are taken away at the ends of a serial, and then blanks at the ends of what is left. -/
lemma cleanSerial_eq_iff {raw serial : String} : cleanSerial raw = serial ↔
    ∃ zeros blanks blanks' zeros' : List Char,
      raw.toList = zeros ++ ((blanks ++ (serial.toList ++ blanks')) ++ zeros') ∧
      (∀ c ∈ zeros ++ zeros', c = '\x00') ∧ (∀ c ∈ blanks ++ blanks', Text.isBlank c = true) ∧
      Text.NotAtEnds (· = '\x00') (blanks ++ (serial.toList ++ blanks')) ∧
      Text.NotAtEnds Text.isBlank serial.toList := by
  have hlist : cleanSerial raw = serial ↔
      Text.stripEnds Text.isBlank (Text.stripEnds (· = '\x00') raw.toList) = serial.toList := by
    rw [cleanSerial, Text.trim, String.toList_ofList, Text.trimEnds, ← String.toList_inj,
      String.toList_ofList]
  rw [hlist, Text.stripEnds_eq_iff]
  simp only [Text.stripEnds_eq_iff, List.forall_mem_append, decide_eq_true_eq]
  constructor
  · rintro ⟨blanks, blanks', ⟨zeros, zeros', hraw, hzeros, hzeros', hmiddle⟩, hblanks, hblanks', hends⟩
    exact ⟨zeros, blanks, blanks', zeros', hraw, ⟨hzeros, hzeros'⟩, ⟨hblanks, hblanks'⟩, hmiddle, hends⟩
  · rintro ⟨zeros, blanks, blanks', zeros', hraw, ⟨hzeros, hzeros'⟩, ⟨hblanks, hblanks'⟩, hmiddle, hends⟩
    exact ⟨blanks, blanks', ⟨zeros, zeros', hraw, hzeros, hzeros', hmiddle⟩, hblanks, hblanks', hends⟩

/-- The scanner with one more serial remembered, if there is one. -/
def remember (c : Scanner) : Option ((Nat × Nat) × String) → Scanner
  | none => c
  | some entry => { c with serials := c.serials ++ [entry] }

section

variable {σ : Type} (port : UsbPort σ) (c : Scanner) (ref : DeviceRef) (s : σ) (heard : List Heard)

/-! ### One device -/

lemma overheard_call {call : DeviceCall} {answer : Except UsbFault call.Reply} {s s' : σ}
    (h : port.call ref call s = (answer, s')) : port.overheard.call ref call ⟨s, heard⟩ =
      (answer, ⟨s', heard ++ [⟨ref, call, answer⟩]⟩) := by
  simp only [UsbPort.overheard, h]

/-- Reading a serial asks for nothing once the device cannot be opened. -/
lemma readSerial_eq : ∃ (reading : SerialReading) (result : Except UsbFault String) (s' : σ),
    readSerial port ref s = (result, s') ∧
      readSerial port.overheard ref ⟨s, heard⟩ = (result, ⟨s', heard ++ reading.heard ref⟩) ∧
        reading ≠ .notTried ∧ reading.serial? = result.toOption := by
  rw [readSerial, readSerial]
  cases hopen : port.call ref .openHandle s with
  | mk opened s₁ =>
    rw [overheard_call port ref heard hopen]
    cases opened with
    | error f => exact ⟨.notOpened f, .error f, s₁, rfl, rfl, nofun, rfl⟩
    | ok _ =>
      cases hread : port.call ref .readSerial s₁ with
      | mk serial s₂ =>
        cases hclose : port.call ref .closeHandle s₂ with
        | mk closed s₃ =>
          refine ⟨.tried serial closed, Except.map cleanSerial serial, s₃, ?_, ?_, nofun, ?_⟩
          · simp only [hread, hclose]
          · simp only [overheard_call _ _ _ hread, overheard_call _ _ _ hclose, SerialReading.heard,
              List.append_assoc, List.cons_append, List.nil_append]
            rfl
          · cases serial <;> rfl

/-- A serial is read just if none is remembered, and then it is remembered if it could be read. -/
lemma serialOf_eq (d : DeviceDescriptor) : ∃ (reading : SerialReading) (found : Option String)
    (c' : Scanner) (s' : σ), serialOf port c ref d s = (found, c', s') ∧
      serialOf port.overheard c ref d ⟨s, heard⟩ = (found, c', ⟨s', heard ++ reading.heard ref⟩) ∧
        found = c'.serials.lookup ref.place ∧
          c' = c.remember (reading.serial?.map fun serial => (ref.place, serial)) ∧
            (reading ≠ .notTried ↔ c.serials.lookup ref.place = none) := by
  rw [serialOf, serialOf]
  cases hlookup : c.serials.lookup (ref.bus, ref.address) with
  | some serial =>
    refine ⟨.notTried, some serial, c, s, rfl, ?_, hlookup.symm, rfl, iff_of_false (· rfl) ?_⟩
    · rw [SerialReading.heard, List.append_nil]
    · rw [DeviceRef.place, hlookup]
      exact Option.some_ne_none serial
  | none =>
    obtain ⟨reading, result, s', hread, hread', htried, hserial⟩ := readSerial_eq port ref s heard
    rw [hread, hread']
    cases result with
    | error f =>
      exact ⟨reading, none, c, _, rfl, rfl, hlookup.symm, hserial ▸ rfl, iff_of_true htried hlookup⟩
    | ok serial =>
      refine ⟨reading, some serial, _, s', rfl, rfl, ?_, hserial ▸ rfl, iff_of_true htried hlookup⟩
      rw [List.lookup_append, DeviceRef.place, hlookup, Option.none_or, List.lookup_cons_self]

end

/-- What a scan has found after one more sighting. -/
def Found.add (wanted : DeviceDescriptor → Bool) (serials : SerialCache) (found : Found) (v : Sighting) :
    Found where
  devices := found.devices ++ (v.info? wanted serials).toList
  seen := if v.isWanted wanted then v.ref.place :: found.seen else found.seen

section

variable {wanted : DeviceDescriptor → Bool} {serials : SerialCache} {found : Found}

lemma Found.add_of_not_wanted {v : Sighting} (h : v.isWanted wanted = false) :
    found.add wanted serials v = found := by
  rw [add, Sighting.info?_of_not_wanted h, h, Option.toList_none, List.append_nil]
  rfl

lemma Found.add_of_wanted {ref : DeviceRef} {d : DeviceDescriptor} {reading : SerialReading}
    (h : wanted d = true) : found.add wanted serials ⟨ref, .ok d, reading⟩ =
      ⟨found.devices ++ ((serials.lookup ref.place).map fun serial =>
        ⟨serial, ref.bus, ref.address, d.vendorId, d.productId, d.configurationCount⟩).toList,
        ref.place :: found.seen⟩ := by
  rw [add, Sighting.info?, Sighting.isWanted]
  simp only [h, if_true]

end

/-- What a visit makes of a sighting: the serial is read just if the device is wanted and none is
remembered, and it is remembered if it could be read. -/
structure Meets (c : Scanner) (found : Found) (v : Sighting) (c' : Scanner) (found' : Found) : Prop where
  found_eq : found' = found.add c.isMatch c'.serials v
  remember_eq : c' = c.remember v.learned?
  tried : v.reading ≠ .notTried ↔ v.isWanted c.isMatch = true ∧ c.serials.lookup v.ref.place = none

section

variable {σ : Type} (port : UsbPort σ) (c : Scanner) (ref : DeviceRef) (s : σ) (heard : List Heard)

lemma visit_eq (found : Found) : ∃ (v : Sighting) (c' : Scanner) (found' : Found) (s' : σ),
    visit port c found ref s = (c', found', s') ∧
      visit port.overheard c found ref ⟨s, heard⟩ = (c', found', ⟨s', heard ++ v.heard⟩) ∧
        v.ref = ref ∧ Meets c found v c' found' := by
  rw [visit, visit]
  cases hdescriptor : port.call ref .descriptor s with
  | mk descriptor s₁ =>
    rw [overheard_call port ref heard hdescriptor]
    cases descriptor with
    | error f =>
      have hunwanted : Sighting.isWanted c.isMatch ⟨ref, .error f, .notTried⟩ = false := rfl
      refine ⟨⟨ref, .error f, .notTried⟩, c, found, _, rfl, rfl, rfl, ⟨?_, rfl, ?_⟩⟩
      · rw [Found.add_of_not_wanted hunwanted]
      · exact iff_of_false (· rfl) nofun
    | ok d =>
      cases hmatch : c.isMatch d with
      | false =>
        have hunwanted : Sighting.isWanted c.isMatch ⟨ref, .ok d, .notTried⟩ = false := hmatch
        refine ⟨⟨ref, .ok d, .notTried⟩, c, found, s₁, ?_, ?_, rfl, ⟨?_, rfl, ?_⟩⟩
        · simp only [hmatch, Bool.not_false, if_true]
        · simp only [hmatch, Bool.not_false, if_true]
          rfl
        · rw [Found.add_of_not_wanted hunwanted]
        · exact iff_of_false (· rfl) fun h => Bool.false_ne_true (hunwanted.symm.trans h.1)
      | true =>
        obtain ⟨reading, serial?, c', s₂, hserial, hserial', hlookup, hremember, htried⟩ :=
          serialOf_eq port c ref s₁ (heard ++ [⟨ref, .descriptor, .ok d⟩]) d
        simp only [hmatch, Bool.not_true, Bool.false_eq_true, if_false, hserial, hserial',
          List.append_assoc]
        have htried : reading ≠ .notTried ↔ Sighting.isWanted c.isMatch ⟨ref, .ok d, reading⟩ = true ∧
            c.serials.lookup ref.place = none := by
          rw [htried]
          exact (and_iff_right hmatch).symm
        cases serial? with
        | none =>
          refine ⟨⟨ref, .ok d, reading⟩, c', _, s₂, rfl, rfl, rfl, ⟨?_, hremember, htried⟩⟩
          rw [Found.add_of_wanted hmatch, ← hlookup, Option.map_none, Option.toList_none,
            List.append_nil]
          rfl
        | some serial =>
          refine ⟨⟨ref, .ok d, reading⟩, c', _, s₂, rfl, rfl, rfl, ⟨?_, hremember, htried⟩⟩
          rw [Found.add_of_wanted hmatch, ← hlookup]
          rfl

end

/-! ### All attached devices -/

section

variable {σ : Type} {c : Scanner} {key : Nat × Nat} {v : Sighting} {shown : List Sighting}

@[simp] lemma isMatch_remember (learned? : Option ((Nat × Nat) × String)) :
    (c.remember learned?).isMatch = c.isMatch := by
  cases learned? <;> rfl

@[simp] lemma serials_remember (learned? : Option ((Nat × Nat) × String)) :
    (c.remember learned?).serials = c.serials ++ learned?.toList := by
  cases learned? with
  | none => exact (List.append_nil _).symm
  | some entry => rfl

lemma lookup_entries :
    (shown.filterMap Sighting.learned?).lookup key = shown.findSome? (Sighting.readAt key) := by
  induction shown with
  | nil => rfl
  | cons v shown ih =>
    rw [List.filterMap_cons, List.findSome?_cons, Sighting.learned?, Sighting.readAt]
    cases v.reading.serial? with
    | none => simpa using ih
    | some serial =>
      simp only [Option.map_some, List.lookup_cons, ih]
      by_cases hplace : v.ref.place = key
      · simp [hplace]
      · rw [beq_eq_false_iff_ne.mpr (Ne.symm hplace), if_neg hplace]

/-- Nothing is read at a place where no device was seen. -/
lemma lookup_entries_of_notMem (h : key ∉ shown.map fun v => v.ref.place) :
    (shown.filterMap Sighting.learned?).lookup key = none := by
  rw [lookup_entries, List.findSome?_eq_none_iff]
  intro v hv
  rw [Sighting.readAt, if_neg]
  rintro rfl
  exact h (List.mem_map_of_mem hv)

/-- A wanted device was seen at a place. -/
def showsAt (wanted : DeviceDescriptor → Bool) (key : Nat × Nat) (shown : List Sighting) : Bool :=
  shown.any fun v => v.isWanted wanted && v.ref.place == key

lemma showsAt_iff {wanted : DeviceDescriptor → Bool} :
    showsAt wanted key shown = true ↔ ∃ v ∈ shown, v.isWanted wanted = true ∧ v.ref.place = key := by
  simp [showsAt]

/-- What visits make of sightings at places that are all different. -/
structure MeetsAll (c : Scanner) (found : Found) (shown : List Sighting) (c' : Scanner)
    (found' : Found) : Prop where
  devices : found'.devices = found.devices ++ shown.filterMap (·.info? c.isMatch c'.serials)
  seen : ∀ key, key ∈ found'.seen ↔ key ∈ found.seen ∨ showsAt c.isMatch key shown = true
  serials : c' = { c with serials := c.serials ++ shown.filterMap Sighting.learned? }
  tried : ∀ v ∈ shown, v.reading ≠ .notTried ↔
    v.isWanted c.isMatch = true ∧ c.serials.lookup v.ref.place = none

lemma filterMap_cons_eq {α β : Type} (f : α → Option β) (a : α) (l : List α) :
    (a :: l).filterMap f = (f a).toList ++ l.filterMap f := by
  rw [List.filterMap_cons]
  cases f a <;> rfl

section

variable {c₁ c' : Scanner} {found found₁ found' : Found}

/-- A visit changes what is remembered at the place of the device only. -/
lemma Meets.lookup_eq (h : Meets c found v c₁ found₁) (hplace : key ≠ v.ref.place) :
    c₁.serials.lookup key = c.serials.lookup key := by
  rw [h.remember_eq, serials_remember, List.lookup_append, Sighting.learned?]
  cases v.reading.serial? with
  | none => exact Option.or_none
  | some serial =>
    simp [List.lookup_cons, beq_eq_false_iff_ne.mpr hplace]

lemma MeetsAll.cons (hv : Meets c found v c₁ found₁) (hshown : MeetsAll c₁ found₁ shown c' found')
    (hplace : v.ref.place ∉ shown.map fun v => v.ref.place) :
    MeetsAll c found (v :: shown) c' found' := by
  have hmatch : c₁.isMatch = c.isMatch := by rw [hv.remember_eq, isMatch_remember]
  have hlookup : c₁.serials.lookup v.ref.place = c'.serials.lookup v.ref.place := by
    rw [hshown.serials, List.lookup_append, lookup_entries_of_notMem hplace, Option.or_none]
  refine ⟨?_, ?_, ?_, ?_⟩
  · rw [hshown.devices, hv.found_eq, Found.add, Sighting.info?_congr hlookup, hmatch, List.append_assoc,
      ← filterMap_cons_eq]
  · intro key
    rw [hshown.seen, hv.found_eq, hmatch, Found.add, showsAt, showsAt, List.any_cons]
    cases v.isWanted c.isMatch with
    | false => simp
    | true =>
      simp only [if_true, List.mem_cons, Bool.true_and, Bool.or_eq_true, beq_iff_eq]
      rw [eq_comm, or_assoc, or_left_comm]
  · rw [hshown.serials, hv.remember_eq, filterMap_cons_eq, ← List.append_assoc]
    cases v.learned? with
    | none => rw [Option.toList_none, List.append_nil, remember]
    | some entry => rfl
  · intro w hw
    obtain rfl | hw := List.mem_cons.mp hw
    · exact hv.tried
    · have hne : w.ref.place ≠ v.ref.place := by
        intro heq
        exact hplace (heq ▸ List.mem_map_of_mem hw)
      rw [hshown.tried w hw, hmatch, hv.lookup_eq hne]

end

/-- Visits to devices at places that are all different make up sightings of them. -/
lemma visitAll_eq (port : UsbPort σ) (refs : List DeviceRef)
    (hdistinct : (refs.map DeviceRef.place).Nodup) (c : Scanner) (found : Found) (s : σ)
    (heard : List Heard) : ∃ (shown : List Sighting) (c' : Scanner) (found' : Found) (s' : σ),
      visitAll port c found refs s = (c', found', s') ∧
        visitAll port.overheard c found refs ⟨s, heard⟩ =
          (c', found', ⟨s', heard ++ shown.flatMap Sighting.heard⟩) ∧
          shown.map Sighting.ref = refs ∧ MeetsAll c found shown c' found' := by
  induction refs generalizing c found s heard with
  | nil =>
    refine ⟨[], c, found, s, rfl, ?_, rfl, ⟨?_, ?_, ?_, fun _ hv => absurd hv List.not_mem_nil⟩⟩
    · rw [List.flatMap_nil, List.append_nil]
      rfl
    · rw [List.filterMap_nil, List.append_nil]
    · simp [showsAt]
    · simp
  | cons ref refs ih =>
    obtain ⟨v, c₁, found₁, s₁, hvisit, hvisit', rfl, hv⟩ := visit_eq port c ref s heard found
    obtain ⟨hplace, hdistinct⟩ := List.nodup_cons.mp hdistinct
    obtain ⟨shown, c', found', s', hall, hall', rfl, hshown⟩ :=
      ih hdistinct c₁ found₁ s₁ (heard ++ v.heard)
    refine ⟨v :: shown, c', found', s', ?_, ?_, rfl, MeetsAll.cons hv hshown ?_⟩
    · rw [visitAll, hvisit]
      exact hall
    · rw [visitAll, hvisit', List.flatMap_cons, ← List.append_assoc]
      exact hall'
    · rwa [List.map_map] at hplace

end

/-! ### One scan -/

/-- What a scan meets: a failure, or sightings in the order of the enumeration. -/
abbrev Enumeration := Except UsbFault (List Sighting)

/-- The sightings of an enumeration; one that fails has none. -/
def sightings : Enumeration → List Sighting
  | .ok shown => shown
  | .error _ => []

section

variable {σ : Type}

/-- The devices that are listed are at places that are all different. -/
def PlacesDiffer (port : UsbPort σ) (s : σ) : Prop :=
  ∀ refs, (port.enumerate s).1 = .ok refs → (refs.map DeviceRef.place).Nodup

/-- A scan meets an enumeration: its devices are listed, and its calls made and answered. -/
structure Sees (port : UsbPort σ) (c : Scanner) (s : σ) (e : Enumeration) : Prop where
  listed : (port.enumerate s).1 = e.map (List.map Sighting.ref)
  heard : (scan port.overheard c ⟨s, []⟩).2.2.heard = (sightings e).flatMap Sighting.heard

/-- The first call of what follows a sighting is for a descriptor. -/
lemma call_of_heard_cons {shown : List Sighting} {h : Heard} {rest : List Heard}
    (heq : shown.flatMap Sighting.heard = h :: rest) : h.call = .descriptor := by
  cases shown with
  | nil => cases heq
  | cons v shown =>
    rw [List.flatMap_cons, Sighting.heard, List.cons_append] at heq
    rw [← (List.cons.inj heq).1]

/-- The calls tell what was seen. -/
lemma heard_injective : ∀ {shown shown' : List Sighting},
    shown.flatMap Sighting.heard = shown'.flatMap Sighting.heard → shown = shown'
  | [], [], _ => rfl
  | [], v :: shown', h => by cases h
  | v :: shown, [], h => by cases h
  | ⟨ref, descriptor, reading⟩ :: shown, ⟨ref', descriptor', reading'⟩ :: shown', h => by
    rw [List.flatMap_cons, List.flatMap_cons, Sighting.heard, Sighting.heard, List.cons_append,
      List.cons_append] at h
    obtain ⟨hfirst, hrest⟩ := List.cons.inj h
    cases hfirst
    suffices hreading : reading = reading' by
      subst hreading
      rw [heard_injective (List.append_cancel_left hrest)]
    match reading, reading', hrest with
    | .notTried, .notTried, _ => rfl
    | .notTried, .notOpened f, hrest => cases call_of_heard_cons hrest
    | .notTried, .tried serial closed, hrest => cases call_of_heard_cons hrest
    | .notOpened f, .notTried, hrest => cases call_of_heard_cons hrest.symm
    | .tried serial closed, .notTried, hrest => cases call_of_heard_cons hrest.symm
    | .notOpened f, .notOpened f', hrest =>
      cases List.append_inj_left hrest rfl
      rfl
    | .notOpened f, .tried serial closed, hrest => cases hrest
    | .tried serial closed, .notOpened f, hrest => cases hrest
    | .tried serial closed, .tried serial' closed', hrest =>
      cases List.append_inj_left hrest rfl
      rfl

end

section

variable {c : Scanner} {key : Nat × Nat} {v : Sighting} {shown : List Sighting}

lemma lookup_filter_keys (keep : Nat × Nat → Bool) (serials : SerialCache) :
    (serials.filter fun entry => keep entry.1).lookup key =
      if keep key then serials.lookup key else none := by
  induction serials with
  | nil => simp
  | cons entry serials ih =>
    obtain ⟨place, serial⟩ := entry
    by_cases hplace : key = place
    · subst hplace
      cases hkeep : keep key with
      | false => simpa [List.filter_cons, hkeep] using ih
      | true => simp [hkeep]
    · have hne : (key == place) = false := beq_eq_false_iff_ne.mpr hplace
      cases hkeep : keep place with
      | false => simpa [List.filter_cons, hkeep, List.lookup_cons, hne] using ih
      | true => simpa [List.filter_cons, hkeep, List.lookup_cons, hne] using ih

/-- Where a serial was read, reading was tried. -/
lemma tried_of_learned? {entry : (Nat × Nat) × String} (h : v.learned? = some entry) :
    v.reading ≠ .notTried ∧ entry.1 = v.ref.place := by
  rw [Sighting.learned?] at h
  obtain ⟨serial, hserial, rfl⟩ := Option.map_eq_some_iff.mp h
  refine ⟨?_, rfl⟩
  intro hreading
  rw [hreading] at hserial
  cases hserial

lemma keys_entries_sublist :
    ((shown.filterMap Sighting.learned?).map Prod.fst).Sublist (shown.map fun v => v.ref.place) := by
  induction shown with
  | nil => exact List.Sublist.slnil
  | cons v shown ih =>
    rw [filterMap_cons_eq, List.map_append, List.map_cons]
    cases hentry : v.learned? with
    | none => exact ih.cons _
    | some entry =>
      rw [← (tried_of_learned? hentry).2]
      exact ih.cons_cons _

/-- The places of what is remembered are all different. -/
def KeysDiffer (c : Scanner) : Prop := (c.serials.map Prod.fst).Nodup

lemma MeetsAll.keysDiffer {c' : Scanner} {found found' : Found} (h : MeetsAll c found shown c' found')
    (hplaces : (shown.map fun v => v.ref.place).Nodup) (hkeys : KeysDiffer c) : KeysDiffer c' := by
  rw [KeysDiffer, h.serials, List.map_append]
  refine List.Nodup.append hkeys (hplaces.sublist keys_entries_sublist) ?_
  -- a serial is read only where none is remembered
  intro key hmem hmem'
  obtain ⟨entry, hentry, rfl⟩ := List.mem_map.mp hmem'
  obtain ⟨v, hv, hv'⟩ := List.mem_filterMap.mp hentry
  obtain ⟨htried, hplace⟩ := tried_of_learned? hv'
  obtain ⟨-, hnone⟩ := (h.tried v hv).mp htried
  rw [← hplace, List.lookup_eq_none_iff] at hnone
  obtain ⟨entry', hmem, heq⟩ := List.mem_map.mp hmem
  have hne := hnone entry' hmem
  rw [heq, bne_self_eq_false] at hne
  cases hne

/-- How a scan ends: if it fails, nothing changes. Otherwise a serial is remembered where a wanted device
was seen, the old one if there was one; a serial is read just where there was none; and the wanted devices
with a serial are reported. -/
inductive Scanned (c : Scanner) : Enumeration → Except UsbError (List DeviceInfo) → Scanner → Prop
  | failed (f : UsbFault) : Scanned c (.error f) (.error (.fault f)) c
  | listed {shown : List Sighting} {devices : List DeviceInfo} {c' : Scanner}
      (hdevices : devices = shown.filterMap (·.info? c.isMatch c'.serials))
      (hmatch : c'.isMatch = c.isMatch)
      (hlookup : ∀ key, c'.serials.lookup key = if showsAt c.isMatch key shown then
        (c.serials.lookup key).or (shown.findSome? (Sighting.readAt key)) else none)
      (htried : ∀ v ∈ shown, v.reading ≠ .notTried ↔
        v.isWanted c.isMatch = true ∧ c.serials.lookup v.ref.place = none)
      (hkeys : KeysDiffer c → KeysDiffer c') :
      Scanned c (.ok shown) (.ok devices) c'

/-- Forgetting the serials of places without a wanted device. -/
lemma MeetsAll.scanned {c' : Scanner} {found' : Found} (h : MeetsAll c {} shown c' found')
    (hplaces : (shown.map fun v => v.ref.place).Nodup) :
    Scanned c (.ok shown) (.ok found'.devices)
      { c' with serials := c'.serials.filter fun entry => found'.seen.contains entry.1 } := by
  have hmatch : c'.isMatch = c.isMatch := by
    rw [h.serials]
    rfl
  have hseen : ∀ key, found'.seen.contains key = showsAt c.isMatch key shown := by
    intro key
    rw [Bool.eq_iff_iff, List.contains_iff_mem, h.seen]
    simp
  have hlookup : ∀ key, (c'.serials.filter fun entry => found'.seen.contains entry.1).lookup key =
      if showsAt c.isMatch key shown then c'.serials.lookup key else none := by
    intro key
    rw [lookup_filter_keys fun key => found'.seen.contains key, hseen]
  have hdevices : found'.devices = shown.filterMap (·.info? c.isMatch
      (c'.serials.filter fun entry => found'.seen.contains entry.1)) := by
    rw [h.devices, List.nil_append]
    refine List.filterMap_congr fun v hv => ?_
    cases hwanted : v.isWanted c.isMatch with
    | false => rw [Sighting.info?_of_not_wanted hwanted, Sighting.info?_of_not_wanted hwanted]
    | true =>
      have hshows : showsAt c.isMatch v.ref.place shown = true :=
        showsAt_iff.mpr ⟨v, hv, hwanted, rfl⟩
      refine Sighting.info?_congr ?_
      rw [hlookup, if_pos hshows]
  refine .listed hdevices hmatch ?_ h.tried ?_
  · intro key
    rw [hlookup]
    simp only [h.serials, List.lookup_append, lookup_entries]
  · intro hkeys
    exact (h.keysDiffer hplaces hkeys).sublist (List.filter_sublist.map _)

end

/-- A scan at a state meets an enumeration, and ends as it must. -/
lemma scan_eq {σ : Type} (port : UsbPort σ) (c : Scanner) (s : σ) (hdiffer : PlacesDiffer port s) :
    ∃ (e : Enumeration) (result : Except UsbError (List DeviceInfo)) (c' : Scanner) (s' : σ),
      scan port c s = (result, c', s') ∧ Sees port c s e ∧ Scanned c e result c' := by
  have hoverheard : port.overheard.enumerate ⟨s, []⟩ =
      ((port.enumerate s).1, ⟨(port.enumerate s).2, []⟩) := rfl
  cases henumerate : port.enumerate s with
  | mk listing s₁ =>
    cases listing with
    | error f =>
      refine ⟨.error f, .error (.fault f), c, s₁, ?_, ⟨?_, ?_⟩, .failed f⟩
      · rw [scan, henumerate]
      · rw [henumerate]
        rfl
      · rw [scan, hoverheard, henumerate]
        rfl
    | ok refs =>
      have hplaces := hdiffer refs (by rw [henumerate])
      obtain ⟨shown, c', found', s', hall, hall', rfl, hmeets⟩ := visitAll_eq port refs hplaces c {} s₁ []
      rw [List.map_map] at hplaces
      refine ⟨.ok shown, .ok found'.devices, _, s', ?_, ⟨?_, ?_⟩, hmeets.scanned hplaces⟩
      · simp only [scan, henumerate, hall]
      · rw [henumerate]
        rfl
      · simp only [scan, hoverheard, henumerate, hall', List.nil_append]
        rfl

/-- A scan meets one enumeration only. -/
lemma Sees.unique {σ : Type} {port : UsbPort σ} {c : Scanner} {s : σ} {e e' : Enumeration}
    (h : Sees port c s e) (h' : Sees port c s e') : e = e' := by
  have hlisted := h.listed.symm.trans h'.listed
  have hheard := h.heard.symm.trans h'.heard
  cases e with
  | error f =>
    cases e' with
    | error f' => rw [Except.error.inj hlisted]
    | ok shown' => cases hlisted
  | ok shown =>
    cases e' with
    | error f' => cases hlisted
    | ok shown' => exact congrArg _ (heard_injective hheard)

/-! ### Many scans -/

/-- What is met in scans one after another, and the scanner after them. Between the scans anything may
happen to the bus. -/
inductive History {σ : Type} (port : UsbPort σ) (start : Scanner) : List Enumeration → Scanner → Prop
  | start : History port start [] start
  | scan {es : List Enumeration} {c : Scanner} (h : History port start es c) {s : σ}
      (hdiffer : PlacesDiffer port s) {e : Enumeration} (hsees : Sees port c s e) :
      History port start (es ++ [e]) (scan port c s).2.1

/-- The sightings of the scans that did not fail. -/
def successes (es : List Enumeration) : List (List Sighting) := es.filterMap Except.toOption

/-- The serial that was read first at a place since a scan saw no wanted device there. -/
def firstRead (wanted : DeviceDescriptor → Bool) (key : Nat × Nat) (es : List Enumeration) :
    Option String :=
  ((successes es).rtakeWhile (showsAt wanted key)).flatten.findSome? (Sighting.readAt key)

section

variable {wanted : DeviceDescriptor → Bool} {key : Nat × Nat} {es : List Enumeration}

lemma firstRead_failed (f : UsbFault) :
    firstRead wanted key (es ++ [.error f]) = firstRead wanted key es := by
  have hsuccesses : successes (es ++ [.error f]) = successes es :=
    List.filterMap_append.trans (List.append_nil _)
  rw [firstRead, hsuccesses, firstRead]

lemma firstRead_listed (shown : List Sighting) : firstRead wanted key (es ++ [.ok shown]) =
    if showsAt wanted key shown then
      (firstRead wanted key es).or (shown.findSome? (Sighting.readAt key))
    else none := by
  have hsuccesses : successes (es ++ [.ok shown]) = successes es ++ [shown] :=
    List.filterMap_append
  rw [firstRead, hsuccesses, List.rtakeWhile_concat]
  split
  · rw [List.flatten_append, List.findSome?_append, List.flatten_singleton, firstRead]
  · rfl

lemma mem_iff_lookup {serials : SerialCache} (hkeys : (serials.map Prod.fst).Nodup) {serial : String} :
    (key, serial) ∈ serials ↔ serials.lookup key = some serial := by
  induction serials with
  | nil => simp
  | cons entry serials ih =>
    obtain ⟨place, serial'⟩ := entry
    obtain ⟨hplace, hkeys⟩ := List.nodup_cons.mp hkeys
    by_cases heq : key = place
    · subst heq
      have hnotMem : (key, serial) ∉ serials := fun h => hplace (List.mem_map.mpr ⟨_, h, rfl⟩)
      simp [hnotMem, eq_comm]
    · rw [List.lookup_cons, beq_eq_false_iff_ne.mpr heq, List.mem_cons, ih hkeys,
        or_iff_right (fun h => heq (congrArg Prod.fst h))]

variable {σ : Type} {port : UsbPort σ} {start c : Scanner}

/-- After any scans, the serial that is remembered at a place is the first that was read there. -/
lemma History.lookup_eq (hstart : start.serials = []) (h : History port start es c) :
    c.isMatch = start.isMatch ∧ KeysDiffer c ∧
      ∀ key, c.serials.lookup key = firstRead start.isMatch key es := by
  induction h with
  | start =>
    refine ⟨rfl, ?_, ?_⟩
    · rw [KeysDiffer, hstart]
      exact List.nodup_nil
    · intro key
      rw [hstart]
      rfl
  | @scan es c h s hdiffer e hsees ih =>
    obtain ⟨hmatch, hkeys, hlookup⟩ := ih
    obtain ⟨e', result, c', s', hscan, hsees', hscanned⟩ := scan_eq port c s hdiffer
    cases hsees.unique hsees'
    rw [hscan]
    cases hscanned with
    | failed f =>
      refine ⟨hmatch, hkeys, ?_⟩
      intro key
      rw [hlookup, firstRead_failed]
    | listed hdevices hmatch' hlookup' htried hkeys' =>
      refine ⟨hmatch'.trans hmatch, hkeys' hkeys, ?_⟩
      intro key
      rw [hlookup', hlookup, hmatch, firstRead_listed]

/-- What a scan makes of an enumeration. If that fails, so does the scan, and nothing changes. Otherwise
the wanted devices are reported whose serials are remembered afterwards; a serial is remembered only where
a wanted device was seen; and just the wanted devices are opened for which none was remembered before. -/
def Coherent (wanted : DeviceDescriptor → Bool) (c : Scanner) :
    Enumeration → Except UsbError (List DeviceInfo) → Scanner → Prop
  | .error f, result, c' => result = .error (.fault f) ∧ c' = c
  | .ok shown, result, c' =>
    result = .ok (shown.filterMap (·.info? wanted c'.serials)) ∧
      (∀ entry ∈ c'.serials, showsAt wanted entry.1 shown = true) ∧
        ∀ v ∈ shown, v.reading ≠ .notTried ↔
          v.isWanted wanted = true ∧ ∀ serial, (v.ref.place, serial) ∉ c.serials

lemma Scanned.coherent {e : Enumeration} {result : Except UsbError (List DeviceInfo)} {c' : Scanner}
    (hkeys : KeysDiffer c) (h : Scanned c e result c') : Coherent c.isMatch c e result c' := by
  cases h with
  | failed f => exact ⟨rfl, rfl⟩
  | listed hdevices hmatch hlookup htried hkeys' =>
    refine ⟨congrArg _ hdevices, ?_, ?_⟩
    · intro entry hentry
      have hsome := (mem_iff_lookup (hkeys' hkeys)).mp hentry
      rw [hlookup] at hsome
      by_contra hshows
      rw [if_neg hshows] at hsome
      cases hsome
    · intro v hv
      rw [htried v hv, Option.eq_none_iff_forall_ne_some]
      simp only [mem_iff_lookup hkeys, ne_eq]

end

end Scanner

open Scanner

/-- Whatever was met in the scans so far, a serial is remembered for a place just if it was the first to be
read there in the unbroken run of successful scans up to now that saw a wanted device there; and one more
scan reports and opens devices accordingly. -/
theorem serial_cache_is_coherent {σ : Type} (port : UsbPort σ) {start : Scanner}
    (hstart : start.serials = []) {es : List Enumeration} {c : Scanner} (h : History port start es c) :
    (∀ key serial, (key, serial) ∈ c.serials ↔ firstRead start.isMatch key es = some serial) ∧
      ∀ s, PlacesDiffer port s → ∃ e result c' s', scan port c s = (result, c', s') ∧
        Sees port c s e ∧ Coherent start.isMatch c e result c' ∧ History port start (es ++ [e]) c' := by
  obtain ⟨hmatch, hkeys, hlookup⟩ := h.lookup_eq hstart
  refine ⟨?_, ?_⟩
  · intro key serial
    rw [mem_iff_lookup hkeys, hlookup]
  · intro s hdiffer
    obtain ⟨e, result, c', s', hscan, hsees, hscanned⟩ := scan_eq port c s hdiffer
    have hhistory := h.scan hdiffer hsees
    rw [hscan] at hhistory
    exact ⟨e, result, c', s', hscan, hsees, hmatch ▸ hscanned.coherent hkeys, hhistory⟩

/-- A device that is looked for. -/
def wantedDevice (ref : DeviceRef) (serial : String) : BusDevice where
  ref
  descriptor := ⟨0x05ac, 0x12a8, 5⟩
  serial
  active := 5
  kernelDriver := false
  controlLen := 0
  configurations := []
  refuses _ := none
  transfers := []
  packets := []

/-- A host with these devices attached. -/
def hostWith (devices : List BusDevice) : Host where
  bus := { attached := devices.map BusDevice.ref, devices }

def lookout : Scanner where
  vendorId := 0x05ac
  productIds := [0x12a8]

/-- The first sighting of a device: its serial is read. -/
def firstSighting : Sighting where
  ref := ⟨1, 2, 0⟩
  descriptor := .ok ⟨0x05ac, 0x12a8, 5⟩
  reading := .tried (.ok "S1") (.ok ())

/-- A device was there, a scan failed, and then the device was gone. -/
def goneDevice : List Enumeration := [.ok [firstSighting], .error .io, .ok []]

/-- A serial as a device gives it. -/
def paddedSerial : String := "\x00 S2\t\x00"

/-- The serial of another device that comes to the place of one that was gone is read, and reported without
the zeros and blanks around it. -/
theorem place_of_gone_device_is_read_afresh :
    lookout.serials = [] ∧ cleanSerial paddedSerial = "S2" ∧ ∃ c, History Host.port lookout goneDevice c ∧
      PlacesDiffer Host.port (hostWith [wantedDevice ⟨1, 2, 1⟩ paddedSerial]) ∧
        ∃ e c' s', scan Host.port c (hostWith [wantedDevice ⟨1, 2, 1⟩ paddedSerial]) =
          (.ok [⟨"S2", 1, 2, 0x05ac, 0x12a8, 5⟩], c', s') ∧
            History Host.port lookout (goneDevice ++ [e]) c' := by
  have hdiffer : ∀ devices, (devices.map fun d : BusDevice => d.ref.place).Nodup →
      PlacesDiffer Host.port (hostWith devices) := by
    intro devices hplaces refs hrefs
    cases hrefs
    show ((devices.map BusDevice.ref).map DeviceRef.place).Nodup
    rwa [List.map_map]
  have hfailing : PlacesDiffer Host.port { bus := { enumerationFault := some .io } } := nofun
  have hseen := History.start.scan (hdiffer [wantedDevice ⟨1, 2, 0⟩ "S1"] (List.nodup_singleton _))
    (show Sees _ lookout _ (.ok [firstSighting]) from ⟨rfl, rfl⟩)
  have hfailed := hseen.scan hfailing (show Sees _ _ _ (.error .io) from ⟨rfl, rfl⟩)
  have hgone := hfailed.scan (hdiffer [] List.nodup_nil) (show Sees _ _ _ (.ok []) from ⟨rfl, rfl⟩)
  have hback := hdiffer [wantedDevice ⟨1, 2, 1⟩ paddedSerial] (List.nodup_singleton _)
  have hclean : cleanSerial paddedSerial = "S2" := by
    refine cleanSerial_eq_iff.2 ⟨['\x00'], [' '], ['\t'], ['\x00'], by decide, by simp, ?_, ?_, ?_⟩
    · simp [Text.isBlank]
    · simp [Text.NotAtEnds]
    · simp [Text.NotAtEnds, Text.isBlank]
  refine ⟨rfl, hclean, _, hgone, hback, ?_⟩
  obtain ⟨-, hnext⟩ := serial_cache_is_coherent Host.port rfl hgone
  obtain ⟨e, result, c', s', hscan, -, -, hhistory⟩ := hnext _ hback
  have hresult : result = .ok [⟨"S2", 1, 2, 0x05ac, 0x12a8, 5⟩] :=
    (congrArg Prod.fst hscan).symm.trans (by decide +kernel)
  exact ⟨e, c', s', hresult ▸ hscan, hhistory⟩

end NcmBridge
