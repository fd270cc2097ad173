import NcmBridge.Host.Run
import NcmBridge.Proofs.Block.Contiguity
import NcmBridge.Proofs.Block.Recovery
import NcmBridge.Proofs.Bridge.History
import NcmBridge.Proofs.Link.Boundaries
import NcmBridge.Proofs.Link.Intake

/-!
# How a closed bridge winds down

When both ends are closed, reads yield nothing more and writes fail. Wherever a pump stands then, it ends.
The uplink has at most a batch to close and a block to try. The downlink may still hold bytes of many
blocks: each of its steps uses up some of them, and when they are used up, or a block has a frame to write,
the next operation on the ends is its last.
-/

namespace NcmBridge

/-! ### Ends that are closed -/

/-- In the states of `shut` both ends behave as closed, and go on doing so. -/
structure Endpoints.Shut {σ : Type} (ends : Endpoints σ) (shut : σ → Prop) : Prop where
  readFrame : ∀ s, shut s → (ends.readFrame s).1 = some (.ok []) ∧ shut (ends.readFrame s).2
  tryReadFrame : ∀ s, shut s → (ends.tryReadFrame s).1 = .ok none ∧ shut (ends.tryReadFrame s).2
  writeBlock : ∀ block s, shut s →
    (∃ text, (ends.writeBlock block s).1 = .error ⟨.brokenPipe, text⟩) ∧ shut (ends.writeBlock block s).2
  readTransfer : ∀ len s, shut s →
    (ends.readTransfer len s).1 = some (.ok []) ∧ shut (ends.readTransfer len s).2
  writeFrame : ∀ frame s, shut s →
    (∃ text, (ends.writeFrame frame s).1 = .error ⟨.brokenPipe, text⟩) ∧ shut (ends.writeFrame frame s).2

namespace TapDevice

variable {d : TapDevice} (len : Nat) (k : Tap.Kernel)

lemma readFrame_of_closed (hclosed : d.closed = true) (hpolling : d.polling = false) :
    d.readFrame len k = (some (.ok []), d, k) := by
  rw [readFrame, hclosed, hpolling]
  rfl

lemma tryReadFrame_of_closed (hclosed : d.closed = true) : d.tryReadFrame len k = (.ok none, d, k) := by
  rw [tryReadFrame, if_pos hclosed]

lemma writeFrame_of_closed (hclosed : d.closed = true) (frame : Octets) :
    d.writeFrame frame k = (.error closedFault, k) := by
  rw [writeFrame, if_pos hclosed]

end TapDevice

namespace Transport

variable {t : Transport} {b : Bus} {d : BusDevice}

lemma readTransfer_of_closed (hd : b.device? t.session.ref = some d) (hclosed : t.closed = true)
    (hreading : t.reading = false) (len : Nat) :
    t.readTransfer len b = (some (.ok []), t, (b.noteAll d.ref []).put d) := by
  obtain ⟨session, ncm, serial, timeout, closed, reading⟩ := t
  cases hclosed
  cases hreading
  simp only [readTransfer, Bool.false_eq_true, if_false, hd, Receiving.run_closed, List.replicate_zero,
    Option.isNone_some]

/-- A block has a packet, and that is not sent. -/
lemma writeBlock_of_closed (hd : b.device? t.session.ref = some d) (hclosed : t.closed = true)
    (hmax : 0 < t.ncm.bulkOut.maxPacketSize) (block : Octets) :
    t.writeBlock block b = (.error Sending.closedFault, t, (b.noteAll d.ref []).put d) := by
  have hpackets : Packets.ofBlock t.ncm.bulkOut.maxPacketSize block ≠ [] := by
    rw [Packets.ofBlock_eq_cut hmax]
    simp [Packets.cut]
  obtain ⟨packet, packets, hcons⟩ := List.exists_cons_of_ne_nil hpackets
  obtain ⟨session, ncm, serial, timeout, closed, reading⟩ := t
  cases hclosed
  simp only [writeBlock, hd, hcons, Sending.run, List.map_nil]

end Transport

namespace LiveEnds

/-- The link and the interface are closed, and no read of them is under way. -/
structure IsShut (e : LiveEnds) : Prop where
  link_closed : e.transport.closed = true
  not_reading : e.transport.reading = false
  maxPacket_pos : 0 < e.transport.ncm.bulkOut.maxPacketSize
  on_bus : (e.host.bus.device? e.transport.session.ref).isSome
  interface_closed : e.tap.closed = true
  not_polling : e.tap.polling = false

lemma IsShut.of_host {e : LiveEnds} (h : e.IsShut) {host : Host}
    (hbus : (host.bus.device? e.transport.session.ref).isSome) : IsShut { e with host } :=
  ⟨h.link_closed, h.not_reading, h.maxPacket_pos, hbus, h.interface_closed, h.not_polling⟩

/-- The ends of a running bridge behave so. -/
lemma shut_ends : ends.Shut IsShut where
  readFrame e h := by
    simp only [ends, TapDevice.readFrame_of_closed _ _ h.interface_closed h.not_polling]
    exact ⟨trivial, h.of_host h.on_bus⟩
  tryReadFrame e h := by
    simp only [ends, TapDevice.tryReadFrame_of_closed _ _ h.interface_closed]
    exact ⟨trivial, h.of_host h.on_bus⟩
  writeBlock block e h := by
    obtain ⟨d, hd⟩ := Option.isSome_iff_exists.1 h.on_bus
    have hcalled : (e.host.bus.calledBy (.pump .uplink)).device? e.transport.session.ref = some d := hd
    have hwrite := Transport.writeBlock_of_closed hcalled h.link_closed h.maxPacket_pos block
    -- the line about an empty packet is logged even so, and leaves the bus as it is
    have hlogged : ∀ line, (e.host.log line).bus = e.host.bus := fun _ => rfl
    cases hline : e.transport.emptyPacketLine? block with
    | none =>
      simp only [ends, hline, hwrite]
      exact ⟨⟨_, rfl⟩, h.of_host (by simp [hd])⟩
    | some line =>
      simp only [ends, hline, hlogged, hwrite]
      exact ⟨⟨_, rfl⟩, h.of_host (by simp [hd])⟩
  readTransfer len e h := by
    obtain ⟨d, hd⟩ := Option.isSome_iff_exists.1 h.on_bus
    have hcalled : (e.host.bus.calledBy (.pump .downlink)).device? e.transport.session.ref = some d := hd
    simp only [ends]
    rw [Transport.readTransfer_of_closed hcalled h.link_closed h.not_reading]
    exact ⟨rfl, h.of_host (by simp [hd])⟩
  writeFrame frame e h := by
    simp only [ends, TapDevice.writeFrame_of_closed _ h.interface_closed]
    exact ⟨⟨_, rfl⟩, h.of_host h.on_bus⟩

end LiveEnds

/-! ### Runs that come to an end -/

/-- None of the operations has written a block or a frame. -/
def WritesNothing (calls : List EndCall) : Prop := blocksWritten calls = [] ∧ framesWritten calls = []

instance (calls : List EndCall) : Decidable (WritesNothing calls) := inferInstanceAs (Decidable (_ ∧ _))

lemma writesNothing_nil : WritesNothing [] := ⟨rfl, rfl⟩

lemma WritesNothing.append {calls new : List EndCall} (h : WritesNothing calls)
    (h' : WritesNothing new) : WritesNothing (calls ++ new) := by
  refine ⟨?_, ?_⟩
  · rw [blocksWritten_append, h.1, h'.1, List.append_nil]
  · rw [framesWritten_append, h.2, h'.2, List.append_nil]

namespace PumpRun

variable {P σ : Type} {step : P → Recorded σ → Option (P × List Note) × Recorded σ} {shut : σ → Prop}

/-- From `r` to `r'` the ends stay closed, at least one of the `steps` to come is done, and of the `calls`
to come only some that write nothing. -/
structure Lowers (shut : σ → Prop) (steps calls : P → Nat) (r r' : PumpRun P σ) : Prop where
  shut : shut r'.ends.state
  steps : steps r'.pump ≤ steps r.pump - 1
  calls : ∃ new, r'.ends.calls = r.ends.calls ++ new ∧
    new.length + calls r'.pump ≤ calls r.pump ∧ WritesNothing new

/-- If every step on closed ends comes nearer to the end, a run is there after the steps to come. -/
theorem winds_down {steps calls : P → Nat}
    (lowers : ∀ r : PumpRun P σ, shut r.ends.state → Lowers shut steps calls r (r.next step))
    {r : PumpRun P σ} (h : shut r.ends.state) (n : Nat) :
    steps ((next step)^[n] r).pump ≤ steps r.pump - n ∧
      ∃ new, ((next step)^[n] r).ends.calls = r.ends.calls ++ new ∧
        new.length ≤ calls r.pump ∧ WritesNothing new := by
  suffices hlowers : shut ((next step)^[n] r).ends.state ∧ steps ((next step)^[n] r).pump ≤ steps r.pump - n ∧
      ∃ new, ((next step)^[n] r).ends.calls = r.ends.calls ++ new ∧
        new.length + calls ((next step)^[n] r).pump ≤ calls r.pump ∧ WritesNothing new by
    obtain ⟨-, hsteps, new, hcalls, hlen, hnothing⟩ := hlowers
    exact ⟨hsteps, new, hcalls, (Nat.le_add_right _ _).trans hlen, hnothing⟩
  induction n with
  | zero => exact ⟨h, le_rfl, [], (List.append_nil _).symm, by simp, writesNothing_nil⟩
  | succ n ih =>
    obtain ⟨hshut, hsteps, new, hcalls, hlen, hnothing⟩ := ih
    obtain ⟨hshut', hsteps', new', hcalls', hlen', hnothing'⟩ := lowers _ hshut
    rw [Function.iterate_succ_apply']
    refine ⟨hshut', by omega, new ++ new', ?_, ?_, hnothing.append hnothing'⟩
    · rw [hcalls', hcalls, List.append_assoc]
    · rw [List.length_append]
      omega

end PumpRun

/-- A read takes bytes of the queue, if there are any. -/
lemma BulkQueue.length_lt_of_feed {c : Nat} {a : Octets} {r : Reading} (ha : a ≠ []) :
    ((mk c a).feed r).1.left.length < a.length := by
  cases hfeed : (mk c a).feed r with
  | mk q readStep =>
    cases readStep with
    | more r' =>
      rw [(of_feed_eq hfeed).2 r' rfl]
      exact List.length_pos_iff.2 ha
    | done reader result => exact length_lt_of_feed_eq_done hfeed

section

variable {σ : Type} {ends : Endpoints σ} {shut : σ → Prop} (serial : String) (options : BridgeOptions)

namespace Uplink

/-- How many operations an uplink takes on closed ends before it ends. -/
def operationsLeft (u : Uplink) : Nat :=
  match u.phase with
  | .idle => 1
  | .batching _ => 2
  | .sending _ _ _ => 1
  | .ended _ => 0

lemma operationsLeft_pack_le (u : Uplink) (newestFirst : List Octets) (carried : Option Octets) :
    (u.pack newestFirst carried).operationsLeft ≤ 1 := by
  unfold pack
  split
  · exact le_rfl
  · exact Nat.zero_le 1

lemma operationsLeft_le (u : Uplink) : u.operationsLeft ≤ 2 := by
  unfold operationsLeft
  split <;> decide

lemma isSome_result?_of_operationsLeft {u : Uplink} (h : u.operationsLeft = 0) : u.result?.isSome := by
  obtain ⟨encoder, phase⟩ := u
  cases phase with
  | ended result => rfl
  | _ => cases h

/-- A step of the uplink is a read that yields nothing, or a write that fails. -/
lemma lowers (hshut : ends.Shut shut) (r : PumpRun Uplink σ) (h : shut r.ends.state) :
    PumpRun.Lowers shut operationsLeft operationsLeft r (r.next (step ends.recorded serial options)) := by
  obtain ⟨⟨encoder, phase⟩, ⟨s, calls⟩, notes⟩ := r
  cases phase with
  | idle =>
    obtain ⟨hgot, hstays⟩ := hshut.readFrame s h
    simp only [PumpRun.next, step, Endpoints.recorded, hgot, Option.map_some, Option.toList_some,
      List.map_cons, List.map_nil]
    exact ⟨hstays, le_rfl, [.readFrame (.ok [])], rfl, le_rfl, by decide⟩
  | batching newestFirst =>
    obtain ⟨hgot, hstays⟩ := hshut.tryReadFrame s h
    have hleft := operationsLeft_pack_le ⟨encoder, .batching newestFirst⟩ newestFirst none
    simp only [PumpRun.next, step, Endpoints.recorded, hgot]
    exact ⟨hstays, hleft, [.tryReadFrame (.ok none)], rfl, Nat.add_le_add_left hleft 1, by decide⟩
  | sending block count carried =>
    obtain ⟨⟨text, hgot⟩, hstays⟩ := hshut.writeBlock block s h
    simp only [PumpRun.next, step, Endpoints.recorded, hgot]
    exact ⟨hstays, le_rfl, [.writeBlock block (.error ⟨.brokenPipe, text⟩)], rfl, le_rfl, rfl, rfl⟩
  | ended result => exact ⟨h, le_rfl, [], (List.append_nil _).symm, le_rfl, writesNothing_nil⟩

end Uplink

namespace Downlink

/-- How many steps a downlink takes on closed ends before it ends, at most. -/
def stepsLeft (d : Downlink) : Nat :=
  match d.phase with
  | .ended _ => 0
  | _ => d.queue.left.length + 1

/-- How many operations are among them, at most. -/
def operationsLeft (d : Downlink) : Nat :=
  match d.phase with
  | .ended _ => 0
  | _ => 1

lemma isSome_result?_of_stepsLeft {d : Downlink} (h : d.stepsLeft = 0) : d.result?.isSome := by
  obtain ⟨queue, phase⟩ := d
  cases phase with
  | ended result => rfl
  | _ => cases h

lemma stepsLeft_le (d : Downlink) : d.stepsLeft ≤ d.queue.left.length + 1 := by
  unfold stepsLeft
  split
  · exact Nat.zero_le _
  · exact le_rfl

lemma operationsLeft_le (d : Downlink) : d.operationsLeft ≤ 1 := by
  unfold operationsLeft
  split
  · exact Nat.zero_le 1
  · exact le_rfl

section Queue

variable (d : Downlink)

lemma queue_deliver (reader : BlockReader) (fs : List Octets) :
    (d.deliver serial reader fs).1.queue = d.queue := by
  cases fs <;> rfl

lemma queue_receiveBlock (reader : BlockReader) (result : BlockResult) :
    (d.receiveBlock serial reader result).1.queue = d.queue := by
  unfold receiveBlock
  split
  · rfl
  · rfl
  · split
    · rfl
    · exact queue_deliver serial d reader _

lemma queue_receiveSearch (readStep : ReadStep) :
    (d.receiveSearch serial readStep).1.queue = d.queue := by
  cases readStep with
  | more reading => rfl
  | done reader result => exact queue_receiveBlock serial d reader result

/-- What a step of reading yields does not touch the bytes that are left. -/
lemma queue_receiveStep (searching : Bool) (readStep : ReadStep) :
    (d.receiveStep serial options searching readStep).1.queue = d.queue := by
  unfold receiveStep receiveRead
  split
  · exact queue_receiveSearch serial d readStep
  · split
    · rfl
    · split
      · exact queue_receiveSearch serial d _
      · exact queue_receiveBlock serial d _ _
    · exact queue_receiveBlock serial d _ _

end Queue

/-- When the stream has ended, so has the downlink. -/
lemma exists_ended_of_atEnd (d : Downlink) (searching : Bool) (reading : Reading) :
    ∃ result, (d.receiveStep serial options searching (.done ⟨reading.window⟩ reading.atEnd)).1 =
      { d with phase := .ended result } := by
  rcases reading.atEnd_eq with hend | hend
  · rw [hend]
    exact ⟨.ok (), by cases searching <;> rfl⟩
  · rw [hend]
    exact ⟨.error (.link .streamEnded), by cases searching <;> rfl⟩

/-- A step of the downlink uses up bytes of the queue, or it is the last. -/
lemma lowers (hshut : ends.Shut shut) (r : PumpRun Downlink σ) (h : shut r.ends.state) :
    PumpRun.Lowers shut stepsLeft operationsLeft r (r.next (step ends.recorded serial options)) := by
  obtain ⟨⟨⟨c, left⟩, phase⟩, ⟨s, calls⟩, notes⟩ := r
  cases phase with
  | reading reading searching =>
    by_cases hleft : left = []
    · subst hleft
      obtain ⟨hgot, hstays⟩ := hshut.readTransfer c s h
      obtain ⟨result, hended⟩ :=
        exists_ended_of_atEnd serial options ⟨⟨c, []⟩, .reading reading searching⟩ searching reading
      simp only [PumpRun.next, step, List.isEmpty_nil, if_true, Endpoints.recorded, hgot, Option.map_some,
        Option.toList_some, List.map_cons, List.map_nil]
      have hlast : (receiveTransfer serial options searching reading
          ⟨⟨c, []⟩, .reading reading searching⟩ (.ok [])).1 = ⟨⟨c, []⟩, .ended result⟩ := hended
      refine ⟨hstays, ?_, [.readTransfer c (.ok [])], rfl, ?_, rfl, rfl⟩
      · rw [hlast]
        exact Nat.zero_le _
      · rw [hlast]
        exact le_rfl
    · have hlt := BulkQueue.length_lt_of_feed (c := c) (r := reading) hleft
      have hqueue := queue_receiveStep serial options
        ⟨((BulkQueue.mk c left).feed reading).1, .reading reading searching⟩ searching
        ((BulkQueue.mk c left).feed reading).2
      simp only [PumpRun.next, step, mt List.isEmpty_iff.1 hleft, Bool.false_eq_true, if_false]
      refine ⟨h, ?_, [], (List.append_nil _).symm, ?_, writesNothing_nil⟩
      · refine (stepsLeft_le _).trans ?_
        rw [hqueue]
        exact hlt
      · rw [List.length_nil, Nat.zero_add]
        exact operationsLeft_le _
  | delivering reader frame later =>
    obtain ⟨⟨text, hgot⟩, hstays⟩ := hshut.writeFrame frame s h
    simp only [PumpRun.next, step, Endpoints.recorded, hgot]
    exact ⟨hstays, Nat.zero_le _, [.writeFrame frame (.error ⟨.brokenPipe, text⟩)], rfl, le_rfl, rfl, rfl⟩
  | ended result => exact ⟨h, le_rfl, [], (List.append_nil _).symm, le_rfl, writesNothing_nil⟩

end Downlink

/-- Once both ends are closed, either pump comes to an end from wherever it stands: the uplink within two
steps, the downlink within one step more than it holds bytes. On the way it makes two operations on the
ends, or one, at most, and neither a block nor a frame is written any more. -/
theorem closed_bridge_winds_down (hshut : ends.Shut shut) {s : σ} (hs : shut s) (calls : List EndCall)
    (notes : List Note) (n : Nat) :
    (∀ u : Uplink,
      let r := (PumpRun.next (Uplink.step ends.recorded serial options))^[n] ⟨u, ⟨s, calls⟩, notes⟩
      (2 ≤ n → r.pump.result?.isSome) ∧
        ∃ new, r.ends.calls = calls ++ new ∧ new.length ≤ 2 ∧ WritesNothing new) ∧
      ∀ d : Downlink,
        let r := (PumpRun.next (Downlink.step ends.recorded serial options))^[n] ⟨d, ⟨s, calls⟩, notes⟩
        (d.queue.left.length + 1 ≤ n → r.pump.result?.isSome) ∧
          ∃ new, r.ends.calls = calls ++ new ∧ new.length ≤ 1 ∧ WritesNothing new := by
  constructor
  · intro u r
    obtain ⟨hsteps, new, hcalls, hlen, hnothing⟩ :=
      PumpRun.winds_down (Uplink.lowers serial options hshut) (r := ⟨u, ⟨s, calls⟩, notes⟩) hs n
    have hle : u.operationsLeft ≤ 2 := u.operationsLeft_le
    refine ⟨fun hn => Uplink.isSome_result?_of_operationsLeft ?_, new, hcalls, hlen.trans hle, hnothing⟩
    exact Nat.eq_zero_of_le_zero (hsteps.trans (Nat.sub_eq_zero_of_le (hle.trans hn)).le)
  · intro d r
    obtain ⟨hsteps, new, hcalls, hlen, hnothing⟩ :=
      PumpRun.winds_down (Downlink.lowers serial options hshut) (r := ⟨d, ⟨s, calls⟩, notes⟩) hs n
    have hle : d.stepsLeft ≤ d.queue.left.length + 1 := d.stepsLeft_le
    refine ⟨fun hn => Downlink.isSome_result?_of_stepsLeft ?_, new, hcalls,
      hlen.trans d.operationsLeft_le, hnothing⟩
    exact Nat.eq_zero_of_le_zero (hsteps.trans (Nat.sub_eq_zero_of_le (hle.trans hn)).le)

end

/-- A closed link that has transfers to come, and a closed interface. -/
def closedEnds : LiveEnds where
  host := { bus := LinkReader.narrowBus }
  transport := LinkReader.narrowLink.close
  tap := { name := "ncm0", closed := true }

/-- A block with a table that lists no datagrams. -/
def idleBlock : Octets :=
  [0x4e, 0x43, 0x4d, 0x48, 12, 0, 0, 0, 20, 0, 12, 0, 0x4e, 0x43, 0x4d, 0x30, 8, 0, 0, 0]

/-- Two such blocks with other bytes between them, and the beginning of a third. -/
def heldBytes : Octets := idleBlock ++ [1, 2, 3, 4, 5] ++ idleBlock ++ idleBlock.take 7

/-- The downlink goes on through both blocks and ends inside the third, and the uplink gives up its batch. -/
theorem closed_bridge_drops_held_bytes :
    closedEnds.IsShut ∧
      (let r := (PumpRun.next (Uplink.step LiveEnds.ends.recorded "S1" {}))^[53]
        ⟨⟨{}, .batching [[1], [2, 3]]⟩, ⟨closedEnds, []⟩, []⟩
      r.pump.result?.isSome ∧ ∃ new, r.ends.calls = [] ++ new ∧ new.length ≤ 2 ∧ WritesNothing new) ∧
      let r := (PumpRun.next (Downlink.step LiveEnds.ends.recorded "S1" {}))^[53]
        ⟨⟨⟨64, heldBytes⟩, .reading ({} : BlockReader).next false⟩, ⟨closedEnds, []⟩, []⟩
      r.pump.result? = some (.error (.link .streamEnded)) ∧
        ∃ new, r.ends.calls = [] ++ new ∧ new.length ≤ 1 ∧ WritesNothing new := by
  have hshut : closedEnds.IsShut := ⟨rfl, rfl, by decide, rfl, rfl, rfl⟩
  obtain ⟨hup, hdown⟩ := closed_bridge_winds_down "S1" {} LiveEnds.shut_ends hshut [] [] 53
  obtain ⟨hended, hbatch⟩ := hup ⟨{}, .batching [[1], [2, 3]]⟩
  obtain ⟨-, hheld⟩ := hdown ⟨⟨64, heldBytes⟩, .reading ({} : BlockReader).next false⟩
  exact ⟨hshut, ⟨hended (by decide), hbatch⟩, by decide +kernel, hheld⟩

end NcmBridge
