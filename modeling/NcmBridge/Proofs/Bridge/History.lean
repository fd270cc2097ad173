import Mathlib.Data.List.Infix
import Mathlib.Logic.Function.Iterate
import Mathlib.Tactic.Lemma
import NcmBridge.Bridge.Downlink
import NcmBridge.Bridge.Uplink

/-!
# Runs of a pump and what they did to the ends

Any two ends can keep a record of the operations that had an outcome. Recording changes nothing else, so
a pump over recorded ends runs as it does over the bare ends, and what it read and wrote can be read off
the record.
-/

namespace NcmBridge

/-! ### Recorded operations -/

/-- An operation on one of the ends that had an outcome. -/
inductive EndCall
  | readFrame (got : IoResult Octets)
  | tryReadFrame (got : IoResult (Option Octets))
  | writeBlock (block : Octets) (got : IoResult Unit)
  | readTransfer (len : Nat) (got : IoResult Octets)
  | writeFrame (frame : Octets) (got : IoResult Unit)
  deriving DecidableEq

/-- The state of the ends and the operations on them, the newest last. -/
structure Recorded (σ : Type) where
  state : σ
  calls : List EndCall := []

/-- The ends with a record of their reads and writes. -/
def Endpoints.recorded {σ : Type} (ends : Endpoints σ) : Endpoints (Recorded σ) where
  readFrame r :=
    let (got, s) := ends.readFrame r.state
    (got, ⟨s, r.calls ++ got.toList.map .readFrame⟩)
  tryReadFrame r :=
    let (got, s) := ends.tryReadFrame r.state
    (got, ⟨s, r.calls ++ [.tryReadFrame got]⟩)
  writeBlock block r :=
    let (got, s) := ends.writeBlock block r.state
    (got, ⟨s, r.calls ++ [.writeBlock block got]⟩)
  readTransfer len r :=
    let (got, s) := ends.readTransfer len r.state
    (got, ⟨s, r.calls ++ got.toList.map (.readTransfer len)⟩)
  writeFrame frame r :=
    let (got, s) := ends.writeFrame frame r.state
    (got, ⟨s, r.calls ++ [.writeFrame frame got]⟩)
  closeLink r := { r with state := ends.closeLink r.state }
  closeInterface r := { r with state := ends.closeInterface r.state }

namespace EndCall

/-- The frame that a read yielded; a waiting read that yields no bytes yields no frame. -/
@[simp] def frameRead? : EndCall → Option Octets
  | readFrame (.ok (b :: bytes)) => some (b :: bytes)
  | tryReadFrame (.ok (some frame)) => some frame
  | _ => none

/-- The block that was written, if the write did not fail. -/
@[simp] def blockWritten? : EndCall → Option Octets
  | writeBlock block (.ok ()) => some block
  | _ => none

/-- The frame that was written, if the write did not fail. -/
@[simp] def frameWritten? : EndCall → Option Octets
  | writeFrame frame (.ok ()) => some frame
  | _ => none

/-- How a pump fails when the operation has failed. -/
@[simp] def failure? : EndCall → Option PumpError
  | readFrame (.error fault) | tryReadFrame (.error fault) | writeFrame _ (.error fault) =>
    some (.interface fault)
  | writeBlock _ (.error fault) | readTransfer _ (.error fault) => some (.link fault)
  | _ => none

/-- An operation on the ends does not fail with a fault of a block. -/
lemma failure?_ne_block {call : EndCall} {cause : BlockError} : call.failure? ≠ some (.block cause) := by
  unfold failure?
  split <;> simp

end EndCall

section Views

variable (calls : List EndCall)

/-- The frames read, in order. -/
def framesRead : List Octets := calls.filterMap EndCall.frameRead?

/-- The blocks written, in order. -/
def blocksWritten : List Octets := calls.filterMap EndCall.blockWritten?

/-- The frames written, in order. -/
def framesWritten : List Octets := calls.filterMap EndCall.frameWritten?

end Views

section

variable (calls new : List EndCall)

@[simp] lemma framesRead_append : framesRead (calls ++ new) = framesRead calls ++ framesRead new :=
  List.filterMap_append

@[simp] lemma blocksWritten_append :
    blocksWritten (calls ++ new) = blocksWritten calls ++ blocksWritten new :=
  List.filterMap_append

@[simp] lemma framesWritten_append :
    framesWritten (calls ++ new) = framesWritten calls ++ framesWritten new :=
  List.filterMap_append

@[simp] lemma framesRead_nil : framesRead [] = [] := rfl

@[simp] lemma blocksWritten_nil : blocksWritten [] = [] := rfl

@[simp] lemma framesWritten_nil : framesWritten [] = [] := rfl

variable (call : EndCall)

@[simp] lemma framesRead_singleton : framesRead [call] = call.frameRead?.toList := by
  cases h : call.frameRead? with
  | none => exact List.filterMap_cons_none h
  | some _ => exact List.filterMap_cons_some h

@[simp] lemma blocksWritten_singleton : blocksWritten [call] = call.blockWritten?.toList := by
  cases h : call.blockWritten? with
  | none => exact List.filterMap_cons_none h
  | some _ => exact List.filterMap_cons_some h

@[simp] lemma framesWritten_singleton : framesWritten [call] = call.frameWritten?.toList := by
  cases h : call.frameWritten? with
  | none => exact List.filterMap_cons_none h
  | some _ => exact List.filterMap_cons_some h

end

/-! ### Frames of blocks -/

/-- The frames of a block; a block that does not decode has none. -/
def blockFrames (block : Octets) : List Octets := (decode block).toOption.getD []

lemma blockFrames_of_decode {block : Octets} {frames : List Octets} (h : decode block = .ok frames) :
    blockFrames block = frames := by
  rw [blockFrames, h]
  rfl

lemma blockFrames_of_decode_error {block : Octets} {e : BlockError} (h : decode block = .error e) :
    blockFrames block = [] := by
  rw [blockFrames, h]
  rfl

/-- The frames of the blocks written, in order. -/
def framesSent (calls : List EndCall) : List Octets := (blocksWritten calls).flatMap blockFrames

@[simp] lemma framesSent_nil : framesSent [] = [] := rfl

@[simp] lemma framesSent_append (calls new : List EndCall) :
    framesSent (calls ++ new) = framesSent calls ++ framesSent new := by
  rw [framesSent, blocksWritten_append, List.flatMap_append, framesSent, framesSent]

@[simp] lemma framesSent_singleton (call : EndCall) :
    framesSent [call] = call.blockWritten?.toList.flatMap blockFrames := by
  rw [framesSent, blocksWritten_singleton]

/-! ### Runs -/

/-- A pump with its ends after some steps, and its notes so far, the newest last. -/
structure PumpRun (P σ : Type) where
  pump : P
  ends : Recorded σ
  notes : List Note := []

namespace PumpRun

variable {P σ : Type}

/-- Takes a step, or only waits if the pump has none. -/
def next (step : P → Recorded σ → Option (P × List Note) × Recorded σ) (r : PumpRun P σ) :
    PumpRun P σ :=
  match step r.pump r.ends with
  | (some (pump, notes), ends) => ⟨pump, ends, r.notes ++ notes⟩
  | (none, ends) => { r with ends }

variable {step : P → Recorded σ → Option (P × List Note) × Recorded σ}
  {Move : P → List EndCall → P × List Note → Prop}

/-- If every step is a move, then what moves keep holds throughout a run. -/
theorem iterate_induction (moves : ∀ r : PumpRun P σ, ∃ calls notes,
      Move r.pump calls ((r.next step).pump, notes) ∧ (r.next step).ends.calls = r.ends.calls ++ calls ∧
        (r.next step).notes = r.notes ++ notes)
    {motive : P → List EndCall → List Note → Prop}
    (keep : ∀ {p calls notes new next}, motive p calls notes → Move p new next →
      motive next.1 (calls ++ new) (notes ++ next.2))
    {r : PumpRun P σ} (start : motive r.pump r.ends.calls r.notes) (n : Nat) :
    motive ((next step)^[n] r).pump ((next step)^[n] r).ends.calls ((next step)^[n] r).notes := by
  induction n with
  | zero => exact start
  | succ n ih =>
    obtain ⟨calls, notes, hmove, hcalls, hnotes⟩ := moves ((next step)^[n] r)
    rw [Function.iterate_succ_apply', hcalls, hnotes]
    exact keep ih hmove

end PumpRun

namespace Uplink

variable {σ : Type} (ends : Endpoints σ) (serial : String) (options : BridgeOptions)

/-- What a step of the uplink can be, with the operations that had an outcome in it: a wait, or going on
with the outcome of the one operation that its phase asks for. -/
inductive Move (u : Uplink) : List EndCall → Uplink × List Note → Prop
  | wait : Move u [] (u, [])
  | frame (got : IoResult Octets) : u.phase = .idle →
      Move u [.readFrame got] (u.receiveFrame serial options got)
  | queued (newestFirst : List Octets) (got : IoResult (Option Octets)) :
      u.phase = .batching newestFirst →
      Move u [.tryReadFrame got] (u.receiveQueued serial options newestFirst got)
  | sent (block : Octets) (count : Nat) (carried : Option Octets) (got : IoResult Unit) :
      u.phase = .sending block count carried →
      Move u [.writeBlock block got] (u.receiveSent serial options block count carried got)

/-- The uplink after `n` steps from the start, where each step may also be a wait. -/
def run (s : σ) (n : Nat) : PumpRun Uplink σ :=
  (PumpRun.next (step ends.recorded serial options))^[n] ⟨{}, ⟨s, []⟩, []⟩

lemma run_succ (s : σ) (n : Nat) : run ends serial options s (n + 1) =
    (run ends serial options s n).next (step ends.recorded serial options) :=
  Function.iterate_succ_apply' _ n _

/-- Recording does not change what the uplink does. -/
lemma step_recorded (u : Uplink) (r : Recorded σ) :
    (u.step ends.recorded serial options r).1 = (u.step ends serial options r.state).1 ∧
      (u.step ends.recorded serial options r).2.state = (u.step ends serial options r.state).2 := by
  unfold step
  cases u.phase with
  | idle => exact ⟨rfl, rfl⟩
  | batching newestFirst => exact ⟨rfl, rfl⟩
  | sending block count carried => exact ⟨rfl, rfl⟩
  | ended result => exact ⟨rfl, rfl⟩

/-- Every step is a move. -/
lemma move_next (r : PumpRun Uplink σ) : ∃ calls notes,
    Move serial options r.pump calls ((r.next (step ends.recorded serial options)).pump, notes) ∧
      (r.next (step ends.recorded serial options)).ends.calls = r.ends.calls ++ calls ∧
      (r.next (step ends.recorded serial options)).notes = r.notes ++ notes := by
  unfold PumpRun.next step
  cases hphase : r.pump.phase with
  | idle =>
    cases hgot : (ends.readFrame r.ends.state).1 with
    | none =>
      refine ⟨[], [], ?_⟩
      simp only [Endpoints.recorded, hgot, Option.map_none, Option.toList_none, List.map_nil]
      exact ⟨.wait, trivial, (List.append_nil _).symm⟩
    | some got =>
      refine ⟨[.readFrame got], (r.pump.receiveFrame serial options got).2, ?_⟩
      simp only [Endpoints.recorded, hgot, Option.map_some, Option.toList_some, List.map_cons,
        List.map_nil]
      exact ⟨.frame got hphase, trivial, trivial⟩
  | batching newestFirst =>
    exact ⟨_, _, .queued newestFirst _ hphase, rfl, rfl⟩
  | sending block count carried =>
    exact ⟨_, _, .sent block count carried _ hphase, rfl, rfl⟩
  | ended result =>
    exact ⟨[], [], .wait, (List.append_nil _).symm, (List.append_nil _).symm⟩

/-- What holds at the start and after every move holds throughout a run. -/
theorem run_induction {motive : Uplink → List EndCall → List Note → Prop} (start : motive {} [] [])
    (move : ∀ {u calls notes new next}, motive u calls notes → Move serial options u new next →
      motive next.1 (calls ++ new) (notes ++ next.2))
    (s : σ) (n : Nat) :
    motive (run ends serial options s n).pump (run ends serial options s n).ends.calls
      (run ends serial options s n).notes :=
  PumpRun.iterate_induction (move_next ends serial options) move start n

/-- What every operation keeps of the state of the ends and their record holds throughout a run. -/
theorem state_induction {motive : σ → List EndCall → Prop} {s : σ} (start : motive s [])
    (readFrame : ∀ {s calls}, motive s calls →
      motive (ends.readFrame s).2 (calls ++ (ends.readFrame s).1.toList.map .readFrame))
    (tryReadFrame : ∀ {s calls}, motive s calls →
      motive (ends.tryReadFrame s).2 (calls ++ [.tryReadFrame (ends.tryReadFrame s).1]))
    (writeBlock : ∀ {s calls} block, motive s calls →
      motive (ends.writeBlock block s).2 (calls ++ [.writeBlock block (ends.writeBlock block s).1]))
    (n : Nat) :
    motive (run ends serial options s n).ends.state (run ends serial options s n).ends.calls := by
  induction n with
  | zero => exact start
  | succ n ih =>
    rw [run_succ]
    generalize run ends serial options s n = r at ih ⊢
    unfold PumpRun.next step
    cases r.pump.phase with
    | idle =>
      have hread := readFrame ih
      cases hgot : (ends.readFrame r.ends.state).1 with
      | none => simpa [Endpoints.recorded, hgot] using hread
      | some got => simpa [Endpoints.recorded, hgot] using hread
    | batching newestFirst => exact tryReadFrame ih
    | sending block count carried => exact writeBlock block ih
    | ended result => exact ih

end Uplink

namespace Downlink

variable {σ : Type} (ends : Endpoints σ) (serial : String) (options : BridgeOptions)

/-- What a step of the downlink can be, with the operations that had an outcome in it: a wait, using up
bytes of the last transfer, or going on with the outcome of the one operation that its phase asks for. -/
inductive Move (d : Downlink) : List EndCall → Downlink × List Note → Prop
  | wait : Move d [] (d, [])
  | feed (reading : Reading) (searching : Bool) : d.phase = .reading reading searching →
      d.queue.left ≠ [] →
      Move d [] (({ d with queue := (d.queue.feed reading).1 } : Downlink).receiveStep serial options
        searching (d.queue.feed reading).2)
  | transfer (reading : Reading) (searching : Bool) (got : IoResult Octets) :
      d.phase = .reading reading searching → d.queue.left = [] →
      Move d [.readTransfer d.queue.chunkLen got]
        (d.receiveTransfer serial options searching reading got)
  | written (reader : BlockReader) (frame : Octets) (later : List Octets) (got : IoResult Unit) :
      d.phase = .delivering reader frame later →
      Move d [.writeFrame frame got] (d.receiveWritten serial reader frame later got)

/-- The downlink after `n` steps from the start, where each step may also be a wait. -/
def run (chunkLen : Nat) (s : σ) (n : Nat) : PumpRun Downlink σ :=
  (PumpRun.next (step ends.recorded serial options))^[n] ⟨.ofChunkLen chunkLen, ⟨s, []⟩, []⟩

/-- Recording does not change what the downlink does. -/
lemma step_recorded (d : Downlink) (r : Recorded σ) :
    (d.step ends.recorded serial options r).1 = (d.step ends serial options r.state).1 ∧
      (d.step ends.recorded serial options r).2.state = (d.step ends serial options r.state).2 := by
  unfold step
  cases d.phase with
  | reading reading searching =>
    by_cases h : d.queue.left.isEmpty
    · simp only [h, if_true]
      exact ⟨rfl, rfl⟩
    · simp only [h]
      exact ⟨rfl, rfl⟩
  | delivering reader frame later => exact ⟨rfl, rfl⟩
  | ended result => exact ⟨rfl, rfl⟩

/-- Every step is a move. -/
lemma move_next (r : PumpRun Downlink σ) : ∃ calls notes,
    Move serial options r.pump calls ((r.next (step ends.recorded serial options)).pump, notes) ∧
      (r.next (step ends.recorded serial options)).ends.calls = r.ends.calls ++ calls ∧
      (r.next (step ends.recorded serial options)).notes = r.notes ++ notes := by
  unfold PumpRun.next step
  cases hphase : r.pump.phase with
  | reading reading searching =>
    by_cases hleft : r.pump.queue.left = []
    · simp only [List.isEmpty_iff.2 hleft, if_true]
      cases hgot : (ends.readTransfer r.pump.queue.chunkLen r.ends.state).1 with
      | none =>
        refine ⟨[], [], ?_⟩
        simp only [Endpoints.recorded, hgot, Option.map_none, Option.toList_none, List.map_nil]
        exact ⟨.wait, trivial, (List.append_nil _).symm⟩
      | some got =>
        refine ⟨[.readTransfer r.pump.queue.chunkLen got],
          (r.pump.receiveTransfer serial options searching reading got).2, ?_⟩
        simp only [Endpoints.recorded, hgot, Option.map_some, Option.toList_some, List.map_cons,
          List.map_nil]
        exact ⟨.transfer reading searching got hphase hleft, trivial, trivial⟩
    · simp only [mt List.isEmpty_iff.1 hleft, Bool.false_eq_true, if_false, ← hphase]
      exact ⟨[], _, .feed reading searching hphase hleft, (List.append_nil _).symm, rfl⟩
  | delivering reader frame later =>
    exact ⟨_, _, .written reader frame later _ hphase, rfl, rfl⟩
  | ended result =>
    exact ⟨[], [], .wait, (List.append_nil _).symm, (List.append_nil _).symm⟩

/-- What holds at the start and after every move holds throughout a run. -/
theorem run_induction {motive : Downlink → List EndCall → List Note → Prop} {chunkLen : Nat}
    (start : motive (.ofChunkLen chunkLen) [] [])
    (move : ∀ {d calls notes new next}, motive d calls notes → Move serial options d new next →
      motive next.1 (calls ++ new) (notes ++ next.2))
    (s : σ) (n : Nat) :
    motive (run ends serial options chunkLen s n).pump (run ends serial options chunkLen s n).ends.calls
      (run ends serial options chunkLen s n).notes :=
  PumpRun.iterate_induction (move_next ends serial options) move start n

end Downlink

end NcmBridge
