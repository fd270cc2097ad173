import NcmBridge.Bridge.Script
import NcmBridge.Proofs.Bridge.History
import NcmBridge.Proofs.Telemetry.Counters

/-!
# What the downlink does in one step

The notes of the downlink count the frames that it writes. Over a script, whose outcomes are laid out in
advance, each step can be said in full: a transfer fills the queue, bytes of the queue carry the read on,
or a frame is written.
-/

namespace NcmBridge

/-! ### What the notes count -/

namespace Downlink

variable {serial : String} {options : BridgeOptions} {d : Downlink}

lemma deliver_notes (c : Counter) (reader : BlockReader) (fs : List Octets) :
    Note.total c (d.deliver serial reader fs).2 = 0 := by
  cases fs with
  | nil => rfl
  | cons frame later => rfl

lemma receiveBlock_notes (reader : BlockReader) (result : BlockResult) :
    Note.total .networkSend (d.receiveBlock serial reader result).2 = 0 := by
  cases result with
  | error e => rfl
  | ok block =>
    cases block with
    | none => rfl
    | some block =>
      rw [receiveBlock]
      split
      · rfl
      · simp [deliver_notes]

lemma receiveSearch_notes (step : ReadStep) :
    Note.total .networkSend (d.receiveSearch serial step).2 = 0 := by
  cases step with
  | more reading => rfl
  | done reader result => exact receiveBlock_notes reader result

lemma receiveRead_notes (step : ReadStep) :
    Note.total .networkSend (d.receiveRead serial options step).2 = 0 := by
  unfold receiveRead
  split
  · rfl
  · split
    · show Note.total .networkSend (.logged _ :: (d.receiveSearch serial _).2) = 0
      rw [Note.total_cons, receiveSearch_notes]
      rfl
    · exact receiveBlock_notes _ _
  · exact receiveBlock_notes _ _

lemma receiveStep_notes (searching : Bool) (step : ReadStep) :
    Note.total .networkSend (d.receiveStep serial options searching step).2 = 0 := by
  cases searching with
  | true => exact receiveSearch_notes step
  | false => exact receiveRead_notes step

lemma total_move {new : List EndCall} {next : Downlink × List Note}
    (hmove : Move serial options d new next) :
    Note.total .networkSend next.2 = ((framesWritten new).map List.length).sum := by
  cases hmove with
  | wait => rfl
  | feed reading searching hphase hleft => exact receiveStep_notes searching _
  | transfer reading searching got hphase hleft =>
    have hnone : framesWritten [.readTransfer d.queue.chunkLen got] = [] := rfl
    rw [hnone]
    unfold receiveTransfer
    split
    · rfl
    · exact receiveStep_notes searching _
  | written reader frame later got hphase =>
    cases got with
    | error fault => rfl
    | ok got => simp [receiveWritten, deliver_notes]

/-- The notes of a run count the frames written. -/
theorem total_run {σ : Type} (ends : Endpoints σ) (serial : String) (options : BridgeOptions)
    (chunkLen : Nat) (s : σ) (n : Nat) :
    Note.total .networkSend (run ends serial options chunkLen s n).notes =
      ((framesWritten (run ends serial options chunkLen s n).ends.calls).map List.length).sum := by
  refine run_induction ends serial options (motive := fun _ calls notes =>
    Note.total .networkSend notes = ((framesWritten calls).map List.length).sum) rfl ?_ s n
  intro d calls notes new next ih hmove
  rw [Note.total_append, ih, total_move hmove, framesWritten_append, List.map_append, List.sum_append]

end Downlink

/-! ### Steps over a script -/

namespace Script

/-- A script whose link delivers transfers and then the end of the stream. -/
def ofTransfers (pieces : List Octets) : Script := { transfers := pieces.map .ok ++ [.ok []] }

variable {s : Script} {len : Nat} {bytes : Octets} {rest : List (IoResult Octets)}

lemma readTransfer_of_le (hopen : s.linkCloses = 0) (h : s.transfers = .ok bytes :: rest)
    (hlen : bytes.length ≤ len) :
    s.readTransfer len = (some (.ok bytes), { s with transfers := rest }) := by
  rw [readTransfer, if_neg (by omega), h]
  simp only [List.drop_of_length_le hlen]

/-- A write meets the next outcome laid out, and succeeds when none is. -/
lemma writeFrame_of_drop (frame : Octets) {writes : List (IoResult Unit)} {k : Nat}
    (h : s.frameWrites = writes.drop k) :
    ∃ s', s.writeFrame frame = (writes[k]?.getD (.ok ()), s') ∧ s'.transfers = s.transfers ∧
      s'.linkCloses = s.linkCloses ∧ s'.frameWrites = writes.drop (k + 1) := by
  by_cases hk : k < writes.length
  · rw [List.drop_eq_getElem_cons hk] at h
    rw [List.getElem?_eq_getElem hk, Option.getD_some]
    cases hgot : writes[k] with
    | ok got =>
      rw [hgot] at h
      have hwrite : s.writeFrame frame =
          (.ok (), { s with frames := frame :: s.frames, frameWrites := writes.drop (k + 1) }) := by
        rw [writeFrame, h]
      exact ⟨_, hwrite, rfl, rfl, rfl⟩
    | error fault =>
      rw [hgot] at h
      have hwrite : s.writeFrame frame =
          (.error fault, { s with frameWrites := writes.drop (k + 1) }) := by
        rw [writeFrame, h]
      exact ⟨_, hwrite, rfl, rfl, rfl⟩
  · rw [List.drop_of_length_le (Nat.le_of_not_lt hk)] at h
    rw [List.getElem?_eq_none (Nat.le_of_not_lt hk), Option.getD_none,
      List.drop_of_length_le (Nat.le_succ_of_le (Nat.le_of_not_lt hk))]
    have hwrite : s.writeFrame frame = (.ok (), { s with frames := frame :: s.frames }) := by
      rw [writeFrame, h]
    exact ⟨_, hwrite, rfl, rfl, h⟩

end Script

namespace Downlink

section Steps

variable (serial : String) (options : BridgeOptions)

/-- One step of the downlink over a script. -/
def advance : PumpRun Downlink Script → PumpRun Downlink Script :=
  PumpRun.next (step Script.ends.recorded serial options)

variable {c : Nat} {left : Octets} {reading : Reading} {searching : Bool} {s : Script}
  {calls : List EndCall} {notes : List Note}

/-- The next transfer is read when nothing is left of the last. -/
lemma advance_read {piece : Octets} {rest : List (IoResult Octets)} (hopen : s.linkCloses = 0)
    (htransfers : s.transfers = .ok piece :: rest) (hne : piece ≠ []) (hlen : piece.length ≤ c) :
    advance serial options ⟨⟨⟨c, []⟩, .reading reading searching⟩, ⟨s, calls⟩, notes⟩ =
      ⟨⟨⟨c, piece⟩, .reading reading searching⟩,
        ⟨{ s with transfers := rest }, calls ++ [.readTransfer c (.ok piece)]⟩, notes⟩ := by
  have hread : s.readTransfer c = _ := Script.readTransfer_of_le hopen htransfers hlen
  obtain ⟨b, bytes, rfl⟩ := List.exists_cons_of_ne_nil hne
  simp only [advance, PumpRun.next, step, List.isEmpty_nil, if_true, Endpoints.recorded, Script.ends,
    hread]
  simp [receiveTransfer, BulkQueue.refill]

/-- A read that has begun no block meets the end of the stream. -/
lemma advance_end {reader : BlockReader} {rest : List (IoResult Octets)} (hopen : s.linkCloses = 0)
    (htransfers : s.transfers = .ok [] :: rest) :
    advance serial options ⟨⟨⟨c, []⟩, .reading reader.next false⟩, ⟨s, calls⟩, notes⟩ =
      ⟨⟨⟨c, []⟩, .ended (.ok ())⟩,
        ⟨{ s with transfers := rest }, calls ++ [.readTransfer c (.ok [])]⟩, notes⟩ := by
  have hread : s.readTransfer c = _ :=
    Script.readTransfer_of_le hopen htransfers (Nat.zero_le c)
  simp only [advance, PumpRun.next, step, List.isEmpty_nil, if_true, Endpoints.recorded, Script.ends,
    hread]
  simp [receiveTransfer, receiveStep, receiveRead, receiveBlock, Reading.receive, Reading.atEnd,
    BlockReader.next, Field.signature]

lemma advance_feed {ends : Recorded Script} {q : BulkQueue} {readStep : ReadStep} (hne : left ≠ [])
    (hfeed : (BulkQueue.mk c left).feed reading = (q, readStep)) :
    advance serial options ⟨⟨⟨c, left⟩, .reading reading searching⟩, ends, notes⟩ =
      ⟨(receiveStep serial options searching ⟨q, .reading reading searching⟩ readStep).1, ends,
        notes ++ (receiveStep serial options searching ⟨q, .reading reading searching⟩ readStep).2⟩ := by
  simp only [advance, PumpRun.next, step, mt List.isEmpty_iff.1 hne, Bool.false_eq_true, if_false,
    hfeed]

lemma advance_write {queue : BulkQueue} {reader : BlockReader} {frame : Octets} {later : List Octets}
    {got : IoResult Unit} {s' : Script} (hwrite : s.writeFrame frame = (got, s')) :
    advance serial options ⟨⟨queue, .delivering reader frame later⟩, ⟨s, calls⟩, notes⟩ =
      ⟨(receiveWritten serial ⟨queue, .delivering reader frame later⟩ reader frame later got).1,
        ⟨s', calls ++ [.writeFrame frame got]⟩,
        notes ++
          (receiveWritten serial ⟨queue, .delivering reader frame later⟩ reader frame later got).2⟩ := by
  simp only [advance, PumpRun.next, step, Endpoints.recorded, Script.ends]
  rw [hwrite]

lemma advance_of_ended {r : PumpRun Downlink Script} {result : PumpResult}
    (h : r.pump.phase = .ended result) : advance serial options r = r := by
  obtain ⟨⟨queue, phase⟩, ends, notes⟩ := r
  cases h
  rfl

/-- Where the downlink goes on with frames to write: to the first, or to the next read. -/
def delivery (reader : BlockReader) : List Octets → Phase
  | [] => .reading reader.next false
  | frame :: later => .delivering reader frame later

lemma deliver_eq (d : Downlink) (reader : BlockReader) (fs : List Octets) :
    (d.deliver serial reader fs).1 = { d with phase := delivery reader fs } := by
  cases fs with
  | nil => rfl
  | cons frame later => rfl

lemma receiveStep_more (searching : Bool) (d : Downlink) (reading : Reading) :
    d.receiveStep serial options searching (.more reading) =
      ({ d with phase := .reading reading searching }, []) := by
  cases searching <;> rfl

/-- Four other bytes where a signature should be begin a search, if that is allowed. -/
lemma receiveStep_search {reader : BlockReader} (d : Downlink) (found : UInt32)
    (hresync : options.resync = true)
    (hmore : reader.resync BlockReader.defaultResyncLimit = .more reading) :
    (d.receiveStep serial options false (.done reader (.error (.invalidSignature found)))).1 =
        { d with phase := .reading reading true } ∧
      Note.total .usbReceive
        (d.receiveStep serial options false (.done reader (.error (.invalidSignature found)))).2 = 0 := by
  simp [receiveStep, receiveRead, hresync, hmore, receiveSearch, Note.amount]

lemma receiveStep_done (searching : Bool) (d : Downlink) (reader : BlockReader) (block : Octets) :
    d.receiveStep serial options searching (.done reader (.ok (some block))) =
      d.receiveBlock serial reader (.ok (some block)) := by
  cases searching <;> rfl

lemma receiveBlock_of_decode {block : Octets} {fs : List Octets} (d : Downlink)
    (reader : BlockReader) (hdecode : decode block = .ok fs) :
    (d.receiveBlock serial reader (.ok (some block))).1 = { d with phase := delivery reader fs } ∧
      Note.total .usbReceive (d.receiveBlock serial reader (.ok (some block))).2 = block.length := by
  rw [receiveBlock, hdecode]
  exact ⟨deliver_eq serial d reader fs, by simp [deliver_notes]⟩

lemma receiveBlock_of_decode_error {block : Octets} {e : BlockError} (d : Downlink)
    (reader : BlockReader) (hdecode : decode block = .error e) :
    d.receiveBlock serial reader (.ok (some block)) =
      ({ d with phase := .ended (.error (.ofBlock e)) }, [.counted .usbReceive block.length]) := by
  rw [receiveBlock, hdecode]

end Steps

end Downlink

end NcmBridge
