import NcmBridge.Proofs.Bridge.Course

/-!
# What arrives through a damaged stream

Blocks of the device reach the interface whole or not at all. Bytes between them that belong to no block
are passed over, as long as they are no more than a search goes on for. A block that does not decode, or a
frame that the interface refuses, ends the downlink after exactly the frames before it.
-/

namespace NcmBridge

/-! ### Failures of decoding -/

section

variable {bytes block : Octets} {fault : IoFault}

lemma Octets.slice_ne_io {start len : Nat} : bytes.slice start len ≠ .error (.io fault) := by
  unfold Octets.slice
  split <;> simp

lemma Octets.word16_ne_io {pos : Nat} : bytes.word16 pos ≠ .error (.io fault) := by
  unfold Octets.word16
  split <;> simp

lemma Octets.word32_ne_io {pos : Nat} : bytes.word32 pos ≠ .error (.io fault) := by
  unfold Octets.word32
  split <;> simp

open Checks

lemma TransferHeader.parse_ne_io : TransferHeader.parse bytes ≠ .error (.io fault) := by
  unfold TransferHeader.parse
  refine unless_throw_ne_error (by simp) (bind_ne_error Octets.word32_ne_io fun signature => ?_)
  refine unless_throw_ne_error (by simp) (unless_throw_ne_error (by simp) ?_)
  refine bind_ne_error Octets.word16_ne_io fun headerLen => unless_throw_ne_error (by simp) ?_
  refine bind_ne_error Octets.word16_ne_io fun sequence => ?_
  refine bind_ne_error Octets.word16_ne_io fun blockLen => ?_
  exact bind_ne_error Octets.word16_ne_io fun tableIndex => by simp [pure, Except.pure]

lemma TableHeader.parse_ne_io {offset : Nat} :
    TableHeader.parse block offset ≠ .error (.io fault) := by
  unfold TableHeader.parse
  split
  · simp [throw, throwThe, MonadExceptOf.throw]
  · refine bind_ne_error Octets.word32_ne_io fun signature => unless_throw_ne_error (by simp) ?_
    refine bind_ne_error Octets.word16_ne_io fun length => ?_
    exact bind_ne_error Octets.word16_ne_io fun next => by simp [pure, Except.pure]

lemma DatagramPointer.parse_ne_io : DatagramPointer.parse bytes ≠ .error (.io fault) := by
  unfold DatagramPointer.parse
  refine bind_ne_error Octets.word16_ne_io fun offset => ?_
  exact bind_ne_error Octets.word16_ne_io fun length => by simp [pure, Except.pure]

lemma Decode.datagrams_ne_io {size : Nat} {entries : Octets} :
    Decode.datagrams block size entries ≠ .error (.io fault) := by
  fun_induction Decode.datagrams block size entries with
  | case1 b0 b1 b2 b3 rest ih =>
    refine bind_ne_error DatagramPointer.parse_ne_io fun pointer => ?_
    split
    · simp [pure, Except.pure]
    · refine unless_throw_ne_error (by simp) (unless_throw_ne_error (by simp) ?_)
      refine bind_ne_error Octets.slice_ne_io fun frame => ?_
      exact bind_ne_error ih fun later => by simp [pure, Except.pure]
  | case2 => simp [pure, Except.pure]

lemma Decode.tables_ne_io {size budget index : Nat} :
    Decode.tables block size budget index ≠ .error (.io fault) := by
  induction budget generalizing index with
  | zero => simp [Decode.tables, throw, throwThe, MonadExceptOf.throw]
  | succ budget ih =>
    unfold Decode.tables
    refine unless_throw_ne_error (by simp) (bind_ne_error TableHeader.parse_ne_io fun table => ?_)
    refine unless_throw_ne_error (by simp) (bind_ne_error Octets.slice_ne_io fun entries => ?_)
    refine bind_ne_error Decode.datagrams_ne_io fun frames => ?_
    split
    · simp [pure, Except.pure]
    · exact bind_ne_error ih fun later => by simp [pure, Except.pure]

lemma decode_ne_io : decode bytes ≠ .error (.io fault) := by
  unfold decode
  refine bind_ne_error TransferHeader.parse_ne_io fun header => ?_
  exact unless_throw_ne_error (by simp) (unless_throw_ne_error (by simp) Decode.tables_ne_io)

end

/-! ### Delivery -/

namespace Downlink

/-- What holds of the runs of a downlink over a script that lays out the outcomes `writes` of its writes
of frames, when the blocks of `stretches` are to be framed, carry `frames`, and lead to `result`. -/
structure Delivers (serial : String) (writes : List (IoResult Unit)) (stretches : List Stretch)
    (frames : List Octets) (result : PumpResult) (run : Nat → PumpRun Downlink Script) : Prop where
  /-- If no write fails, all frames are written in order, and then the downlink ends. -/
  completes : (∀ got ∈ writes.take frames.length, got = .ok ()) →
    ∃ n, ∀ m ≥ n, (run m).pump.result? = some result ∧ framesWritten (run m).ends.calls = frames
  /-- The first write that fails ends the downlink after the frames before. -/
  stops : ∀ k fault, k < frames.length → (∀ got ∈ writes.take k, got = .ok ()) →
    writes[k]? = some (.error fault) →
      ∃ n, ∀ m ≥ n, (run m).pump.result? = some (.error (.interface fault)) ∧
        framesWritten (run m).ends.calls = frames.take k
  /-- A frame is not written before its block is complete. -/
  after_block : ∀ n, framesWritten (run n).ends.calls <+:
    (framedWithin stretches (consumed (run n))).flatMap blockFrames
  counted_written : ∀ n (registry : Registry), registry.Ordered →
    ((run n).notes.foldl (Note.enter serial) registry).counter .networkSend serial =
      registry.counter .networkSend serial +
        UInt64.ofNat ((framesWritten (run n).ends.calls).map List.length).sum
  counted_framed : ∀ n (registry : Registry), registry.Ordered →
    ((run n).notes.foldl (Note.enter serial) registry).counter .usbReceive serial =
      registry.counter .usbReceive serial +
        UInt64.ofNat ((framedWithin stretches (consumed (run n))).map List.length).sum

lemma delivers_of_course (serial : String) (options : BridgeOptions) {chunkLen : Nat} {s : Script}
    {pieces : List Octets} {stretches : List Stretch} {result : PumpResult}
    (htransfers : s.transfers = pieces.map .ok ++ [.ok []])
    (hbounds : ∀ piece ∈ pieces, piece ≠ [] ∧ piece.length ≤ chunkLen) (hopen : s.linkCloses = 0)
    (hcourse : Course options.resync pieces.flatten stretches result) :
    Delivers serial s.frameWrites stretches (streamFrames stretches) result
      (run Script.ends serial options chunkLen s) := by
  have hstands := stands_run serial options htransfers hbounds hopen hcourse
  obtain ⟨n, hn⟩ := exists_run_ended serial options htransfers hbounds hopen hcourse
  refine ⟨?_, ?_, ?_, ?_, ?_⟩
  · intro hok
    refine ⟨n, fun m hm => ?_⟩
    obtain ⟨hphase, hwritten, -⟩ := (hstands m).ended_of_ok (hn m hm) hok
    exact ⟨by rw [result?, hphase]; rfl, hwritten⟩
  · intro k fault hk hok hfault
    refine ⟨n, fun m hm => ?_⟩
    obtain ⟨hphase, hwritten⟩ := (hstands m).ended_of_fault (hn m hm) hk hok hfault
    exact ⟨by rw [result?, hphase], hwritten⟩
  · intro m
    obtain ⟨past, upcoming, owed, htally, hframed⟩ := (hstands m).exists_tally
    have hpast : framedWithin stretches _ = _ := hframed
    rw [hpast, List.flatMap_map]
    exact ⟨owed, htally.written⟩
  · intro m registry hregistry
    rw [Note.counter_foldl_enter hregistry, total_run]
  · intro m registry hregistry
    obtain ⟨past, upcoming, owed, htally, hframed⟩ := (hstands m).exists_tally
    have hpast : framedWithin stretches _ = _ := hframed
    rw [Note.counter_foldl_enter hregistry, htally.counted, hpast, List.map_map]
    rfl

/-- With resynchronisation, frames arrive through any stream of blocks with gaps that can be passed over,
however transfers cut it: all frames of the blocks that decode, up to a block that does not, and up to a
write that fails. -/
theorem delivers_across_gaps (serial : String) (options : BridgeOptions)
    (hresync : options.resync = true) {chunkLen : Nat} {pieces : List Octets}
    (hbounds : ∀ piece ∈ pieces, piece ≠ [] ∧ piece.length ≤ chunkLen) {s : Script}
    (htransfers : s.transfers = pieces.map .ok ++ [.ok []]) (hopen : s.linkCloses = 0)
    {stretches : List Stretch} (hclear : ∀ t ∈ stretches, t.Clear)
    (hdecode : ∀ t ∈ stretches, ∃ frames, decode t.block = .ok frames) :
    (pieces.flatten = stretches.flatMap Stretch.bytes →
      Delivers serial s.frameWrites stretches (stretches.flatMap fun t => blockFrames t.block) (.ok ())
        (run Script.ends serial options chunkLen s)) ∧
      ∀ (broken : Stretch) (cause : BlockError) (rest : Octets), broken.Clear →
        decode broken.block = .error cause →
        pieces.flatten = stretches.flatMap Stretch.bytes ++ (broken.bytes ++ rest) →
        Delivers serial s.frameWrites (stretches ++ [broken])
          (stretches.flatMap fun t => blockFrames t.block) (.error (.block cause))
          (run Script.ends serial options chunkLen s) := by
  have hgaps : ∀ t ∈ stretches, t.Clear ∧ (t.gap = [] ∨ options.resync = true) :=
    fun t ht => ⟨hclear t ht, .inr hresync⟩
  constructor
  · intro hstream
    have hcourse := Course.append hgaps hdecode .ends
    rw [List.append_nil, List.append_nil, ← hstream] at hcourse
    exact delivers_of_course serial options htransfers hbounds hopen hcourse
  · intro broken cause rest hbroken hcause hstream
    have hcourse := Course.append hgaps hdecode (.breaks rest hbroken (.inr hresync) hcause)
    have hresult : PumpError.ofBlock cause = .block cause := by
      cases cause with
      | io fault => exact absurd hcause decode_ne_io
      | _ => rfl
    rw [← hstream, hresult] at hcourse
    have h := delivers_of_course serial options htransfers hbounds hopen hcourse
    rw [streamFrames_append_singleton, blockFrames_of_decode_error hcause, List.append_nil] at h
    exact h

/-- Five bytes, among them parts of a signature, before a block with one frame. -/
def garbledStretch : Stretch := ⟨[0x4e, 0x43, 0x4d, 0x4e, 0x43], Encoder.render 0 [[1, 2, 3]]⟩

/-- A block whose table has lost its signature. -/
def brokenStretch : Stretch := ⟨[], (Encoder.render 1 [[4]]).set 12 0⟩

/-- The bytes of both and one more in transfers of at most 16 bytes. -/
def garbledTransfers : List Octets :=
  (garbledStretch.bytes ++ (brokenStretch.bytes ++ [5])).toChunks 16

/-- The frame before the broken block arrives, and nothing after it. -/
theorem delivers_garbled_stretch :
    garbledStretch.Clear ∧ brokenStretch.Clear ∧
      ∃ n, ∀ m ≥ n,
        (run Script.ends "S1" {} 16 (.ofTransfers garbledTransfers) m).pump.result? =
            some (.error (.block (.invalidTableSignature 12 0x304d4300))) ∧
          framesWritten (run Script.ends "S1" {} 16 (.ofTransfers garbledTransfers) m).ends.calls =
            [[1, 2, 3]] := by
  have hgarbled : garbledStretch.Clear := by
    refine ⟨⟨⟨0, UInt16.ofNat garbledStretch.block.length, 12⟩, ?_, ?_⟩, ?_, ?_⟩
    all_goals decide +kernel
  have hbroken : brokenStretch.Clear := by
    refine ⟨⟨⟨1, UInt16.ofNat brokenStretch.block.length, 12⟩, ?_, ?_⟩, ?_, ?_⟩
    all_goals decide +kernel
  have hbounds : ∀ piece ∈ garbledTransfers, piece ≠ [] ∧ piece.length ≤ 16 := by decide +kernel
  have hclear : ∀ t ∈ [garbledStretch], t.Clear := by simpa using hgarbled
  have hdecode : ∀ t ∈ [garbledStretch], ∃ frames, decode t.block = .ok frames := by
    rw [List.forall_mem_singleton]
    exact ⟨[[1, 2, 3]], by decide +kernel⟩
  refine ⟨hgarbled, hbroken, ?_⟩
  obtain ⟨-, hbreaks⟩ := delivers_across_gaps "S1" {} rfl hbounds (s := .ofTransfers garbledTransfers)
    rfl rfl hclear hdecode
  have hcause : decode brokenStretch.block = .error (.invalidTableSignature 12 0x304d4300) := by
    decide +kernel
  have hdelivers := hbreaks brokenStretch _ [5] hbroken hcause (by decide +kernel)
  have hframes : ([garbledStretch].flatMap fun t => blockFrames t.block) = [[1, 2, 3]] := by
    decide +kernel
  rw [hframes] at hdelivers
  exact hdelivers.completes (by decide)

end Downlink

end NcmBridge
