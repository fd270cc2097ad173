import NcmBridge.Proofs.Block.RoundTrip
import NcmBridge.Proofs.Bridge.History
import NcmBridge.Proofs.Settings.Accepted
import NcmBridge.Proofs.Telemetry.Counters

/-!
# The uplink loses no frame

Every frame that the uplink reads is in a block it wrote, in the block it is sending, in the batch it is
filling or carried over to the next batch, and these follow each other in the order of the reads. The
invariant says so phase by phase; with it go the numbers of the blocks and the reason why a batch ended.
-/

namespace NcmBridge

/-! ### Frames on their way -/

/-- The frames read have at least one byte and fit the buffer. -/
def Sized (calls : List EndCall) : Prop :=
  ∀ frame ∈ framesRead calls, 1 ≤ frame.length ∧ frame.length ≤ frameBufferLen

instance (calls : List EndCall) : Decidable (Sized calls) :=
  inferInstanceAs (Decidable (∀ _ ∈ framesRead calls, _))

lemma Sized.of_append {calls new : List EndCall} (h : Sized (calls ++ new)) : Sized calls := by
  intro frame hframe
  refine h frame ?_
  rw [framesRead_append]
  exact List.mem_append_left _ hframe

/-! ### Batches -/

section

variable (options : BridgeOptions) (calls : List EndCall)

/-- Why a batch ended after some operations, and the frame that it left for the next batch. -/
inductive BatchEnd : List Octets → Option Octets → Prop
  /-- Frames are not batched. -/
  | single (frame : Octets) : options.batchFrames = false → BatchEnd [frame] none
  /-- No further frame waited. -/
  | drained (batch : List Octets) : options.batchFrames = true →
      calls.getLast? = some (.tryReadFrame (.ok none)) → BatchEnd batch none
  /-- One more frame would have made the block too long. -/
  | full (batch : List Octets) (frame : Octets) : options.batchFrames = true →
      calls.getLast? = some (.tryReadFrame (.ok (some frame))) →
      options.batchLimit < Layout.blockLen ((batch ++ [frame]).map List.length) →
      BatchEnd batch (some frame)

/-- The block that follows some operations: it holds a batch with the next frames in order, and has
the next number. -/
structure Packs (block : Octets) (batch : List Octets) (carried : Option Octets) : Prop where
  framed : Framed block
  decodes : decode block = .ok batch
  nonempty : batch ≠ []
  numbered : ∃ header, TransferHeader.parse block = .ok header ∧
    header.sequence = UInt16.ofNat (blocksWritten calls).length
  follows : framesRead calls = framesSent calls ++ (batch ++ carried.toList)
  batch_end : BatchEnd options calls batch carried

/-- Every block that was given to the link held a batch as it should. -/
def WritesPacked : Prop :=
  ∀ before block got, before ++ [.writeBlock block got] <+: calls →
    ∃ batch carried, Packs options before block batch carried

/-- Where the frames are that were read, phase by phase. -/
def Uplink.Keeps (u : Uplink) : Prop :=
  match u.phase with
  | .idle => framesRead calls = framesSent calls ∧
      u.encoder.sequence = UInt16.ofNat (blocksWritten calls).length
  | .batching newestFirst => framesRead calls = framesSent calls ++ newestFirst.reverse ∧
      u.encoder.sequence = UInt16.ofNat (blocksWritten calls).length ∧ newestFirst ≠ [] ∧
      Layout.blockLen (newestFirst.reverse.map List.length) ≤ 65535 ∧ options.batchFrames = true
  | .sending block _ carried => (∃ batch, Packs options calls block batch carried) ∧
      u.encoder.sequence = UInt16.ofNat ((blocksWritten calls).length + 1)
  | .ended (.ok ()) => framesRead calls = framesSent calls ∧ .readFrame (.ok []) ∈ calls
  | .ended (.error e) => framesSent calls <+: framesRead calls ∧ ∃ call ∈ calls, call.failure? = some e

end

variable {options : BridgeOptions} {calls : List EndCall}

lemma WritesPacked.nil : WritesPacked options [] := by
  intro before block got h
  simp at h

/-- An operation keeps the property unless it writes a block that holds no batch. -/
lemma WritesPacked.concat {call : EndCall} (h : WritesPacked options calls)
    (hcall : ∀ block got, call = .writeBlock block got →
      ∃ batch carried, Packs options calls block batch carried) :
    WritesPacked options (calls ++ [call]) := by
  intro before block got hpre
  rcases List.prefix_concat_iff.1 hpre with heq | hpre
  · obtain ⟨rfl, hlast⟩ := List.append_inj' heq rfl
    exact hcall block got (List.singleton_inj.1 hlast).symm
  · exact h before block got hpre

/-- Frames that are on their way have at least one byte. -/
lemma ne_nil_of_mem_batch {batch rest : List Octets} (hsized : Sized calls)
    (h : framesRead calls = framesSent calls ++ (batch ++ rest)) : ∀ frame ∈ batch, frame ≠ [] := by
  intro frame hframe
  have hmem : frame ∈ framesRead calls := by
    rw [h]
    exact List.mem_append_right _ (List.mem_append_left _ hframe)
  exact List.ne_nil_of_length_pos (hsized frame hmem).1

namespace Encoder

/-- A written block holds its frames and the number of its encoder. -/
lemma packs_render {batch : List Octets} {carried : Option Octets} (hsized : Sized calls)
    (hlen : Layout.blockLen (batch.map List.length) ≤ 65535) (hne : batch ≠ [])
    (h : framesRead calls = framesSent calls ++ (batch ++ carried.toList))
    (hend : BatchEnd options calls batch carried) :
    Packs options calls (render (UInt16.ofNat (blocksWritten calls).length) batch) batch carried := by
  refine ⟨framed_render hlen, ?_, hne, ?_, h, hend⟩
  · rw [decode_render hlen, takeWhile_ne_nil (ne_nil_of_mem_batch hsized h)]
  · exact ⟨_, TransferHeader.parse_eq_ok_iff.2 (describes_render hlen).opens, rfl⟩

end Encoder

/-! ### Blocks given to the link -/

lemma exists_before {call : EndCall} (h : call ∈ calls) : ∃ before, before ++ [call] <+: calls := by
  obtain ⟨before, after, rfl⟩ := List.append_of_mem h
  exact ⟨before, after, by simp⟩

lemma EndCall.eq_of_blockWritten? {call : EndCall} {block : Octets}
    (h : call.blockWritten? = some block) : call = .writeBlock block (.ok ()) := by
  cases call with
  | writeBlock written got =>
    cases got with
    | error fault => cases h
    | ok got => cases h; rfl
  | _ => cases h

namespace WritesPacked

lemma mono {before : List EndCall} (h : WritesPacked options calls) (hpre : before <+: calls) :
    WritesPacked options before :=
  fun first block got hfirst => h first block got (hfirst.trans hpre)

/-- Every block that was written holds a batch. -/
lemma of_mem_blocksWritten (h : WritesPacked options calls) {block : Octets}
    (hmem : block ∈ blocksWritten calls) :
    ∃ before batch carried, Packs options before block batch carried := by
  obtain ⟨call, hcall, hwritten⟩ := List.mem_filterMap.1 hmem
  rw [EndCall.eq_of_blockWritten? hwritten] at hcall
  obtain ⟨before, hpre⟩ := exists_before hcall
  exact ⟨before, h before block (.ok ()) hpre⟩

/-- The block written after `k` others has the number `k`, modulo 2^16. -/
lemma numbered (h : WritesPacked options calls) {k : Nat} {block : Octets}
    (hk : (blocksWritten calls)[k]? = some block) :
    ∃ header, TransferHeader.parse block = .ok header ∧ header.sequence.toNat = k % 65536 := by
  induction calls using List.reverseRecOn with
  | nil => simp at hk
  | append_singleton calls call ih =>
    rw [blocksWritten_append, blocksWritten_singleton, List.getElem?_append] at hk
    split at hk
    · exact ih (h.mono (List.prefix_append _ _)) hk
    · next hlast =>
      obtain ⟨hindex, hwritten⟩ : k - (blocksWritten calls).length = 0 ∧
          call.blockWritten? = some block := by
        cases hcall : call.blockWritten? with
        | none => simp only [hcall, Option.toList_none, List.getElem?_nil, reduceCtorEq] at hk
        | some written =>
          rw [hcall, Option.toList_some, List.getElem?_singleton] at hk
          split at hk
          · next hzero => exact ⟨hzero, hk⟩
          · cases hk
      have hcall := EndCall.eq_of_blockWritten? hwritten
      obtain ⟨batch, carried, hpacks⟩ := h calls block (.ok ()) (hcall ▸ List.prefix_rfl)
      obtain ⟨header, hparse, hsequence⟩ := hpacks.numbered
      refine ⟨header, hparse, ?_⟩
      rw [hsequence, UInt16.toNat_ofNat', show (blocksWritten calls).length = k by omega]

/-- A block that is not batched holds one frame. -/
lemma unbatched (h : WritesPacked options calls) (hbatch : options.batchFrames = false)
    {before : List EndCall} {block : Octets} {got : IoResult Unit}
    (hpre : before ++ [.writeBlock block got] <+: calls) :
    ∃ frame, decode block = .ok [frame] := by
  obtain ⟨batch, carried, hpacks⟩ := h before block got hpre
  have hdecodes := hpacks.decodes
  cases hpacks.batch_end with
  | single frame _ => exact ⟨frame, hdecodes⟩
  | drained _ hon _ => simp [hbatch] at hon
  | full _ _ hon _ _ => simp [hbatch] at hon

/-- A batched block holds the frames before the one that was left for the next batch. -/
lemma batched (h : WritesPacked options calls) (hbatch : options.batchFrames = true)
    {before : List EndCall} {block : Octets} {got : IoResult Unit}
    (hpre : before ++ [.writeBlock block got] <+: calls) :
    ∃ batch, decode block = .ok batch ∧
      (before.getLast? = some (.tryReadFrame (.ok none)) ∨
        ∃ frame, before.getLast? = some (.tryReadFrame (.ok (some frame))) ∧
          options.batchLimit < Layout.blockLen ((batch ++ [frame]).map List.length)) := by
  obtain ⟨batch, carried, hpacks⟩ := h before block got hpre
  refine ⟨batch, hpacks.decodes, ?_⟩
  cases hpacks.batch_end with
  | single _ hoff => simp [hbatch] at hoff
  | drained _ _ hlast => exact .inl hlast
  | full _ frame _ hlast hover => exact .inr ⟨frame, hlast, hover⟩

/-- A frame that was left for the next batch comes first in the next block. -/
lemma carries (h : WritesPacked options calls) (hbatch : options.batchFrames = true)
    {before mid : List EndCall} {frame block next : Octets} {got : IoResult Unit}
    (hlast : before.getLast? = some (.tryReadFrame (.ok (some frame))))
    (hpre : before ++ [.writeBlock block (.ok ())] ++ mid ++ [.writeBlock next got] <+: calls)
    (hmid : blocksWritten mid = []) : ∃ rest, decode next = .ok (frame :: rest) := by
  have hbefore : before ++ [.writeBlock block (.ok ())] <+: calls := by
    rw [List.append_assoc] at hpre
    exact (List.prefix_append _ _).trans hpre
  obtain ⟨batch, carried, hpacks⟩ := h before block (.ok ()) hbefore
  obtain ⟨batch', carried', hpacks'⟩ := h _ next got hpre
  have hcarried : carried = some frame := by
    cases hpacks.batch_end with
    | single _ hoff => simp [hbatch] at hoff
    | drained _ _ hnone => simp [hlast] at hnone
    | full _ frame' _ hsome _ =>
      rw [hlast] at hsome
      cases hsome
      rfl
  have hsent : framesSent mid = [] := by
    rw [framesSent, hmid, List.flatMap_nil]
  have hfollows := hpacks'.follows
  simp only [framesRead_append, framesSent_append, hpacks.follows, hsent, hcarried,
    framesRead_singleton, framesSent_singleton, EndCall.frameRead?, EndCall.blockWritten?,
    Option.toList_none, Option.toList_some, List.flatMap_singleton, List.append_nil,
    blockFrames_of_decode hpacks.decodes, List.append_assoc, List.append_cancel_left_eq] at hfollows
  refine ⟨batch'.tail, ?_⟩
  cases batch' with
  | nil => exact absurd rfl hpacks'.nonempty
  | cons frame' rest =>
    rw [List.singleton_append, List.cons_append, List.cons.injEq] at hfollows
    rw [hpacks'.decodes, hfollows.1, List.tail_cons]

end WritesPacked

/-! ### Moves of the uplink -/

namespace Uplink

variable {serial : String} {u : Uplink}

/-- A batch that can be written is packed into the next block. -/
lemma keeps_pack {newestFirst : List Octets} {carried : Option Octets} (hsized : Sized calls)
    (hsequence : u.encoder.sequence = UInt16.ofNat (blocksWritten calls).length)
    (hne : newestFirst ≠ []) (hlen : Layout.blockLen (newestFirst.reverse.map List.length) ≤ 65535)
    (h : framesRead calls = framesSent calls ++ (newestFirst.reverse ++ carried.toList))
    (hend : BatchEnd options calls newestFirst.reverse carried) :
    Keeps options calls (u.pack newestFirst carried) := by
  have hpacks := Encoder.packs_render hsized hlen (mt List.reverse_eq_nil_iff.1 hne) h hend
  rw [pack, u.encoder.write_of_le hlen, hsequence]
  refine ⟨⟨_, hpacks⟩, ?_⟩
  rw [UInt16.ofNat_add]
  rfl

/-- A block with a single frame can always be written. -/
lemma blockLen_singleton_le {frame : Octets} (h : frame.length ≤ frameBufferLen) :
    Layout.blockLen ([frame].map List.length) ≤ 65535 := by
  rw [List.map_singleton, Layout.blockLen_singleton]
  rw [frameBufferLen] at h
  omega

/-- The frame that begins a batch is kept. -/
lemma keeps_beginBatch {frame : Octets} (hsized : Sized calls)
    (hsequence : u.encoder.sequence = UInt16.ofNat (blocksWritten calls).length)
    (h : framesRead calls = framesSent calls ++ [frame]) :
    Keeps options calls (u.beginBatch options frame) := by
  have hmem : frame ∈ framesRead calls := by
    rw [h]
    exact List.mem_append_right _ (List.mem_singleton_self frame)
  have hlen := blockLen_singleton_le (hsized frame hmem).2
  unfold beginBatch
  by_cases hbatch : options.batchFrames = true
  · rw [if_pos hbatch]
    exact ⟨h, hsequence, List.cons_ne_nil _ _, hlen, hbatch⟩
  · rw [if_neg hbatch]
    refine keeps_pack hsized hsequence (List.cons_ne_nil _ _) hlen h ?_
    exact .single frame (Bool.eq_false_iff.2 hbatch)

/-- A failed operation takes back no frame that was sent. -/
lemma keeps_of_failure {e : PumpError} {call : EndCall} (hphase : u.phase = .ended (.error e))
    (hfailure : call.failure? = some e) (hread : framesRead [call] = [])
    (hwritten : blocksWritten [call] = []) (h : framesSent calls <+: framesRead calls) :
    Keeps options (calls ++ [call]) u := by
  rw [Keeps, hphase, framesRead_append, framesSent_append, hread, framesSent, framesSent, hwritten]
  simp only [List.append_nil, List.flatMap_nil]
  exact ⟨h, call, List.mem_append_right _ (List.mem_singleton_self call), hfailure⟩

lemma keeps_receiveFrame {got : IoResult Octets} (hphase : u.phase = .idle)
    (hsized : Sized (calls ++ [.readFrame got])) (h : Keeps options calls u) :
    Keeps options (calls ++ [.readFrame got]) (u.receiveFrame serial options got).1 := by
  rw [Keeps, hphase] at h
  obtain ⟨hframes, hsequence⟩ := h
  cases got with
  | error fault =>
    exact keeps_of_failure rfl rfl rfl rfl (hframes ▸ List.prefix_rfl)
  | ok bytes =>
    cases bytes with
    | nil =>
      refine ⟨?_, List.mem_append_right _ (List.mem_singleton_self _)⟩
      simpa using hframes
    | cons b bytes =>
      refine keeps_beginBatch hsized ?_ ?_
      · simpa using hsequence
      · simpa using hframes

lemma keeps_receiveQueued {newestFirst : List Octets} {got : IoResult (Option Octets)}
    (hlimit : options.batchLimit ≤ 65535) (hphase : u.phase = .batching newestFirst)
    (hsized : Sized (calls ++ [.tryReadFrame got])) (h : Keeps options calls u) :
    Keeps options (calls ++ [.tryReadFrame got])
      (u.receiveQueued serial options newestFirst got).1 := by
  rw [Keeps, hphase] at h
  obtain ⟨hframes, hsequence, hne, hlen, hbatch⟩ := h
  cases got with
  | error fault =>
    exact keeps_of_failure rfl rfl rfl rfl (hframes ▸ List.prefix_append _ _)
  | ok got =>
    cases got with
    | none =>
      refine keeps_pack hsized ?_ hne hlen ?_ (.drained _ hbatch (List.getLast?_concat ..))
      · simpa using hsequence
      · simpa using hframes
    | some frame =>
      have hread : framesRead (calls ++ [.tryReadFrame (.ok (some frame))]) =
          framesSent calls ++ (newestFirst.reverse ++ [frame]) := by
        simp [hframes]
      rw [receiveQueued]
      by_cases hfits : fits options newestFirst frame = true
      · rw [if_pos hfits]
        rw [fits, decide_eq_true_eq] at hfits
        refine ⟨?_, ?_, List.cons_ne_nil _ _, hfits.trans hlimit, hbatch⟩
        · simpa using hread
        · simpa using hsequence
      · rw [if_neg hfits]
        rw [fits, decide_eq_true_eq, Nat.not_le, List.reverse_cons] at hfits
        refine keeps_pack hsized ?_ hne hlen ?_
          (.full _ frame hbatch (List.getLast?_concat ..) hfits)
        · simpa using hsequence
        · simpa using hread

lemma keeps_receiveSent {block : Octets} {count : Nat} {carried : Option Octets}
    {got : IoResult Unit} (hphase : u.phase = .sending block count carried)
    (hsized : Sized (calls ++ [.writeBlock block got])) (h : Keeps options calls u) :
    Keeps options (calls ++ [.writeBlock block got])
      (u.receiveSent serial options block count carried got).1 := by
  rw [Keeps, hphase] at h
  obtain ⟨⟨batch, hpacks⟩, hsequence⟩ := h
  have hfollows := hpacks.follows
  cases got with
  | error fault =>
    exact keeps_of_failure rfl rfl rfl rfl (hfollows ▸ List.prefix_append _ _)
  | ok got =>
    have hsent : framesSent (calls ++ [.writeBlock block (.ok got)]) = framesSent calls ++ batch := by
      simp [blockFrames_of_decode hpacks.decodes]
    have hread : framesRead (calls ++ [.writeBlock block (.ok got)]) =
        framesSent calls ++ batch ++ carried.toList := by
      simpa using hfollows
    have hnumber : u.encoder.sequence =
        UInt16.ofNat (blocksWritten (calls ++ [.writeBlock block (.ok got)])).length := by
      simpa using hsequence
    cases carried with
    | none =>
      refine ⟨?_, hnumber⟩
      rw [hread, hsent, Option.toList_none, List.append_nil]
    | some frame =>
      refine keeps_beginBatch hsized hnumber ?_
      rw [hread, hsent, Option.toList_some]

/-! ### Runs of the uplink -/

namespace Keeps

lemma sent (h : Keeps options calls u) : framesSent calls <+: framesRead calls := by
  unfold Keeps at h
  split at h
  · exact h.1 ▸ List.prefix_rfl
  · exact h.1 ▸ List.prefix_append _ _
  · obtain ⟨⟨batch, hpacks⟩, -⟩ := h
    exact hpacks.follows ▸ List.prefix_append _ _
  · exact h.1 ▸ List.prefix_rfl
  · exact h.1

lemma of_ended {result : PumpResult} (h : Keeps options calls u) (hresult : u.result? = some result) :
    Keeps options calls { u with phase := .ended result } := by
  unfold result? at hresult
  split at hresult
  · next hphase =>
    cases hresult
    rw [Keeps, hphase] at h
    exact h
  · cases hresult

lemma all_sent (h : Keeps options calls u) (hresult : u.result? = some (.ok ())) :
    framesSent calls = framesRead calls :=
  (h.of_ended hresult).1.symm

/-- The uplink fails only with an operation that failed. -/
lemma failed (h : Keeps options calls u) {e : PumpError} (hresult : u.result? = some (.error e)) :
    ∃ call ∈ calls, call.failure? = some e :=
  (h.of_ended hresult).2

lemma no_block_error (h : Keeps options calls u) (cause : BlockError) :
    u.result? ≠ some (.error (.block cause)) := by
  intro hresult
  obtain ⟨call, -, hfailure⟩ := h.failed hresult
  exact EndCall.failure?_ne_block hfailure

end Keeps

/-- One move keeps the frames, the numbers and the batches. -/
lemma keeps_move {new : List EndCall} {next : Uplink × List Note}
    (hlimit : options.batchLimit ≤ 65535) (hsized : Sized (calls ++ new))
    (hmove : Move serial options u new next) (hwrites : WritesPacked options calls)
    (hkeeps : Keeps options calls u) :
    WritesPacked options (calls ++ new) ∧ Keeps options (calls ++ new) next.1 := by
  cases hmove with
  | wait =>
    rw [List.append_nil]
    exact ⟨hwrites, hkeeps⟩
  | frame got hphase =>
    exact ⟨hwrites.concat (by simp), keeps_receiveFrame hphase hsized hkeeps⟩
  | queued newestFirst got hphase =>
    exact ⟨hwrites.concat (by simp), keeps_receiveQueued hlimit hphase hsized hkeeps⟩
  | sent block count carried got hphase =>
    refine ⟨hwrites.concat ?_, keeps_receiveSent hphase hsized hkeeps⟩
    intro block' got' heq
    obtain ⟨rfl, -⟩ := EndCall.writeBlock.inj heq
    rw [Keeps, hphase] at hkeeps
    obtain ⟨⟨batch, hpacks⟩, -⟩ := hkeeps
    exact ⟨batch, carried, hpacks⟩

/-- What the notes of a move count: the frame read or the block written. -/
lemma total_move {new : List EndCall} {next : Uplink × List Note}
    (hmove : Move serial options u new next) :
    Note.total .networkReceive next.2 = ((framesRead new).map List.length).sum ∧
      Note.total .usbSend next.2 = ((blocksWritten new).map List.length).sum := by
  cases hmove with
  | wait => exact ⟨rfl, rfl⟩
  | frame got hphase =>
    cases got with
    | error fault => exact ⟨rfl, rfl⟩
    | ok bytes =>
      cases bytes with
      | nil => exact ⟨rfl, rfl⟩
      | cons b bytes => simp [receiveFrame, arrival]
  | queued newestFirst got hphase =>
    cases got with
    | error fault => exact ⟨rfl, rfl⟩
    | ok got =>
      cases got with
      | none => exact ⟨rfl, rfl⟩
      | some frame =>
        have harrival : (u.receiveQueued serial options newestFirst (.ok (some frame))).2 =
            arrival serial frame := by
          rw [receiveQueued]
          split <;> rfl
        rw [harrival]
        simp [arrival]
  | sent block count carried got hphase =>
    cases got with
    | error fault => exact ⟨rfl, rfl⟩
    | ok got =>
      have hsent : (u.receiveSent serial options block count carried (.ok got)).2 =
          [.counted .usbSend block.length,
            .traced s!"{serial}: usb out {block.length} bytes, {count} frame(s)"] := by
        cases carried <;> rfl
      rw [hsent]
      simp

variable {σ : Type} (ends : Endpoints σ) (serial : String) (s : σ) (n : Nat)

/-- Throughout a run the frames are kept, the blocks numbered and the batches complete. -/
theorem keeps_run (hlimit : options.batchLimit ≤ 65535)
    (hsized : Sized (run ends serial options s n).ends.calls) :
    WritesPacked options (run ends serial options s n).ends.calls ∧
      Keeps options (run ends serial options s n).ends.calls (run ends serial options s n).pump := by
  revert hsized
  refine run_induction ends serial options (motive := fun u calls _ =>
    Sized calls → WritesPacked options calls ∧ Keeps options calls u) ?_ ?_ s n
  · intro _
    exact ⟨.nil, rfl, rfl⟩
  · intro u calls notes new next ih hmove hsized
    obtain ⟨hwrites, hkeeps⟩ := ih hsized.of_append
    exact keeps_move hlimit hsized hmove hwrites hkeeps

variable (options)

/-- What the notes of a run count: the frames read and the blocks written. -/
theorem total_run :
    Note.total .networkReceive (run ends serial options s n).notes =
        ((framesRead (run ends serial options s n).ends.calls).map List.length).sum ∧
      Note.total .usbSend (run ends serial options s n).notes =
        ((blocksWritten (run ends serial options s n).ends.calls).map List.length).sum := by
  refine run_induction ends serial options (motive := fun _ calls notes =>
    Note.total .networkReceive notes = ((framesRead calls).map List.length).sum ∧
      Note.total .usbSend notes = ((blocksWritten calls).map List.length).sum) ?_ ?_ s n
  · exact ⟨rfl, rfl⟩
  · intro u calls notes new next ih hmove
    obtain ⟨hreceive, hsend⟩ := total_move hmove
    simp only [Note.total_append, framesRead_append, blocksWritten_append, List.map_append,
      List.sum_append, ih.1, ih.2, hreceive, hsend, and_self]

end Uplink

end NcmBridge
