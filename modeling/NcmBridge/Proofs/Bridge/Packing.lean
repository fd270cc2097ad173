import NcmBridge.Bridge.Script
import NcmBridge.Proofs.Block.Written
import NcmBridge.Proofs.Bridge.Batching

/-!
# What the blocks of the uplink hold

Every block that the uplink gives to the link holds frames that were read one after another, whatever their
lengths are. Two things follow. A block that holds several frames is within the limit for batches, and only
a single frame can make a longer one. And a frame without bytes, which a read for a batch may yield, leaves
an entry in its block that hides the frames behind it.
-/

namespace NcmBridge

/-! ### Batches in blocks -/

/-- A batch has a frame, and it has several only if their block is within the limit. -/
structure Admitted (options : BridgeOptions) (batch : List Octets) : Prop where
  nonempty : batch ≠ []
  limited : 1 < batch.length → Layout.blockLen (batch.map List.length) ≤ options.batchLimit

/-- The block was written for a batch of frames that follow each other in `frames`. -/
structure Carries (options : BridgeOptions) (frames : List Octets) (block : Octets) (batch : List Octets) :
    Prop where
  admitted : Admitted options batch
  consecutive : batch <:+: frames
  writable : Layout.blockLen (batch.map List.length) ≤ 65535
  rendered : ∃ number, block = Encoder.render number batch

section

variable (options : BridgeOptions) (calls : List EndCall)

/-- Every block that was given to the link carries frames that were read. -/
def BlocksCarry : Prop :=
  ∀ block got, .writeBlock block got ∈ calls → ∃ batch, Carries options (framesRead calls) block batch

/-- The frames that the uplink holds are the last ones that it has read. -/
def Uplink.Collects (u : Uplink) : Prop :=
  match u.phase with
  | .idle => True
  | .batching newestFirst => Admitted options newestFirst.reverse ∧ newestFirst.reverse <:+ framesRead calls
  | .sending block _ carried =>
    (∃ batch, Carries options (framesRead calls) block batch) ∧ carried.toList <:+ framesRead calls
  | .ended _ => True

end

variable {options : BridgeOptions} {calls : List EndCall}

lemma Admitted.singleton (frame : Octets) : Admitted options [frame] :=
  ⟨List.cons_ne_nil _ _, fun h => absurd h (Nat.lt_irrefl 1)⟩

lemma Carries.mono {frames later : List Octets} {block : Octets} {batch : List Octets}
    (h : Carries options frames block batch) : Carries options (frames ++ later) block batch :=
  { h with consecutive := h.consecutive.trans (List.prefix_append _ _).isInfix }

/-- An operation keeps the property unless it writes a block that carries nothing. -/
lemma BlocksCarry.concat {call : EndCall} (h : BlocksCarry options calls)
    (hcall : ∀ block got, call = .writeBlock block got →
      ∃ batch, Carries options (framesRead calls) block batch) :
    BlocksCarry options (calls ++ [call]) := by
  intro block got hmem
  rw [framesRead_append]
  rcases List.mem_append.1 hmem with hmem | hmem
  · obtain ⟨batch, hcarries⟩ := h block got hmem
    exact ⟨batch, hcarries.mono⟩
  · obtain ⟨batch, hcarries⟩ := hcall block got (List.mem_singleton.1 hmem).symm
    exact ⟨batch, hcarries.mono⟩

/-! ### Moves of the uplink -/

namespace Uplink

variable {serial : String} {u : Uplink}

lemma collects_pack {newestFirst : List Octets} {carried : Option Octets}
    (hadmitted : Admitted options newestFirst.reverse)
    (h : newestFirst.reverse ++ carried.toList <:+ framesRead calls) :
    Collects options calls (u.pack newestFirst carried) := by
  rcases Nat.lt_or_ge 65535 (Layout.blockLen (newestFirst.reverse.map List.length)) with hlong | hlen
  · rw [pack, u.encoder.write_of_lt hlong]
    trivial
  · rw [pack, u.encoder.write_of_le hlen]
    have hconsecutive : newestFirst.reverse <:+: framesRead calls :=
      (List.prefix_append _ _).isInfix.trans h.isInfix
    exact ⟨⟨_, hadmitted, hconsecutive, hlen, _, rfl⟩, (List.suffix_append _ _).trans h⟩

lemma collects_beginBatch {frame : Octets} (h : [frame] <:+ framesRead calls) :
    Collects options calls (u.beginBatch options frame) := by
  unfold beginBatch
  split
  · exact ⟨.singleton frame, h⟩
  · exact collects_pack (.singleton frame) h

lemma collects_receiveFrame (got : IoResult Octets) :
    Collects options (calls ++ [.readFrame got]) (u.receiveFrame serial options got).1 := by
  match got with
  | .error fault => trivial
  | .ok [] => trivial
  | .ok (b :: bytes) =>
    refine collects_beginBatch ?_
    rw [framesRead_append]
    exact List.suffix_append _ _

/-- A further frame is added only if the block stays within the limit. -/
lemma collects_receiveQueued {newestFirst : List Octets} {got : IoResult (Option Octets)}
    (hphase : u.phase = .batching newestFirst) (h : Collects options calls u) :
    Collects options (calls ++ [.tryReadFrame got])
      (u.receiveQueued serial options newestFirst got).1 := by
  rw [Collects, hphase] at h
  obtain ⟨hadmitted, hlast⟩ := h
  match got with
  | .error fault => trivial
  | .ok none =>
    refine collects_pack hadmitted ?_
    simpa using hlast
  | .ok (some frame) =>
    have hread : (frame :: newestFirst).reverse <:+
        framesRead (calls ++ [.tryReadFrame (.ok (some frame))]) := by
      rw [List.reverse_cons, framesRead_append]
      exact List.suffix_append_self_iff.2 hlast
    rw [receiveQueued]
    by_cases hfits : fits options newestFirst frame = true
    · rw [if_pos hfits]
      rw [fits, decide_eq_true_eq] at hfits
      exact ⟨⟨by simp, fun _ => hfits⟩, hread⟩
    · rw [if_neg hfits]
      rw [List.reverse_cons] at hread
      exact collects_pack hadmitted hread

/-- Nothing is read while a block is sent, so a frame that was carried over is still the last one. -/
lemma collects_receiveSent {block : Octets} {count : Nat} {carried : Option Octets} {got : IoResult Unit}
    (hphase : u.phase = .sending block count carried) (h : Collects options calls u) :
    Collects options (calls ++ [.writeBlock block got])
      (u.receiveSent serial options block count carried got).1 := by
  rw [Collects, hphase] at h
  obtain ⟨-, hcarried⟩ := h
  match got, carried with
  | .error fault, _ => trivial
  | .ok (), none => trivial
  | .ok (), some frame =>
    refine collects_beginBatch ?_
    simpa using hcarried

lemma collects_move {new : List EndCall} {next : Uplink × List Note} (hmove : Move serial options u new next)
    (hblocks : BlocksCarry options calls) (hcollects : Collects options calls u) :
    BlocksCarry options (calls ++ new) ∧ Collects options (calls ++ new) next.1 := by
  cases hmove with
  | wait =>
    rw [List.append_nil]
    exact ⟨hblocks, hcollects⟩
  | frame got hphase => exact ⟨hblocks.concat nofun, collects_receiveFrame got⟩
  | queued newestFirst got hphase => exact ⟨hblocks.concat nofun, collects_receiveQueued hphase hcollects⟩
  | sent block count carried got hphase =>
    refine ⟨hblocks.concat ?_, collects_receiveSent hphase hcollects⟩
    rintro _ _ ⟨⟩
    rw [Collects, hphase] at hcollects
    exact hcollects.1

/-- Throughout a run the blocks carry frames that were read one after another. -/
theorem blocksCarry_run {σ : Type} (ends : Endpoints σ) (serial : String) (options : BridgeOptions) (s : σ)
    (n : Nat) : BlocksCarry options (run ends serial options s n).ends.calls := by
  have hrun := run_induction ends serial options
    (motive := fun u calls _ => BlocksCarry options calls ∧ Collects options calls u)
    ⟨fun _ _ hmem => absurd hmem (List.not_mem_nil), trivial⟩
    (fun h hmove => collects_move hmove h.1 h.2) s n
  exact hrun.1

end Uplink

/-! ### The limit -/

lemma Carries.length_eq {frames : List Octets} {block : Octets} {batch : List Octets}
    (h : Carries options frames block batch) : block.length = Layout.blockLen (batch.map List.length) := by
  obtain ⟨number, rfl⟩ := h.rendered
  exact Encoder.length_render

/-- A block is within the limit unless a single frame makes it longer. -/
lemma Carries.length_le_or {frames : List Octets} {block : Octets} {batch : List Octets}
    (h : Carries options frames block batch) :
    block.length ≤ options.batchLimit ∨ ∃ frame, batch = [frame] ∧ block.length = 30 + frame.length := by
  match batch with
  | [] => exact absurd rfl h.admitted.nonempty
  | [frame] => exact .inr ⟨frame, rfl, h.length_eq.trans (Layout.blockLen_singleton _)⟩
  | first :: second :: rest =>
    have hseveral : 1 < (first :: second :: rest).length := by simp
    exact .inl (h.length_eq.trans_le (h.admitted.limited hseveral))

lemma Carries.decode_eq {frames : List Octets} {block : Octets} {batch : List Octets}
    (h : Carries options frames block batch) : decode block = .ok (batch.takeWhile (· ≠ [])) := by
  obtain ⟨number, rfl⟩ := h.rendered
  exact Encoder.decode_render h.writable

/-- Under accepted settings a block that is given to the link is within the limit, or holds nothing but one
frame that is longer than an Ethernet frame without a tag. So no block is longer than the limit if there is
no such frame, and none is longer than both the limit and what the longest frame that is read needs. -/
theorem only_a_tagged_frame_exceeds_the_limit {σ : Type} (ends : Endpoints σ) (serial : String)
    (settings : Settings) (hsettings : settings.check = .ok ()) (s : σ) (n : Nat)
    (hsized : Sized (Uplink.run ends serial settings.bridgeOptions s n).ends.calls) :
    let calls := (Uplink.run ends serial settings.bridgeOptions s n).ends.calls
    let limit := settings.bridgeOptions.batchLimit
    ∀ block got, .writeBlock block got ∈ calls →
      (block.length ≤ limit ∨ ∃ frame ∈ framesRead calls, decode block = .ok [frame] ∧
        block.length = 30 + frame.length ∧ maxFrameLen < frame.length) ∧
      block.length ≤ max limit (30 + frameBufferLen) := by
  intro calls limit block got hmem
  have hlimit : 1544 ≤ limit := (Settings.batchLimit_of_check hsettings).1
  obtain ⟨batch, hcarries⟩ := Uplink.blocksCarry_run ends serial settings.bridgeOptions s n block got hmem
  rcases Nat.lt_or_ge limit block.length with hgt | hle
  · obtain ⟨frame, rfl, hlength⟩ := hcarries.length_le_or.resolve_left (Nat.not_le.2 hgt)
    have hread : frame ∈ framesRead calls := hcarries.consecutive.subset (List.mem_singleton_self frame)
    obtain ⟨hpos, hroom⟩ := hsized frame hread
    have hdecode : decode block = .ok [frame] := by
      rw [hcarries.decode_eq, takeWhile_ne_nil]
      exact List.forall_mem_singleton.2 (List.ne_nil_of_length_pos hpos)
    have htagged : maxFrameLen < frame.length := by
      rw [maxFrameLen]
      omega
    exact ⟨.inr ⟨frame, hread, hdecode, hlength, htagged⟩,
      hlength.trans_le ((Nat.add_le_add_left hroom 30).trans (Nat.le_max_right _ _))⟩
  · exact ⟨.inl hle, hle.trans (Nat.le_max_left _ _)⟩

/-- Accepted settings with the least limit. -/
def leastLimit : Settings := { batchFrames := true, batchLimit := 1544 }

/-- Two short frames, and one of the greatest length with a tag. -/
def taggedFrame : Script :=
  { arrivals := [.frame (.replicate 600 1), .frame (.replicate 600 2), .frame (.replicate 1518 3)] }

/-- What the uplink does in `n` steps over a script. -/
def Script.uplinkCalls (options : BridgeOptions) (script : Script) (n : Nat) : List EndCall :=
  (Uplink.run Script.ends "S1" options script n).ends.calls

/-- The short frames go together, and the tagged frame alone. -/
theorem tagged_frame_goes_alone :
    (blocksWritten (taggedFrame.uplinkCalls leastLimit.bridgeOptions 6)).map
        (fun block => (blockFrames block).length) = [2, 1] ∧
      ∀ block got, .writeBlock block got ∈ taggedFrame.uplinkCalls leastLimit.bridgeOptions 6 →
        block.length ≤ 1544 ∨ ∃ frame, decode block = .ok [frame] ∧ maxFrameLen < frame.length := by
  have hsettings : leastLimit.check = .ok () := by decide +kernel
  have hsized : Sized (taggedFrame.uplinkCalls leastLimit.bridgeOptions 6) := by decide +kernel
  refine ⟨by decide +kernel, ?_⟩
  intro block got hmem
  refine (only_a_tagged_frame_exceeds_the_limit Script.ends "S1" leastLimit hsettings taggedFrame 6 hsized
    block got hmem).1.imp_right ?_
  rintro ⟨frame, -, hdecode, -, htagged⟩
  exact ⟨frame, hdecode, htagged⟩

/-- A frame of the greatest length with a tag makes a block longer than the limit. -/
theorem tagged_frame_exceeds_the_limit :
    leastLimit.check = .ok () ∧ leastLimit.bridgeOptions.batchFrames = true ∧
      Sized (taggedFrame.uplinkCalls leastLimit.bridgeOptions 6) ∧
      ∃ block ∈ blocksWritten (taggedFrame.uplinkCalls leastLimit.bridgeOptions 6),
        leastLimit.bridgeOptions.batchLimit < block.length := by
  refine ⟨by decide +kernel, rfl, by decide +kernel, ?_⟩
  decide +kernel

/-! ### Frames without bytes -/

/-- The first table of a block has an entry of length zero before its last one. -/
def HasEmptyEntry (block : Octets) : Prop :=
  ∃ table, TableHeader.parse block 12 = .ok table ∧ ∃ i, 8 + 4 * (i + 1) < table.length.toNat ∧
    ∃ entry, DatagramPointer.parse (block.drop (12 + 8 + 4 * i)) = .ok entry ∧ entry.length = 0

/-- The entries of a written block are as long as its frames. -/
lemma LaidOut.hasEmptyEntry_iff {block : Octets} {number : UInt16} {batch : List Octets}
    {spans : List (Nat × Octets)} (h : LaidOut block number batch spans) :
    HasEmptyEntry block ↔ [] ∈ batch := by
  obtain ⟨tableLen, htable, hlen⟩ := h.table
  have hlength : spans.length = batch.length := by
    rw [← h.in_order, List.length_map]
  constructor
  · rintro ⟨table, htable', i, hi, entry, hentry, hzero⟩
    cases htable.symm.trans htable'
    have hspan : i < spans.length := by
      simp only [hlen] at hi
      omega
    obtain ⟨entry', hentry', -, hframe⟩ := h.entry i _ _ (List.getElem?_eq_getElem hspan)
    cases hentry.symm.trans hentry'
    have hnil : spans[i].2 = [] := List.length_eq_zero_iff.1 (hframe.symm.trans (congrArg UInt16.toNat hzero))
    rw [← h.in_order, ← hnil]
    exact List.mem_map_of_mem (List.getElem_mem hspan)
  · intro hmem
    rw [← h.in_order] at hmem
    obtain ⟨⟨offset, frame⟩, hspan, hnil⟩ := List.mem_map.1 hmem
    obtain ⟨i, hi, hget⟩ := List.getElem_of_mem hspan
    obtain ⟨entry, hentry, -, hframe⟩ := h.entry i offset frame (List.getElem?_eq_some_iff.2 ⟨hi, hget⟩)
    refine ⟨_, htable, i, ?_, entry, hentry, ?_⟩
    · simp only [hlen]
      omega
    · rw [← UInt16.toNat_inj, hframe, show frame = [] from hnil]
      rfl

/-- A frame without bytes comes from a read for a batch. -/
lemma nil_notMem_framesRead (h : .tryReadFrame (.ok (some [])) ∉ calls) : [] ∉ framesRead calls := by
  intro hmem
  obtain ⟨call, hcall, hread⟩ := List.mem_filterMap.1 hmem
  unfold EndCall.frameRead? at hread
  split at hread
  · cases hread
  · cases hread
    exact h hcall
  · cases hread

/-- Every block that is given to the link is laid out for a batch of frames that were read one after another,
and decodes to those before the first that has no bytes. It has an empty entry exactly if there is such a
frame, so it has none, and decodes to all its frames, as long as no read for a batch yields a frame without
bytes. -/
theorem block_decodes_up_to_its_empty_frame {σ : Type} (ends : Endpoints σ) (serial : String)
    (options : BridgeOptions) (s : σ) (n : Nat) {block : Octets} {got : IoResult Unit}
    (hmem : .writeBlock block got ∈ (Uplink.run ends serial options s n).ends.calls) :
    let calls := (Uplink.run ends serial options s n).ends.calls
    ∃ number batch spans, batch ≠ [] ∧ batch <:+: framesRead calls ∧ LaidOut block number batch spans ∧
      decode block = .ok (batch.takeWhile (· ≠ [])) ∧ (HasEmptyEntry block ↔ [] ∈ batch) ∧
      (.tryReadFrame (.ok (some [])) ∉ calls → ¬HasEmptyEntry block ∧ decode block = .ok batch) := by
  intro calls
  obtain ⟨batch, hcarries⟩ := Uplink.blocksCarry_run ends serial options s n block got hmem
  obtain ⟨number, hrendered⟩ := hcarries.rendered
  have hlaid : LaidOut block number batch (Encoder.spansOf batch) :=
    hrendered ▸ Encoder.laidOut_render hcarries.writable
  refine ⟨number, batch, _, hcarries.admitted.nonempty, hcarries.consecutive, hlaid, hcarries.decode_eq,
    hlaid.hasEmptyEntry_iff, ?_⟩
  intro hnone
  have hfull : [] ∉ batch := fun hnil => nil_notMem_framesRead hnone (hcarries.consecutive.subset hnil)
  refine ⟨mt hlaid.hasEmptyEntry_iff.1 hfull, ?_⟩
  rw [hcarries.decode_eq, takeWhile_ne_nil]
  exact fun frame hframe hnil => hfull (hnil ▸ hframe)

/-- Frames that wait already, some of which may have no bytes. -/
def Script.waiting (frames : List Octets) : Script := { arrivals := frames.map .frame }

theorem block_decodes_to_waiting_frames :
    ¬HasEmptyEntry (Encoder.render 0 [[1], [2]]) ∧
      ∃ batch, decode (Encoder.render 0 [[1], [2]]) = .ok batch ∧ batch <:+: [[1], [2]] := by
  have hmem : .writeBlock (Encoder.render 0 [[1], [2]]) (.ok ()) ∈
      (Script.waiting [[1], [2]]).uplinkCalls { batchFrames := true } 4 := by
    decide +kernel
  have hread : framesRead ((Script.waiting [[1], [2]]).uplinkCalls { batchFrames := true } 4) =
      [[1], [2]] := by
    decide +kernel
  obtain ⟨-, batch, -, -, hconsecutive, -, -, -, hfull⟩ :=
    block_decodes_up_to_its_empty_frame Script.ends "S1" { batchFrames := true } (.waiting [[1], [2]]) 4 hmem
  obtain ⟨hentry, hdecode⟩ := hfull (by decide +kernel)
  exact ⟨hentry, batch, hdecode, hread ▸ hconsecutive⟩

/-- A frame without bytes hides the frame behind it, which is in the block too. -/
theorem empty_frame_hides_the_next :
    blocksWritten ((Script.waiting [[1], [], [2]]).uplinkCalls { batchFrames := true } 5) =
        [Encoder.render 0 [[1], [], [2]]] ∧
      HasEmptyEntry (Encoder.render 0 [[1], [], [2]]) ∧
      decode (Encoder.render 0 [[1], [], [2]]) = .ok [[1]] := by
  refine ⟨by decide +kernel, ?_, by decide +kernel⟩
  exact ⟨⟨24, 0⟩, by decide +kernel, 1, by decide, ⟨42, 0⟩, by decide +kernel, rfl⟩

end NcmBridge
