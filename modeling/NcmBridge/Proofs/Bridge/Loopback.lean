import NcmBridge.Proofs.Bridge.Conservation
import NcmBridge.Proofs.Bridge.Course
import NcmBridge.Proofs.Link.Packets

/-!
# Two bridges back to back

The uplink of one bridge sends the frames of its interface as packets, and the downlink of another gets
the bytes of these packets in transfers of its own. Blocks, packets and transfers are cut in ways that
have nothing to do with each other, and still every frame arrives once and in its place.
-/

namespace NcmBridge

/-! ### The sending ends -/

/-- An interface that yields given frames and then the end of its stream. For each read that does not
wait, `waits` says whether the next frame is there already. -/
structure FrameFeed where
  frames : List Octets
  waits : Nat → Bool

namespace FrameFeed

/-- Yields the next frame, or no bytes at the end. -/
def read (f : FrameFeed) : IoResult Octets × FrameFeed :=
  match f.frames with
  | [] => (.ok [], f)
  | frame :: rest => (.ok frame, { f with frames := rest })

/-- Yields the next frame if it is there already. -/
def tryRead (f : FrameFeed) : IoResult (Option Octets) × FrameFeed :=
  match f.waits 0, f.frames with
  | true, frame :: rest => (.ok (some frame), ⟨rest, fun k => f.waits (k + 1)⟩)
  | _, frames => (.ok none, ⟨frames, fun k => f.waits (k + 1)⟩)

end FrameFeed

/-- The two ends of a bridge that sends. -/
structure Outbound where
  feed : FrameFeed
  outlet : Outlet

namespace Outbound

/-- The ends with packets of at most `maxPacket` bytes; nothing comes from the link. -/
def ends (maxPacket : Nat) : Endpoints Outbound where
  readFrame s := (some s.feed.read.1, { s with feed := s.feed.read.2 })
  tryReadFrame s := (s.feed.tryRead.1, { s with feed := s.feed.tryRead.2 })
  writeBlock block s :=
    ((s.outlet.write maxPacket block).1, { s with outlet := (s.outlet.write maxPacket block).2 })
  readTransfer _ s := (none, s)
  writeFrame _ s := (.ok (), s)
  closeLink s := { s with outlet := { s.outlet with closed := true } }
  closeInterface s := s

/-- The frames read and those to come are the given ones, no operation has failed, and the packets taken
carry the blocks written. -/
structure Keeps (frames : List Octets) (s : Outbound) (calls : List EndCall) : Prop where
  read : framesRead calls ++ s.feed.frames = frames
  ended : .readFrame (.ok []) ∈ calls → s.feed.frames = []
  no_failure : ∀ call ∈ calls, call.failure? = none
  patient : s.outlet.Patient
  taken : s.outlet.taken.flatten = (blocksWritten calls).flatten

variable {frames : List Octets} {s : Outbound} {calls : List EndCall}

lemma keeps_readFrame (hne : ∀ frame ∈ frames, frame ≠ []) (h : Keeps frames s calls) :
    Keeps frames { s with feed := s.feed.read.2 } (calls ++ [.readFrame s.feed.read.1]) := by
  obtain ⟨⟨feed, waits⟩, outlet⟩ := s
  obtain ⟨hread, hended, hfailure, hpatient, htaken⟩ := h
  cases feed with
  | nil =>
    refine ⟨?_, fun _ => rfl, ?_, hpatient, ?_⟩
    · simpa [FrameFeed.read] using hread
    · simpa [FrameFeed.read, or_imp, forall_and] using hfailure
    · simpa [FrameFeed.read] using htaken
  | cons frame rest =>
    have hframe : frame ≠ [] := hne frame (by rw [← hread]; simp)
    obtain ⟨b, bytes, rfl⟩ := List.exists_cons_of_ne_nil hframe
    refine ⟨?_, ?_, ?_, hpatient, ?_⟩
    · simpa [FrameFeed.read] using hread
    · intro hmem
      simp [FrameFeed.read] at hmem
      exact absurd (hended hmem) (List.cons_ne_nil _ _)
    · simpa [FrameFeed.read, or_imp, forall_and] using hfailure
    · simpa [FrameFeed.read] using htaken

lemma keeps_tryReadFrame (h : Keeps frames s calls) :
    Keeps frames { s with feed := s.feed.tryRead.2 } (calls ++ [.tryReadFrame s.feed.tryRead.1]) := by
  obtain ⟨⟨feed, waits⟩, outlet⟩ := s
  obtain ⟨hread, hended, hfailure, hpatient, htaken⟩ := h
  unfold FrameFeed.tryRead
  split
  · next frame rest hwaits hfeed =>
    refine ⟨?_, ?_, ?_, hpatient, ?_⟩
    · simpa [← hread] using hfeed.symm
    · intro hmem
      simp at hmem
      exact absurd (hfeed.symm.trans (hended hmem)) (List.cons_ne_nil _ _)
    · simpa [or_imp, forall_and] using hfailure
    · simpa using htaken
  · refine ⟨?_, ?_, ?_, hpatient, ?_⟩
    · simpa using hread
    · intro hmem
      simp at hmem
      exact hended hmem
    · simpa [or_imp, forall_and] using hfailure
    · simpa using htaken

lemma keeps_writeBlock {maxPacket : Nat} {block : Octets} (h : Keeps frames s calls) :
    Keeps frames { s with outlet := (s.outlet.write maxPacket block).2 }
      (calls ++ [.writeBlock block (s.outlet.write maxPacket block).1]) := by
  obtain ⟨hread, hended, hfailure, hpatient, htaken⟩ := h
  obtain ⟨hok, hpatient', htaken'⟩ := Outlet.write_of_patient hpatient maxPacket block
  rw [hok]
  refine ⟨?_, ?_, ?_, hpatient', ?_⟩
  · simpa using hread
  · intro hmem
    simp at hmem
    exact hended hmem
  · simpa [or_imp, forall_and] using hfailure
  · simp [htaken', htaken]

/-! ### The sending uplink -/

section

variable (maxPacket : Nat) (serial : String) (options : BridgeOptions)

/-- The sending ends keep their frames throughout a run. -/
theorem keeps_run (hne : ∀ frame ∈ frames, frame ≠ []) (hpatient : s.outlet.Patient)
    (hframes : s.feed.frames = frames) (htaken : s.outlet.taken = []) (n : Nat) :
    Keeps frames (Uplink.run (ends maxPacket) serial options s n).ends.state
      (Uplink.run (ends maxPacket) serial options s n).ends.calls := by
  refine Uplink.state_induction (ends maxPacket) serial options ?_ ?_ ?_ ?_ n
  · refine ⟨by simpa using hframes, by simp, by simp, hpatient, by simp [htaken]⟩
  · intro s calls h
    exact keeps_readFrame hne h
  · intro s calls h
    exact keeps_tryReadFrame h
  · intro s calls block h
    exact keeps_writeBlock h

end

end Outbound

namespace Uplink

/-- Bounds the steps that the uplink takes before it needs a further frame. -/
def weight (u : Uplink) : Nat :=
  match u.phase with
  | .idle => 1
  | .sending _ _ none => 2
  | .batching _ => 3
  | .sending _ _ (some _) => 4
  | .ended _ => 0

variable (u : Uplink) (serial : String) (options : BridgeOptions)

lemma weight_pack_le (newestFirst : List Octets) (carried : Option Octets) :
    (u.pack newestFirst carried).weight ≤ if carried.isSome then 4 else 2 := by
  unfold pack
  split
  · cases carried <;> exact le_rfl
  · exact Nat.zero_le _

lemma weight_beginBatch_le (frame : Octets) : (u.beginBatch options frame).weight ≤ 3 := by
  unfold beginBatch
  split
  · exact le_rfl
  · exact (weight_pack_le _ _ _).trans (by decide)

lemma weight_receiveFrame_le (got : IoResult Octets) :
    (u.receiveFrame serial options got).1.weight ≤ 3 := by
  unfold receiveFrame
  split
  · exact Nat.zero_le _
  · exact Nat.zero_le _
  · exact weight_beginBatch_le _ _ _

lemma weight_receiveQueued_le (newestFirst : List Octets) (got : IoResult (Option Octets)) :
    (u.receiveQueued serial options newestFirst got).1.weight ≤
      match got with
      | .ok (some _) => 4
      | _ => 2 := by
  unfold receiveQueued
  split
  · exact Nat.zero_le _
  · exact weight_pack_le _ _ none
  · split
    · exact Nat.le_succ 3
    · exact weight_pack_le _ _ (some _)

lemma weight_receiveSent_le (block : Octets) (count : Nat) (carried : Option Octets)
    (got : IoResult Unit) :
    (u.receiveSent serial options block count carried got).1.weight ≤
      if carried.isSome then 3 else 1 := by
  unfold receiveSent
  split
  · exact Nat.zero_le _
  · cases carried with
    | none => exact le_rfl
    | some frame => exact weight_beginBatch_le _ _ frame

end Uplink

namespace Outbound

section

variable (maxPacket : Nat) (serial : String) (options : BridgeOptions)

/-- Bounds the steps to the end of the stream. -/
def remaining (r : PumpRun Uplink Outbound) : Nat :=
  4 * r.ends.state.feed.frames.length + r.pump.weight

/-- Every step of the sending uplink comes closer to the end. -/
lemma remaining_next_lt {r : PumpRun Uplink Outbound} (h : r.pump.result? = none) :
    remaining (r.next (Uplink.step (ends maxPacket).recorded serial options)) < remaining r := by
  obtain ⟨⟨encoder, phase⟩, ⟨⟨⟨frames, waits⟩, outlet⟩, calls⟩, notes⟩ := r
  cases phase with
  | idle =>
    cases frames with
    | nil => exact Nat.zero_lt_one
    | cons frame rest =>
      have hweight := Uplink.weight_receiveFrame_le ⟨encoder, .idle⟩ serial options (.ok frame)
      refine lt_of_le_of_lt (Nat.add_le_add_left hweight (4 * rest.length)) ?_
      show 4 * rest.length + 3 < 4 * (rest.length + 1) + 1
      omega
  | batching newestFirst =>
    have hweight := Uplink.weight_receiveQueued_le ⟨encoder, .batching newestFirst⟩ serial options
      newestFirst (FrameFeed.tryRead ⟨frames, waits⟩).1
    refine lt_of_le_of_lt (Nat.add_le_add_left hweight
      (4 * (FrameFeed.tryRead ⟨frames, waits⟩).2.frames.length)) ?_
    show _ < 4 * frames.length + 3
    unfold FrameFeed.tryRead
    split
    · next frame rest _ hfeed =>
      have hframes : frames = frame :: rest := hfeed
      subst hframes
      show 4 * rest.length + 4 < 4 * (rest.length + 1) + 3
      omega
    · show 4 * frames.length + 2 < _
      omega
  | sending block count carried =>
    have hweight := Uplink.weight_receiveSent_le ⟨encoder, .sending block count carried⟩ serial options
      block count carried (outlet.write maxPacket block).1
    refine lt_of_le_of_lt (Nat.add_le_add_left hweight (4 * frames.length)) ?_
    apply Nat.add_lt_add_left
    cases carried with
    | none => exact Nat.one_lt_two
    | some frame => exact Nat.lt_succ_self 3
  | ended result => cases h

/-- The sending uplink comes to an end. -/
theorem exists_ended (r : PumpRun Uplink Outbound) : ∃ n result,
    ((PumpRun.next (Uplink.step (ends maxPacket).recorded serial options))^[n] r).pump.result? =
      some result := by
  induction hremaining : remaining r using Nat.strong_induction_on generalizing r with
  | _ m ih =>
    cases hresult : r.pump.result? with
    | some result => exact ⟨0, result, hresult⟩
    | none =>
      have hlt := remaining_next_lt maxPacket serial options hresult
      obtain ⟨n, result, hn⟩ := ih _ (hremaining ▸ hlt) _ rfl
      exact ⟨n + 1, result, hn⟩

end

end Outbound

/-! ### Loopback -/

/-- The uplink of the first bridge after `n` steps. -/
def sender (maxPacket : Nat) (outcomes : List PacketOutcome) (serial : String)
    (options : BridgeOptions) (frames : List Octets) (waits : Nat → Bool) (n : Nat) :
    PumpRun Uplink Outbound :=
  Uplink.run (Outbound.ends maxPacket) serial options ⟨⟨frames, waits⟩, { outcomes }⟩ n

/-- The downlink of the second bridge after `n` steps. -/
def receiver (chunkLen : Nat) (serial : String) (options : BridgeOptions) (transfers : List Octets)
    (n : Nat) : PumpRun Downlink Script :=
  Downlink.run Script.ends serial options chunkLen (.ofTransfers transfers) n

/-- The value of a counter of a serial in a registry that held nothing before. -/
def counted (serial : String) (c : Counter) (notes : List Note) : UInt64 :=
  (notes.foldl (Note.enter serial) {}).counter c serial

section

variable (maxPacket : Nat) (serial : String) (waits : Nat → Bool) {outcomes : List PacketOutcome}
  {settings : Settings} {frames : List Octets}

/-- The first bridge keeps its frames, and so do its ends. -/
lemma sender_keeps (hsettings : settings.check = .ok ())
    (hframes : ∀ frame ∈ frames, 1 ≤ frame.length ∧ frame.length ≤ frameBufferLen)
    (houtcomes : ∀ outcome ∈ outcomes, outcome.Patient) (n : Nat) :
    Outbound.Keeps frames
        (sender maxPacket outcomes serial settings.bridgeOptions frames waits n).ends.state
        (sender maxPacket outcomes serial settings.bridgeOptions frames waits n).ends.calls ∧
      WritesPacked settings.bridgeOptions
        (sender maxPacket outcomes serial settings.bridgeOptions frames waits n).ends.calls ∧
      Uplink.Keeps settings.bridgeOptions
        (sender maxPacket outcomes serial settings.bridgeOptions frames waits n).ends.calls
        (sender maxPacket outcomes serial settings.bridgeOptions frames waits n).pump := by
  have hne : ∀ frame ∈ frames, frame ≠ [] := by
    intro frame hframe
    exact List.ne_nil_of_length_pos (hframes frame hframe).1
  have hends := Outbound.keeps_run (s := ⟨⟨frames, waits⟩, { outcomes }⟩) maxPacket serial
    settings.bridgeOptions hne ⟨rfl, houtcomes⟩ rfl rfl n
  have hsized :
      Sized (sender maxPacket outcomes serial settings.bridgeOptions frames waits n).ends.calls := by
    intro frame hframe
    exact hframes frame (hends.read ▸ List.mem_append_left _ hframe)
  exact ⟨hends, Uplink.keeps_run _ serial _ n (Settings.batchLimit_of_check hsettings).2 hsized⟩

/-- The first bridge fails at nothing. -/
lemma sender_ended (hsettings : settings.check = .ok ())
    (hframes : ∀ frame ∈ frames, 1 ≤ frame.length ∧ frame.length ≤ frameBufferLen)
    (houtcomes : ∀ outcome ∈ outcomes, outcome.Patient) :
    ∃ n, (sender maxPacket outcomes serial settings.bridgeOptions frames waits n).pump.result? =
      some (.ok ()) := by
  obtain ⟨n, result, hresult⟩ := Outbound.exists_ended maxPacket serial settings.bridgeOptions
    ⟨{}, ⟨⟨⟨frames, waits⟩, { outcomes }⟩, []⟩, []⟩
  refine ⟨n, ?_⟩
  cases result with
  | ok _ => exact hresult
  | error e =>
    obtain ⟨hends, -, hkeeps⟩ := sender_keeps maxPacket serial waits hsettings hframes houtcomes n
    obtain ⟨call, hcall, hfailure⟩ := hkeeps.failed hresult
    rw [hends.no_failure call hcall] at hfailure
    cases hfailure

end

/-- What the first bridge reads comes out of the second: whatever the moments at which frames wait, the
batches, packets, timeouts and transfers, the first bridge comes to the end of its stream, and then the
second, given the bytes of its packets, ends well with the same frames and the same counts. -/
theorem loopback_is_lossless (frames : List Octets)
    (hframes : ∀ frame ∈ frames, 1 ≤ frame.length ∧ frame.length ≤ frameBufferLen)
    (waits : Nat → Bool) (settings : Settings) (hsettings : settings.check = .ok ())
    (maxPacket : Nat) (outcomes : List PacketOutcome)
    (houtcomes : ∀ outcome ∈ outcomes, outcome.Patient) (chunkLen : Nat)
    (serial serial' : String) (options' : BridgeOptions) :
    let sent := sender maxPacket outcomes serial settings.bridgeOptions frames waits
    let got := receiver chunkLen serial' options'
    (∃ n, (sent n).pump.result? = some (.ok ())) ∧
      ∀ n, (sent n).pump.result? = some (.ok ()) →
        ∀ transfers : List Octets,
          (∀ transfer ∈ transfers, transfer ≠ [] ∧ transfer.length ≤ chunkLen) →
          transfers.flatten = (sent n).ends.state.outlet.taken.flatten →
          ∃ m, (got transfers m).pump.result? = some (.ok ()) ∧
            framesWritten (got transfers m).ends.calls = frames ∧
            counted serial' .usbReceive (got transfers m).notes =
              counted serial .usbSend (sent n).notes ∧
            counted serial' .networkSend (got transfers m).notes =
              counted serial .networkReceive (sent n).notes := by
  refine ⟨sender_ended maxPacket serial waits hsettings hframes houtcomes, ?_⟩
  intro n hresult transfers hbounds htransfers
  obtain ⟨hends, hwrites, hkeeps⟩ := sender_keeps maxPacket serial waits hsettings hframes houtcomes n
  have hread : framesRead
      (sender maxPacket outcomes serial settings.bridgeOptions frames waits n).ends.calls = frames := by
    have hnone := hends.ended (hkeeps.of_ended hresult).2
    rw [← List.append_nil (framesRead _), ← hnone, hends.read]
  have hframed : ∀ block ∈ blocksWritten (sender maxPacket outcomes serial settings.bridgeOptions frames
      waits n).ends.calls, Framed block ∧ ∃ fs, decode block = .ok fs := by
    intro block hblock
    obtain ⟨before, batch, carried, hpacks⟩ := hwrites.of_mem_blocksWritten hblock
    exact ⟨hpacks.framed, batch, hpacks.decodes⟩
  obtain ⟨m, hgot, hwritten, hcounted⟩ := Downlink.delivers_run serial' options' hbounds
    (htransfers.trans hends.taken) (fun block hblock => (hframed block hblock).1)
    (fun block hblock => (hframed block hblock).2)
  have hall : framesWritten (receiver chunkLen serial' options' transfers m).ends.calls = frames :=
    hwritten.trans ((hkeeps.all_sent hresult).trans hread)
  obtain ⟨hreceive, hsend⟩ := Uplink.total_run settings.bridgeOptions
    (Outbound.ends maxPacket) serial ⟨⟨frames, waits⟩, { outcomes }⟩ n
  have hdeliver := Downlink.total_run Script.ends serial' options' chunkLen (.ofTransfers transfers) m
  refine ⟨m, hgot, hall, ?_, ?_⟩
  · rw [counted, counted, Note.counter_foldl_enter_empty, Note.counter_foldl_enter_empty]
    exact congrArg UInt64.ofNat (hcounted.trans hsend.symm)
  · rw [counted, counted, Note.counter_foldl_enter_empty, Note.counter_foldl_enter_empty]
    refine congrArg UInt64.ofNat (hdeliver.trans (Eq.trans ?_ hreceive.symm))
    exact congrArg (fun fs : List Octets => (fs.map List.length).sum) (hall.trans hread.symm)

/-- Three short frames. -/
def shortFrames : List Octets := [[1, 2, 3], [4], [5, 6]]

/-- A bridge that batches frames and whose packets time out now and then. -/
def shortSender : Nat → PumpRun Uplink Outbound :=
  sender 16 [⟨.error .timeout, false⟩, ⟨.ok none, false⟩, ⟨.error .timeout, false⟩] "S1"
    narrowSettings.bridgeOptions shortFrames fun k => k % 2 == 0

/-- The bytes of its packets in two transfers. -/
def shortTransfers : List Octets :=
  [(shortSender 8).ends.state.outlet.taken.flatten.take 20,
    (shortSender 8).ends.state.outlet.taken.flatten.drop 20]

/-- Six packets, the last of them empty, arrive in two transfers. -/
theorem loopback_of_short_frames :
    (shortSender 8).ends.state.outlet.taken.map List.length = [16, 16, 7, 16, 16, 0] ∧
      ∃ m, framesWritten (receiver 64 "S2" {} shortTransfers m).ends.calls = shortFrames := by
  refine ⟨by decide +kernel, ?_⟩
  have hended : (shortSender 8).pump.result? = some (.ok ()) := by decide +kernel
  have hbounds : ∀ transfer ∈ shortTransfers, transfer ≠ [] ∧ transfer.length ≤ 64 := by
    decide +kernel
  have htransfers : shortTransfers.flatten = (shortSender 8).ends.state.outlet.taken.flatten := by
    simp [shortTransfers]
  obtain ⟨-, hloopback⟩ := loopback_is_lossless shortFrames (by decide) (fun k => k % 2 == 0)
    narrowSettings (by decide +kernel) 16
    [⟨.error .timeout, false⟩, ⟨.ok none, false⟩, ⟨.error .timeout, false⟩] (by decide) 64 "S1" "S2" {}
  obtain ⟨m, -, hframes, -⟩ := hloopback 8 hended shortTransfers hbounds htransfers
  exact ⟨m, hframes⟩

end NcmBridge
