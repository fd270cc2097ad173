import NcmBridge.Bridge.Script
import NcmBridge.Proofs.Bridge.Batching

/-!
# Conservation of frames

Under accepted settings the uplink sends what it reads: in order, each frame once, in blocks that decode
and are numbered one after another. This holds at every point of a run, whatever the interface and the
link do.
-/

namespace NcmBridge

/-- What holds of a run of the uplink that conserves its frames. -/
structure Conserves {σ : Type} (serial : String) (options : BridgeOptions) (r : PumpRun Uplink σ) :
    Prop where
  /-- Every block that is given to the link decodes. -/
  decodes : ∀ block got, .writeBlock block got ∈ r.ends.calls → ∃ frames, decode block = .ok frames
  /-- The frames of the blocks written are the first frames read, in order. -/
  sent : framesSent r.ends.calls <+: framesRead r.ends.calls
  /-- At the end of the stream all frames have been written. -/
  all_sent : r.pump.result? = some (.ok ()) → framesSent r.ends.calls = framesRead r.ends.calls
  numbered : ∀ (k : Nat) block, (blocksWritten r.ends.calls)[k]? = some block →
    ∃ header, TransferHeader.parse block = .ok header ∧ header.sequence.toNat = k % 65536
  /-- No batch is too long to be written. -/
  encodes : ∀ cause, r.pump.result? ≠ some (.error (.block cause))
  unbatched : options.batchFrames = false →
    ∀ block got, .writeBlock block got ∈ r.ends.calls → ∃ frame, decode block = .ok [frame]
  /-- A batch ends when no frame waits, or when the frame just read would exceed the limit. -/
  batched : options.batchFrames = true →
    ∀ before block got, before ++ [.writeBlock block got] <+: r.ends.calls →
      ∃ batch, decode block = .ok batch ∧
        (before.getLast? = some (.tryReadFrame (.ok none)) ∨
          ∃ frame, before.getLast? = some (.tryReadFrame (.ok (some frame))) ∧
            options.batchLimit < Layout.blockLen ((batch ++ [frame]).map List.length))
  /-- A frame read just before a block is sent is the first frame of the next block. -/
  carries : options.batchFrames = true →
    ∀ before frame block mid next got, before.getLast? = some (.tryReadFrame (.ok (some frame))) →
      before ++ [.writeBlock block (.ok ())] ++ mid ++ [.writeBlock next got] <+: r.ends.calls →
        blocksWritten mid = [] → ∃ rest, decode next = .ok (frame :: rest)
  counted_read : ∀ registry : Registry, registry.Ordered →
    (r.notes.foldl (Note.enter serial) registry).counter .networkReceive serial =
      registry.counter .networkReceive serial +
        UInt64.ofNat ((framesRead r.ends.calls).map List.length).sum
  counted_sent : ∀ registry : Registry, registry.Ordered →
    (r.notes.foldl (Note.enter serial) registry).counter .usbSend serial =
      registry.counter .usbSend serial +
        UInt64.ofNat ((blocksWritten r.ends.calls).map List.length).sum

/-- Under accepted settings the uplink conserves its frames at every point of every run, whatever the
frames, the moments at which they wait and the outcomes of reads and writes. -/
theorem uplink_conserves_frames {σ : Type} (ends : Endpoints σ) (serial : String) (settings : Settings)
    (hsettings : settings.check = .ok ()) (s : σ) (n : Nat)
    (hsized : Sized (Uplink.run ends serial settings.bridgeOptions s n).ends.calls) :
    Conserves serial settings.bridgeOptions (Uplink.run ends serial settings.bridgeOptions s n) := by
  have hlimit := (Settings.batchLimit_of_check hsettings).2
  obtain ⟨hwrites, hkeeps⟩ := Uplink.keeps_run ends serial s n hlimit hsized
  obtain ⟨hread, hsent⟩ := Uplink.total_run settings.bridgeOptions ends serial s n
  refine ⟨?_, ?_, ?_, ?_, ?_, ?_, ?_, ?_, ?_, ?_⟩
  · intro block got hmem
    obtain ⟨before, hpre⟩ := exists_before hmem
    obtain ⟨batch, carried, hpacks⟩ := hwrites before block got hpre
    exact ⟨batch, hpacks.decodes⟩
  · exact hkeeps.sent
  · exact hkeeps.all_sent
  · intro k block hk
    exact hwrites.numbered hk
  · exact hkeeps.no_block_error
  · intro hbatch block got hmem
    obtain ⟨before, hpre⟩ := exists_before hmem
    exact hwrites.unbatched hbatch hpre
  · intro hbatch before block got hpre
    exact hwrites.batched hbatch hpre
  · intro hbatch before frame block mid next got hlast hpre hmid
    exact hwrites.carries hbatch hlast hpre hmid
  · intro registry hregistry
    rw [Note.counter_foldl_enter hregistry, hread]
  · intro registry hregistry
    rw [Note.counter_foldl_enter hregistry, hsent]

/-- Settings under which two frames of 600 bytes fit a block and three do not. -/
def narrowSettings : Settings := { batchFrames := true, batchLimit := 1600 }

/-- Three frames of 600 bytes that wait already. -/
def waitingFrames : Script :=
  { arrivals := [.frame (.replicate 600 1), .frame (.replicate 600 2), .frame (.replicate 600 3)] }

/-- The third frame is carried over to a block of its own. -/
theorem uplink_conserves_waiting_frames :
    ((blocksWritten (Uplink.run Script.ends "S1" narrowSettings.bridgeOptions waitingFrames 7).ends.calls).map
        blockFrames).map List.length = [2, 1] ∧
      Conserves "S1" narrowSettings.bridgeOptions
        (Uplink.run Script.ends "S1" narrowSettings.bridgeOptions waitingFrames 7) := by
  have hsettings : narrowSettings.check = .ok () := by decide +kernel
  have hsized : Sized
      (Uplink.run Script.ends "S1" narrowSettings.bridgeOptions waitingFrames 7).ends.calls := by
    decide +kernel
  refine ⟨by decide +kernel, ?_⟩
  exact uplink_conserves_frames Script.ends "S1" narrowSettings hsettings waitingFrames 7 hsized

end NcmBridge
