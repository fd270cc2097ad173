import NcmBridge.Bridge.Downlink
import NcmBridge.Bridge.Latch
import NcmBridge.Bridge.Uplink

/-!
# A bridge and its run

A bridge is two pumps and a latch. A pump that ends logs how it ended and closes the bridge, and
closing brings back the other pump's waiting read, so that pump ends too. Each pump runs until it waits
or has ended; `settle` lets both do so.
-/

namespace NcmBridge

/-- A bridge of one device. -/
structure Bridge where
  serial : String
  options : BridgeOptions
  uplink : Uplink
  downlink : Downlink
  latch : Latch
  /-- The uplink has ended and closed the bridge. -/
  uplinkStopped : Bool
  /-- The downlink has ended and closed the bridge. -/
  downlinkStopped : Bool

/-- What a bridge noted, by pump; the newest note of a list stands last. -/
structure BridgeNotes where
  general : List Note := []
  uplink : List Note := []
  downlink : List Note := []
  deriving Inhabited

namespace BridgeNotes

/-- Joins earlier and later notes. -/
def append (a b : BridgeNotes) : BridgeNotes :=
  ⟨a.general ++ b.general, a.uplink ++ b.uplink, a.downlink ++ b.downlink⟩

def all (n : BridgeNotes) : List Note := n.general ++ n.uplink ++ n.downlink

end BridgeNotes

namespace Bridge

/-- A new bridge; `chunkLen` is the longest transfer of its link. -/
def start (serial : String) (options : BridgeOptions) (chunkLen : Nat) : Bridge where
  serial
  options
  uplink := {}
  downlink := .ofChunkLen chunkLen
  latch := {}
  uplinkStopped := false
  downlinkStopped := false

def startLine (serial interface : String) (options : BridgeOptions) : LogLine :=
  let batching := if options.batchFrames then "on" else "off"
  ⟨.bridge, .info, s!"{serial}: starting bridge on {interface} (batching {batching})"⟩

def stopLine (serial : String) : LogLine := ⟨.bridge, .info, s!"{serial}: bridge stopped"⟩

def isFinished (b : Bridge) : Bool := b.uplinkStopped && b.downlinkStopped

variable {σ : Type}

/-- Closes both ends, unless that has been done. -/
def close (ends : Endpoints σ) (b : Bridge) (s : σ) : Bridge × List Note × σ :=
  let line : LogLine := ⟨.bridge, .debug, s!"{b.serial}: closing bridge"⟩
  let notes := if b.latch.closed then [] else [.logged line]
  let (latch, s) := b.latch.close ends.closeLink ends.closeInterface s
  ({ b with latch }, notes, s)

/-- A pump that has ended says how, and closes the bridge. -/
def stop (ends : Endpoints σ) (direction : Direction) (result : PumpResult) (b : Bridge) (s : σ) :
    Bridge × List Note × σ :=
  let line := endLine b.serial direction b.latch.closed result
  let (b, notes, s) := b.close ends s
  (b, .logged line :: notes, s)

/-- One step of the uplink. -/
def stepUplink (ends : Endpoints σ) (b : Bridge) (s : σ) : Option (Bridge × List Note) × σ :=
  match b.uplink.result?, b.uplinkStopped with
  | some result, false =>
    let (b, notes, s) := stop ends .uplink result { b with uplinkStopped := true } s
    (some (b, notes), s)
  | _, _ =>
    let (step, s) := b.uplink.step ends b.serial b.options s
    (step.map fun (uplink, notes) => ({ b with uplink }, notes), s)

def stepDownlink (ends : Endpoints σ) (b : Bridge) (s : σ) : Option (Bridge × List Note) × σ :=
  match b.downlink.result?, b.downlinkStopped with
  | some result, false =>
    let (b, notes, s) := stop ends .downlink result { b with downlinkStopped := true } s
    (some (b, notes), s)
  | _, _ =>
    let (step, s) := b.downlink.step ends b.serial b.options s
    (step.map fun (downlink, notes) => ({ b with downlink }, notes), s)

/-- Takes steps until there is none, at most `fuel`; the newest notes of `notes` stand first. -/
def iterate (step : Bridge → σ → Option (Bridge × List Note) × σ) :
    Nat → Bridge → List Note → σ → Bridge × List Note × σ
  | 0, b, notes, s => (b, notes.reverse, s)
  | fuel + 1, b, notes, s =>
    match step b s with
    | (none, s) => (b, notes.reverse, s)
    | (some (b, new), s) => iterate step fuel b (new.reverseAux notes) s

/-- Runs the uplink until it waits or has ended. -/
def runUplink (ends : Endpoints σ) (fuel : Nat) (b : Bridge) (s : σ) : Bridge × List Note × σ :=
  iterate (stepUplink ends) fuel b [] s

def runDownlink (ends : Endpoints σ) (fuel : Nat) (b : Bridge) (s : σ) : Bridge × List Note × σ :=
  iterate (stepDownlink ends) fuel b [] s

/-- Runs both pumps until neither has a step: if the downlink closes the bridge, the uplink has to
run once more. -/
def settle (ends : Endpoints σ) (fuel : Nat) (b : Bridge) (s : σ) : Bridge × BridgeNotes × σ :=
  let (b, first, s) := b.runUplink ends fuel s
  let (b, down, s) := b.runDownlink ends fuel s
  let (b, second, s) := b.runUplink ends fuel s
  (b, ⟨[], first ++ second, down⟩, s)

end Bridge

end NcmBridge
