import NcmBridge.Bridge.Run

/-!
# Ends laid out in advance

A script says what the reads and writes of a bridge will meet, and keeps what was written. With a
script as its two ends a bridge runs without a device.
-/

namespace NcmBridge

/-- What a read of the interface meets. -/
inductive Arrival
  | frame (bytes : Octets)
  | fault (fault : IoFault)
  /-- Nothing waits for the moment; a read that can wait passes over it. -/
  | gap
  deriving DecidableEq, Repr, Inhabited

/-- What the two ends of a bridge meet, and what was done to them. -/
structure Script where
  arrivals : List Arrival := []
  transfers : List (IoResult Octets) := []
  /-- Outcomes of the writes of blocks; then all succeed. -/
  blockWrites : List (IoResult Unit) := []
  /-- Outcomes of the writes of frames; then all succeed. -/
  frameWrites : List (IoResult Unit) := []
  /-- What the first waiting read of a transfer fails with after closing, if it does. -/
  linkFaultAfterClose : Option IoFault := none
  /-- What the first waiting read of a frame fails with after closing, if it does. -/
  interfaceFaultAfterClose : Option IoFault := none
  linkCloses : Nat := 0
  interfaceCloses : Nat := 0
  /-- Blocks written, the newest first. -/
  blocks : List Octets := []
  /-- Frames written, the newest first. -/
  frames : List Octets := []
  deriving Inhabited

namespace Script

/-- The first arrival that is not a gap, and what comes after it. -/
def skipGaps : List Arrival → List Arrival
  | .gap :: rest => skipGaps rest
  | arrivals => arrivals

/-- Reads a frame: after closing there is none, and before that it waits for the next arrival. -/
def readFrame (s : Script) : Option (IoResult Octets) × Script :=
  if 0 < s.interfaceCloses then
    match s.interfaceFaultAfterClose with
    | some fault => (some (.error fault), { s with interfaceFaultAfterClose := none })
    | none => (some (.ok []), s)
  else
    match skipGaps s.arrivals with
    | .frame bytes :: rest => (some (.ok (bytes.take frameBufferLen)), { s with arrivals := rest })
    | .fault fault :: rest => (some (.error fault), { s with arrivals := rest })
    | _ => (none, s)

/-- Takes the next arrival if there is one. -/
def tryReadFrame (s : Script) : IoResult (Option Octets) × Script :=
  match s.arrivals with
  | [] => (.ok none, s)
  | .gap :: rest => (.ok none, { s with arrivals := rest })
  | .frame bytes :: rest => (.ok (some (bytes.take frameBufferLen)), { s with arrivals := rest })
  | .fault fault :: rest => (.error fault, { s with arrivals := rest })

def readTransfer (len : Nat) (s : Script) : Option (IoResult Octets) × Script :=
  if 0 < s.linkCloses then
    match s.linkFaultAfterClose with
    | some fault => (some (.error fault), { s with linkFaultAfterClose := none })
    | none => (some (.ok []), s)
  else
    match s.transfers with
    | [] => (none, s)
    | .error fault :: rest => (some (.error fault), { s with transfers := rest })
    | .ok bytes :: rest =>
      match bytes.drop len with
      | [] => (some (.ok bytes), { s with transfers := rest })
      | left => (some (.ok (bytes.take len)), { s with transfers := .ok left :: rest })

def writeBlock (block : Octets) (s : Script) : IoResult Unit × Script :=
  match s.blockWrites with
  | [] => (.ok (), { s with blocks := block :: s.blocks })
  | .ok () :: rest => (.ok (), { s with blocks := block :: s.blocks, blockWrites := rest })
  | .error fault :: rest => (.error fault, { s with blockWrites := rest })

def writeFrame (frame : Octets) (s : Script) : IoResult Unit × Script :=
  match s.frameWrites with
  | [] => (.ok (), { s with frames := frame :: s.frames })
  | .ok () :: rest => (.ok (), { s with frames := frame :: s.frames, frameWrites := rest })
  | .error fault :: rest => (.error fault, { s with frameWrites := rest })

/-- A script as the two ends of a bridge. -/
def ends : Endpoints Script where
  readFrame := readFrame
  tryReadFrame := tryReadFrame
  writeBlock := writeBlock
  readTransfer := readTransfer
  writeFrame := writeFrame
  closeLink s := { s with linkCloses := s.linkCloses + 1 }
  closeInterface s := { s with interfaceCloses := s.interfaceCloses + 1 }

/-- More steps than either pump can take before it waits or ends: every step uses up an arrival, a
transfer, a byte of one or a frame of a decoded block. -/
def fuel (s : Script) : Nat :=
  let bytes := s.transfers.foldr (fun t n => match t with
    | .ok bytes => bytes.length + 1 + n
    | .error _ => 1 + n) 0
  let size := 65536 + bytes + s.arrivals.length
  size * size

def settle (b : Bridge) (s : Script) : Bridge × BridgeNotes × Script := b.settle ends s.fuel s

def close (b : Bridge) (s : Script) : Bridge × BridgeNotes × Script :=
  let (b, general, s) := b.close ends s
  let (b, notes, s) := settle b s
  (b, { notes with general := general ++ notes.general }, s)

end Script

end NcmBridge
