import NcmBridge.Log
import NcmBridge.Tap.Kernel
import NcmBridge.Tap.Name
import NcmBridge.Text.Lossy

/-!
# TAP interfaces

A TAP interface hands over one Ethernet frame per read or write. A read polls first, and not for long,
so that it notices when the interface is closed; once it is closed no call reaches the descriptor any
more. Timed out polls, signals and false alarms are passed over.
-/

namespace NcmBridge

/-- Why an interface could not be set up. -/
inductive TapError
  | invalidName (name : String)
  | openFailed (e : Errno)
  | attachFailed (name : String) (e : Errno)
  | linkUp (name reason : String)
  deriving DecidableEq, Repr, Inhabited

namespace TapError

def message : TapError → String
  | invalidName name => s!"Invalid interface name '{name}'"
  | openFailed e => s!"Failed to open /dev/net/tun: {e.text}"
  | attachFailed name e => s!"TUNSETIFF failed for {name}: {e.named}"
  | linkUp name reason => s!"Failed to bring {name} up: {reason}"

def cause? : TapError → Option String
  | openFailed e => some e.text
  | attachFailed _ e => some e.named
  | _ => none

def chain (e : TapError) : List String := e.message :: e.cause?.toList

end TapError

namespace Tap

/-! ### Setting up -/

/-- A layer 2 interface, without a header of the kernel's own before each frame. -/
def interfaceFlags : UInt16 := 0x1002

/-- How long a read waits before it looks whether the interface was closed, in milliseconds. -/
def pollInterval : Nat := 100

/-- The 40 bytes that ask for an interface: its name in 16 bytes, the flags, and zeros. -/
def interfaceRequest (name : String) : Octets :=
  let bytes := name.toUTF8.toList
  bytes ++ Octets.zeros (16 - bytes.length) ++ Octets.ofWord16 interfaceFlags ++ Octets.zeros 22

end Tap

structure TapDevice where
  name : String
  closed : Bool := false
  /-- A read is already past the look at `closed`, and in its poll. -/
  polling : Bool := false
  deriving DecidableEq, Repr, Inhabited

namespace TapDevice

open Tap

/-- Makes an interface, or takes over one of that name. -/
def create (name : String) (k : Kernel) : Except TapError TapDevice × Kernel :=
  if !isValidName name then
    (.error (.invalidName name), k)
  else
    match k.openDevice with
    | (.error e, k) => (.error (.openFailed e), k)
    | (.ok (), k) =>
      match k.attach (interfaceRequest name) with
      | (.error e, k) => (.error (.attachFailed name e), k.close)
      | (.ok (), k) => (.ok { name }, k)

def createdLine (name : String) : LogLine := ⟨.tap, .info, s!"Created TAP interface {name}"⟩

/-- Sets the link up. -/
def bringUp (d : TapDevice) (k : Kernel) : Except TapError Unit × Kernel :=
  match k.runLinkTool d.name with
  | (.absent, k) => (.error (.linkUp d.name Errno.noEntry.text), k)
  | (.present true _, k) => (.ok (), k)
  | (.present false stderr, k) => (.error (.linkUp d.name (Text.trim stderr.lossyText)), k)

def upLine (name : String) : LogLine := ⟨.tap, .debug, s!"{name} is up"⟩

/-! ### Reading -/

/-- How a look at the descriptor ends. -/
inductive Look
  | done (got : IoResult Octets)
  /-- Nothing to read this time. -/
  | nothing
  /-- The poll waits for ever. -/
  | waiting
  deriving Inhabited

/-- The interface after a poll or a read, during which it may have been closed. -/
def during (d : TapDevice) (k : Kernel) : TapDevice := { d with closed := d.closed || k.closesNext }

/-- Reads after a poll that reported something to read. -/
def readReady (len : Nat) (d : TapDevice) (k : Kernel) : Look × TapDevice × Kernel :=
  match k.read len with
  | (.ok bytes, k') => (.done (.ok bytes), d.during k, k')
  | (.error e, k') =>
    (if e = .interrupted ∨ e = .again then .nothing else .done (.error e.fault), d.during k, k')

/-- Polls once, and reads if there is something to read. -/
def look (timeout len : Nat) (d : TapDevice) (k : Kernel) : Look × TapDevice × Kernel :=
  match k.poll timeout with
  | (none, k') => (.waiting, d, k')
  | (some (.error .interrupted), k') => (.nothing, d.during k, k')
  | (some (.error e), k') => (.done (.error e.fault), d.during k, k')
  | (some (.ok .timedOut), k') => (.nothing, d.during k, k')
  | (some (.ok .closing), k') => (.nothing, { d with closed := true }, k')
  | (some (.ok .ready), k') => readReady len (d.during k) k'

@[simp] theorem polls_readReady (len : Nat) (d : TapDevice) (k : Kernel) :
    (readReady len d k).2.2.polls = k.polls := by
  rw [← k.polls_read len]
  unfold readReady
  split
  · next h => rw [h]
  · next h => rw [h]

@[simp] theorem reads_readReady (len : Nat) (d : TapDevice) (k : Kernel) :
    (readReady len d k).2.2.reads = k.reads.tail := by
  rw [← k.reads_read len]
  unfold readReady
  split
  · next h => rw [h]
  · next h => rw [h]

/-- A look without an outcome uses up a poll or a read. -/
theorem size_look_lt {timeout len : Nat} {d d' : TapDevice} {k k' : Kernel} (ht : 0 < timeout)
    (h : look timeout len d k = (.nothing, d', k')) : k'.size < k.size := by
  unfold look Kernel.poll at h
  cases hp : k.polls with
  | cons outcome rest =>
    rw [hp] at h
    suffices hk : k'.polls = rest ∧ k'.reads.length ≤ k.reads.length by
      simp only [Kernel.size, hp, hk.1, List.length_cons]; omega
    match outcome with
    | .error e =>
      -- no look but an interrupted one goes on after a failure
      cases e <;> simp only [Prod.mk.injEq, reduceCtorEq, false_and] at h
      rw [← h.2.2]
      simp [Kernel.noteWait, Kernel.note]
    | .ok .timedOut | .ok .closing =>
      simp only [Prod.mk.injEq] at h
      rw [← h.2.2]
      simp [Kernel.noteWait, Kernel.note]
    | .ok .ready =>
      rw [show k' = _ from (congrArg (fun o => o.2.2) h).symm]
      simp [Kernel.noteWait, Kernel.note]
  | nil =>
    rw [hp] at h
    cases hr : k.reads with
    | nil => cases hw : k.waits <;> simp [hr, hw, Nat.ne_of_gt ht] at h
    | cons bytes rest =>
      simp only [hr, List.isEmpty_cons, Bool.not_false, if_true] at h
      rw [show k' = _ from (congrArg (fun o => o.2.2) h).symm]
      simp [Kernel.size, Kernel.noteWait, Kernel.note, hp, hr]

/-- Waits for a frame; once the interface is closed there are no more. There is no outcome if the
last poll waits for ever. -/
def readFrame (len : Nat) (d : TapDevice) (k : Kernel) :
    Option (IoResult Octets) × TapDevice × Kernel :=
  if d.closed && !d.polling then
    (some (.ok []), d, k)
  else
    match _hlook : look pollInterval len { d with polling := false } k with
    | (.done got, d, k) => (some got, d, k)
    | (.waiting, d, k) =>
      if d.closed then (some (.ok []), d, k) else (none, { d with polling := true }, k)
    | (.nothing, d, k) => readFrame len d k
termination_by k.size
decreasing_by exact size_look_lt (by decide) _hlook

/-- Reads a frame only if there is one already. -/
def tryReadFrame (len : Nat) (d : TapDevice) (k : Kernel) :
    IoResult (Option Octets) × TapDevice × Kernel :=
  if d.closed then
    (.ok none, d, k)
  else
    match look 0 len d k with
    | (.done got, d, k) => (got.map some, d, k)
    | (_, d, k) => (.ok none, d, k)

/-! ### Writing and closing -/

def closedFault : IoFault := ⟨.brokenPipe, "TAP device closed"⟩

def shortFault (n len : Nat) : IoFault := ⟨.writeZero, s!"short TAP write: {n} of {len} bytes"⟩

/-- Writes one frame. -/
def writeFrame (frame : Octets) (d : TapDevice) (k : Kernel) : IoResult Unit × Kernel :=
  if d.closed then
    (.error closedFault, k)
  else
    match k.write frame with
    | (.error e, k) => (.error e.fault, k)
    | (.ok n, k) => (if n = frame.length then .ok () else .error (shortFault n frame.length), k)

/-- Closes the interface for reads and writes; the descriptor is given back later. -/
def close (d : TapDevice) : TapDevice := { d with closed := true }

def closeLine (name : String) : LogLine := ⟨.tap, .debug, s!"Closing TAP interface {name}"⟩

end TapDevice

end NcmBridge
