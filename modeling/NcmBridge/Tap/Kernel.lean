import NcmBridge.Errno
import NcmBridge.Octets
import NcmBridge.Party

/-!
# The kernel's side of an interface

What the calls of the kernel meet is laid out in advance, list by list; the calls that were made are
kept. When the list of polls is used up there is something to read as long as the list of reads is
not. After that a poll waits for ever, or fails, as the kernel is set up. While a poll or a read is under
way the interface may be closed by someone else, whatever its outcome.
-/

namespace NcmBridge.Tap

/-- What a poll reports. -/
inductive Readiness
  | ready
  | timedOut
  /-- The interface is closed while the poll waits, and then the poll times out. -/
  | closing
  deriving DecidableEq, Repr, Inhabited

/-- How a write ends. -/
inductive WriteOutcome
  | whole
  | counted (n : Nat)
  | failed (e : Errno)
  deriving DecidableEq, Repr, Inhabited

/-- The program that sets links up: what it writes to its error output, and whether it succeeds. -/
inductive LinkTool
  | absent
  | present (succeeds : Bool) (stderr : Octets)
  deriving DecidableEq, Repr, Inhabited

/-- A call of the kernel. -/
inductive KernelCall
  | openDevice
  /-- The request that makes the descriptor stand for an interface. -/
  | attach (request : Octets)
  | poll (timeout : Nat)
  | read (len : Nat)
  | write (frame : Octets)
  | close
  deriving DecidableEq, Repr, Inhabited

/-- The number of the request that makes a descriptor stand for an interface. -/
def attachNumber : Nat := 0x400454ca

/-- A call on a line of a trace; of a frame the length and the fingerprint. -/
def KernelCall.text : KernelCall → String
  | openDevice => "open /dev/net/tun rw"
  | attach request => s!"ioctl {hexDigits 8 attachNumber} {request.hex}"
  | poll timeout => s!"poll events=1 timeout={timeout}"
  | read len => s!"read {len}"
  | write frame => s!"write {frame.length} fnv={frame.fingerprint}"
  | close => "close"

/-- What the kernel will answer, and what it was asked. -/
structure Kernel where
  opens : List (Except Errno Unit) := []
  attaches : List (Except Errno Unit) := []
  polls : List (Except Errno Readiness) := []
  reads : List (Except Errno Octets) := []
  /-- Whether the interface is closed during a poll or a read, call by call. -/
  closings : List Bool := []
  writes : List WriteOutcome := []
  linkTool : LinkTool := .present true []
  /-- Whether a poll waits when nothing is left to come. -/
  waits : Bool := false
  /-- Who calls now. -/
  party : Party := .owner
  /-- The calls so far, the newest first. -/
  calls : List (Party × KernelCall) := []
  /-- The links set up so far, the newest first. -/
  linksUp : List String := []
  deriving Inhabited

namespace Kernel

/-- How many polls and reads are laid out. -/
def size (k : Kernel) : Nat := k.polls.length + k.reads.length

def calledBy (k : Kernel) (party : Party) : Kernel := { k with party }

/-- The calls so far, party by party. -/
def trace (k : Kernel) : List String := (Party.arrange k.calls.reverse).map KernelCall.text

def linkTrace (k : Kernel) : List String :=
  k.linksUp.reverse.map fun name => s!"link set dev {name} up"

def forget (k : Kernel) : Kernel := { k with calls := [], linksUp := [] }

def note (k : Kernel) (call : KernelCall) : Kernel := { k with calls := (k.party, call) :: k.calls }

/-- Whether the interface is closed during the next poll or read. -/
def closesNext (k : Kernel) : Bool := k.closings.headD false

/-- Notes a poll or a read. -/
def noteWait (k : Kernel) (call : KernelCall) : Kernel :=
  { k.note call with closings := k.closings.tail }

def openDevice (k : Kernel) : Except Errno Unit × Kernel :=
  let k := k.note .openDevice
  match k.opens with
  | [] => (.ok (), k)
  | outcome :: rest => (outcome, { k with opens := rest })

/-- Makes the descriptor stand for an interface. -/
def attach (request : Octets) (k : Kernel) : Except Errno Unit × Kernel :=
  let k := k.note (.attach request)
  match k.attaches with
  | [] => (.ok (), k)
  | outcome :: rest => (outcome, { k with attaches := rest })

/-- Waits until there is something to read, or the time is up; there is no outcome if the poll waits
for ever. -/
def poll (timeout : Nat) (k : Kernel) : Option (Except Errno Readiness) × Kernel :=
  match k.polls with
  | outcome :: rest => (some outcome, { k.noteWait (.poll timeout) with polls := rest })
  | [] =>
    if !k.reads.isEmpty then (some (.ok .ready), k.noteWait (.poll timeout))
    else if k.waits then (none, k)
    else if timeout = 0 then (some (.ok .timedOut), k.noteWait (.poll timeout))
    else (some (.error .badDescriptor), k.noteWait (.poll timeout))

/-- Reads a frame, cut to the length of the buffer. -/
def read (len : Nat) (k : Kernel) : Except Errno Octets × Kernel :=
  let k := k.noteWait (.read len)
  match k.reads with
  | [] => (.error .again, k)
  | outcome :: rest => (outcome.map (List.take len), { k with reads := rest })

/-- Writes a frame, and tells how many bytes of it were taken. -/
def write (frame : Octets) (k : Kernel) : Except Errno Nat × Kernel :=
  let k := k.note (.write frame)
  match k.writes with
  | [] => (.ok frame.length, k)
  | .whole :: rest => (.ok frame.length, { k with writes := rest })
  | .counted n :: rest => (.ok n, { k with writes := rest })
  | .failed e :: rest => (.error e, { k with writes := rest })

def close (k : Kernel) : Kernel := k.note .close

/-- Sets a link up by the program for that, if there is one. -/
def runLinkTool (name : String) (k : Kernel) : LinkTool × Kernel :=
  match k.linkTool with
  | .absent => (.absent, k)
  | tool => (tool, { k with linksUp := name :: k.linksUp })

@[simp] theorem polls_read (len : Nat) (k : Kernel) : (k.read len).2.polls = k.polls := by
  cases hr : k.reads <;> simp [read, noteWait, note, hr]

@[simp] theorem reads_read (len : Nat) (k : Kernel) : (k.read len).2.reads = k.reads.tail := by
  cases hr : k.reads <;> simp [read, noteWait, note, hr]

end Kernel

end NcmBridge.Tap
