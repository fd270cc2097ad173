import NcmBridge.IoFault

/-!
# Errors of the system

The kernel reports failures by number. A failure is shown in one of two ways: as a sentence with the
number behind it, or as its name with a shorter sentence.
-/

namespace NcmBridge

/-- A failure that the kernel reports. -/
inductive Errno
  | perm
  | noEntry
  | interrupted
  | inputOutput
  | badDescriptor
  | again
  | noMemory
  | access
  | busy
  | fileExists
  | noDevice
  | notDirectory
  | isDirectory
  | invalid
  | nameTooLong
  | addressNotAvailable
  | noBuffers
  deriving DecidableEq, Repr, Inhabited

namespace Errno

def all : List Errno :=
  [perm, noEntry, interrupted, inputOutput, badDescriptor, again, noMemory, access, busy, fileExists,
    noDevice, notDirectory, isDirectory, invalid, nameTooLong, addressNotAvailable, noBuffers]

def number : Errno → Nat
  | perm => 1
  | noEntry => 2
  | interrupted => 4
  | inputOutput => 5
  | badDescriptor => 9
  | again => 11
  | noMemory => 12
  | access => 13
  | busy => 16
  | fileExists => 17
  | noDevice => 19
  | notDirectory => 20
  | isDirectory => 21
  | invalid => 22
  | nameTooLong => 36
  | addressNotAvailable => 99
  | noBuffers => 105

def name : Errno → String
  | perm => "EPERM"
  | noEntry => "ENOENT"
  | interrupted => "EINTR"
  | inputOutput => "EIO"
  | badDescriptor => "EBADF"
  | again => "EAGAIN"
  | noMemory => "ENOMEM"
  | access => "EACCES"
  | busy => "EBUSY"
  | fileExists => "EEXIST"
  | noDevice => "ENODEV"
  | notDirectory => "ENOTDIR"
  | isDirectory => "EISDIR"
  | invalid => "EINVAL"
  | nameTooLong => "ENAMETOOLONG"
  | addressNotAvailable => "EADDRNOTAVAIL"
  | noBuffers => "ENOBUFS"

/-- What a failure means. -/
def sentence : Errno → String
  | perm => "Operation not permitted"
  | noEntry => "No such file or directory"
  | interrupted => "Interrupted system call"
  | inputOutput => "Input/output error"
  | badDescriptor => "Bad file descriptor"
  | again => "Resource temporarily unavailable"
  | noMemory => "Cannot allocate memory"
  | access => "Permission denied"
  | busy => "Device or resource busy"
  | fileExists => "File exists"
  | noDevice => "No such device"
  | notDirectory => "Not a directory"
  | isDirectory => "Is a directory"
  | invalid => "Invalid argument"
  | nameTooLong => "File name too long"
  | addressNotAvailable => "Cannot assign requested address"
  | noBuffers => "No buffer space available"

/-- What a failure means, as it is put behind the name. -/
def shortSentence : Errno → String
  | inputOutput => "I/O error"
  | badDescriptor => "Bad file number"
  | again => "Try again"
  | noMemory => "Out of memory"
  | e => e.sentence

def text (e : Errno) : String := s!"{e.sentence} (os error {e.number})"

/-- The name and the short sentence. -/
def named (e : Errno) : String := s!"{e.name}: {e.shortSentence}"

/-- The kind of a failure. -/
def kind : Errno → FaultKind
  | perm | access => .permissionDenied
  | noEntry => .notFound
  | interrupted => .interrupted
  | inputOutput => .inputOutput
  | again => .wouldBlock
  | noMemory => .outOfMemory
  | busy => .resourceBusy
  | invalid => .invalidInput
  | nameTooLong => .invalidFilename
  | addressNotAvailable => .addressNotAvailable
  | badDescriptor | fileExists | noDevice | notDirectory | isDirectory | noBuffers =>
    .uncategorized

def fault (e : Errno) : IoFault := ⟨e.kind, e.text⟩

end Errno

end NcmBridge
