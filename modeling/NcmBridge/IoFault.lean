/-!
# Input and output failures

A failed read or write is described by its kind, on which callers decide, and a text for people.
-/

namespace NcmBridge

/-- What kind of failure a read or write met. -/
inductive FaultKind
  | interrupted
  | wouldBlock
  | timedOut
  | notConnected
  | brokenPipe
  | writeZero
  | unexpectedEof
  | notFound
  | permissionDenied
  | inputOutput
  | outOfMemory
  | resourceBusy
  | invalidInput
  | invalidFilename
  | addressNotAvailable
  | uncategorized
  | other
  deriving DecidableEq, Repr, Inhabited

def FaultKind.name : FaultKind → String
  | interrupted => "Interrupted"
  | wouldBlock => "WouldBlock"
  | timedOut => "TimedOut"
  | notConnected => "NotConnected"
  | brokenPipe => "BrokenPipe"
  | writeZero => "WriteZero"
  | unexpectedEof => "UnexpectedEof"
  | notFound => "NotFound"
  | permissionDenied => "PermissionDenied"
  | inputOutput => "InputOutputError"
  | outOfMemory => "OutOfMemory"
  | resourceBusy => "ResourceBusy"
  | invalidInput => "InvalidInput"
  | invalidFilename => "InvalidFilename"
  | addressNotAvailable => "AddrNotAvailable"
  | uncategorized => "Uncategorized"
  | other => "Other"

structure IoFault where
  kind : FaultKind
  text : String
  deriving DecidableEq, Repr, Inhabited

namespace IoFault

/-- The stream ended inside a field of fixed length. -/
def streamEnded : IoFault := ⟨.unexpectedEof, "failed to fill whole buffer"⟩

end IoFault

abbrev IoResult := Except IoFault

end NcmBridge
