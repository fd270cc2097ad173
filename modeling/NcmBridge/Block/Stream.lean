import NcmBridge.Block.Reader

/-!
# Streams laid out in advance

A stream is a list of what its reads meet: bytes, which a read may take in parts, the end of the
stream, or a failure. A reader of blocks runs over a stream until its read is done.
-/

namespace NcmBridge

/-- What the reads of a stream will meet. -/
structure Stream where
  items : List (IoResult Octets)
  /-- No read yields more bytes than this, if given. -/
  maxRead : Option Nat := none
  deriving Inhabited

namespace Stream

def remaining (s : Stream) : Nat :=
  s.items.foldr (fun item n => match item with
    | .ok bytes => bytes.length + n
    | .error _ => n) 0

/-- The most reads that the stream can meet before it ends for good. -/
def size (s : Stream) : Nat := s.remaining + s.items.length

/-- Reads at most `n` bytes. An empty item is an end of the stream for one read; after the last
item every read meets the end. -/
def read (s : Stream) (n : Nat) : IoResult Octets × Stream :=
  match s.items with
  | [] => (.ok [], s)
  | .error fault :: rest => (.error fault, { s with items := rest })
  | .ok bytes :: rest =>
    let k := match s.maxRead with
      | some m => min n m
      | none => n
    match bytes.drop k with
    | [] => (.ok bytes, { s with items := rest })
    | left => (.ok (bytes.take k), { s with items := .ok left :: rest })

/-- Carries a read of a block on with at most `fuel` reads of the stream. -/
def runWith : Nat → Reading → Stream → BlockReader × BlockResult × Stream
  | 0, r, s => (⟨r.window⟩, .error (.io .streamEnded), s)
  | fuel + 1, r, s =>
    let (got, s) := s.read r.want
    match r.receive got with
    | .more r => runWith fuel r s
    | .done reader result => (reader, result, s)

def run (step : ReadStep) (s : Stream) : BlockReader × BlockResult × Stream :=
  match step with
  | .done reader result => (reader, result, s)
  | .more r => runWith (s.size + 1) r s

end Stream

end NcmBridge
