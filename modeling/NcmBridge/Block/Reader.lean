import NcmBridge.Block.Header

/-!
# Framing a stream into blocks

The device sends blocks as a plain stream of bytes. A reader takes the transfer header, then exactly
the rest of the declared length, so it never consumes a byte of the next block. Where a signature is
expected and something else comes, the four bytes are kept in a window; `resync` goes on from there,
one byte at a time, until the window holds a signature.

A read under way is a value of type `Reading`. It says how many bytes it could take at once (`want`)
and is carried on by the outcome of one read of the stream (`receive`). How the stream cuts its bytes
into reads is up to the stream.
-/

namespace NcmBridge

/-! ### Fields -/

/-- A field of fixed length of which some bytes have not come yet. -/
structure Field where
  /-- What has come, last byte first. -/
  reversed : Octets := []
  /-- How many bytes are still to come. -/
  missing : Nat
  missing_pos : 0 < missing

namespace Field

/-- The bytes that have come, in order. -/
def got (f : Field) : Octets := f.reversed.reverse

/-- Adds bytes of the stream: the field goes on, or it is complete. -/
def add (f : Field) (chunk : Octets) : Field ⊕ Octets :=
  if h : chunk.length < f.missing then
    .inl ⟨chunk.reverseAux f.reversed, f.missing - chunk.length, by omega⟩
  else
    .inr (f.got ++ chunk.take f.missing)

def signature : Field := ⟨[], 4, by decide⟩

/-- An empty field for the transfer header after its signature. -/
def headerRest : Field := ⟨[], 8, by decide⟩

end Field

/-! ### Readers -/

/-- A reader between two reads: the last four bytes that came where a signature was expected. -/
structure BlockReader where
  window : Octets := Octets.zeros 4
  deriving DecidableEq, Repr, Inhabited

/-- How far a read has come. -/
inductive ReadStage
  /-- The four bytes that should be a signature. -/
  | signature (field : Field)
  /-- Looking for a signature, `scanned` bytes past the window at the start. -/
  | scanning (scanned limit : Nat)
  /-- The header after its signature. -/
  | header (field : Field)
  /-- The block after its header. -/
  | body (header : Octets) (field : Field)

/-- A read of a block under way. -/
structure Reading where
  window : Octets
  stage : ReadStage

/-- What a read yields: a block, or nothing when the stream ended before one. -/
abbrev BlockResult := Except BlockError (Option Octets)

/-- One step of a read: it goes on, or it is done and leaves a reader. -/
inductive ReadStep
  | more (reading : Reading)
  | done (reader : BlockReader) (result : BlockResult)

namespace Reading

/-- How many bytes the read could take from the stream at once. -/
def want (r : Reading) : Nat :=
  match r.stage with
  | .signature field => field.missing
  | .scanning _ _ => 1
  | .header field => field.missing
  | .body _ field => field.missing

theorem want_pos (r : Reading) : 0 < r.want := by
  unfold want
  split
  · exact Field.missing_pos _
  · exact Nat.zero_lt_one
  · exact Field.missing_pos _
  · exact Field.missing_pos _

/-- The signature of a transfer header as it stands in the stream. -/
def signatureOctets : Octets := Octets.ofWord32 transferSignature

/-- The window as a word. -/
def word (window : Octets) : UInt32 := (window.word32? 0).getD 0

/-- Goes on with the search: the window may hold a signature by now, or the limit be reached. -/
def scan (window : Octets) (scanned limit : Nat) : ReadStep :=
  if window = signatureOctets then
    .more ⟨Octets.zeros 4, .header Field.headerRest⟩
  else if limit ≤ scanned then
    .done ⟨window⟩ (.error (.resyncFailed scanned))
  else
    .more ⟨window, .scanning scanned limit⟩

/-- Goes on with a complete header. -/
def afterHeader (window header : Octets) : ReadStep :=
  match TransferHeader.parse header with
  | .error e => .done ⟨window⟩ (.error e)
  | .ok parsed =>
    let blockLen := parsed.blockLen.toNat
    if blockLen < transferHeaderLen then
      .done ⟨window⟩ (.error (.truncated transferHeaderLen blockLen))
    else if h : transferHeaderLen < blockLen then
      .more ⟨window, .body header ⟨[], blockLen - transferHeaderLen, Nat.sub_pos_of_lt h⟩⟩
    else
      .done ⟨window⟩ (.ok (some header))

/-- Takes bytes of the stream, at least one and at most as many as the read wants. -/
def takeBytes (r : Reading) (chunk : Octets) : ReadStep :=
  match r.stage with
  | .signature field =>
    match field.add chunk with
    | .inl field => .more ⟨r.window, .signature field⟩
    | .inr found =>
      if found = signatureOctets then
        .more ⟨r.window, .header Field.headerRest⟩
      else
        .done ⟨found⟩ (.error (.invalidSignature (word found)))
  | .scanning scanned limit =>
    scan (r.window.drop 1 ++ chunk.take 1) (scanned + 1) limit
  | .header field =>
    match field.add chunk with
    | .inl field => .more ⟨r.window, .header field⟩
    | .inr rest => afterHeader r.window (signatureOctets ++ rest)
  | .body header field =>
    match field.add chunk with
    | .inl field => .more ⟨r.window, .body header field⟩
    | .inr rest => .done ⟨r.window⟩ (.ok (some (header ++ rest)))

/-- The stream has ended: a clean end before the first byte of a block, a failure inside one. -/
def atEnd (r : Reading) : BlockResult :=
  match r.stage with
  | .signature field => if field.reversed = [] then .ok none else .error (.io .streamEnded)
  | .scanning _ _ => .ok none
  | _ => .error (.io .streamEnded)

/-- Carries a read on by the outcome of one read of the stream; no bytes mean its end, and an
interrupted read is tried again. -/
def receive (r : Reading) : IoResult Octets → ReadStep
  | .error fault => if fault.kind = .interrupted then .more r else .done ⟨r.window⟩ (.error (.io fault))
  | .ok [] => .done ⟨r.window⟩ r.atEnd
  | .ok chunk => r.takeBytes chunk

end Reading

namespace BlockReader

def defaultResyncLimit : Nat := 64 * 1024

def next (r : BlockReader) : Reading := ⟨r.window, .signature Field.signature⟩

/-- Begins to look for the next signature within `limit` bytes, and then to read that block. -/
def resync (r : BlockReader) (limit : Nat) : ReadStep := Reading.scan r.window 0 limit

end BlockReader

end NcmBridge
