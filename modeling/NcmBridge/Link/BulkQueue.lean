import NcmBridge.Block.Stream

/-!
# Bytes of bulk transfers

A transfer is read whole, into a buffer as long as a packet may be, and handed out in as many parts as
the caller likes. Nothing is read from the link while bytes of the last transfer are left.
-/

namespace NcmBridge

/-- What is left of the last transfer, and how long a transfer may be. -/
structure BulkQueue where
  chunkLen : Nat
  left : Octets := []
  deriving DecidableEq, Repr, Inhabited

namespace BulkQueue

/-- A queue over a link whose transfers have at most `len` bytes; its buffer is never empty. -/
def ofChunkLen (len : Nat) : BulkQueue := ⟨max len 1, []⟩

/-- Takes at most `n` bytes of the last transfer. -/
def take (q : BulkQueue) (n : Nat) : Octets × BulkQueue :=
  (q.left.take n, { q with left := q.left.drop n })

/-- Puts the bytes of a transfer into an empty queue. -/
def refill (q : BulkQueue) (bytes : Octets) : BulkQueue := { q with left := bytes }

/-- Reads at most `n` bytes, from the link only when nothing is left of the last transfer. -/
def read {σ : Type} (link : Nat → σ → IoResult Octets × σ) (q : BulkQueue) (n : Nat) (s : σ) :
    IoResult Octets × BulkQueue × σ :=
  if n = 0 then
    (.ok [], q, s)
  else if q.left.isEmpty then
    match link q.chunkLen s with
    | (.error fault, s) => (.error fault, q, s)
    | (.ok bytes, s) =>
      let (got, q) := (q.refill bytes).take n
      (.ok got, q, s)
  else
    let (got, q) := q.take n
    (.ok got, q, s)

/-- Carries a read of a block on with what the queue holds, until the read is done or the queue is
empty. -/
def feed (q : BulkQueue) (r : Reading) : BulkQueue × ReadStep :=
  if _h : q.left = [] then
    (q, .more r)
  else
    match r.takeBytes (q.left.take r.want) with
    | .more r' => feed { q with left := q.left.drop r.want } r'
    | .done reader result => ({ q with left := q.left.drop r.want }, .done reader result)
termination_by q.left.length
decreasing_by
  have hlen : 0 < q.left.length := List.length_pos_iff.2 _h
  have hwant := r.want_pos
  simp only [List.length_drop]
  omega

/-- Carries a read of a block on with at most `fuel` transfers of the link. -/
def runWith {σ : Type} (link : Nat → σ → IoResult Octets × σ) :
    Nat → BulkQueue → Reading → σ → BlockReader × BlockResult × BulkQueue × σ
  | 0, q, r, s => (⟨r.window⟩, .error (.io .streamEnded), q, s)
  | fuel + 1, q, r, s =>
    match q.feed r with
    | (q, .done reader result) => (reader, result, q, s)
    | (q, .more r) =>
      match link q.chunkLen s with
      | (.ok (b :: bytes), s) => runWith link fuel (q.refill (b :: bytes)) r s
      | (got, s) =>
        match r.receive got with
        | .done reader result => (reader, result, q, s)
        | .more r => runWith link fuel q r s

/-- Carries a read of a block to its end, with at most `reads` failed or empty transfers and bytes to
come from the link. -/
def run {σ : Type} (link : Nat → σ → IoResult Octets × σ) (q : BulkQueue) (step : ReadStep)
    (reads : Nat) (s : σ) : BlockReader × BlockResult × BulkQueue × σ :=
  match step with
  | .done reader result => (reader, result, q, s)
  | .more r => runWith link (reads + 2) q r s

end BulkQueue

end NcmBridge
