import NcmBridge.Proofs.Block.Incoming

/-!
# Answers do not depend on how the bytes come

One reader may be asked for blocks again and again, and in between to look for the next signature. Its
answers depend on what comes in, and not on how a stream or a queue of transfers cuts it into reads or
interrupts them. From a stream of blocks the reader takes exactly one block at a time.
-/

namespace NcmBridge

/-- What is asked of a reader. -/
inductive ReaderCall
  | next
  | resync (limit : Nat)
  deriving DecidableEq, Repr

/-- Begins to do what is asked. -/
def BlockReader.begin (r : BlockReader) : ReaderCall → ReadStep
  | .next => .more r.next
  | .resync limit => r.resync limit

/-- What a reader answers when it is asked. -/
structure ReaderAnswer where
  call : ReaderCall
  /-- The window with which the call began. -/
  window : Octets
  result : BlockResult
  /-- The bytes that were taken from the stream for it. -/
  taken : Octets

/-! ### Calls one after another -/

/-- The bytes of a stream that are gone when it is left as another. -/
def Stream.spent (s left : Stream) : Octets := s.bytes.take (s.remaining - left.remaining)

/-- The answers to calls of a reader over a stream. -/
def Stream.answers : List ReaderCall → BlockReader → Stream → List ReaderAnswer
  | [], _, _ => []
  | call :: calls, reader, s =>
    let (reader', result, s') := s.run (reader.begin call)
    ⟨call, reader.window, result, s.spent s'⟩ :: answers calls reader' s'

/-- The results of calls of a reader over a queue that a stream fills. -/
def BulkQueue.results : List ReaderCall → BlockReader → BulkQueue → Stream → List BlockResult
  | [], _, _, _ => []
  | call :: calls, reader, q, s =>
    let (reader', result, q', s') := q.run (fun n s => s.read n) (reader.begin call) s.size s
    result :: results calls reader' q' s'

namespace Incoming

/-- The bytes that are gone when less is left. -/
def spent (ins left : List Incoming) : Octets := (bytes ins).take ((bytes ins).length - (bytes left).length)

/-- The answers to calls of a reader over what comes in. -/
def answers : List ReaderCall → BlockReader → List Incoming → List ReaderAnswer
  | [], _, _ => []
  | call :: calls, reader, ins =>
    let (reader', result, left) := (reader.begin call).over ins
    ⟨call, reader.window, result, spent ins left⟩ :: answers calls reader' left

end Incoming

/-- Over a stream a reader answers what it answers over what comes in. -/
lemma Stream.answers_eq (calls : List ReaderCall) (reader : BlockReader) {s : Stream} (hs : s.Yields) :
    s.answers calls reader = Incoming.answers calls reader s.incoming := by
  induction calls generalizing reader s with
  | nil => rfl
  | cons call calls ih =>
    obtain ⟨reader', result, s', hrun, hover, hs'⟩ := over_run hs (reader.begin call)
    rw [answers, Incoming.answers, hrun, hover]
    simp only [ih reader' hs', spent, Incoming.spent, remaining_eq_length_bytes, bytes]

/-- So it does over a queue. -/
lemma BulkQueue.results_eq (calls : List ReaderCall) (reader : BlockReader) {q : BulkQueue} {s : Stream}
    (hs : s.Yields) (hc : 0 < q.chunkLen) :
    q.results calls reader s = (Incoming.answers calls reader (q.incoming s)).map (·.result) := by
  induction calls generalizing reader q s with
  | nil => rfl
  | cons call calls ih =>
    obtain ⟨reader', result, q', s', hrun, hover, hs', hc'⟩ := over_run hs hc (reader.begin call)
    rw [results, Incoming.answers, hrun, hover]
    simp only [ih reader' hs' hc', List.map_cons]

/-! ### Streams of blocks -/

/-- A read that meets a block takes it, and nothing more. -/
lemma Framed.over_next {block : Octets} (h : Framed block) (reader : BlockReader) (rest : List Incoming) :
    (reader.begin .next).over (block.map .byte ++ rest) = (reader, .ok (some block), rest) := by
  have hfeed : (BulkQueue.mk 0 block).feed reader.next =
      (BulkQueue.mk 0 [], .done reader (.ok (some block))) := by
    simpa only [List.append_nil] using h.feed_next 0 [] reader
  rw [BlockReader.begin, ReadStep.over, Reading.over_feed 0 block, hfeed]
  rfl

namespace Incoming

lemma spent_append (used rest : List Incoming) : spent (used ++ rest) rest = bytes used := by
  rw [spent, bytes_append, List.length_append, Nat.add_sub_cancel_right, List.take_left]

/-- From a stream of blocks they are read one by one, and then there is none. -/
lemma answers_blocks {blocks : List Octets} (h : ∀ block ∈ blocks, Framed block) (n : Nat)
    (reader : BlockReader) :
    (answers (List.replicate n .next) reader (blocks.flatten.map .byte)).map
        (fun a => (a.result, a.taken)) =
      (List.range n).map fun k => (.ok blocks[k]?, blocks[k]?.getD []) := by
  induction n generalizing blocks reader with
  | zero => rfl
  | succ n ih =>
    rw [List.replicate_succ, answers, List.range_succ_eq_map]
    cases blocks with
    | nil =>
      have hover : (reader.begin .next).over [] = (⟨reader.window⟩, .ok none, []) := rfl
      have hrest := ih (List.forall_mem_nil _) ⟨reader.window⟩
      simp only [List.flatten_nil, List.map_nil] at hrest ⊢
      simp only [hover, List.map_cons, hrest, List.map_map, Function.comp_def, List.getElem?_nil]
      rfl
    | cons block blocks =>
      obtain ⟨hblock, hblocks⟩ := List.forall_mem_cons.1 h
      have hover := hblock.over_next reader (blocks.flatten.map .byte)
      rw [List.flatten_cons, List.map_append, hover]
      simp only [List.map_cons, ih hblocks reader, spent_append, bytes_map_byte, List.map_map,
        Function.comp_def]
      rfl

end Incoming

/-- The answers of a reader, the bytes that it took for each among them, are the same for two streams from
which the same comes in, and its results are the same over a queue of transfers of any length. From a
stream of blocks they are read one by one, and each read takes just the bytes of its block. -/
theorem framing_is_independent_of_chunks :
    (∀ s s' : Stream, s.Yields → s'.Yields → s.incoming = s'.incoming → ∀ calls : List ReaderCall,
      s'.answers calls {} = s.answers calls {} ∧
        ∀ chunkLen, (BulkQueue.ofChunkLen chunkLen).results calls {} s' =
          (s.answers calls {}).map (·.result)) ∧
    ∀ (blocks : List Octets) (s : Stream), (∀ block ∈ blocks, Framed block) → s.Yields →
      s.incoming = blocks.flatten.map .byte → ∀ n,
        (s.answers (List.replicate n .next) {}).map (fun a => (a.result, a.taken)) =
          (List.range n).map fun k => (.ok blocks[k]?, blocks[k]?.getD []) := by
  constructor
  · intro s s' hs hs' heq calls
    refine ⟨?_, ?_⟩
    · rw [Stream.answers_eq calls {} hs, Stream.answers_eq calls {} hs', heq]
    · intro chunkLen
      have hc : 0 < (BulkQueue.ofChunkLen chunkLen).chunkLen :=
        Nat.lt_of_lt_of_le Nat.zero_lt_one (Nat.le_max_right _ _)
      rw [Stream.answers_eq calls {} hs, BulkQueue.results_eq calls {} hs' hc, heq]
      rfl
  · intro blocks s hblocks hs heq n
    rw [Stream.answers_eq _ {} hs, heq, Incoming.answers_blocks hblocks]

/-- Two blocks, the first with nothing but its header. -/
def twoBlocks : List Octets :=
  [(TransferHeader.mk 0 12 0).encode, (TransferHeader.mk 1 14 12).encode ++ [7, 8]]

/-- Two blocks as one piece. -/
def wholeStream : Stream := ⟨[.ok twoBlocks.flatten], none⟩

/-- The same bytes in pieces of at most five, with interruptions between and inside the blocks. -/
def choppedStream : Stream :=
  ⟨[.error ⟨.interrupted, "again"⟩, .ok (twoBlocks.flatten.take 3), .error ⟨.interrupted, "again"⟩,
    .error ⟨.interrupted, "again"⟩, .ok (twoBlocks.flatten.drop 3)], some 5⟩

theorem framing_of_chopped_stream :
    (choppedStream.answers [.next, .resync 3, .next, .next] {} =
        wholeStream.answers [.next, .resync 3, .next, .next] {} ∧
      (BulkQueue.ofChunkLen 2).results [.next, .resync 3, .next, .next] {} choppedStream =
        (wholeStream.answers [.next, .resync 3, .next, .next] {}).map (·.result)) ∧
    (choppedStream.answers [.next, .next, .next] {}).map (fun a => (a.result, a.taken)) =
      (List.range 3).map fun k => (.ok twoBlocks[k]?, twoBlocks[k]?.getD []) := by
  have hincoming : wholeStream.incoming = choppedStream.incoming := rfl
  have hframed : ∀ block ∈ twoBlocks, Framed block := by
    rintro block hblock
    rcases List.mem_pair.1 hblock with rfl | rfl
    · exact ⟨⟨0, 12, 0⟩, List.prefix_rfl, rfl⟩
    · exact ⟨⟨1, 14, 12⟩, List.prefix_append _ _, rfl⟩
  obtain ⟨hchunks, hblocks⟩ := framing_is_independent_of_chunks
  obtain ⟨hanswers, hresults⟩ := hchunks wholeStream choppedStream (by decide) (by decide) hincoming
    [.next, .resync 3, .next, .next]
  exact ⟨⟨hanswers, hresults 2⟩, hblocks twoBlocks choppedStream hframed (by decide) rfl 3⟩

end NcmBridge
