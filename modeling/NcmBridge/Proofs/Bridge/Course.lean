import NcmBridge.Proofs.Block.Recovery
import NcmBridge.Proofs.Bridge.Delivery

/-!
# The course of the downlink through a stream

A script delivers a stream cut into transfers, and then its end. The downlink over it finds each block of
the stream, takes it once it is complete, writes its frames in order and begins the next read. It ends
well when the stream ends between two blocks, and with a failure at a block that does not decode or a
frame that cannot be written; then the frames before have been written and no others. Every step on the
way uses up a transfer, bytes or a frame, so a run ends.
-/

namespace NcmBridge

/-! ### The stream as the reader takes it -/

namespace EndCall

/-- The bytes that a read of the link yielded. -/
@[simp] def bytesRead? : EndCall → Option Octets
  | readTransfer _ (.ok bytes) => some bytes
  | _ => none

end EndCall

/-- The bytes read from the link, transfer by transfer. -/
def transfersRead (calls : List EndCall) : List Octets := calls.filterMap EndCall.bytesRead?

@[simp] lemma transfersRead_append (calls new : List EndCall) :
    transfersRead (calls ++ new) = transfersRead calls ++ transfersRead new :=
  List.filterMap_append

@[simp] lemma transfersRead_singleton (call : EndCall) :
    transfersRead [call] = call.bytesRead?.toList := by
  cases h : call.bytesRead? with
  | none => exact List.filterMap_cons_none h
  | some _ => exact List.filterMap_cons_some h

/-- How many bytes of the stream the reader has taken: those read from the link but not left in the
queue. -/
def Downlink.consumed {σ : Type} (r : PumpRun Downlink σ) : Nat :=
  (transfersRead r.ends.calls).flatten.length - r.pump.queue.left.length

/-- The blocks that end within the first `n` bytes of a stream of stretches. -/
def framedWithin : List Stretch → Nat → List Octets
  | [], _ => []
  | s :: later, n =>
    if s.bytes.length ≤ n then s.block :: framedWithin later (n - s.bytes.length) else []

/-- How far a stream of stretches reaches. -/
def reach (stretches : List Stretch) : Nat := (stretches.map fun s => s.bytes.length).sum

/-- The frames of the blocks of a stream. -/
def streamFrames (stretches : List Stretch) : List Octets :=
  stretches.flatMap fun s => blockFrames s.block

lemma reach_append_singleton (past : List Stretch) (s : Stretch) :
    reach (past ++ [s]) = reach past + s.bytes.length := by
  simp [reach]

lemma streamFrames_append_singleton (past : List Stretch) (s : Stretch) :
    streamFrames (past ++ [s]) = streamFrames past ++ blockFrames s.block := by
  simp [streamFrames]

/-- The blocks before a place inside a stretch. -/
lemma framedWithin_append {past upcoming : List Stretch} {n : Nat} (hpast : reach past ≤ n)
    (hupcoming : ∀ s ∈ upcoming.head?, n < reach past + s.bytes.length) :
    framedWithin (past ++ upcoming) n = past.map Stretch.block := by
  induction past generalizing n with
  | nil =>
    cases upcoming with
    | nil => rfl
    | cons s later =>
      have hlt : n < 0 + s.bytes.length := hupcoming s rfl
      exact if_neg (by omega)
  | cons t past ih =>
    have hreach : reach (t :: past) = t.bytes.length + reach past := rfl
    rw [hreach] at hpast hupcoming
    rw [List.cons_append, framedWithin, if_pos (by omega), List.map_cons, ih (by omega)]
    intro s hs
    have hlt := hupcoming s hs
    omega

lemma framedWithin_reach (stretches : List Stretch) :
    framedWithin stretches (reach stretches) = stretches.map Stretch.block := by
  have h : framedWithin (stretches ++ []) (reach stretches) = stretches.map Stretch.block :=
    framedWithin_append le_rfl (by simp)
  rwa [List.append_nil] at h

/-- A stream of stretches whose blocks decode, up to its end or to a block that does not decode and
whatever comes after it; and how the downlink ends there. -/
inductive Course (resync : Bool) : Octets → List Stretch → PumpResult → Prop
  | ends : Course resync [] [] (.ok ())
  | breaks {s : Stretch} {e : BlockError} (rest : Octets) : s.Clear → (s.gap = [] ∨ resync = true) →
      decode s.block = .error e → Course resync (s.bytes ++ rest) [s] (.error (.ofBlock e))
  | goesOn {s : Stretch} {frames : List Octets} {rest : Octets} {later : List Stretch}
      {result : PumpResult} : s.Clear → (s.gap = [] ∨ resync = true) → decode s.block = .ok frames →
      Course resync rest later result → Course resync (s.bytes ++ rest) (s :: later) result

namespace Course

variable {resync : Bool} {bytes rest : Octets} {s : Stretch} {stretches later : List Stretch}
  {result : PumpResult}

lemma eq_nil (h : Course resync bytes [] result) : bytes = [] ∧ result = .ok () := by
  cases h
  exact ⟨rfl, rfl⟩

lemma clear_of_cons (h : Course resync bytes (s :: later) result) :
    ∃ rest, bytes = s.bytes ++ rest ∧ s.Clear ∧ (s.gap = [] ∨ resync = true) := by
  cases h with
  | breaks rest hclear hgap => exact ⟨rest, rfl, hclear, hgap⟩
  | goesOn hclear hgap => exact ⟨_, rfl, hclear, hgap⟩

/-- The first block decodes and the stream goes on, or it does not and the downlink ends. -/
lemma cases_cons (h : Course resync (s.bytes ++ rest) (s :: later) result) :
    (∃ frames, decode s.block = .ok frames ∧ Course resync rest later result) ∨
      ∃ e, decode s.block = .error e ∧ later = [] ∧ result = .error (.ofBlock e) := by
  generalize hbytes : s.bytes ++ rest = bytes at h
  cases h with
  | breaks rest' hclear hgap hdecode => exact .inr ⟨_, hdecode, rfl, rfl⟩
  | goesOn hclear hgap hdecode hrest =>
    rw [List.append_cancel_left hbytes]
    exact .inl ⟨_, hdecode, hrest⟩

lemma head_pos (h : Course resync bytes stretches result) :
    ∀ s ∈ stretches.head?, 0 < s.bytes.length := by
  cases stretches with
  | nil => simp
  | cons s later =>
    obtain ⟨rest, -, hclear, -⟩ := h.clear_of_cons
    simpa using hclear.bytes_pos

end Course

/-! ### The course of a run -/

lemma mem_take_of_getElem? {α : Type} {xs : List α} {k n : Nat} {x : α} (h : xs[k]? = some x)
    (hlt : k < n) : x ∈ xs.take n := by
  rw [← List.getElem?_take_of_lt hlt] at h
  exact List.mem_of_getElem? h

namespace Downlink

/-- What a run of the downlink over a script is to meet. -/
structure Plan where
  options : BridgeOptions
  chunkLen : Nat
  /-- Outcomes of the writes of frames; then all succeed. -/
  writes : List (IoResult Unit)
  stretches : List Stretch
  /-- How long the stream is. -/
  size : Nat
  /-- How the downlink ends if no write fails. -/
  result : PumpResult

/-- The queue holds `left`, and the transfers `pieces` are to come before the end of the stream. -/
structure Supply (p : Plan) (ends : Recorded Script) (left : Octets) (pieces : List Octets) : Prop where
  transfers : ends.state.transfers = pieces.map .ok ++ [.ok []]
  bounds : ∀ piece ∈ pieces, piece ≠ [] ∧ piece.length ≤ p.chunkLen
  link_open : ends.state.linkCloses = 0
  writes : ends.state.frameWrites = p.writes.drop (framesWritten ends.calls).length
  left_le : left.length ≤ (transfersRead ends.calls).flatten.length
  read : (transfersRead ends.calls).flatten.length + pieces.flatten.length = p.size

/-- The blocks of `past` have been framed and counted, and all their frames but `owed` written. -/
structure Tally (p : Plan) (calls : List EndCall) (notes : List Note) (past upcoming : List Stretch)
    (owed : List Octets) : Prop where
  split : p.stretches = past ++ upcoming
  written : framesWritten calls ++ owed = streamFrames past
  allowed : ∀ got ∈ p.writes.take (framesWritten calls).length, got = .ok ()
  counted : Note.total .usbReceive notes = (past.map fun s => s.block.length).sum

/-- Where a run can stand. -/
inductive Stands (p : Plan) : PumpRun Downlink Script → Prop
  /-- The read under way finds the block of `s`. -/
  | reading {past later : List Stretch} {s : Stretch} {reading : Reading} {searching : Bool}
      {left rest : Octets} {pieces : List Octets} {ends : Recorded Script} {notes : List Note} :
      Supply p ends left pieces → Tally p ends.calls notes past (s :: later) [] →
      Course p.options.resync (s.bytes ++ rest) (s :: later) p.result →
      Finds p.chunkLen p.options.resync s.block rest searching reading (left ++ pieces.flatten) →
      (left ++ pieces.flatten).length ≤ s.bytes.length + rest.length →
      reach past + s.bytes.length + rest.length = p.size →
      Stands p ⟨⟨⟨p.chunkLen, left⟩, .reading reading searching⟩, ends, notes⟩
  /-- Nothing is left but the end of the stream. -/
  | drained {reader : BlockReader} {ends : Recorded Script} {notes : List Note} :
      Supply p ends [] [] → Tally p ends.calls notes p.stretches [] [] → reach p.stretches = p.size →
      p.result = .ok () →
      Stands p ⟨⟨⟨p.chunkLen, []⟩, .reading reader.next false⟩, ends, notes⟩
  | delivering {past upcoming : List Stretch} {reader : BlockReader} {frame left : Octets}
      {later pieces : List Octets} {ends : Recorded Script} {notes : List Note} :
      Supply p ends left pieces → Tally p ends.calls notes past upcoming (frame :: later) →
      Course p.options.resync (left ++ pieces.flatten) upcoming p.result →
      reach past + (left ++ pieces.flatten).length = p.size →
      Stands p ⟨⟨⟨p.chunkLen, left⟩, .delivering reader frame later⟩, ends, notes⟩
  /-- The end of the stream, or of what decodes, has been reached. -/
  | ended {r : PumpRun Downlink Script} : r.pump.phase = .ended p.result →
      Tally p r.ends.calls r.notes p.stretches [] [] →
      framedWithin p.stretches (consumed r) = p.stretches.map Stretch.block → Stands p r
  /-- A frame could not be written. -/
  | failed {past upcoming : List Stretch} {frame : Octets} {later : List Octets} {fault : IoFault}
      {r : PumpRun Downlink Script} : r.pump.phase = .ended (.error (.interface fault)) →
      Tally p r.ends.calls r.notes past upcoming (frame :: later) →
      p.writes[(framesWritten r.ends.calls).length]? = some (.error fault) →
      framedWithin p.stretches (consumed r) = past.map Stretch.block → Stands p r

/-- What a run can still use up: bytes and transfers to come, and frames that are not written yet. -/
def remaining (p : Plan) (r : PumpRun Downlink Script) : Nat :=
  r.pump.queue.left.length +
    (r.ends.state.transfers.map fun got => got.toOption.elim 0 List.length + 1).sum +
    ((streamFrames p.stretches).length - (framesWritten r.ends.calls).length)

/-- A step keeps to the plan, and uses something up or ends the run. -/
def Steps (p : Plan) (r r' : PumpRun Downlink Script) : Prop :=
  Stands p r' ∧ (r'.pump.result? = none → remaining p r' < remaining p r)

/-- A step that ends the run need not use up anything. -/
lemma Steps.of_ended {p : Plan} {r r' : PumpRun Downlink Script} {result : PumpResult}
    (hphase : r'.pump.phase = .ended result) (h : Stands p r') : Steps p r r' := by
  refine ⟨h, fun hnone => ?_⟩
  rw [result?, hphase] at hnone
  cases hnone

section Invariant

variable {p : Plan} {ends : Recorded Script} {calls : List EndCall} {notes : List Note}
  {left : Octets} {pieces owed : List Octets} {past upcoming : List Stretch}

lemma remaining_lt {left' : Octets} {phase phase' : Phase} {notes' : List Note}
    (hlt : left'.length < left.length) :
    remaining p ⟨⟨⟨p.chunkLen, left'⟩, phase'⟩, ends, notes'⟩ <
      remaining p ⟨⟨⟨p.chunkLen, left⟩, phase⟩, ends, notes⟩ := by
  simp only [remaining]
  omega

namespace Supply

lemma length_le (h : Supply p ends left pieces) : (left ++ pieces.flatten).length ≤ p.size := by
  have hread := h.read
  have hle := h.left_le
  rw [List.length_append]
  omega

lemma consumed_eq {phase : Phase} (h : Supply p ends left pieces) :
    consumed ⟨⟨⟨p.chunkLen, left⟩, phase⟩, ends, notes⟩ =
      p.size - (left ++ pieces.flatten).length := by
  have hread := h.read
  simp only [consumed, List.length_append]
  omega

variable {s : Script}

lemma refill {piece : Octets} (h : Supply p ⟨s, calls⟩ [] (piece :: pieces)) :
    Supply p ⟨{ s with transfers := pieces.map .ok ++ [.ok []] },
      calls ++ [.readTransfer p.chunkLen (.ok piece)]⟩ piece pieces := by
  obtain ⟨htransfers, hbounds, hopen, hwrites, hle, hread⟩ := h
  refine ⟨rfl, (List.forall_mem_cons.1 hbounds).2, hopen, by simpa using hwrites, by simp, ?_⟩
  simp at hread ⊢
  omega

lemma take {left' : Octets} (h : Supply p ends left pieces) (hlt : left'.length < left.length) :
    Supply p ends left' pieces :=
  ⟨h.transfers, h.bounds, h.link_open, h.writes, hlt.le.trans h.left_le, h.read⟩

lemma write {s' : Script} {frame : Octets} (h : Supply p ⟨s, calls⟩ left pieces)
    (htransfers : s'.transfers = s.transfers) (hopen : s'.linkCloses = s.linkCloses)
    (hwrites : s'.frameWrites = p.writes.drop ((framesWritten calls).length + 1)) :
    Supply p ⟨s', calls ++ [.writeFrame frame (.ok ())]⟩ left pieces := by
  refine ⟨htransfers.trans h.transfers, h.bounds, hopen.trans h.link_open, ?_, ?_, ?_⟩
  · simpa using hwrites
  · simpa using h.left_le
  · simpa using h.read

end Supply

namespace Tally

variable {new : List Note}

lemma call {call : EndCall} (h : Tally p calls notes past upcoming owed)
    (hcall : call.frameWritten? = none) : Tally p (calls ++ [call]) notes past upcoming owed := by
  have hwritten : framesWritten (calls ++ [call]) = framesWritten calls := by
    rw [framesWritten_append, framesWritten_singleton, hcall, Option.toList_none, List.append_nil]
  exact ⟨h.split, hwritten ▸ h.written, hwritten ▸ h.allowed, h.counted⟩

lemma note (h : Tally p calls notes past upcoming owed) (hnew : Note.total .usbReceive new = 0) :
    Tally p calls (notes ++ new) past upcoming owed := by
  refine ⟨h.split, h.written, h.allowed, ?_⟩
  rw [Note.total_append, hnew, h.counted, Nat.add_zero]

/-- The next block is framed, and all its frames are owed. -/
lemma block {s : Stretch} {later : List Stretch} (h : Tally p calls notes past (s :: later) [])
    (hnew : Note.total .usbReceive new = s.block.length) :
    Tally p calls (notes ++ new) (past ++ [s]) later (blockFrames s.block) := by
  refine ⟨?_, ?_, h.allowed, ?_⟩
  · rw [h.split, List.append_assoc, List.singleton_append]
  · rw [streamFrames_append_singleton, ← h.written, List.append_nil]
  · rw [Note.total_append, hnew, h.counted, List.map_append, List.sum_append, List.map_singleton,
      List.sum_singleton]

lemma write {frame : Octets} {later : List Octets}
    (h : Tally p calls notes past upcoming (frame :: later))
    (hgot : p.writes[(framesWritten calls).length]?.getD (.ok ()) = .ok ())
    (hnew : Note.total .usbReceive new = 0) :
    Tally p (calls ++ [.writeFrame frame (.ok ())]) (notes ++ new) past upcoming later := by
  have hwritten : framesWritten (calls ++ [.writeFrame frame (.ok ())]) =
      framesWritten calls ++ [frame] := by
    simp
  refine ⟨h.split, ?_, ?_, (h.note hnew).counted⟩
  · rw [hwritten, List.append_assoc, List.singleton_append, h.written]
  · rw [hwritten, List.length_append, List.length_singleton, List.take_add_one]
    intro got hmem
    rcases List.mem_append.1 hmem with hmem | hmem
    · exact h.allowed got hmem
    · rw [Option.mem_toList.1 hmem] at hgot
      exact hgot

lemma written_lt {frame : Octets} {later : List Octets}
    (h : Tally p calls notes past upcoming (frame :: later)) :
    (framesWritten calls).length < (streamFrames p.stretches).length := by
  have hlen := congrArg List.length h.written
  rw [h.split, streamFrames, List.flatMap_append, List.length_append]
  rw [List.length_append, List.length_cons, streamFrames] at hlen
  omega

end Tally

namespace Stands

variable {reader : BlockReader}

/-- The downlink has delivered the blocks of `past` and goes on with the stream. -/
lemma of_course (hsupply : Supply p ends left pieces) (htally : Tally p ends.calls notes past upcoming [])
    (hcourse : Course p.options.resync (left ++ pieces.flatten) upcoming p.result)
    (hsize : reach past + (left ++ pieces.flatten).length = p.size) :
    Stands p ⟨⟨⟨p.chunkLen, left⟩, .reading reader.next false⟩, ends, notes⟩ := by
  generalize hbytes : left ++ pieces.flatten = bytes at hcourse
  cases upcoming with
  | nil =>
    obtain ⟨rfl, hresult⟩ := hcourse.eq_nil
    obtain ⟨rfl, hpieces⟩ := List.append_eq_nil_iff.1 hbytes
    have hnone : pieces = [] := by
      cases pieces with
      | nil => rfl
      | cons piece pieces =>
        exact absurd (List.append_eq_nil_iff.1 hpieces).1
          (hsupply.bounds piece (List.mem_cons_self ..)).1
    subst hnone
    obtain rfl : p.stretches = past := htally.split.trans (List.append_nil past)
    exact .drained hsupply htally hsize hresult
  | cons s later =>
    obtain ⟨rest, rfl, hclear, hgap⟩ := hcourse.clear_of_cons
    have hlen : (left ++ pieces.flatten).length = s.bytes.length + rest.length := by
      rw [hbytes, List.length_append]
    refine .reading hsupply htally hcourse ?_ hlen.le (by omega)
    rw [hbytes]
    exact hclear.finds p.chunkLen hgap rest reader

lemma of_owed (hsupply : Supply p ends left pieces)
    (htally : Tally p ends.calls notes past upcoming owed)
    (hcourse : Course p.options.resync (left ++ pieces.flatten) upcoming p.result)
    (hsize : reach past + (left ++ pieces.flatten).length = p.size) :
    Stands p ⟨⟨⟨p.chunkLen, left⟩, delivery reader owed⟩, ends, notes⟩ := by
  cases owed with
  | nil => exact of_course hsupply htally hcourse hsize
  | cons frame later => exact .delivering hsupply htally hcourse hsize

/-- An empty queue is refilled by the next transfer. -/
lemma advance_refill {later : List Stretch} {s : Stretch} {reading : Reading} {searching : Bool}
    {rest : Octets} (serial : String) (hsupply : Supply p ends [] pieces)
    (htally : Tally p ends.calls notes past (s :: later) [])
    (hcourse : Course p.options.resync (s.bytes ++ rest) (s :: later) p.result)
    (hfinds : Finds p.chunkLen p.options.resync s.block rest searching reading pieces.flatten)
    (hwithin : pieces.flatten.length ≤ s.bytes.length + rest.length)
    (hsize : reach past + s.bytes.length + rest.length = p.size) :
    Steps p ⟨⟨⟨p.chunkLen, []⟩, .reading reading searching⟩, ends, notes⟩
      (advance serial p.options ⟨⟨⟨p.chunkLen, []⟩, .reading reading searching⟩, ends, notes⟩) := by
  cases pieces with
  -- with no bytes to come the block would not be found
  | nil => exact absurd hfinds.rest_lt (Nat.not_lt_zero _)
  | cons piece pieces =>
    obtain ⟨s, calls⟩ := ends
    obtain ⟨hpiece, hlen⟩ := hsupply.bounds piece (List.mem_cons_self ..)
    rw [advance_read serial p.options hsupply.link_open hsupply.transfers hpiece hlen]
    refine ⟨.reading hsupply.refill (htally.call rfl) hcourse hfinds hwithin hsize, ?_⟩
    intro _
    have htransfers : s.transfers = _ := hsupply.transfers
    simp only [remaining, htransfers]
    simp [Except.toOption]

/-- A block that was framed is owed if it decodes, and is the last one if it does not. -/
lemma receiveBlock {later : List Stretch} {s : Stretch} {phase : Phase} {r : PumpRun Downlink Script}
    (serial : String) (hsupply : Supply p ends left pieces)
    (htally : Tally p ends.calls notes past (s :: later) [])
    (hcourse : Course p.options.resync (s.bytes ++ (left ++ pieces.flatten)) (s :: later) p.result)
    (hsize : reach (past ++ [s]) + (left ++ pieces.flatten).length = p.size)
    (hless : ∀ phase' notes',
      remaining p ⟨⟨⟨p.chunkLen, left⟩, phase'⟩, ends, notes'⟩ < remaining p r) :
    Steps p r
      ⟨(Downlink.receiveBlock serial ⟨⟨p.chunkLen, left⟩, phase⟩ reader (.ok (some s.block))).1, ends,
        notes ++
          (Downlink.receiveBlock serial ⟨⟨p.chunkLen, left⟩, phase⟩ reader (.ok (some s.block))).2⟩ := by
  rcases hcourse.cases_cons with ⟨frames, hdecode, hlater⟩ | ⟨e, hdecode, rfl, hresult⟩
  · obtain ⟨hpump, htotal⟩ :=
      receiveBlock_of_decode serial ⟨⟨p.chunkLen, left⟩, phase⟩ reader hdecode
    have hblock := htally.block htotal
    rw [blockFrames_of_decode hdecode] at hblock
    rw [hpump]
    exact ⟨of_owed hsupply hblock hlater hsize, fun _ => hless _ _⟩
  · have hblock : Tally p ends.calls (notes ++ [.counted .usbReceive s.block.length]) (past ++ [s]) []
        (blockFrames s.block) := htally.block (by simp)
    have hall : past ++ [s] = p.stretches := htally.split.symm
    rw [blockFrames_of_decode_error hdecode] at hblock
    rw [hall] at hblock hsize
    rw [receiveBlock_of_decode_error serial _ reader hdecode, ← hresult]
    refine .of_ended rfl (.ended rfl hblock ?_)
    rw [hsupply.consumed_eq, ← hsize, Nat.add_sub_cancel, framedWithin_reach]

lemma advance_reading {later : List Stretch} {s : Stretch} {reading : Reading} {searching : Bool}
    {rest : Octets} (serial : String) (hsupply : Supply p ends left pieces)
    (htally : Tally p ends.calls notes past (s :: later) [])
    (hcourse : Course p.options.resync (s.bytes ++ rest) (s :: later) p.result)
    (hfinds : Finds p.chunkLen p.options.resync s.block rest searching reading (left ++ pieces.flatten))
    (hwithin : (left ++ pieces.flatten).length ≤ s.bytes.length + rest.length)
    (hsize : reach past + s.bytes.length + rest.length = p.size) :
    Steps p ⟨⟨⟨p.chunkLen, left⟩, .reading reading searching⟩, ends, notes⟩
      (advance serial p.options ⟨⟨⟨p.chunkLen, left⟩, .reading reading searching⟩, ends, notes⟩) := by
  by_cases hne : left = []
  · subst hne
    exact advance_refill serial hsupply htally hcourse hfinds hwithin hsize
  · rcases hfinds.feed with ⟨reading', hfeed, hfinds'⟩ | ⟨left', reader, hfeed, hrest⟩ |
      ⟨left', reader, found, reading', rfl, hresync, hfeed, hmore, hfinds'⟩
    · have hlt : ([] : Octets).length < left.length := List.length_pos_iff.2 hne
      rw [List.length_append] at hwithin
      rw [advance_feed serial p.options hne hfeed, receiveStep_more]
      -- the whole queue went into the block, which is still the one that the read finds
      exact ⟨.reading (hsupply.take hlt) (htally.note rfl) hcourse hfinds'
        ((Nat.le_add_left _ _).trans hwithin) hsize, fun _ => remaining_lt hlt⟩
    · have hlt : left'.length < left.length := BulkQueue.length_lt_of_feed_eq_done hfeed
      have hframed : reach (past ++ [s]) + rest.length = p.size := by
        rw [reach_append_singleton, hsize]
      rw [← hrest] at hcourse hframed
      rw [advance_feed serial p.options hne hfeed, receiveStep_done]
      exact receiveBlock serial (hsupply.take hlt) htally hcourse hframed
        fun _ _ => remaining_lt hlt
    · have hlt : left'.length < left.length := BulkQueue.length_lt_of_feed_eq_done hfeed
      obtain ⟨hpump, htotal⟩ := receiveStep_search serial p.options
        ⟨⟨p.chunkLen, left'⟩, .reading reading false⟩ found hresync hmore
      rw [List.length_append] at hwithin
      rw [advance_feed serial p.options hne hfeed, hpump]
      refine ⟨.reading (hsupply.take hlt) (htally.note htotal) hcourse hfinds' ?_ hsize,
        fun _ => remaining_lt hlt⟩
      rw [List.length_append]
      omega

lemma advance_drained (serial : String) (hsupply : Supply p ends [] [])
    (htally : Tally p ends.calls notes p.stretches [] []) (hsize : reach p.stretches = p.size)
    (hresult : p.result = .ok ()) :
    Steps p ⟨⟨⟨p.chunkLen, []⟩, .reading reader.next false⟩, ends, notes⟩
      (advance serial p.options ⟨⟨⟨p.chunkLen, []⟩, .reading reader.next false⟩, ends, notes⟩) := by
  obtain ⟨s, calls⟩ := ends
  have hread : (transfersRead calls).flatten.length = reach p.stretches := by
    simpa using hsupply.read.trans hsize.symm
  rw [advance_end serial p.options hsupply.link_open hsupply.transfers, ← hresult]
  refine .of_ended rfl (.ended rfl (htally.call rfl) ?_)
  rw [← framedWithin_reach, ← hread]
  simp [consumed]

lemma advance_delivering {frame : Octets} {later : List Octets} (serial : String)
    (hsupply : Supply p ends left pieces)
    (htally : Tally p ends.calls notes past upcoming (frame :: later))
    (hcourse : Course p.options.resync (left ++ pieces.flatten) upcoming p.result)
    (hsize : reach past + (left ++ pieces.flatten).length = p.size) :
    Steps p ⟨⟨⟨p.chunkLen, left⟩, .delivering reader frame later⟩, ends, notes⟩
      (advance serial p.options
        ⟨⟨⟨p.chunkLen, left⟩, .delivering reader frame later⟩, ends, notes⟩) := by
  obtain ⟨s, calls⟩ := ends
  obtain ⟨s', hwrite, htransfers, hopen, hwrites⟩ :=
    Script.writeFrame_of_drop frame hsupply.writes
  have hlt : (framesWritten calls).length < _ := htally.written_lt
  rw [advance_write serial p.options hwrite]
  cases hgot : p.writes[(framesWritten calls).length]?.getD (.ok ()) with
  | ok done =>
    simp only [receiveWritten, deliver_eq]
    refine ⟨of_owed (hsupply.write htransfers hopen hwrites) (htally.write hgot ?_) hcourse hsize, ?_⟩
    · simp [deliver_notes]
    · intro _
      simp only [remaining, htransfers]
      simp
      omega
  | error fault =>
    have hfault : p.writes[(framesWritten calls).length]? = some (.error fault) := by
      cases hnext : p.writes[(framesWritten calls).length]? with
      | none => simp [hnext] at hgot
      | some next => simpa [hnext] using hgot
    have hcall : (EndCall.writeFrame frame (.error fault)).frameWritten? = none := rfl
    have hconsumed : consumed ⟨⟨⟨p.chunkLen, left⟩, .ended (.error (.interface fault))⟩,
        ⟨s', calls ++ [.writeFrame frame (.error fault)]⟩, notes ++ []⟩ = reach past := by
      have hread : (transfersRead calls).flatten.length + pieces.flatten.length = p.size :=
        hsupply.read
      have hle : left.length ≤ (transfersRead calls).flatten.length := hsupply.left_le
      simp only [consumed, transfersRead_append, transfersRead_singleton, EndCall.bytesRead?,
        Option.toList_none, List.append_nil]
      rw [List.length_append] at hsize
      omega
    refine .of_ended rfl (.failed rfl ((htally.call hcall).note rfl) ?_ ?_)
    · simpa using hfault
    · rw [htally.split]
      refine framedWithin_append hconsumed.ge ?_
      intro s hs
      exact hconsumed.trans_lt (Nat.lt_add_of_pos_right (hcourse.head_pos s hs))

variable {r : PumpRun Downlink Script}

/-- Every step keeps to the plan, and uses something up or ends the run. -/
theorem advance (serial : String) (h : Stands p r) :
    Steps p r (Downlink.advance serial p.options r) := by
  cases h with
  | reading hsupply htally hcourse hfinds hwithin hsize =>
    exact advance_reading serial hsupply htally hcourse hfinds hwithin hsize
  | drained hsupply htally hsize hresult => exact advance_drained serial hsupply htally hsize hresult
  | delivering hsupply htally hcourse hsize =>
    exact advance_delivering serial hsupply htally hcourse hsize
  | ended hphase htally hframed =>
    rw [advance_of_ended serial p.options hphase]
    exact .of_ended hphase (.ended hphase htally hframed)
  | failed hphase htally hfault hframed =>
    rw [advance_of_ended serial p.options hphase]
    exact .of_ended hphase (.failed hphase htally hfault hframed)

/-- What holds at the start holds throughout a run. -/
theorem iterate (serial : String) (h : Stands p r) (n : Nat) :
    Stands p ((Downlink.advance serial p.options)^[n] r) := by
  induction n with
  | zero => exact h
  | succ n ih =>
    rw [Function.iterate_succ_apply']
    exact (ih.advance serial).1

/-- A run ends. -/
theorem exists_ended (serial : String) (h : Stands p r) :
    ∃ n, ((Downlink.advance serial p.options)^[n] r).pump.result? ≠ none := by
  induction hm : remaining p r using Nat.strong_induction_on generalizing r with
  | _ m ih =>
    obtain ⟨hnext, hless⟩ := h.advance serial
    by_cases hended : (Downlink.advance serial p.options r).pump.result? = none
    · obtain ⟨n, hn⟩ := ih _ (hm ▸ hless hended) hnext rfl
      exact ⟨n + 1, hn⟩
    · exact ⟨1, hended⟩

lemma start {s : Script} (htransfers : s.transfers = pieces.map .ok ++ [.ok []])
    (hbounds : ∀ piece ∈ pieces, piece ≠ [] ∧ piece.length ≤ p.chunkLen) (hopen : s.linkCloses = 0)
    (hwrites : s.frameWrites = p.writes) (hsize : pieces.flatten.length = p.size)
    (hcourse : Course p.options.resync pieces.flatten p.stretches p.result) :
    Stands p ⟨⟨⟨p.chunkLen, []⟩, .reading ({} : BlockReader).next false⟩, ⟨s, []⟩, []⟩ := by
  have hsupply : Supply p ⟨s, []⟩ [] pieces :=
    ⟨htransfers, hbounds, hopen, hwrites, Nat.le_refl _, (Nat.zero_add _).trans hsize⟩
  have htally : Tally p [] [] [] p.stretches [] := by
    refine ⟨rfl, rfl, ?_, rfl⟩
    intro got hgot
    cases hgot
  exact of_course hsupply htally hcourse ((Nat.zero_add _).trans hsize)

/-- At every point there are the blocks framed so far and the frames of theirs not written yet. -/
lemma exists_tally (h : Stands p r) : ∃ past upcoming owed,
    Tally p r.ends.calls r.notes past upcoming owed ∧
      framedWithin p.stretches (consumed r) = past.map Stretch.block := by
  cases h with
  | reading hsupply htally hcourse hfinds hwithin hsize =>
    -- the bytes after the block are not taken before its end
    have hlt := hfinds.rest_lt
    have hle := hsupply.length_le
    refine ⟨_, _, _, htally, ?_⟩
    rw [htally.split, hsupply.consumed_eq]
    refine framedWithin_append (by omega) ?_
    rintro _ ⟨⟩
    omega
  | drained hsupply htally hsize hresult =>
    refine ⟨_, _, _, htally, ?_⟩
    rw [hsupply.consumed_eq, ← hsize]
    exact framedWithin_reach p.stretches
  | delivering hsupply htally hcourse hsize =>
    refine ⟨_, _, _, htally, ?_⟩
    rw [htally.split, hsupply.consumed_eq]
    refine framedWithin_append (by omega) ?_
    intro s hs
    have hpos := hcourse.head_pos s hs
    omega
  | ended hphase htally hframed => exact ⟨_, _, _, htally, hframed⟩
  | failed hphase htally hfault hframed => exact ⟨_, _, _, htally, hframed⟩

/-- A run without a failed write ends with all frames written. -/
lemma ended_of_ok (h : Stands p r) (hended : r.pump.result? ≠ none)
    (hok : ∀ got ∈ p.writes.take (streamFrames p.stretches).length, got = .ok ()) :
    r.pump.phase = .ended p.result ∧ framesWritten r.ends.calls = streamFrames p.stretches ∧
      Note.total .usbReceive r.notes = (p.stretches.map fun s => s.block.length).sum := by
  cases h with
  | ended hphase htally hframed =>
    rw [← htally.written, List.append_nil]
    exact ⟨hphase, rfl, htally.counted⟩
  | failed hphase htally hfault hframed =>
    exact absurd (hok _ (mem_take_of_getElem? hfault htally.written_lt)) (by simp)
  | _ => exact absurd rfl hended

/-- A run ends at the first write that fails. -/
lemma ended_of_fault {k : Nat} {fault : IoFault} (h : Stands p r) (hended : r.pump.result? ≠ none)
    (hk : k < (streamFrames p.stretches).length) (hok : ∀ got ∈ p.writes.take k, got = .ok ())
    (hfault : p.writes[k]? = some (.error fault)) :
    r.pump.phase = .ended (.error (.interface fault)) ∧
      framesWritten r.ends.calls = (streamFrames p.stretches).take k := by
  cases h with
  | ended hphase htally hframed =>
    rw [← htally.written, List.append_nil] at hk
    exact absurd (htally.allowed _ (mem_take_of_getElem? hfault hk)) (by simp)
  | failed hphase htally hfault' hframed =>
    -- both faults are the first that is laid out
    have hfirst : k = (framesWritten r.ends.calls).length := by
      rcases Nat.lt_trichotomy k (framesWritten r.ends.calls).length with hlt | heq | hlt
      · exact absurd (htally.allowed _ (mem_take_of_getElem? hfault hlt)) (by simp)
      · exact heq
      · exact absurd (hok _ (mem_take_of_getElem? hfault' hlt)) (by simp)
    subst hfirst
    obtain rfl : _ = fault := by simpa [hfault'] using hfault
    refine ⟨hphase, ?_⟩
    rw [htally.split, streamFrames, List.flatMap_append, ← streamFrames, ← htally.written,
      List.append_assoc, List.take_left']
    rfl
  | _ => exact absurd rfl hended

end Stands

end Invariant

end Downlink

/-! ### Runs over a script -/

namespace Course

/-- Stretches whose blocks decode lead to what comes after them. -/
lemma append {resync : Bool} {rest : Octets} {stretches later : List Stretch} {result : PumpResult}
    (hclear : ∀ s ∈ stretches, s.Clear ∧ (s.gap = [] ∨ resync = true))
    (hdecode : ∀ s ∈ stretches, ∃ frames, decode s.block = .ok frames)
    (h : Course resync rest later result) :
    Course resync (stretches.flatMap Stretch.bytes ++ rest) (stretches ++ later) result := by
  induction stretches with
  | nil => exact h
  | cons s stretches ih =>
    rw [List.forall_mem_cons] at hclear hdecode
    obtain ⟨⟨hs, hgap⟩, hlater⟩ := hclear
    obtain ⟨⟨frames, hframes⟩, hrest⟩ := hdecode
    rw [List.flatMap_cons, List.append_assoc]
    exact .goesOn hs hgap hframes (ih hlater hrest)

end Course

namespace Downlink

def planOf (options : BridgeOptions) (chunkLen : Nat) (s : Script) (pieces : List Octets)
    (stretches : List Stretch) (result : PumpResult) : Plan :=
  ⟨options, max chunkLen 1, s.frameWrites, stretches, pieces.flatten.length, result⟩

/-- A run over a script keeps to its plan at every point. -/
theorem stands_run (serial : String) (options : BridgeOptions) {chunkLen : Nat} {s : Script}
    {pieces : List Octets} {stretches : List Stretch} {result : PumpResult}
    (htransfers : s.transfers = pieces.map .ok ++ [.ok []])
    (hbounds : ∀ piece ∈ pieces, piece ≠ [] ∧ piece.length ≤ chunkLen) (hopen : s.linkCloses = 0)
    (hcourse : Course options.resync pieces.flatten stretches result) (n : Nat) :
    Stands (planOf options chunkLen s pieces stretches result)
      (run Script.ends serial options chunkLen s n) := by
  refine Stands.iterate serial (.start htransfers ?_ hopen rfl rfl hcourse) n
  intro piece hpiece
  obtain ⟨hne, hlen⟩ := hbounds piece hpiece
  exact ⟨hne, hlen.trans (Nat.le_max_left _ _)⟩

lemma exists_phase_of_result? {d : Downlink} (h : d.result? ≠ none) :
    ∃ result, d.phase = .ended result := by
  unfold result? at h
  split at h
  · exact ⟨_, ‹_›⟩
  · exact absurd rfl h

/-- A run over a script ends and stays so. -/
theorem exists_run_ended (serial : String) (options : BridgeOptions) {chunkLen : Nat} {s : Script}
    {pieces : List Octets} {stretches : List Stretch} {result : PumpResult}
    (htransfers : s.transfers = pieces.map .ok ++ [.ok []])
    (hbounds : ∀ piece ∈ pieces, piece ≠ [] ∧ piece.length ≤ chunkLen) (hopen : s.linkCloses = 0)
    (hcourse : Course options.resync pieces.flatten stretches result) :
    ∃ n, ∀ m ≥ n, (run Script.ends serial options chunkLen s m).pump.result? ≠ none := by
  obtain ⟨n, hn⟩ :=
    (stands_run serial options htransfers hbounds hopen hcourse 0).exists_ended serial
  refine ⟨n, Nat.le_induction hn ?_⟩
  intro m _ hm
  obtain ⟨result, hphase⟩ := exists_phase_of_result? hm
  have hsucc : run Script.ends serial options chunkLen s (m + 1) =
      advance serial options (run Script.ends serial options chunkLen s m) :=
    Function.iterate_succ_apply' _ m _
  rw [hsucc, advance_of_ended serial options hphase]
  exact hm

/-- The downlink delivers a stream of blocks however transfers cut it. -/
theorem delivers_run (serial : String) (options : BridgeOptions) {chunkLen : Nat}
    {transfers blocks : List Octets}
    (hbounds : ∀ transfer ∈ transfers, transfer ≠ [] ∧ transfer.length ≤ chunkLen)
    (hstream : transfers.flatten = blocks.flatten) (hframed : ∀ block ∈ blocks, Framed block)
    (hdecode : ∀ block ∈ blocks, ∃ fs, decode block = .ok fs) :
    ∃ n, (run Script.ends serial options chunkLen (.ofTransfers transfers) n).pump.result? =
        some (.ok ()) ∧
      framesWritten (run Script.ends serial options chunkLen (.ofTransfers transfers) n).ends.calls =
        blocks.flatMap blockFrames ∧
      Note.total .usbReceive
          (run Script.ends serial options chunkLen (.ofTransfers transfers) n).notes =
        (blocks.map List.length).sum := by
  have hbytes : transfers.flatten = (blocks.map (Stretch.mk [])).flatMap Stretch.bytes ++ [] := by
    simp [hstream, List.flatMap_map, Stretch.bytes, List.flatMap_id']
  have hcourse : Course options.resync transfers.flatten (blocks.map (Stretch.mk []) ++ [])
      (.ok ()) := by
    rw [hbytes]
    refine .append ?_ (by simpa using hdecode) .ends
    intro s hs
    obtain ⟨block, hblock, rfl⟩ := List.mem_map.1 hs
    exact ⟨⟨hframed block hblock, Nat.zero_le _, fun k hk => absurd hk (Nat.not_lt_zero k)⟩, .inl rfl⟩
  obtain ⟨n, hn⟩ := exists_run_ended (s := .ofTransfers transfers) serial options rfl hbounds rfl hcourse
  obtain ⟨hphase, hwritten, hcounted⟩ :=
    (stands_run (s := .ofTransfers transfers) serial options rfl hbounds rfl hcourse n).ended_of_ok
      (hn n le_rfl) (by simp [planOf, Script.ofTransfers])
  refine ⟨n, ?_, ?_, ?_⟩
  · rw [result?, hphase]
    rfl
  · rw [hwritten]
    simp [planOf, streamFrames, List.flatMap_map]
  · rw [hcounted]
    simp [planOf, Function.comp_def]

end Downlink

end NcmBridge
