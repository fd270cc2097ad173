import NcmBridge.Proofs.Block.Access
import NcmBridge.Proofs.Block.Contiguity

/-!
# Receiving stays within bounds

The reader that frames a stream is written down once more, with the buffers that it fills and a record of the
places in them that it uses. Each of its steps is the step of the reader, over a stream as over a single chunk,
and no recorded access leaves the buffer at hand, neither here nor where its blocks are decoded.
-/

namespace NcmBridge

/-! ### The window as a word -/

namespace Reading

variable {bytes : Octets}

lemma word32?_eq (h : bytes.length = 4) : bytes.word32? 0 = some (word bytes) := by
  obtain ⟨w, hw⟩ := Octets.exists_word32_of_le (show 0 + 4 ≤ bytes.length by omega)
  rw [Octets.word32_eq_ok_iff, ← Octets.word32?_eq_some_iff] at hw
  rw [word, hw, Option.getD_some]

/-- Four bytes are the signature as a word just when they are its bytes. -/
lemma word_eq_signature_iff (h : bytes.length = 4) :
    word bytes = transferSignature ↔ bytes = signatureOctets := by
  have hsignature : word signatureOctets = transferSignature := rfl
  constructor
  · intro hword
    have hbytes := Octets.word32?_eq_some_iff.1 (word32?_eq h)
    rw [List.drop_zero, hword] at hbytes
    exact (hbytes.eq_of_length (by rw [h, Octets.length_ofWord32])).symm
  · rintro rfl
    exact hsignature

end Reading

/-! ### Buffers -/

namespace Observed

variable {α β : Type}

/-- A buffer with bytes copied to the places from `start` up to `stop`, if they are as many as these. -/
def copy (buffer : Octets) (start stop : Nat) (bytes : Octets) : Observed Octets :=
  ⟨[.copy buffer.length start stop bytes.length],
    if start ≤ stop ∧ stop ≤ buffer.length ∧ bytes.length = stop - start then
      .ok (buffer.take start ++ bytes ++ buffer.drop stop)
    else .error (.readOutside start bytes.length)⟩

/-- What is read, or why the block is refused. -/
def attempt (x : Observed α) : Observed (Except BlockError α) := ⟨x.accesses, .ok x.result⟩

/-- Puts bytes into the buffer of a field, behind those that it holds. -/
def fill (field : Field) (chunk : Octets) : Observed (Field ⊕ Octets) := do
  let stop := field.got.length + chunk.length
  let buffer ← copy (field.got ++ Octets.zeros field.missing) field.got.length stop chunk
  let left ← slice buffer stop buffer.length
  if h : 0 < left.length then
    return .inl ⟨(buffer.take stop).reverse, left.length, h⟩
  else
    return .inr buffer

/-! ### The reader, observed -/

def scan (window : Octets) (scanned limit : Nat) : Observed ReadStep := do
  let word ← word32 window 0
  if word = transferSignature then
    return .more ⟨Octets.zeros 4, .header Field.headerRest⟩
  else if limit ≤ scanned then
    return .done ⟨window⟩ (.error (.resyncFailed scanned))
  else
    return .more ⟨window, .scanning scanned limit⟩

/-- Reads the length of a block from its header, and lays out a block of that length that begins with it. -/
def afterHeader (window header : Octets) : Observed ReadStep := do
  match ← attempt (transferHeader header) with
  | .error e => return .done ⟨window⟩ (.error e)
  | .ok parsed =>
    let blockLen := parsed.blockLen.toNat
    if blockLen < transferHeaderLen then
      return .done ⟨window⟩ (.error (.truncated transferHeaderLen blockLen))
    else
      let block ← copy (Octets.zeros blockLen) 0 transferHeaderLen header
      let left ← slice block transferHeaderLen block.length
      if h : 0 < left.length then
        return .more ⟨window, .body header ⟨[], left.length, h⟩⟩
      else
        return .done ⟨window⟩ (.ok (some block))

def takeBytes (r : Reading) (chunk : Octets) : Observed ReadStep :=
  match r.stage with
  | .signature field => do
    match ← fill field chunk with
    | .inl field => return .more ⟨r.window, .signature field⟩
    | .inr found =>
      let word ← word32 found 0
      if word = transferSignature then
        return .more ⟨r.window, .header Field.headerRest⟩
      else
        return .done ⟨found⟩ (.error (.invalidSignature word))
  | .scanning scanned limit => do
    let buffer ← copy (Octets.zeros 1) 0 chunk.length chunk
    let byte ← slice buffer 0 1
    -- the window is turned by one place, and the byte that was first in it gives way
    let first ← slice r.window 0 1
    let others ← slice r.window 1 4
    let window ← copy (others ++ first) 3 4 byte
    scan window (scanned + 1) limit
  | .header field => do
    match ← fill field chunk with
    | .inl field => return .more ⟨r.window, .header field⟩
    | .inr rest =>
      let header ← copy (Octets.zeros transferHeaderLen) 0 4 Reading.signatureOctets
      let header ← copy header 4 transferHeaderLen rest
      afterHeader r.window header
  | .body header field => do
    let size := transferHeaderLen + (field.got.length + field.missing)
    match ← fill field chunk with
    | .inl field => return .more ⟨r.window, .body header field⟩
    | .inr rest =>
      let block ← copy (Octets.zeros size) 0 transferHeaderLen header
      let block ← copy block transferHeaderLen size rest
      return .done ⟨r.window⟩ (.ok (some block))

/-- Only the bytes that a read yields are put anywhere. -/
def receive (r : Reading) : IoResult Octets → Observed ReadStep
  | .ok (b :: chunk) => takeBytes r (b :: chunk)
  | got => return r.receive got

def runWith : Nat → Reading → Stream → Observed (BlockReader × BlockResult × Stream)
  | 0, r, s => return (⟨r.window⟩, .error (.io .streamEnded), s)
  | fuel + 1, r, s => do
    let (got, s) := s.read r.want
    match ← receive r got with
    | .more r => runWith fuel r s
    | .done reader result => return (reader, result, s)

def run (step : ReadStep) (s : Stream) : Observed (BlockReader × BlockResult × Stream) :=
  match step with
  | .done reader result => return (reader, result, s)
  | .more r => runWith (s.size + 1) r s

def begin (reader : BlockReader) : ReaderCall → Observed ReadStep
  | .next => return .more reader.next
  | .resync limit => scan reader.window 0 limit

def decodeFound (outside : Nat → BlockError) :
    BlockResult → Observed (Option (Except BlockError (List Octets)))
  | .ok (some block) => return some (← attempt (decode outside block))
  | _ => return none

/-- The answers of a reader over a stream, and what the decoder makes of them. -/
def answers (outside : Nat → BlockError) : List ReaderCall → BlockReader → Stream →
    Observed (List (ReaderAnswer × Option (Except BlockError (List Octets))))
  | [], _, _ => return []
  | call :: calls, reader, s => do
    let (reader', result, left) ← run (← begin reader call) s
    let decoded ← decodeFound outside result
    return (⟨call, reader.window, result, s.spent left⟩, decoded) ::
      (← answers outside calls reader' left)

/-! ### What is read without fail -/

/-- All accesses are safe, and `a` is read. -/
structure Gives (x : Observed α) (a : α) : Prop where
  safe : ∀ access ∈ x.accesses, access.Safe
  result : x.result = .ok a

namespace Gives

variable {x : Observed α} {f : α → Observed β} {a : α} {b : β} {bytes buffer result : Octets}
  {start stop : Nat}

protected lemma pure (a : α) : (pure a : Observed α).Gives a := ⟨List.forall_mem_nil _, rfl⟩

lemma bind (hx : x.Gives a) (hf : (f a).Gives b) : (x >>= f).Gives b := by
  obtain ⟨accesses, found⟩ := x
  obtain ⟨hsafe, rfl⟩ := hx
  exact ⟨List.forall_mem_append.2 ⟨hsafe, hf.safe⟩, hf.result⟩

lemma attempt (h : x.Sound) : (attempt x).Gives x.result := ⟨h.safe, rfl⟩

lemma slice (hle : start ≤ stop) (hstop : stop ≤ bytes.length)
    (hresult : (bytes.drop start).take (stop - start) = result) :
    (slice bytes start stop).Gives result := by
  refine ⟨List.forall_mem_singleton.2 ⟨hle, hstop⟩, ?_⟩
  rw [result_slice, Octets.slice_of_le (by omega), hresult]

lemma copy (hle : start ≤ stop) (hstop : stop ≤ buffer.length) (hlen : bytes.length = stop - start)
    (hresult : buffer.take start ++ bytes ++ buffer.drop stop = result) :
    (copy buffer start stop bytes).Gives result :=
  ⟨List.forall_mem_singleton.2 ⟨hle, hstop, hlen⟩, by rw [← hresult, Observed.copy, if_pos ⟨hle, hstop, hlen⟩]⟩

/-- The places of a buffer from some on. -/
lemma slice_append (front back : Octets) :
    (Observed.slice (front ++ back) front.length (front ++ back).length).Gives back := by
  refine .slice ?_ le_rfl ?_
  · rw [List.length_append]
    exact Nat.le_add_right _ _
  · rw [List.drop_left, List.take_of_length_le]
    rw [List.length_append]
    omega

/-- Bytes are put into a buffer that is filled up to their place. -/
lemma copy_zeros (front : Octets) {n : Nat} (h : bytes.length ≤ n) :
    (Observed.copy (front ++ Octets.zeros n) front.length (front.length + bytes.length) bytes).Gives
      (front ++ bytes ++ Octets.zeros (n - bytes.length)) := by
  refine .copy (Nat.le_add_right _ _) ?_ (Nat.add_sub_cancel_left ..).symm ?_
  · rw [List.length_append, Octets.length_zeros]
    omega
  · simp [Octets.zeros, List.drop_append]

/-- Bytes are put into the last places of a buffer. -/
lemma copy_last {front : Octets} {size : Nat} (h : front.length + bytes.length = size) :
    (Observed.copy (front ++ Octets.zeros bytes.length) front.length size bytes).Gives
      (front ++ bytes) := by
  subst h
  have hcopy := copy_zeros front (Nat.le_refl bytes.length)
  rwa [Nat.sub_self, Octets.zeros_zero, List.append_nil] at hcopy

/-- Bytes are put into the first places of a buffer. -/
lemma copy_first {size stop : Nat} (hlen : bytes.length = stop) (h : stop ≤ size) :
    (Observed.copy (Octets.zeros size) 0 stop bytes).Gives
      (bytes ++ Octets.zeros (size - stop)) := by
  subst hlen
  have hcopy := copy_zeros [] h
  rwa [List.length_nil, Nat.zero_add] at hcopy

lemma word32 (h : bytes.length = 4) : (word32 bytes 0).Gives (Reading.word bytes) := by
  refine ⟨List.forall_mem_singleton.2 ⟨Nat.le_add_right _ _, by omega⟩, ?_⟩
  rw [result_word32, Octets.word32_eq_ok_iff, ← Octets.word32?_eq_some_iff, Reading.word32?_eq h]

end Gives

/-! ### Observing the reader changes nothing -/

/-- A field takes bytes for which it has room. -/
lemma gives_fill {field : Field} {chunk : Octets} (h : chunk.length ≤ field.missing) :
    (fill field chunk).Gives (field.add chunk) := by
  have hstop : field.got.length + chunk.length = (field.got ++ chunk).length := List.length_append.symm
  refine .bind (.copy_zeros _ h) ?_
  rw [hstop]
  refine .bind (.slice_append _ _) ?_
  simp only [Octets.length_zeros, List.take_left]
  rw [Field.add]
  by_cases hlt : chunk.length < field.missing
  · rw [dif_pos hlt, dif_pos (Nat.sub_pos_of_lt hlt)]
    have hreversed : (field.got ++ chunk).reverse = chunk.reverseAux field.reversed := by
      simp [Field.got, List.reverseAux_eq]
    simp only [hreversed]
    exact .pure _
  · have hall : chunk.length = field.missing := Nat.le_antisymm h (Nat.not_lt.1 hlt)
    rw [dif_neg hlt, dif_neg (by omega), List.take_of_length_le h, hall, Nat.sub_self]
    simp only [Octets.zeros_zero, List.append_nil]
    exact .pure _

lemma gives_scan {window : Octets} (h : window.length = 4) (scanned limit : Nat) :
    (scan window scanned limit).Gives (Reading.scan window scanned limit) := by
  refine .bind (.word32 h) ?_
  simp only [Reading.word_eq_signature_iff h]
  rw [Reading.scan]
  split
  · exact .pure _
  · split
    · exact .pure _
    · exact .pure _

lemma gives_afterHeader {window header : Octets} (h : header.length = transferHeaderLen) :
    (afterHeader window header).Gives (Reading.afterHeader window header) := by
  refine .bind (.attempt (sound_transferHeader header)) ?_
  rw [result_transferHeader, Reading.afterHeader]
  cases TransferHeader.parse header with
  | error e => exact .pure _
  | ok parsed =>
    dsimp only
    by_cases hshort : parsed.blockLen.toNat < transferHeaderLen
    · rw [if_pos hshort, if_pos hshort]
      exact .pure _
    rw [if_neg hshort, if_neg hshort]
    refine .bind (.copy_first h (Nat.not_lt.1 hshort)) ?_
    have hleft := Gives.slice_append header (Octets.zeros (parsed.blockLen.toNat - transferHeaderLen))
    rw [h] at hleft
    refine .bind hleft ?_
    simp only [Octets.length_zeros]
    by_cases hlong : transferHeaderLen < parsed.blockLen.toNat
    · rw [dif_pos hlong, dif_pos (Nat.sub_pos_of_lt hlong)]
      exact .pure _
    · have hsame : parsed.blockLen.toNat - transferHeaderLen = 0 := by omega
      rw [dif_neg hlong, dif_neg (by omega), hsame]
      simp only [Octets.zeros_zero, List.append_nil]
      exact .pure _

end Observed

/-! ### Reads whose parts have their lengths -/

/-- The buffer of a signature has four places, and that of a header's rest has eight. -/
def ReadStage.Formed : ReadStage → Prop
  | .signature field => field.got.length + field.missing = 4
  | .scanning _ _ => True
  | .header field => field.got.length + field.missing = 8
  | .body begun _ => begun.length = transferHeaderLen

/-- A reader whose window has four bytes. -/
def BlockReader.Formed (reader : BlockReader) : Prop := reader.window.length = 4

/-- A result that is not that of a checked read which failed. -/
def BlockResult.Inside (result : BlockResult) : Prop :=
  ∀ position len, result ≠ .error (.readOutside position len)

structure Reading.Formed (r : Reading) : Prop where
  window : r.window.length = 4
  stage : r.stage.Formed

/-- A step that leaves a read or a reader whose parts have their lengths. -/
def ReadStep.Formed : ReadStep → Prop
  | .more r => r.Formed
  | .done reader result => reader.Formed ∧ BlockResult.Inside result

lemma BlockResult.Inside.of_ok (found : Option Octets) : BlockResult.Inside (.ok found) := by
  rintro position len ⟨⟩

lemma BlockResult.Inside.of_io (fault : IoFault) : BlockResult.Inside (.error (.io fault)) := by
  rintro position len ⟨⟩

lemma BlockResult.Inside.of_isMalformed {e : BlockError} (h : e.isMalformed = true) :
    BlockResult.Inside (.error e) := by
  rintro position len ⟨⟩
  cases h

namespace Reading

variable {r : Reading} {window header chunk : Octets}

lemma formed_scan (h : window.length = 4) (scanned limit : Nat) : (scan window scanned limit).Formed := by
  rw [scan]
  split
  · exact ⟨rfl, rfl⟩
  · split
    · refine ⟨h, ?_⟩
      rintro position len ⟨⟩
    · exact ⟨h, trivial⟩

lemma formed_afterHeader (hwindow : window.length = 4) (hheader : header.length = transferHeaderLen) :
    (afterHeader window header).Formed := by
  rw [afterHeader]
  split
  case h_1 e he =>
    rw [← Observed.result_transferHeader] at he
    exact ⟨hwindow, .of_isMalformed ((Observed.sound_transferHeader header).malformed e he)⟩
  case h_2 parsed _ =>
    dsimp only
    split
    · exact ⟨hwindow, .of_isMalformed rfl⟩
    · split
      · exact ⟨hwindow, hheader⟩
      · exact ⟨hwindow, .of_ok _⟩

lemma length_signatureOctets_append {rest : Octets} (h : rest.length = 8) :
    (signatureOctets ++ rest).length = transferHeaderLen := by
  rw [List.length_append, h]
  rfl

lemma length_turned (hwindow : window.length = 4) (hne : chunk ≠ []) :
    (window.drop 1 ++ chunk.take 1).length = 4 := by
  have hpos := List.length_pos_iff.2 hne
  rw [List.length_append, List.length_drop, List.length_take]
  omega

/-- No byte that is given makes a read lose track of its lengths. -/
lemma Formed.takeBytes (h : r.Formed) (hne : chunk ≠ []) : (r.takeBytes chunk).Formed := by
  obtain ⟨window, stage⟩ := r
  obtain ⟨hwindow, hstage⟩ := h
  cases stage with
  | signature field =>
    simp only [Reading.takeBytes]
    rcases field.add_cases chunk with ⟨field', hadd, -, hlen⟩ | ⟨hadd, hlen⟩
    · rw [hadd]
      exact ⟨hwindow, hlen.trans hstage⟩
    · rw [hadd]
      simp only
      split
      · exact ⟨hwindow, rfl⟩
      · exact ⟨hlen.trans hstage, .of_isMalformed rfl⟩
  | scanning scanned limit => exact formed_scan (length_turned hwindow hne) _ _
  | header field =>
    simp only [Reading.takeBytes]
    rcases field.add_cases chunk with ⟨field', hadd, -, hlen⟩ | ⟨hadd, hlen⟩
    · rw [hadd]
      exact ⟨hwindow, hlen.trans hstage⟩
    · rw [hadd]
      exact formed_afterHeader hwindow (length_signatureOctets_append (hlen.trans hstage))
  | body header field =>
    simp only [Reading.takeBytes]
    rcases field.add_cases chunk with ⟨field', hadd, -⟩ | ⟨hadd, -⟩
    · rw [hadd]
      exact ⟨hwindow, hstage⟩
    · rw [hadd]
      exact ⟨hwindow, .of_ok _⟩

lemma Formed.receive (h : r.Formed) (got : IoResult Octets) : (r.receive got).Formed := by
  unfold Reading.receive
  split
  case h_1 fault =>
    split
    · exact h
    · exact ⟨h.window, .of_io fault⟩
  case h_2 =>
    refine ⟨h.window, ?_⟩
    rcases r.atEnd_eq with hend | hend
    · exact hend ▸ .of_ok none
    · exact hend ▸ .of_io .streamEnded
  case h_3 chunk hne => exact h.takeBytes hne

end Reading

/-! ### Runs over a stream -/

/-- What the decoder makes of an answer, if that is a block. -/
def ReaderAnswer.decoded (answer : ReaderAnswer) : Option (Except BlockError (List Octets)) :=
  match answer.result with
  | .ok (some block) => some (decode block)
  | _ => none

namespace Stream

variable {s : Stream} {r : Reading}

/-- A stream gives no more bytes than are asked for. -/
lemma length_of_read {n : Nat} {chunk : Octets} {s' : Stream} (h : s.read n = (.ok chunk, s')) :
    chunk.length ≤ n := by
  have hshare := s.share_le n
  obtain ⟨items, m⟩ := s
  match items with
  | [] =>
    cases h
    exact Nat.zero_le n
  | .error fault :: rest => cases h
  | .ok bytes :: rest =>
    rcases Nat.lt_or_ge (share ⟨.ok bytes :: rest, m⟩ n) bytes.length with hlt | hge
    · rw [read_ok_of_lt hlt] at h
      cases h
      exact (List.length_take_le _ _).trans hshare
    · rw [read_ok_of_le hge] at h
      cases h
      exact hge.trans hshare

lemma formed_runWith (fuel : Nat) (h : r.Formed) (s : Stream) :
    (runWith fuel r s).1.Formed ∧ BlockResult.Inside (runWith fuel r s).2.1 := by
  induction fuel generalizing r s with
  | zero => exact ⟨h.window, .of_io .streamEnded⟩
  | succ fuel ih =>
    rcases hread : s.read r.want with ⟨got, left⟩
    have hstep := h.receive got
    simp only [runWith, hread]
    cases hgot : r.receive got with
    | more r' =>
      rw [hgot] at hstep
      exact ih hstep left
    | done reader result =>
      rw [hgot] at hstep
      exact hstep

lemma formed_run {step : ReadStep} (h : step.Formed) (s : Stream) :
    (s.run step).1.Formed ∧ BlockResult.Inside (s.run step).2.1 := by
  cases step with
  | more r => exact formed_runWith _ h s
  | done reader result => exact h

lemma formed_begin {reader : BlockReader} (h : reader.Formed) (call : ReaderCall) :
    (reader.begin call).Formed := by
  cases call with
  | next => exact ⟨h, rfl⟩
  | resync limit => exact Reading.formed_scan h 0 limit

lemma inside_answers (calls : List ReaderCall) {reader : BlockReader} (h : reader.Formed) (s : Stream) :
    ∀ answer ∈ s.answers calls reader, BlockResult.Inside answer.result := by
  induction calls generalizing reader s with
  | nil => exact List.forall_mem_nil _
  | cons call calls ih =>
    obtain ⟨hreader, hresult⟩ := formed_run (formed_begin h call) s
    rw [answers]
    exact List.forall_mem_cons.2 ⟨hresult, ih hreader _⟩

end Stream

namespace Observed

variable {r : Reading} {chunk : Octets}

/-- A read that is given no more bytes than it wants does with them what it would do unobserved. -/
lemma gives_takeBytes (h : r.Formed) (hne : chunk ≠ []) (hwant : chunk.length ≤ r.want) :
    (takeBytes r chunk).Gives (r.takeBytes chunk) := by
  obtain ⟨window, stage⟩ := r
  obtain ⟨hwindow, hstage⟩ := h
  cases stage with
  | signature field =>
    refine .bind (gives_fill hwant) ?_
    simp only [Reading.takeBytes]
    rcases field.add_cases chunk with ⟨field', hadd, -⟩ | ⟨hadd, hlen⟩
    · rw [hadd]
      exact .pure _
    · rw [hadd]
      have hfour := hlen.trans hstage
      refine .bind (.word32 hfour) ?_
      simp only [Reading.word_eq_signature_iff hfour]
      split
      · exact .pure _
      · exact .pure _
  | scanning scanned limit =>
    have hone : chunk.length = 1 := Nat.le_antisymm hwant (List.length_pos_iff.2 hne)
    have hfour : window.length = 4 := hwindow
    refine .bind (.copy_first rfl hwant) ?_
    rw [hone, Nat.sub_self, Octets.zeros_zero, List.append_nil]
    have hothers : (window.drop 1).length = 3 := by
      rw [List.length_drop, hfour]
    have hturned : (window.drop 1 ++ window.take 1).length = 4 := by
      rw [List.length_append, hothers, List.length_take, hfour]
      rfl
    refine .bind (.slice (Nat.zero_le _) hone.ge rfl) ?_
    refine .bind (.slice (Nat.zero_le _) (hfour ▸ by decide) rfl) ?_
    refine .bind (.slice (by decide) hfour.ge (List.take_of_length_le hothers.le)) ?_
    refine .bind (.copy (by decide) hturned.ge ?_ ?_)
      (gives_scan (Reading.length_turned hwindow hne) (scanned + 1) limit)
    · rw [List.length_take, List.drop_zero, hone]
      rfl
    · change (window.drop 1 ++ window.take 1).take 3 ++ chunk.take 1 ++
          (window.drop 1 ++ window.take 1).drop 4 = window.drop 1 ++ chunk.take 1
      rw [List.take_left' hothers, List.drop_eq_nil_of_le hturned.le, List.append_nil]
  | header field =>
    refine .bind (gives_fill hwant) ?_
    simp only [Reading.takeBytes]
    rcases field.add_cases chunk with ⟨field', hadd, -⟩ | ⟨hadd, hlen⟩
    · rw [hadd]
      exact .pure _
    · rw [hadd]
      have hrest := hlen.trans hstage
      have hlength := Reading.length_signatureOctets_append hrest
      have hcopy := Gives.copy_last (List.length_append.symm.trans hlength)
      rw [hrest] at hcopy
      exact .bind (.copy_first rfl (by decide)) (.bind hcopy (gives_afterHeader hlength))
  | body header field =>
    refine .bind (gives_fill hwant) ?_
    simp only [Reading.takeBytes]
    rcases field.add_cases chunk with ⟨field', hadd, -⟩ | ⟨hadd, hlen⟩
    · rw [hadd]
      exact .pure _
    · rw [hadd]
      have hheader : header.length = transferHeaderLen := hstage
      have hcopy := Gives.copy_last (show header.length + (field.got ++ chunk.take field.missing).length =
        transferHeaderLen + (field.got.length + field.missing) by rw [hheader, hlen])
      rw [hheader, hlen] at hcopy
      refine .bind (.copy_first hheader (Nat.le_add_right _ _)) (.bind ?_ (.pure _))
      rwa [Nat.add_sub_cancel_left]

lemma gives_receive (h : r.Formed) {s s' : Stream} {got : IoResult Octets} (hread : s.read r.want = (got, s')) :
    (receive r got).Gives (r.receive got) := by
  unfold receive
  split
  case h_1 b chunk => exact gives_takeBytes h (List.cons_ne_nil b chunk) (Stream.length_of_read hread)
  case h_2 => exact .pure _

lemma gives_runWith (fuel : Nat) (h : r.Formed) (s : Stream) :
    (runWith fuel r s).Gives (Stream.runWith fuel r s) := by
  induction fuel generalizing r s with
  | zero => exact .pure _
  | succ fuel ih =>
    rcases hread : s.read r.want with ⟨got, left⟩
    have hstep := h.receive got
    simp only [runWith, Stream.runWith, hread]
    refine .bind (gives_receive h hread) ?_
    cases hgot : r.receive got with
    | more r' =>
      rw [hgot] at hstep
      exact ih hstep left
    | done reader result => exact .pure _

lemma gives_run {step : ReadStep} (h : step.Formed) (s : Stream) : (run step s).Gives (s.run step) := by
  cases step with
  | more r => exact gives_runWith _ h s
  | done reader result => exact .pure _

lemma gives_begin {reader : BlockReader} (h : reader.Formed) (call : ReaderCall) :
    (begin reader call).Gives (reader.begin call) := by
  cases call with
  | next => exact .pure _
  | resync limit => exact gives_scan h 0 limit

lemma gives_decodeFound (outside : Nat → BlockError) (answer : ReaderAnswer) :
    (decodeFound outside answer.result).Gives answer.decoded := by
  unfold decodeFound ReaderAnswer.decoded
  split
  case h_1 block _ =>
    have hdecode := Gives.attempt (sound_decode outside block)
    rw [result_decode] at hdecode
    exact .bind hdecode (.pure _)
  case h_2 => exact .pure _

/-- However often a reader is called, its answers are those that it gives unobserved. -/
lemma gives_answers (outside : Nat → BlockError) (calls : List ReaderCall) {reader : BlockReader}
    (h : reader.Formed) (s : Stream) : (answers outside calls reader s).Gives
      ((s.answers calls reader).map fun answer => (answer, answer.decoded)) := by
  induction calls generalizing reader s with
  | nil => exact .pure _
  | cons call calls ih =>
    have hbegin := Stream.formed_begin h call
    have hnext := (Stream.formed_run hbegin s).1
    have hrun := gives_run hbegin s
    rw [answers, Stream.answers, List.map_cons]
    generalize s.run (reader.begin call) = ran at hrun hnext ⊢
    obtain ⟨reader', result, left⟩ := ran
    refine .bind (gives_begin h call) (.bind hrun ?_)
    refine .bind (gives_decodeFound outside ⟨call, reader.window, result, s.spent left⟩) ?_
    exact .bind (ih hnext left) (.pure _)

end Observed

/-- Whatever the bytes are, the decoder and the reader use only bytes that are there, form no sum that is too
large, and never give the answer of a checked read that fails. A block that is refused is malformed, and
what would be answered about a table header outside the block does not matter. -/
theorem receiving_stays_within_bounds :
    (∀ outside bytes, (Observed.decode outside bytes).result = decode bytes ∧
      ∀ a ∈ (Observed.decode outside bytes).accesses, a.Safe) ∧
    (∀ bytes e, decode bytes = .error e → e.isMalformed = true) ∧
    ∀ (s : Stream) (calls : List ReaderCall),
      (∀ outside, (Observed.answers outside calls {} s).result =
          .ok ((s.answers calls {}).map fun answer => (answer, answer.decoded)) ∧
        ∀ a ∈ (Observed.answers outside calls {} s).accesses, a.Safe) ∧
      ∀ answer ∈ s.answers calls {}, BlockResult.Inside answer.result := by
  refine ⟨?_, ?_, ?_⟩
  · intro outside bytes
    exact ⟨Observed.result_decode outside bytes, (Observed.sound_decode outside bytes).safe⟩
  · intro bytes e he
    rw [← Observed.result_decode fun offset => .readOutside offset tableHeaderLen] at he
    exact (Observed.sound_decode _ bytes).malformed e he
  · intro s calls
    have hformed : BlockReader.Formed {} := rfl
    refine ⟨fun outside => ?_, Stream.inside_answers calls hformed s⟩
    obtain ⟨hsafe, hresult⟩ := Observed.gives_answers outside calls hformed s
    exact ⟨hresult, hsafe⟩

end NcmBridge
