import NcmBridge.Proofs.Block.Acceptance
import NcmBridge.Proofs.Block.Chunking

/-!
# Where blocks stand in the stream

The block that a call returns is the end of what the stream has given so far. The one exception is the
search: it begins with the bytes of its window, and these need not be the last ones that were taken. They
are as long as every read that took bytes past a window filled it anew; otherwise the window is behind, and
the search may put a signature together from bytes that do not stand side by side in the stream.
-/

namespace NcmBridge

/-! ### Answers -/

namespace ReaderAnswer

/-- Whether other bytes stood where a signature should. -/
def refused (a : ReaderAnswer) : Bool :=
  match a.result with
  | .error (.invalidSignature _) => true
  | _ => false

/-- The bytes that were taken for answers, one after another. -/
def passed (answers : List ReaderAnswer) : Octets := answers.flatMap (·.taken)

/-- The bytes taken since the last block, after one more answer. -/
def sinceBlock (since : Octets) (a : ReaderAnswer) : Octets :=
  match a.result with
  | .ok (some _) => []
  | _ => since ++ a.taken

/-- Whether the window is behind after one more answer: bytes were taken past it, and it was neither filled
anew nor cleared. -/
def fallsBehind (behind : Bool) (a : ReaderAnswer) : Bool :=
  a.window ≠ Octets.zeros 4 && !a.refused && (behind || (a.call == .next && a.taken ≠ []))

variable {a : ReaderAnswer}

@[simp] lemma passed_nil : passed [] = [] := rfl

@[simp] lemma passed_cons (a : ReaderAnswer) (answers : List ReaderAnswer) :
    passed (a :: answers) = a.taken ++ passed answers := List.flatMap_cons

@[simp] lemma passed_append (answers later : List ReaderAnswer) :
    passed (answers ++ later) = passed answers ++ passed later := List.flatMap_append

lemma refused_iff : a.refused = true ↔ ∃ found, a.result = .error (.invalidSignature found) := by
  rw [refused]
  split
  case h_1 found hresult => exact ⟨fun _ => ⟨found, hresult⟩, fun _ => rfl⟩
  case h_2 hother => exact ⟨nofun, fun ⟨found, hresult⟩ => absurd hresult (hother found)⟩

lemma sinceBlock_of_block {block : Octets} (h : a.result = .ok (some block)) (since : Octets) :
    a.sinceBlock since = [] := by
  rw [ReaderAnswer.sinceBlock, h]

lemma sinceBlock_of_ne_block (h : ∀ block, a.result ≠ .ok (some block)) (since : Octets) :
    a.sinceBlock since = since ++ a.taken := by
  rw [ReaderAnswer.sinceBlock]
  split
  case h_1 block hresult => exact absurd hresult (h block)
  case h_2 => rfl

lemma sinceBlock_suffix (a : ReaderAnswer) (since : Octets) : a.sinceBlock since <:+ since ++ a.taken := by
  by_cases h : ∃ block, a.result = .ok (some block)
  · obtain ⟨block, hresult⟩ := h
    rw [a.sinceBlock_of_block hresult]
    exact List.nil_suffix
  · rw [a.sinceBlock_of_ne_block fun block hresult => h ⟨block, hresult⟩]

/-- The bytes since the last block are the last ones that were taken. -/
lemma foldl_sinceBlock_suffix (answers : List ReaderAnswer) (since : Octets) :
    answers.foldl sinceBlock since <:+ since ++ passed answers := by
  induction answers generalizing since with
  | nil => rw [passed_nil, List.append_nil, List.foldl_nil]
  | cons a answers ih =>
    rw [List.foldl_cons, passed_cons, ← List.append_assoc]
    exact (ih _).trans (List.suffix_append_self_iff.2 (a.sinceBlock_suffix since))

lemma fallsBehind_eq_false_iff {behind : Bool} :
    a.fallsBehind behind = false ↔ a.window = Octets.zeros 4 ∨ a.refused = true ∨
      behind = false ∧ (a.call = .next → a.taken = []) := by
  simp only [ReaderAnswer.fallsBehind, ne_eq, Bool.and_eq_false_iff, Bool.or_eq_false_iff,
    decide_eq_false_iff_not, not_not, Bool.not_eq_false', or_assoc, beq_eq_false_iff_ne]
  rw [imp_iff_not_or]

end ReaderAnswer

/-! ### Windows -/

/-- The window holds the last of the bytes taken since the last block, after zeros. -/
def Fits (window since : Octets) : Prop :=
  ∃ n kept, window = Octets.zeros n ++ kept ∧ kept <:+ since

/-- What remains at the end of zeros and bytes is zeros and the last of the bytes. -/
lemma Fits.of_suffix {window since : Octets} {n : Nat} (h : window <:+ Octets.zeros n ++ since) :
    Fits window since := by
  induction n with
  | zero => exact ⟨0, window, rfl, h⟩
  | succ n ih =>
    rw [Octets.zeros, List.replicate_succ, List.cons_append, List.suffix_cons_iff] at h
    rcases h with h | h
    · exact ⟨n + 1, since, h, List.suffix_rfl⟩
    · exact ih h

lemma Fits.zeros (n : Nat) (since : Octets) : Fits (Octets.zeros n) since :=
  ⟨n, [], (List.append_nil _).symm, List.nil_suffix⟩

/-- A window that fits still does when bytes have moved into it. -/
lemma Fits.slide {window slid since taken : Octets} (h : Fits window since)
    (hends : slid <:+ window ++ taken) : Fits slid (since ++ taken) := by
  obtain ⟨n, kept, rfl, hkept⟩ := h
  rw [List.append_assoc] at hends
  obtain ⟨n', kept', rfl, hkept'⟩ := Fits.of_suffix hends
  exact ⟨n', kept', rfl, hkept'.trans (List.suffix_append_self_iff.2 hkept)⟩

/-- A block that stands at the end of a window and further bytes stands in the stream, since it does not
begin with a zero. -/
lemma Fits.suffix_of_framed {window since taken block : Octets} (h : Fits window since)
    (hblock : Framed block) (hends : block <:+ window ++ taken) : block <:+ since ++ taken := by
  obtain ⟨n, kept, rfl, hkept⟩ := h
  obtain ⟨header, ⟨body, rfl⟩, -⟩ := hblock
  refine List.IsSuffix.trans ?_ (List.suffix_append_self_iff.2 hkept)
  rw [List.append_assoc] at hends
  induction n with
  | zero => exact hends
  | succ n ih =>
    rw [Octets.zeros, List.replicate_succ, List.cons_append, List.suffix_cons_iff] at hends
    rcases hends with h | h
    · have hhead := congrArg List.head? h
      simp [TransferHeader.encode, Octets.ofWord32, transferSignature] at hhead
    · exact ih h

/-- A block passes the checks of its header, so its tables decide. -/
lemma Framed.decode_eq {block : Octets} (h : Framed block) : ∃ header : TransferHeader,
    header.encode <+: block ∧ header.blockLen.toNat = block.length ∧
      decode block = Decode.tables block block.length (block.length / 8) header.tableIndex.toNat := by
  have hlen := h.twelve_le
  obtain ⟨header, hopens, hdeclares⟩ := h
  have hdecode := decode_of_opens hopens (hdeclares ▸ hlen) hdeclares.le
  rw [hdeclares, List.take_length] at hdecode
  exact ⟨header, hopens, hdeclares, hdecode⟩

/-! ### One call -/

namespace ReaderCall

/-- The bytes of earlier calls in which a call may find the beginning of a signature. -/
def lead (window : Octets) : ReaderCall → Octets
  | .next => []
  | .resync _ => window

/-- The window that is left when a call has found a signature. -/
def settled (window : Octets) : ReaderCall → Octets
  | .next => window
  | .resync _ => Octets.zeros 4

lemma lead_suffix (call : ReaderCall) (window : Octets) : call.lead window <:+ window := by
  cases call with
  | next => exact List.nil_suffix
  | resync limit => exact List.suffix_rfl

lemma lead_of_ne_next {call : ReaderCall} (h : call ≠ .next) (window : Octets) :
    call.lead window = window := by
  cases call with
  | next => exact absurd rfl h
  | resync limit => rfl

lemma settled_of_ne_next {call : ReaderCall} (h : call ≠ .next) (window : Octets) :
    call.settled window = Octets.zeros 4 := by
  cases call with
  | next => exact absurd rfl h
  | resync limit => rfl

end ReaderCall

/-- The window that is left fits if a read that leaves it as it was may do so. -/
lemma Fits.settled {call : ReaderCall} {window since : Octets} (h : call = .next → Fits window since) :
    Fits (call.settled window) since := by
  cases call with
  | next => exact h rfl
  | resync limit => exact .zeros 4 since

/-- What a call that began with `window` has done when it has taken `taken`. -/
structure Finished (call : ReaderCall) (window taken : Octets) (reader : BlockReader)
    (result : BlockResult) : Prop where
  block : ∀ block, result = .ok (some block) → reader.window = call.settled window ∧
    Framed block ∧ block <:+ call.lead window ++ taken ∧ block.drop 4 <:+ taken
  refused : ∀ found, result = .error (.invalidSignature found) → reader.window = taken
  window : reader.window = call.settled window ∨ (∃ found, result = .error (.invalidSignature found)) ∨
    call ≠ .next ∧ reader.window <:+ call.lead window ++ taken

/-- What a read that began with `window` holds of the bytes it has taken. -/
inductive Reading.Holds (call : ReaderCall) (window : Octets) : Octets → Reading → Prop
  | signature {f : Field} : call = .next → f.got.length + f.missing = 4 →
      Holds call window f.got ⟨window, .signature f⟩
  | scanning {slid taken : Octets} {scanned limit : Nat} : call ≠ .next →
      slid <:+ call.lead window ++ taken →
      Holds call window taken ⟨slid, .scanning scanned limit⟩
  | header {skipped : Octets} {f : Field} :
      Reading.signatureOctets <:+ call.lead window ++ skipped → f.got.length + f.missing = 8 →
      Holds call window (skipped ++ f.got) ⟨call.settled window, .header f⟩
  | body {skipped fields : Octets} {f : Field} {parsed : TransferHeader} :
      Reading.signatureOctets <:+ call.lead window ++ skipped → fields.length = 8 →
      TransferHeader.parse (Reading.signatureOctets ++ fields) = .ok parsed →
      parsed.blockLen.toNat = 12 + f.got.length + f.missing →
      Holds call window (skipped ++ fields ++ f.got)
        ⟨call.settled window, .body (Reading.signatureOctets ++ fields) f⟩

/-- What a step of a read has done or holds when it has taken `taken`. -/
def ReadStep.Holds (call : ReaderCall) (window taken : Octets) : ReadStep → Prop
  | .more r => r.Holds call window taken
  | .done reader result => Finished call window taken reader result

/-! ### One byte -/

/-- A field that is given one byte waits for fewer, or is complete. -/
lemma Field.add_byte (f : Field) (b : UInt8) :
    (∃ f', f.add [b] = .inl f' ∧ f'.got = f.got ++ [b] ∧
        f'.got.length + f'.missing = f.got.length + f.missing) ∨
      f.add [b] = .inr (f.got ++ [b]) ∧ (f.got ++ [b]).length = f.got.length + f.missing := by
  have hone : [b].take f.missing = [b] := List.take_of_length_le f.missing_pos
  simpa only [hone] using f.add_cases [b]

section

variable {call : ReaderCall} {window taken skipped fields : Octets}

/-- A call that ends without a block and without having met other bytes leaves what it holds. -/
lemma Reading.Holds.finished {r : Reading} (h : r.Holds call window taken) {result : BlockResult}
    (hblock : ∀ block, result ≠ .ok (some block))
    (hrefused : ∀ found, result ≠ .error (.invalidSignature found)) :
    Finished call window taken ⟨r.window⟩ result := by
  refine ⟨fun block hresult => absurd hresult (hblock block),
    fun found hresult => absurd hresult (hrefused found), ?_⟩
  cases h with
  | signature hnext hfield =>
    subst hnext
    exact .inl rfl
  | scanning hsearch hends => exact .inr (.inr ⟨hsearch, hends⟩)
  | header hfound hfield => exact .inl rfl
  | body hfound hfields hparse hfield => exact .inl rfl

/-- The end of the stream is no block, and refuses nothing. -/
lemma Reading.atEnd_eq (r : Reading) : r.atEnd = .ok none ∨ r.atEnd = .error (.io .streamEnded) := by
  obtain ⟨window, stage⟩ := r
  cases stage with
  | signature f => exact (em (f.reversed = [])).imp (if_pos ·) (if_neg ·)
  | scanning scanned limit => exact .inl rfl
  | header f => exact .inr rfl
  | body header f => exact .inr rfl

lemma Reading.Holds.finished_atEnd {r : Reading} (h : r.Holds call window taken) :
    Finished call window taken ⟨r.window⟩ r.atEnd := by
  rcases r.atEnd_eq with hend | hend
  · exact hend ▸ h.finished nofun nofun
  · exact hend ▸ h.finished nofun nofun

/-- A call that has taken a block after its signature ends with it. -/
lemma Finished.of_block {tail : Octets}
    (hfound : Reading.signatureOctets <:+ call.lead window ++ skipped)
    (hblock : Framed (Reading.signatureOctets ++ tail)) :
    Finished call window (skipped ++ tail) ⟨call.settled window⟩
      (.ok (some (Reading.signatureOctets ++ tail))) := by
  refine ⟨?_, ?_, .inl rfl⟩
  · intro block hresult
    cases hresult
    refine ⟨rfl, hblock, ?_, List.suffix_append _ _⟩
    rw [← List.append_assoc]
    exact List.suffix_append_self_iff.2 hfound
  · intro found hresult
    cases hresult

/-- A call that meets an error after the signature leaves the window that it has then. -/
lemma Finished.of_error {e : BlockError} (he : ∀ found, e ≠ .invalidSignature found) :
    Finished call window taken ⟨call.settled window⟩ (.error e) := by
  refine ⟨?_, ?_, .inl rfl⟩
  · intro block hresult
    cases hresult
  · intro found hresult
    exact absurd (Except.error.inj hresult) (he found)

/-- A call that meets other bytes where a signature should be keeps them. -/
lemma Finished.of_refused (found : Octets) (word : UInt32) :
    Finished call window found ⟨found⟩ (.error (.invalidSignature word)) := by
  refine ⟨?_, fun _ _ => rfl, .inr (.inl ⟨word, rfl⟩)⟩
  intro block hresult
  cases hresult

/-- After a signature the header is read. -/
lemma Reading.Holds.header_start (hfound : Reading.signatureOctets <:+ call.lead window ++ skipped) :
    Holds call window skipped ⟨call.settled window, .header Field.headerRest⟩ := by
  have hnone : skipped ++ Field.headerRest.got = skipped := List.append_nil skipped
  exact hnone ▸ .header hfound rfl

/-- The search goes on from a window whose bytes are the last that came. -/
lemma ReadStep.holds_scan {slid : Octets} (hsearch : call ≠ .next)
    (hends : slid <:+ call.lead window ++ taken) (scanned limit : Nat) :
    (Reading.scan slid scanned limit).Holds call window taken := by
  rw [Reading.scan]
  split
  case isTrue hfound =>
    exact ReaderCall.settled_of_ne_next hsearch window ▸ Reading.Holds.header_start (hfound ▸ hends)
  case isFalse =>
    have hscanning : Reading.Holds call window taken ⟨slid, .scanning scanned limit⟩ :=
      .scanning hsearch hends
    split
    · exact hscanning.finished nofun nofun
    · exact hscanning

/-- A complete header is refused for something other than its signature, or begins a block. -/
lemma ReadStep.holds_afterHeader (hfound : Reading.signatureOctets <:+ call.lead window ++ skipped)
    (hfields : fields.length = 8) :
    (Reading.afterHeader (call.settled window) (Reading.signatureOctets ++ fields)).Holds call window
      (skipped ++ fields) := by
  rw [Reading.afterHeader]
  cases hparse : TransferHeader.parse (Reading.signatureOctets ++ fields) with
  | error e =>
    refine .of_error fun found he => ?_
    rw [he] at hparse
    exact TransferHeader.parse_ne_invalidSignature (List.prefix_append _ _) found hparse
  | ok parsed =>
    have hopens : parsed.encode <+: Reading.signatureOctets ++ fields :=
      TransferHeader.parse_eq_ok_iff.1 hparse
    have hlength : (Reading.signatureOctets ++ fields).length = 12 := by
      rw [List.length_append, hfields]
      rfl
    simp only
    split
    case isTrue => exact .of_error (by simp)
    case isFalse hmin =>
      have hle : 12 ≤ parsed.blockLen.toNat := Nat.le_of_not_lt hmin
      split
      case isTrue hlt =>
        have hbody := Reading.Holds.body (f := ⟨[], _, Nat.sub_pos_of_lt hlt⟩) hfound hfields hparse
          (Nat.add_sub_cancel' hle).symm
        have hnone : skipped ++ fields ++ [] = skipped ++ fields := List.append_nil _
        exact hnone ▸ hbody
      case isFalse hge =>
        have hdeclares : parsed.blockLen.toNat = 12 := Nat.le_antisymm (Nat.le_of_not_lt hge) hle
        exact .of_block hfound ⟨parsed, hopens, hdeclares.trans hlength.symm⟩

/-- One byte carries what a read holds on. -/
lemma Reading.Holds.takeBytes {r : Reading} (h : r.Holds call window taken) (b : UInt8) :
    (r.takeBytes [b]).Holds call window (taken ++ [b]) := by
  cases h with
  | @signature f hnext hfield =>
    subst hnext
    simp only [Reading.takeBytes]
    rcases f.add_byte b with ⟨f', hadd, hgot, hlen⟩ | ⟨hadd, hlen⟩
    · rw [hadd, ← hgot]
      exact Reading.Holds.signature rfl (hlen.trans hfield)
    · rw [hadd]
      simp only
      split
      case isTrue hfound =>
        have hlead : Reading.signatureOctets <:+ ReaderCall.next.lead window ++ (f.got ++ [b]) :=
          hfound ▸ List.suffix_rfl
        exact Reading.Holds.header_start hlead
      case isFalse => exact .of_refused _ _
  | @scanning slid _ scanned limit hsearch hends =>
    refine ReadStep.holds_scan hsearch ?_ _ _
    rw [← List.append_assoc]
    exact List.suffix_append_self_iff.2 ((List.drop_suffix 1 slid).trans hends)
  | @header skipped f hfound hfield =>
    simp only [Reading.takeBytes]
    rcases f.add_byte b with ⟨f', hadd, hgot, hlen⟩ | ⟨hadd, hlen⟩
    · rw [hadd, List.append_assoc, ← hgot]
      exact Reading.Holds.header hfound (hlen.trans hfield)
    · rw [hadd, List.append_assoc]
      exact ReadStep.holds_afterHeader hfound (hlen.trans hfield)
  | @body skipped fields f parsed hfound hfields hparse hfield =>
    simp only [Reading.takeBytes]
    rcases f.add_byte b with ⟨f', hadd, hgot, hlen⟩ | ⟨hadd, hlen⟩
    · rw [hadd, List.append_assoc, ← hgot]
      exact Reading.Holds.body hfound hfields hparse (by omega)
    · rw [hadd]
      simp only [List.append_assoc]
      refine .of_block hfound ⟨parsed, ?_, ?_⟩
      · rw [← List.append_assoc]
        exact (TransferHeader.parse_eq_ok_iff.1 hparse).trans (List.prefix_append _ _)
      · have hsig : Reading.signatureOctets.length = 4 := rfl
        rw [List.length_append, List.length_append, hlen, hsig]
        omega

/-- What a read holds is what it has done in the end. -/
lemma Reading.Holds.over {r : Reading} (h : r.Holds call window taken) (ins : List Incoming) :
    ∃ used reader result rest, ins = used ++ rest ∧ r.over ins = (reader, result, rest) ∧
      Finished call window (taken ++ Incoming.bytes used) reader result := by
  induction ins generalizing r taken with
  | nil =>
    refine ⟨[], _, _, [], rfl, rfl, ?_⟩
    rw [Incoming.bytes_nil, List.append_nil]
    exact h.finished_atEnd
  | cons item ins ih =>
    cases item with
    | pause =>
      refine ⟨[.pause], _, _, ins, rfl, rfl, ?_⟩
      rw [Incoming.bytes_cons_pause, Incoming.bytes_nil, List.append_nil]
      exact h.finished_atEnd
    | fault f =>
      refine ⟨[.fault f], _, _, ins, rfl, rfl, ?_⟩
      rw [Incoming.bytes_cons_fault, Incoming.bytes_nil, List.append_nil]
      exact h.finished nofun nofun
    | byte b =>
      have hstep := h.takeBytes b
      rw [over_cons_byte]
      cases htakes : r.takeBytes [b] with
      | done reader result =>
        rw [htakes] at hstep
        exact ⟨[.byte b], reader, result, ins, rfl, rfl, hstep⟩
      | more r' =>
        rw [htakes] at hstep
        obtain ⟨used, reader, result, rest, rfl, hover, hfinished⟩ := ih hstep
        refine ⟨.byte b :: used, reader, result, rest, rfl, hover, ?_⟩
        rw [Incoming.bytes_cons_byte, List.append_cons]
        exact hfinished

end

/-- What a call does over what comes in. -/
lemma BlockReader.begin_over (r : BlockReader) (call : ReaderCall) (ins : List Incoming) :
    ∃ used reader result rest, ins = used ++ rest ∧ (r.begin call).over ins = (reader, result, rest) ∧
      Finished call r.window (Incoming.bytes used) reader result := by
  have hbegin : (r.begin call).Holds call r.window [] := by
    cases call with
    | next => exact Reading.Holds.signature (f := Field.signature) rfl rfl
    | resync limit =>
      have hends : r.window <:+ (ReaderCall.resync limit).lead r.window ++ [] := by
        rw [List.append_nil]
        exact List.suffix_rfl
      have hsearch : ReaderCall.resync limit ≠ .next := nofun
      exact ReadStep.holds_scan hsearch hends 0 limit
  cases hstep : r.begin call with
  | done reader result =>
    rw [hstep] at hbegin
    exact ⟨[], reader, result, ins, rfl, rfl, hbegin⟩
  | more reading =>
    rw [hstep] at hbegin
    exact hbegin.over ins

/-! ### Calls one after another -/

/-- A window that fits before a call fits after it, unless it is behind then. -/
lemma Finished.fits {a : ReaderAnswer} {reader : BlockReader} {since : Octets} {behind : Bool}
    (h : Finished a.call a.window a.taken reader a.result) (hfits : behind = false → Fits a.window since)
    (hbehind : a.fallsBehind behind = false) : Fits reader.window (a.sinceBlock since) := by
  by_cases hrefused : a.refused = true
  · obtain ⟨found, hresult⟩ := ReaderAnswer.refused_iff.1 hrefused
    rw [a.sinceBlock_of_ne_block (by simp [hresult]), h.refused found hresult]
    exact ⟨0, a.taken, rfl, List.suffix_append _ _⟩
  have hpast : a.window = Octets.zeros 4 ∨ behind = false ∧ (a.call = .next → a.taken = []) :=
    (ReaderAnswer.fallsBehind_eq_false_iff.1 hbehind).imp_right fun h => h.resolve_left hrefused
  have hwindow : Fits a.window since := by
    rcases hpast with hzeros | ⟨hbefore, -⟩
    · exact hzeros ▸ .zeros 4 since
    · exact hfits hbefore
  by_cases hblock : ∃ block, a.result = .ok (some block)
  · obtain ⟨block, hresult⟩ := hblock
    obtain ⟨hsettled, hframed, hends, -⟩ := h.block block hresult
    rw [a.sinceBlock_of_block hresult, hsettled]
    refine .settled fun hnext => ?_
    rcases hpast with hzeros | ⟨-, hnone⟩
    · exact hzeros ▸ .zeros 4 []
    · -- a block is not made of no bytes
      rw [hnext, hnone hnext] at hends
      have hlen := hframed.twelve_le
      rw [List.suffix_nil.1 hends] at hlen
      exact absurd hlen (by decide)
  · rw [a.sinceBlock_of_ne_block fun block hresult => hblock ⟨block, hresult⟩]
    rcases h.window with hsettled | ⟨found, hresult⟩ | ⟨hsearch, hends⟩
    · rw [hsettled]
      refine .settled fun hnext => ?_
      rcases hpast with hzeros | ⟨-, hnone⟩
      · exact hzeros ▸ .zeros 4 _
      · rw [hnone hnext, List.append_nil]
        exact hwindow
    · exact absurd (ReaderAnswer.refused_iff.2 ⟨found, hresult⟩) hrefused
    · rw [ReaderCall.lead_of_ne_next hsearch] at hends
      exact hwindow.slide hends

/-- What the reader and what comes in are like after some of the answers. -/
lemma Incoming.answers_split {calls : List ReaderCall} {reader : BlockReader} {ins : List Incoming}
    {earlier later : List ReaderAnswer} (since : Octets) (behind : Bool)
    (h : answers calls reader ins = earlier ++ later)
    (hfits : behind = false → Fits reader.window since) :
    ∃ calls' reader' ins', later = answers calls' reader' ins' ∧
      bytes ins = ReaderAnswer.passed earlier ++ bytes ins' ∧
      (earlier.foldl ReaderAnswer.fallsBehind behind = false →
        Fits reader'.window (earlier.foldl ReaderAnswer.sinceBlock since)) := by
  induction earlier generalizing calls reader ins since behind with
  | nil => exact ⟨calls, reader, ins, h.symm, rfl, hfits⟩
  | cons a earlier ih =>
    cases calls with
    | nil => cases h
    | cons call calls =>
      obtain ⟨used, reader', result, rest, rfl, hover, hfinished⟩ := reader.begin_over call ins
      rw [answers, hover] at h
      simp only [spent_append, List.cons_append, List.cons.injEq] at h
      obtain ⟨rfl, h⟩ := h
      obtain ⟨calls', reader'', ins', hlater, hbytes, hfits'⟩ :=
        ih _ _ h (Finished.fits (a := ⟨call, _, result, _⟩) hfinished hfits)
      refine ⟨calls', reader'', ins', hlater, ?_, hfits'⟩
      rw [bytes_append, hbytes, ReaderAnswer.passed_cons, List.append_assoc]

/-! ### Blocks -/

namespace ReaderAnswer

/-- A block at the end of what was taken since the last block stands in the stream after all that were
returned before it. -/
lemma exists_start {bytes block : Octets} {earlier : List ReaderAnswer} {a : ReaderAnswer}
    (hpassed : passed (earlier ++ [a]) <+: bytes) (hends : block <:+ earlier.foldl sinceBlock [] ++ a.taken) :
    ∃ start, block <+: bytes.drop start ∧ start + block.length = (passed (earlier ++ [a])).length ∧
      ∀ before a₀ between block₀, earlier = before ++ a₀ :: between → a₀.result = .ok (some block₀) →
        (passed (before ++ [a₀])).length ≤ start := by
  have hpassed_eq : passed (earlier ++ [a]) = passed earlier ++ a.taken := by
    rw [passed_append, passed_cons, passed_nil, List.append_nil]
  have hwhole : block <:+ passed (earlier ++ [a]) := by
    rw [hpassed_eq]
    exact hends.trans (List.suffix_append_self_iff.2 (foldl_sinceBlock_suffix earlier []))
  obtain ⟨upto, hupto⟩ := hwhole
  obtain ⟨left, rfl⟩ := hpassed
  refine ⟨upto.length, ?_, ?_, ?_⟩
  · rw [← hupto, List.append_assoc, List.drop_left]
    exact List.prefix_append _ _
  · rw [← hupto, List.length_append]
  · rintro before a₀ between block₀ rfl hblock₀
    have hfold : (before ++ a₀ :: between).foldl sinceBlock [] <:+ passed between := by
      rw [List.foldl_append, List.foldl_cons, a₀.sinceBlock_of_block hblock₀]
      exact foldl_sinceBlock_suffix between []
    have hlen : block.length ≤ (passed between).length + a.taken.length := by
      rw [← List.length_append]
      exact (hends.trans (List.suffix_append_self_iff.2 hfold)).length_le
    have hsum := congrArg List.length hupto
    simp only [passed_append, passed_cons, passed_nil, List.append_nil, List.length_append] at hsum hlen ⊢
    omega

end ReaderAnswer

open ReaderAnswer in
/-- A returned block is framed, so its tables alone decide whether `decode` accepts it, and all of it but
its signature is the end of what was taken for it. Unless a search has put its signature together from a
window that was behind, all of it stands in the stream, after the blocks that were returned before it and
right before what is left. -/
theorem blocks_stand_in_the_stream {s : Stream} {calls : List ReaderCall}
    {earlier later : List ReaderAnswer} {a : ReaderAnswer} {block : Octets} (hs : s.Yields)
    (h : s.answers calls {} = earlier ++ a :: later) (hblock : a.result = .ok (some block)) :
    (∃ header : TransferHeader, header.encode <+: block ∧ header.blockLen.toNat = block.length ∧
      decode block = Decode.tables block block.length (block.length / 8) header.tableIndex.toNat) ∧
    passed (earlier ++ [a]) <+: s.bytes ∧ block.drop 4 <:+ a.taken ∧
    (a.call = .next ∨ a.window = Octets.zeros 4 ∨ block.length ≤ a.taken.length ∨
        earlier.foldl fallsBehind false = false →
      ∃ start, block <+: s.bytes.drop start ∧ start + block.length = (passed (earlier ++ [a])).length ∧
        ∀ before a₀ between block₀, earlier = before ++ a₀ :: between → a₀.result = .ok (some block₀) →
          (passed (before ++ [a₀])).length ≤ start) := by
  rw [Stream.answers_eq calls {} hs] at h
  obtain ⟨calls', reader, ins, hlater, hbytes, hfits⟩ :=
    Incoming.answers_split [] false h fun _ => .zeros 4 []
  cases calls' with
  | nil => cases hlater
  | cons call calls' =>
    obtain ⟨used, reader', result, rest, rfl, hover, hfinished⟩ := reader.begin_over call ins
    rw [Incoming.answers, hover] at hlater
    simp only [Incoming.spent_append, List.cons.injEq] at hlater
    obtain ⟨rfl, -⟩ := hlater
    obtain ⟨-, hframed, hends, htail⟩ := hfinished.block block hblock
    have hpassed : passed (earlier ++ [⟨call, reader.window, result, Incoming.bytes used⟩]) <+: s.bytes := by
      rw [Stream.bytes, hbytes, Incoming.bytes_append, ← List.append_assoc, passed_append, passed_cons,
        passed_nil, List.append_nil]
      exact List.prefix_append _ _
    refine ⟨hframed.decode_eq, hpassed, htail, fun hcase => exists_start hpassed ?_⟩
    have hwindow := hends.trans (List.suffix_append_self_iff.2 (call.lead_suffix reader.window))
    rcases hcase with hnext | hzeros | hlen | hbehind
    · simp only at hnext
      subst hnext
      exact List.suffix_append_of_suffix hends
    · simp only at hzeros
      rw [hzeros] at hwindow
      exact (Fits.zeros 4 _).suffix_of_framed hframed hwindow
    · exact List.suffix_append_of_suffix
        (List.suffix_of_suffix_length_le hends (List.suffix_append _ _) hlen)
    · exact (hfits hbehind).suffix_of_framed hframed hwindow

/-- A block with nothing but its header. -/
def bareBlock (sequence : UInt16) : Octets := (TransferHeader.mk sequence 12 0).encode

/-- A zero, and a block whose signature begins in the bytes that are refused. -/
def straddlingStream : Stream := ⟨[.ok (0 :: bareBlock 0)], none⟩

theorem straddling_block_stands :
    ∃ start, bareBlock 0 <+: straddlingStream.bytes.drop start ∧ start + (bareBlock 0).length = 13 := by
  have hanswers : straddlingStream.answers [.next, .resync BlockReader.defaultResyncLimit] {} =
      [⟨.next, Octets.zeros 4, .error (.invalidSignature 0x4d434e00), [0x00, 0x4e, 0x43, 0x4d]⟩] ++
        ⟨.resync BlockReader.defaultResyncLimit, [0x00, 0x4e, 0x43, 0x4d], .ok (some (bareBlock 0)),
          (bareBlock 0).drop 3⟩ :: [] := rfl
  obtain ⟨-, -, -, hstands⟩ := blocks_stand_in_the_stream (by decide) hanswers rfl
  obtain ⟨start, hblock, hend, -⟩ := hstands (.inr (.inr (.inr rfl)))
  exact ⟨start, hblock, hend⟩

/-- Refused bytes that end in the beginning of a signature, a block, and bytes that could go on from that
beginning. -/
def gluedStream : Stream := ⟨[.ok ([0x00, 0x4e, 0x43, 0x4d] ++ bareBlock 0 ++ (bareBlock 7).drop 3)], none⟩

/-- A read of a block leaves the window behind, and the next search finds a block that is nowhere in the
stream. -/
theorem search_glues_signature :
    ¬∀ (s : Stream) (calls : List ReaderCall), s.Yields → ∀ a ∈ s.answers calls {}, ∀ block,
      a.result = .ok (some block) → block <:+: s.bytes := by
  intro h
  have hanswers : gluedStream.answers [.next, .next, .resync BlockReader.defaultResyncLimit] {} =
      [⟨.next, Octets.zeros 4, .error (.invalidSignature 0x4d434e00), [0x00, 0x4e, 0x43, 0x4d]⟩,
        ⟨.next, [0x00, 0x4e, 0x43, 0x4d], .ok (some (bareBlock 0)), bareBlock 0⟩,
        ⟨.resync BlockReader.defaultResyncLimit, [0x00, 0x4e, 0x43, 0x4d], .ok (some (bareBlock 7)),
          (bareBlock 7).drop 3⟩] := rfl
  have hmem := List.mem_of_mem_getLast? (congrArg List.getLast? hanswers)
  exact absurd (h gluedStream _ (by decide) _ hmem (bareBlock 7) rfl) (by decide)

end NcmBridge
