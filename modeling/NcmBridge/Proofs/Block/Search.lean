import Mathlib.Data.Set.Basic
import Mathlib.Order.Nat
import NcmBridge.Proofs.Block.Contiguity

/-!
# The search for the next signature

Where other bytes stand than a signature, the search finds the first signature that begins after the first of
them, if it may take enough bytes for that. It takes none past that signature. A search that has given up, or
that a failure of the stream has broken off, can be taken up again: it goes on with the next byte, as if it
had never stopped.
-/

namespace NcmBridge

/-- The places from 1 to `limit` at which a signature stands in `t`. -/
def signaturePlaces (t : Octets) (limit : Nat) : Set Nat :=
  {i | 1 ≤ i ∧ i ≤ limit ∧ (t.drop i).take 4 = Reading.signatureOctets}

/-! ### Bytes ahead -/

namespace Incoming

/-- The bytes that come in before the stream pauses, fails or ends. -/
def ahead : List Incoming → Octets
  | .byte b :: rest => b :: ahead rest
  | _ => []

/-- What comes in is the bytes ahead, and then something that is no byte. -/
lemma eq_ahead_append (ins : List Incoming) :
    ∃ rest, ins = (ahead ins).map .byte ++ rest ∧ ahead rest = [] := by
  induction ins with
  | nil => exact ⟨[], rfl, rfl⟩
  | cons item ins ih =>
    cases item with
    | byte b =>
      obtain ⟨rest, hins, hrest⟩ := ih
      exact ⟨rest, congrArg (.byte b :: ·) hins, hrest⟩
    | pause => exact ⟨.pause :: ins, rfl, rfl⟩
    | fault f => exact ⟨.fault f :: ins, rfl, rfl⟩

/-- After the bytes ahead no byte comes in. -/
lemma ahead_drop_ahead (ins : List Incoming) : ahead (ins.drop (ahead ins).length) = [] := by
  induction ins with
  | nil => rfl
  | cons item ins ih =>
    cases item with
    | byte b => exact ih
    | pause => rfl
    | fault f => rfl

/-- The first of the bytes ahead, and what comes in after them. -/
lemma eq_take_ahead_append {ins : List Incoming} {n : Nat} (h : n ≤ (ahead ins).length) :
    ins = ((ahead ins).take n).map .byte ++ ins.drop n := by
  obtain ⟨rest, hins, -⟩ := eq_ahead_append ins
  have hdrop : ins.drop n = ((ahead ins).drop n).map .byte ++ rest := by
    conv_lhs => rw [hins]
    rw [List.drop_append_of_le_length (by rwa [List.length_map]), List.map_drop]
  rw [hdrop, ← List.append_assoc, ← List.map_append, List.take_append_drop]
  exact hins

/-- How a search ends where no byte comes in: with a failure of the stream, or without a block. -/
def stop : List Incoming → BlockResult
  | .fault f :: _ => .error (.io f)
  | _ => .ok none

lemma stop_ne_resyncFailed (ins : List Incoming) (n : Nat) : stop ins ≠ .error (.resyncFailed n) := by
  unfold stop
  split
  · exact nofun
  · exact nofun

end Incoming

/-! ### After the signature -/

/-- The errors that a read can meet after the signature of its block. -/
inductive BlockError.AfterSignature : BlockError → Prop
  | headerLength (found : UInt16) : AfterSignature (.invalidHeaderLength found)
  | tooShort {size : Nat} : size < transferHeaderLen → AfterSignature (.truncated transferHeaderLen size)
  | io (fault : IoFault) : AfterSignature (.io fault)

/-- A whole header is refused for nothing but its length field once its signature is right. -/
lemma TransferHeader.afterSignature_of_parse {fields : Octets} {e : BlockError} (hfields : fields.length = 8)
    (h : parse (Reading.signatureOctets ++ fields) = .error e) : e.AfterSignature := by
  match fields, hfields with
  | [l0, l1, s0, s1, n0, n1, t0, t1], _ =>
    have hparse : parse (Reading.signatureOctets ++ [l0, l1, s0, s1, n0, n1, t0, t1]) =
        (if (UInt16.ofNat (l0.toNat + 256 * l1.toNat)).toNat ≠ transferHeaderLen then
          throw (.invalidHeaderLength (UInt16.ofNat (l0.toNat + 256 * l1.toNat)))
        else
          pure ⟨UInt16.ofNat (s0.toNat + 256 * s1.toNat), UInt16.ofNat (n0.toNat + 256 * n1.toNat),
            UInt16.ofNat (t0.toNat + 256 * t1.toNat)⟩) := rfl
    rw [hparse] at h
    split at h
    · cases h
      exact .headerLength _
    · cases h

/-- A read that has taken the signature of its block. -/
inductive Reading.Opened : Reading → Prop
  | header {window : Octets} {f : Field} : f.got.length + f.missing = 8 → Opened ⟨window, .header f⟩
  | body {window header : Octets} {f : Field} : Opened ⟨window, .body header f⟩

/-- A step of a read that has taken the signature. -/
def ReadStep.Opened : ReadStep → Prop
  | .more r => r.Opened
  | .done _ result => ∀ e, result = .error e → e.AfterSignature

lemma ReadStep.opened_afterHeader {window fields : Octets} (hfields : fields.length = 8) :
    (Reading.afterHeader window (Reading.signatureOctets ++ fields)).Opened := by
  rw [Reading.afterHeader]
  cases hparse : TransferHeader.parse (Reading.signatureOctets ++ fields) with
  | error e =>
    intro e' he
    cases he
    exact TransferHeader.afterSignature_of_parse hfields hparse
  | ok parsed =>
    simp only
    split
    case isTrue hshort =>
      intro e he
      cases he
      exact .tooShort hshort
    case isFalse =>
      split
      · exact .body
      · rintro e ⟨⟩

namespace Reading

lemma Opened.takeBytes {r : Reading} (h : r.Opened) (b : UInt8) : (r.takeBytes [b]).Opened := by
  cases h with
  | @header window f hfield =>
    simp only [Reading.takeBytes]
    rcases f.add_byte b with ⟨f', hadd, -, hlen⟩ | ⟨hadd, hlen⟩
    · rw [hadd]
      exact Opened.header (hlen.trans hfield)
    · rw [hadd]
      exact ReadStep.opened_afterHeader (hlen.trans hfield)
  | @body window header f =>
    simp only [Reading.takeBytes]
    rcases f.add_byte b with ⟨f', hadd, -⟩ | ⟨hadd, -⟩
    · rw [hadd]
      exact Opened.body
    · rw [hadd]
      rintro e ⟨⟩

/-- After its signature a block meets only the errors of its header and of the stream. -/
lemma Opened.over {r : Reading} (h : r.Opened) (ins : List Incoming) {e : BlockError}
    (he : (r.over ins).2.1 = .error e) : e.AfterSignature := by
  have hend : ∀ {r : Reading}, r.Opened → r.atEnd = .error (.io .streamEnded) := by
    rintro r (_ | _)
    · rfl
    · rfl
  induction ins generalizing r with
  | nil =>
    cases (hend h).symm.trans he
    exact .io _
  | cons item ins ih =>
    cases item with
    | pause =>
      cases (hend h).symm.trans he
      exact .io _
    | fault f =>
      cases he
      exact .io f
    | byte b =>
      have hstep := h.takeBytes b
      rw [over_cons_byte] at he
      cases htakes : r.takeBytes [b] with
      | more r' =>
        rw [htakes] at hstep he
        exact ih hstep he
      | done reader result =>
        rw [htakes] at hstep he
        exact hstep e he

end Reading

/-! ### One stretch of a search -/

/-- What a call leaves and yields, and what comes in after it. -/
abbrev CallOutcome := BlockReader × BlockResult × List Incoming

namespace CallOutcome

/-- The outcome of a search that had taken `k` bytes before it was taken up again. -/
def further (k : Nat) : CallOutcome → CallOutcome
  | (reader, .error (.resyncFailed scanned), rest) => (reader, .error (.resyncFailed (k + scanned)), rest)
  | outcome => outcome

lemma further_eq_self {outcome : CallOutcome} (h : ∀ n, outcome.2.1 ≠ .error (.resyncFailed n)) (k : Nat) :
    further k outcome = outcome := by
  unfold further
  split
  case h_1 scanned rest => exact absurd rfl (h scanned)
  case h_2 => rfl

end CallOutcome

namespace Reading

variable {window : Octets} {ins : List Incoming} {scanned limit : Nat}

/-- A read that has taken its signature does not give up a search. -/
lemma Opened.ne_resyncFailed {r : Reading} (h : r.Opened) (ins : List Incoming) (n : Nat) :
    (r.over ins).2.1 ≠ .error (.resyncFailed n) := by
  intro hresult
  cases h.over ins hresult

lemma opened_headerRest (window : Octets) : Opened ⟨window, .header Field.headerRest⟩ := .header rfl

lemma scan_signature (scanned limit : Nat) :
    scan signatureOctets scanned limit = .more ⟨Octets.zeros 4, .header Field.headerRest⟩ := if_pos rfl

lemma scan_of_le (h : window ≠ signatureOctets) (hlimit : limit ≤ scanned) :
    scan window scanned limit = .done ⟨window⟩ (.error (.resyncFailed scanned)) := by
  rw [scan, if_neg h, if_pos hlimit]

lemma scan_of_lt (h : window ≠ signatureOctets) (hlimit : scanned < limit) :
    scan window scanned limit = .more ⟨window, .scanning scanned limit⟩ := by
  rw [scan, if_neg h, if_neg (Nat.not_le.2 hlimit)]

/-- The search takes one byte and leaves the first of its window behind. -/
lemma scan_over_byte (h : window ≠ signatureOctets) (hlimit : scanned < limit) (b : UInt8) :
    (scan window scanned limit).over (.byte b :: ins) =
      (scan (window.drop 1 ++ [b]) (scanned + 1) limit).over ins := by
  rw [scan_of_lt h hlimit, ReadStep.over, over_cons_byte]
  rfl

/-- The search passes over bytes at which no signature begins. -/
lemma scan_over_bytes {a : Octets} (ins : List Incoming) (hwindow : window.length = 4)
    (hlimit : scanned + a.length ≤ limit)
    (hsilent : ∀ j < a.length, ((window ++ a).drop j).take 4 ≠ signatureOctets) :
    (scan window scanned limit).over (a.map .byte ++ ins) =
      (scan ((window ++ a).drop a.length) (scanned + a.length) limit).over ins := by
  induction a generalizing window scanned with
  | nil => rw [List.append_nil]; rfl
  | cons b a ih =>
    rw [List.length_cons] at hlimit hsilent
    have hne : window ≠ signatureOctets := by
      have hfirst := hsilent 0 (Nat.zero_lt_succ _)
      rwa [List.drop_zero, List.take_left' hwindow] at hfirst
    have hslid : (window.drop 1 ++ [b]) ++ a = (window ++ b :: a).drop 1 := by
      rw [List.drop_append_of_le_length (by omega), List.append_assoc]
      rfl
    have hfour : (window.drop 1 ++ [b]).length = 4 := by
      rw [List.length_append, List.length_drop, hwindow]
      rfl
    have hrest := ih hfour (show scanned + 1 + a.length ≤ limit by omega) (by
      intro j hj
      rw [hslid, List.drop_drop, Nat.add_comm]
      exact hsilent (j + 1) (Nat.succ_lt_succ hj))
    rw [List.map_cons, List.cons_append, scan_over_byte hne (by omega), hrest, hslid, List.drop_drop,
      List.length_cons, Nat.add_comm 1, Nat.add_assoc, Nat.add_comm 1]

/-- A search that may go on ends where no byte comes in, and leaves its window. -/
lemma scan_over_of_ahead_eq_nil (h : window ≠ signatureOctets) (hlimit : scanned < limit)
    (hahead : Incoming.ahead ins = []) :
    (scan window scanned limit).over ins = (⟨window⟩, Incoming.stop ins, ins.drop 1) := by
  rw [scan_of_lt h hlimit]
  match ins, hahead with
  | [], _ => rfl
  | .pause :: rest, _ => rfl
  | .fault f :: rest, _ => rfl

/-- What holds of a search where it ends, and is carried back over one byte, holds of every search. -/
lemma scan_induction {motive : Octets → Nat → List Incoming → Prop} (limit : Nat)
    (found : ∀ scanned ins, motive signatureOctets scanned ins)
    (spent : ∀ window scanned ins, window ≠ signatureOctets → limit ≤ scanned → motive window scanned ins)
    (stopped : ∀ window scanned ins, window ≠ signatureOctets → scanned < limit →
      Incoming.ahead ins = [] → motive window scanned ins)
    (byte : ∀ window scanned b ins, window ≠ signatureOctets → scanned < limit →
      motive (window.drop 1 ++ [b]) (scanned + 1) ins → motive window scanned (.byte b :: ins))
    (window : Octets) (scanned : Nat) (ins : List Incoming) : motive window scanned ins := by
  induction ins generalizing window scanned with
  | nil =>
    by_cases h : window = signatureOctets
    · exact h ▸ found scanned []
    · rcases Nat.lt_or_ge scanned limit with hlt | hge
      · exact stopped window scanned [] h hlt rfl
      · exact spent window scanned [] h hge
  | cons item ins ih =>
    by_cases h : window = signatureOctets
    · exact h ▸ found scanned _
    · rcases Nat.lt_or_ge scanned limit with hlt | hge
      · cases item with
        | byte b => exact byte window scanned b ins h hlt (ih _ _)
        | pause => exact stopped window scanned _ h hlt rfl
        | fault f => exact stopped window scanned _ h hlt rfl
      · exact spent window scanned _ h hge

/-- Where a search began to count matters only for the count with which it gives up. -/
lemma scan_over_further (k : Nat) (window : Octets) (scanned limit : Nat) (ins : List Incoming) :
    (scan window (k + scanned) (k + limit)).over ins =
      CallOutcome.further k ((scan window scanned limit).over ins) := by
  induction window, scanned, ins using scan_induction limit with
  | found scanned ins =>
    have hopened := opened_headerRest (Octets.zeros 4)
    rw [scan_signature, scan_signature, ReadStep.over,
      CallOutcome.further_eq_self (hopened.ne_resyncFailed ins)]
  | spent window scanned ins hne hle =>
    rw [scan_of_le hne hle, scan_of_le hne (Nat.add_le_add_left hle k)]
    rfl
  | stopped window scanned ins hne hlt hahead =>
    rw [scan_over_of_ahead_eq_nil hne hlt hahead,
      scan_over_of_ahead_eq_nil hne (Nat.add_lt_add_left hlt k) hahead,
      CallOutcome.further_eq_self (Incoming.stop_ne_resyncFailed ins)]
  | byte window scanned b ins hne hlt ih =>
    rw [scan_over_byte hne hlt, scan_over_byte hne (Nat.add_lt_add_left hlt k)]
    exact ih

/-- A search that does not give up ends in the same way if it may take more bytes. -/
lemma scan_over_of_le {limit' : Nat} (hle : limit ≤ limit')
    (h : ∀ n, ((scan window scanned limit).over ins).2.1 ≠ .error (.resyncFailed n)) :
    (scan window scanned limit').over ins = (scan window scanned limit).over ins := by
  induction window, scanned, ins using scan_induction limit with
  | found scanned ins => rw [scan_signature, scan_signature]
  | spent window scanned ins hne hge =>
    rw [scan_of_le hne hge] at h
    exact absurd rfl (h scanned)
  | stopped window scanned ins hne hlt hahead =>
    rw [scan_over_of_ahead_eq_nil hne hlt hahead,
      scan_over_of_ahead_eq_nil hne (hlt.trans_le hle) hahead]
  | byte window scanned b ins hne hlt ih =>
    rw [scan_over_byte hne hlt] at h ⊢
    rw [scan_over_byte hne (hlt.trans_le hle)]
    exact ih h

end Reading

/-- After a signature a block is read as if the read had begun there. -/
lemma Reading.over_headerRest (ins : List Incoming) :
    Reading.over ⟨Octets.zeros 4, .header Field.headerRest⟩ ins =
      (BlockReader.begin {} .next).over (Reading.signatureOctets.map .byte ++ ins) := by
  have hne : Reading.signatureOctets ≠ [] := by decide
  have htake : (BlockReader.next {}).takeBytes Reading.signatureOctets =
      .more ⟨Octets.zeros 4, .header Field.headerRest⟩ := rfl
  rw [BlockReader.begin, ReadStep.over, Reading.over_chunk hne le_rfl, htake, ReadStep.over]

/-! ### A whole search -/

/-- No signature stands in `t` at a place from 1 on before `n`. -/
def Silent (t : Octets) (n : Nat) : Prop :=
  ∀ i, 1 ≤ i → i < n → (t.drop i).take 4 ≠ Reading.signatureOctets

lemma silent_of_isLeast {t : Octets} {limit i : Nat} (h : IsLeast (signaturePlaces t limit) i) :
    Silent t i := by
  intro j hpos hlt hfound
  exact absurd (h.2 ⟨hpos, hlt.le.trans h.1.2.1, hfound⟩) (Nat.not_le.2 hlt)

lemma silent_of_eq_empty {t : Octets} {limit : Nat} (h : signaturePlaces t limit = ∅) :
    Silent t (limit + 1) := by
  intro j hpos hlt hfound
  exact Set.eq_empty_iff_forall_notMem.1 h j ⟨hpos, Nat.le_of_lt_succ hlt, hfound⟩

lemma Silent.mono {t : Octets} {n m : Nat} (h : Silent t n) (hle : m ≤ n) : Silent t m :=
  fun i hpos hlt => h i hpos (hlt.trans_le hle)

/-- Bytes past the signatures that are asked about do not matter. -/
lemma Silent.of_append {t : Octets} {n : Nat} (x : Octets) (h : Silent (t ++ x) n) (hle : n + 3 ≤ t.length) :
    Silent t n := by
  intro i hpos hlt
  have hcut := h i hpos hlt
  rwa [List.drop_append_of_le_length (by omega),
    List.take_append_of_le_length (by rw [List.length_drop]; omega)] at hcut

namespace BlockReader

/-- The reader whose window has moved on past the bytes `a`. -/
def past (reader : BlockReader) (a : Octets) : BlockReader := ⟨(reader.window ++ a).drop a.length⟩

/-- The reader holds four bytes that are no signature. -/
structure Astray (reader : BlockReader) : Prop where
  four : reader.window.length = 4
  other : reader.window ≠ Reading.signatureOctets

namespace Astray

variable {reader : BlockReader} {ins : List Incoming} {a : Octets} {n limit : Nat}

/-- Where no signature begins, the next four bytes are none. -/
lemma take_drop_ne (h : reader.Astray) (hsilent : Silent (reader.window ++ a) n) {j : Nat} (hj : j < n) :
    ((reader.window ++ a).drop j).take 4 ≠ Reading.signatureOctets := by
  cases j with
  | zero =>
    rw [List.drop_zero, List.take_left' h.four]
    exact h.other
  | succ j => exact hsilent (j + 1) (Nat.succ_pos j) hj

/-- The window past some bytes holds the last four. -/
lemma past_take (h : reader.Astray) (hn : n ≤ a.length) :
    (reader.past (a.take n)).window = ((reader.window ++ a).drop n).take 4 := by
  have hcut : reader.window ++ a.take n = (reader.window ++ a).take (4 + n) := by
    rw [← h.four, List.take_length_add_append]
  rw [past, List.length_take_of_le hn, hcut, List.drop_take, Nat.add_sub_cancel]

lemma past_ne (h : reader.Astray) (hsilent : Silent (reader.window ++ a) (a.length + 1)) :
    (reader.past a).window ≠ Reading.signatureOctets := by
  have hlast := h.take_drop_ne hsilent (Nat.lt_succ_self _)
  rwa [← h.past_take le_rfl, List.take_length] at hlast

/-- The search takes bytes as long as no signature begins. -/
lemma resync_over (h : reader.Astray) (ins : List Incoming) (hlimit : a.length ≤ limit)
    (hsilent : Silent (reader.window ++ a) a.length) :
    (reader.begin (.resync limit)).over (a.map .byte ++ ins) =
      (Reading.scan (reader.past a).window a.length limit).over ins := by
  have hpass := Reading.scan_over_bytes ins h.four (show 0 + a.length ≤ limit by omega)
    fun j hj => h.take_drop_ne hsilent hj
  rwa [Nat.zero_add] at hpass

/-- A search that is taken up again goes on as if it had not stopped. -/
lemma resync_over_further (h : reader.Astray) (ins : List Incoming)
    (hsilent : Silent (reader.window ++ a) a.length) (b : Nat) :
    (reader.begin (.resync (a.length + b))).over (a.map .byte ++ ins) =
      CallOutcome.further a.length (((reader.past a).begin (.resync b)).over ins) := by
  rw [h.resync_over ins (Nat.le_add_right _ b) hsilent]
  exact Reading.scan_over_further a.length (reader.past a).window 0 b ins

/-- No signature begins in the first of the bytes ahead. -/
lemma silent_take (h : reader.Astray) (hn : n ≤ a.length) (hsilent : Silent (reader.window ++ a) n) :
    Silent (reader.window ++ a.take n) (a.take n).length := by
  rw [List.length_take_of_le hn]
  refine Silent.of_append (a.drop n) ?_ ?_
  · rwa [List.append_assoc, List.take_append_drop]
  · rw [List.length_append, h.four, List.length_take_of_le hn]
    omega

/-- At the first signature the block is read as if the read had begun there. -/
lemma over_of_isLeast (h : reader.Astray) {i : Nat}
    (hi : IsLeast (signaturePlaces (reader.window ++ Incoming.ahead ins) limit) i) :
    (reader.begin (.resync limit)).over ins =
      (BlockReader.begin {} .next).over (Reading.signatureOctets.map .byte ++ ins.drop i) := by
  obtain ⟨-, hlimit, hfound⟩ := hi.1
  have hn : i ≤ (Incoming.ahead ins).length := by
    have hlen := congrArg List.length hfound
    have hsig : Reading.signatureOctets.length = 4 := rfl
    rw [List.length_take, List.length_drop, List.length_append, h.four, hsig] at hlen
    omega
  have hsilent := h.silent_take hn (silent_of_isLeast hi)
  have hover := h.resync_over (ins.drop i) ((List.length_take_of_le hn).trans_le hlimit) hsilent
  rw [← Incoming.eq_take_ahead_append hn, h.past_take hn, hfound, Reading.scan_signature, ReadStep.over,
    Reading.over_headerRest] at hover
  exact hover

/-- A search that meets no signature gives up when it has taken as many bytes as it may. -/
lemma over_of_le (h : reader.Astray) (hnone : signaturePlaces (reader.window ++ Incoming.ahead ins) limit = ∅)
    (hle : limit ≤ (Incoming.ahead ins).length) :
    (reader.begin (.resync limit)).over ins =
      (reader.past ((Incoming.ahead ins).take limit), .error (.resyncFailed limit), ins.drop limit) := by
  have hsilent := silent_of_eq_empty hnone
  have hlen := List.length_take_of_le hle
  have hover := h.resync_over (ins.drop limit) hlen.le
    (h.silent_take hle (hsilent.mono (Nat.le_succ limit)))
  have hne : (reader.past ((Incoming.ahead ins).take limit)).window ≠ Reading.signatureOctets := by
    rw [h.past_take hle]
    exact h.take_drop_ne hsilent (Nat.lt_succ_self limit)
  rw [← Incoming.eq_take_ahead_append hle, Reading.scan_of_le hne hlen.ge, hlen] at hover
  exact hover

/-- A search that meets no signature ends with the bytes ahead when it may take more. -/
lemma over_of_lt (h : reader.Astray) (hnone : signaturePlaces (reader.window ++ Incoming.ahead ins) limit = ∅)
    (hlt : (Incoming.ahead ins).length < limit) :
    (reader.begin (.resync limit)).over ins =
      (reader.past (Incoming.ahead ins), Incoming.stop (ins.drop (Incoming.ahead ins).length),
        ins.drop ((Incoming.ahead ins).length + 1)) := by
  have hsilent := (silent_of_eq_empty hnone).mono (Nat.succ_le_succ hlt.le)
  have hover := h.resync_over (ins.drop (Incoming.ahead ins).length) hlt.le
    (hsilent.mono (Nat.le_succ _))
  have hins := Incoming.eq_take_ahead_append (le_refl (Incoming.ahead ins).length)
  rw [List.take_length] at hins
  rw [← hins, Reading.scan_over_of_ahead_eq_nil (h.past_ne hsilent) hlt (Incoming.ahead_drop_ahead ins),
    List.drop_drop] at hover
  exact hover

/-- A search that gives up has met no signature. -/
lemma places_eq_empty (h : reader.Astray) {scanned : Nat}
    (hresult : ((reader.begin (.resync limit)).over ins).2.1 = .error (.resyncFailed scanned)) :
    signaturePlaces (reader.window ++ Incoming.ahead ins) limit = ∅ := by
  classical
  by_contra hsome
  have hi := (Set.nonempty_iff_ne_empty.2 hsome).isLeast_natFind
  rw [h.over_of_isLeast hi, ← Reading.over_headerRest] at hresult
  exact (Reading.opened_headerRest _).ne_resyncFailed _ scanned hresult

variable {left : BlockReader} {rest : List Incoming}

/-- After a search has given up the next one goes on where it stopped. -/
lemma further_of_gave_up (h : reader.Astray)
    (hover : (reader.begin (.resync limit)).over ins = (left, .error (.resyncFailed limit), rest)) (b : Nat) :
    (reader.begin (.resync (limit + b))).over ins =
      CallOutcome.further limit ((left.begin (.resync b)).over rest) := by
  have hnone := h.places_eq_empty (congrArg (·.2.1) hover)
  rcases Nat.lt_or_ge (Incoming.ahead ins).length limit with hlt | hle
  · rw [h.over_of_lt hnone hlt] at hover
    exact absurd (congrArg (·.2.1) hover) (Incoming.stop_ne_resyncFailed _ limit)
  · obtain ⟨rfl, -, rfl⟩ := (h.over_of_le hnone hle).symm.trans hover
    have hsilent := (silent_of_eq_empty hnone).mono (Nat.le_succ limit)
    have hfurther := h.resync_over_further (ins.drop limit) (h.silent_take hle hsilent) b
    rwa [← Incoming.eq_take_ahead_append hle, List.length_take_of_le hle] at hfurther

/-- After a failure of the stream has broken off a search the next one goes on where it stopped. -/
lemma further_of_failed (h : reader.Astray) {fault : IoFault}
    (hnone : signaturePlaces (reader.window ++ Incoming.ahead ins) limit = ∅)
    (hover : (reader.begin (.resync limit)).over ins = (left, .error (.io fault), rest)) (b : Nat) :
    (Incoming.ahead ins).length ≤ limit ∧
      (reader.begin (.resync ((Incoming.ahead ins).length + b))).over ((Incoming.ahead ins).map .byte ++ rest) =
        CallOutcome.further (Incoming.ahead ins).length ((left.begin (.resync b)).over rest) := by
  rcases Nat.lt_or_ge (Incoming.ahead ins).length limit with hlt | hle
  · have hleft : reader.past (Incoming.ahead ins) = left :=
      congrArg Prod.fst ((h.over_of_lt hnone hlt).symm.trans hover)
    have hsilent := (silent_of_eq_empty hnone).mono (hlt.le.trans (Nat.le_succ limit))
    exact ⟨hlt.le, hleft ▸ h.resync_over_further _ hsilent b⟩
  · rw [h.over_of_le hnone hle] at hover
    exact absurd (Except.error.inj (congrArg (·.2.1) hover)) nofun

end Astray

end BlockReader

/-! ### Reads that refuse -/

/-- A read for which no byte comes in is at its end, or has failed with the stream. -/
lemma Reading.over_of_ahead_eq_nil {ins : List Incoming} (r : Reading) (h : Incoming.ahead ins = []) :
    (r.over ins).2.1 = r.atEnd ∨ ∃ f, (r.over ins).2.1 = .error (.io f) := by
  match ins, h with
  | [], _ => exact .inl rfl
  | .pause :: rest, _ => exact .inl rfl
  | .fault f :: rest, _ => exact .inr ⟨f, rfl⟩

lemma Reading.ne_invalidSignature_of_ahead_eq_nil {ins : List Incoming} (r : Reading)
    (h : Incoming.ahead ins = []) (found : UInt32) :
    (r.over ins).2.1 ≠ .error (.invalidSignature found) := by
  rcases r.over_of_ahead_eq_nil h with hend | ⟨f, hfault⟩
  · rcases r.atEnd_eq with hnone | hended
    · rw [hend, hnone]
      exact nofun
    · rw [hend, hended]
      exact nofun
  · rw [hfault]
    exact nofun

/-- A read that meets other bytes where a signature should be has taken four of them and keeps these. -/
lemma BlockReader.astray_of_refused {r reader : BlockReader} {ins rest : List Incoming} {found : UInt32}
    (h : (r.begin .next).over ins = (reader, .error (.invalidSignature found), rest)) :
    reader.Astray ∧ ins = reader.window.map .byte ++ rest := by
  have hresult : (r.next.over ins).2.1 = .error (.invalidSignature found) := by
    rw [show r.next.over ins = _ from h]
  have hwant : r.next.want = 4 := rfl
  rcases Nat.lt_or_ge (Incoming.ahead ins).length 4 with hlt | hge
  · -- too few bytes come in for a signature
    exfalso
    rw [← hwant] at hlt
    obtain ⟨rest', hins, hnone⟩ := Incoming.eq_ahead_append ins
    by_cases hahead : Incoming.ahead ins = []
    · exact r.next.ne_invalidSignature_of_ahead_eq_nil hahead found hresult
    · obtain ⟨r', hmore, -⟩ := Reading.takeBytes_of_lt hahead hlt
      rw [hins, Reading.over_chunk hahead hlt.le, hmore] at hresult
      exact r'.ne_invalidSignature_of_ahead_eq_nil hnone found hresult
  · have hlen : ((Incoming.ahead ins).take 4).length = 4 := List.length_take_of_le hge
    have hins := Incoming.eq_take_ahead_append hge
    generalize (Incoming.ahead ins).take 4 = four at hlen hins
    have hadd : Field.signature.add four = .inr four := Field.add_of_length_eq hlen
    have htakes : r.next.takeBytes four =
        if four = Reading.signatureOctets then .more ⟨r.window, .header Field.headerRest⟩
        else .done ⟨four⟩ (.error (.invalidSignature (Reading.word four))) := by
      simp only [BlockReader.next, Reading.takeBytes, hadd]
    rw [BlockReader.begin, ReadStep.over, hins,
      Reading.over_chunk (List.ne_nil_of_length_pos (by omega)) (hlen.trans hwant.symm).le, htakes] at h
    by_cases hsig : four = Reading.signatureOctets
    · rw [if_pos hsig] at h
      have herror := congrArg (·.2.1) h
      cases (Reading.opened_headerRest r.window).over _ herror
    · rw [if_neg hsig] at h
      obtain ⟨rfl, -, rfl⟩ := h
      exact ⟨⟨hlen, hsig⟩, hins⟩

/-! ### Searches over a stream -/

namespace Stream

/-- The bytes that a stream gives before it pauses, fails or ends. -/
def ahead (s : Stream) : Octets := Incoming.ahead s.incoming

/-- The outcome of a call over a stream. -/
def outcome (s : Stream) (reader : BlockReader) (call : ReaderCall) : CallOutcome :=
  let (reader', result, s') := s.run (reader.begin call)
  (reader', result, s'.incoming)

lemma outcome_eq {s : Stream} (hs : s.Yields) (reader : BlockReader) (call : ReaderCall) :
    s.outcome reader call = (reader.begin call).over s.incoming := by
  obtain ⟨reader', result, s', hrun, hover, -⟩ := over_run hs (reader.begin call)
  rw [outcome, hrun, hover]

/-- A call over a stream that was run is one over what comes in, and what is left yields bytes. -/
lemma over_of_run {s s' : Stream} (hs : s.Yields) {step : ReadStep} {reader' : BlockReader}
    {result : BlockResult} (h : s.run step = (reader', result, s')) :
    step.over s.incoming = (reader', result, s'.incoming) ∧ s'.Yields := by
  obtain ⟨_, _, _, hrun, hover, hs'⟩ := over_run hs step
  cases hrun.symm.trans h
  exact ⟨hover, hs'⟩

end Stream

/-- How a search over a stream ends that may take `limit` bytes. -/
structure Searched (reader : BlockReader) (limit : Nat) (s : Stream) : Prop where
  /-- It takes the bytes up to the end of the first signature, and then reads the block as a read does that
  finds this signature at the beginning of its stream. -/
  found : ∀ i, IsLeast (signaturePlaces (reader.window ++ s.ahead) limit) i →
    ∀ s' : Stream, s'.Yields → s'.incoming = Reading.signatureOctets.map .byte ++ s.incoming.drop i →
      s.outcome reader (.resync limit) = s'.outcome {} .next
  gave_up : signaturePlaces (reader.window ++ s.ahead) limit = ∅ → limit ≤ s.ahead.length →
    (s.outcome reader (.resync limit)).2 = (.error (.resyncFailed limit), s.incoming.drop limit)
  stopped : signaturePlaces (reader.window ++ s.ahead) limit = ∅ → s.ahead.length < limit →
    (s.outcome reader (.resync limit)).2 =
      (Incoming.stop (s.incoming.drop s.ahead.length), s.incoming.drop (s.ahead.length + 1))

lemma BlockReader.Astray.searched {reader : BlockReader} {s : Stream} (h : reader.Astray) (hs : s.Yields)
    (limit : Nat) : Searched reader limit s := by
  refine ⟨?_, ?_, ?_⟩
  · intro i hi s' hs' hincoming
    rw [s.outcome_eq hs, h.over_of_isLeast hi, s'.outcome_eq hs', hincoming]
  · intro hnone hle
    rw [s.outcome_eq hs, h.over_of_le hnone hle]
  · intro hnone hlt
    rw [s.outcome_eq hs, h.over_of_lt hnone hlt]
    rfl

/-- After a read has refused the four bytes that it met, a search finds the first signature among these and the
bytes ahead, if it may take enough of them; else it gives up after as many as it may take, or ends with the
stream. A search that has given up, or that a failure of the stream has broken off, leaves a reader with which
the next search goes on where it stopped, and what both find is what one search finds that may take as many
bytes as both. -/
theorem search_finds_the_first_signature {s₀ s : Stream} {r reader : BlockReader} {found : UInt32}
    (hs : s₀.Yields) (h : s₀.run (r.begin .next) = (reader, .error (.invalidSignature found), s)) :
    (reader.window.length = 4 ∧ s₀.incoming = reader.window.map .byte ++ s.incoming) ∧
    (∀ limit, Searched reader limit s) ∧
    (∀ a b reader' s', s.run (reader.begin (.resync a)) = (reader', .error (.resyncFailed a), s') →
      s.outcome reader (.resync (a + b)) = CallOutcome.further a (s'.outcome reader' (.resync b))) ∧
    (∀ a b fault reader' s', s.run (reader.begin (.resync a)) = (reader', .error (.io fault), s') →
      signaturePlaces (reader.window ++ s.ahead) a = ∅ →
      ∀ whole : Stream, whole.Yields → whole.incoming = s.ahead.map .byte ++ s'.incoming →
        whole.outcome reader (.resync (s.ahead.length + b)) =
            CallOutcome.further s.ahead.length (s'.outcome reader' (.resync b)) ∧
          ((∀ n, (s'.outcome reader' (.resync b)).2.1 ≠ .error (.resyncFailed n)) →
            whole.outcome reader (.resync (a + b)) = s'.outcome reader' (.resync b))) := by
  obtain ⟨hover, hyields⟩ := Stream.over_of_run hs h
  obtain ⟨hastray, hincoming⟩ := BlockReader.astray_of_refused hover
  refine ⟨⟨hastray.four, hincoming⟩, hastray.searched hyields, ?_, ?_⟩
  · intro a b reader' s' hrun
    obtain ⟨hover', hyields'⟩ := Stream.over_of_run hyields hrun
    rw [s.outcome_eq hyields, s'.outcome_eq hyields']
    exact hastray.further_of_gave_up hover' b
  · intro a b fault reader' s' hrun hnone whole hwhole hjoined
    obtain ⟨hover', hyields'⟩ := Stream.over_of_run hyields hrun
    obtain ⟨hle, hfurther⟩ := hastray.further_of_failed hnone hover' b
    rw [s'.outcome_eq hyields', whole.outcome_eq hwhole, whole.outcome_eq hwhole, hjoined]
    refine ⟨hfurther, fun hfound => ?_⟩
    rw [CallOutcome.further_eq_self hfound] at hfurther
    rw [← hfurther] at hfound ⊢
    exact Reading.scan_over_of_le (Nat.add_le_add_right hle b) hfound

/-- A block whose signature begins inside the refused bytes, after the beginning of another, comes in two
pieces, between which the stream fails. -/
def brokenStream : Stream :=
  ⟨[.ok ([0x4e, 0x43] ++ (bareBlock 3).take 3), .error ⟨.timedOut, "later"⟩, .ok ((bareBlock 3).drop 3)], none⟩

/-- What is left of that stream without its failure when four bytes have been refused. -/
def mendedStream : Stream := ⟨[.ok ((bareBlock 3).drop 2)], none⟩

/-- The search that the failure breaks off and the next search together find what one search finds that meets
no failure. -/
theorem search_goes_on_after_failure :
    (brokenStream.outcome {} .next).2.1 = .error (.invalidSignature 0x434e434e) ∧
      mendedStream.outcome ⟨[0x4e, 0x43, 0x4e, 0x43]⟩ (.resync (2 + 1)) =
        (⟨Octets.zeros 4⟩, .ok (some (bareBlock 3)), []) := by
  have hrefused : brokenStream.run (BlockReader.begin {} .next) =
      (⟨[0x4e, 0x43, 0x4e, 0x43]⟩, .error (.invalidSignature 0x434e434e),
        ⟨.ok [0x4d] :: brokenStream.items.drop 1, none⟩) := rfl
  have hfailed : Stream.run (BlockReader.begin ⟨[0x4e, 0x43, 0x4e, 0x43]⟩ (.resync 2))
      ⟨.ok [0x4d] :: brokenStream.items.drop 1, none⟩ =
      (⟨[0x43, 0x4e, 0x43, 0x4d]⟩, .error (.io ⟨.timedOut, "later"⟩), ⟨brokenStream.items.drop 2, none⟩) := rfl
  have hnone : signaturePlaces [0x4e, 0x43, 0x4e, 0x43, 0x4d] 2 = ∅ := by
    apply Set.eq_empty_iff_forall_notMem.2
    rintro i ⟨hpos, hle, hfound⟩
    obtain rfl | rfl : i = 1 ∨ i = 2 := by omega
    · exact absurd hfound (by decide)
    · exact absurd hfound (by decide)
  have hagain : Stream.outcome ⟨brokenStream.items.drop 2, none⟩ ⟨[0x43, 0x4e, 0x43, 0x4d]⟩ (.resync 1) =
      (⟨Octets.zeros 4⟩, .ok (some (bareBlock 3)), []) := rfl
  obtain ⟨-, -, -, hgoes⟩ := search_finds_the_first_signature (by decide) hrefused
  obtain ⟨-, hsame⟩ := hgoes 2 1 _ _ _ hfailed hnone mendedStream (by decide) rfl
  rw [hagain] at hsame
  exact ⟨rfl, hsame nofun⟩

end NcmBridge
