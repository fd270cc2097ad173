import NcmBridge.Proofs.Block.Acceptance

/-!
# Decoding stays within bounds

Offsets and lengths in a block are chosen by the device. Here the decoder is written down once more, with a
record of the places that it reads and of the sums that it forms. Its answers are those of the decoder, and
no recorded access leaves the bytes at hand, so the answer of a checked read that fails is never given.
-/

namespace NcmBridge

/-- What is done with offsets and lengths. -/
inductive Access
  /-- The bytes from `start` up to `stop` are used, of so many that there are. -/
  | piece (available start stop : Nat)
  /-- As many bytes as `len` are copied to the places from `start` up to `stop`. -/
  | copy (available start stop len : Nat)
  | sum (a b : Nat)
  deriving DecidableEq, Repr

/-- An access uses only bytes that are there, copies neither more nor fewer bytes than there are places, and
adds up to no more than a word of 32 bits can hold. -/
def Access.Safe : Access → Prop
  | piece available start stop => start ≤ stop ∧ stop ≤ available
  | copy available start stop len => start ≤ stop ∧ stop ≤ available ∧ len = stop - start
  | sum a b => a + b < UInt32.size

/-! ### Observed reads -/

/-- What is read from a block, with the accesses on the way to it. -/
structure Observed (α : Type) where
  accesses : List Access
  result : Except BlockError α

namespace Observed

variable {α β : Type}

instance : Monad Observed where
  pure a := ⟨[], .ok a⟩
  bind x f :=
    match x.result with
    | .ok a => ⟨x.accesses ++ (f a).accesses, (f a).result⟩
    | .error e => ⟨x.accesses, .error e⟩

/-- Refuses the block. -/
def fail (e : BlockError) : Observed α := ⟨[], .error e⟩

/-- Refuses the block if a condition holds. -/
def check (c : Prop) [Decidable c] (e : BlockError) : Observed Unit := if c then fail e else pure ()

/-- Forms a sum. -/
def add (a b : Nat) : Observed Nat := ⟨[.sum a b], .ok (a + b)⟩

/-- Takes the bytes from `start` up to `stop`. -/
def slice (bytes : Octets) (start stop : Nat) : Observed Octets :=
  ⟨[.piece bytes.length start stop], bytes.slice start (stop - start)⟩

def word16 (bytes : Octets) (pos : Nat) : Observed UInt16 :=
  ⟨[.piece bytes.length pos (pos + 2)], bytes.word16 pos⟩

def word32 (bytes : Octets) (pos : Nat) : Observed UInt32 :=
  ⟨[.piece bytes.length pos (pos + 4)], bytes.word32 pos⟩

@[simp] lemma result_bind (x : Observed α) (f : α → Observed β) :
    (x >>= f).result = x.result >>= fun a => (f a).result := by
  obtain ⟨accesses, _ | a⟩ := x <;> rfl

/-- A check that is passed leaves the rest to what follows. -/
lemma result_check_bind (c : Prop) [Decidable c] (e : BlockError) (f : Unit → Except BlockError β) :
    (check c e).result >>= f = if c then .error e else f () := by
  unfold check
  split
  · rfl
  · rfl

lemma result_ite (c : Prop) [Decidable c] (x y : Observed α) :
    (if c then x else y).result = if c then x.result else y.result := apply_ite result c x y

@[simp] lemma result_add (a b : Nat) : (add a b).result = .ok (a + b) := rfl

@[simp] lemma result_slice (bytes : Octets) (start stop : Nat) :
    (slice bytes start stop).result = bytes.slice start (stop - start) := rfl

@[simp] lemma result_word16 (bytes : Octets) (pos : Nat) :
    (word16 bytes pos).result = bytes.word16 pos := rfl

@[simp] lemma result_word32 (bytes : Octets) (pos : Nat) :
    (word32 bytes pos).result = bytes.word32 pos := rfl

/-! ### The decoder, observed -/

def transferHeader (bytes : Octets) : Observed TransferHeader := do
  check ((bytes.take 4).length < 4) (.truncated transferHeaderLen bytes.length)
  let signature ← word32 bytes 0
  check (signature ≠ transferSignature) (.invalidSignature signature)
  check ((bytes.take transferHeaderLen).length < transferHeaderLen)
    (.truncated transferHeaderLen bytes.length)
  let headerLen ← word16 bytes 4
  check (headerLen.toNat ≠ transferHeaderLen) (.invalidHeaderLength headerLen)
  return ⟨← word16 bytes 6, ← word16 bytes 8, ← word16 bytes 10⟩

/-- Reads the table header at `offset`; `outside` is the answer if it does not lie in the block. -/
def tableHeader (outside : Nat → BlockError) (block : Octets) (offset : Nat) : Observed TableHeader := do
  let stop ← add offset tableHeaderLen
  check (block.length < stop) (outside offset)
  let bytes ← slice block offset stop
  let signature ← word32 bytes 0
  check (signature ≠ tableSignature) (.invalidTableSignature offset signature)
  return ⟨← word16 bytes 4, ← word16 bytes 6⟩

def datagramPointer (entry : Octets) : Observed DatagramPointer := do
  return ⟨← word16 entry 0, ← word16 entry 2⟩

def datagrams (block : Octets) (size : Nat) : Octets → Observed (List Octets)
  | b0 :: b1 :: b2 :: b3 :: rest => do
    let entry ← slice (b0 :: b1 :: b2 :: b3 :: rest) 0 entryLen
    let pointer ← datagramPointer entry
    if pointer.isTerminator then
      return []
    let start := pointer.offset.toNat
    let stop ← add start pointer.length.toNat
    check (start < transferHeaderLen) (.pointerOutOfBounds start size)
    check (size < stop) (.truncated stop size)
    let frame ← slice block start stop
    return frame :: (← datagrams block size rest)
  | _ => return []

def tables (outside : Nat → BlockError) (block : Octets) (size : Nat) :
    (budget index : Nat) → Observed (List Octets)
  | 0, index => fail (.pointerOutOfBounds index size)
  | budget + 1, index => do
    check (index < transferHeaderLen) (.pointerOutOfBounds index size)
    let first ← add index tableHeaderLen
    check (size < first) (.pointerOutOfBounds index size)
    let table ← tableHeader outside block index
    let len := table.length.toNat
    check (len < tableHeaderLen) (.pointerOutOfBounds index size)
    let stop ← add index len
    check (size < stop) (.pointerOutOfBounds index size)
    let entries ← slice block first stop
    let frames ← datagrams block size entries
    if table.next = 0 then
      return frames
    return frames ++ (← tables outside block size budget table.next.toNat)

def decode (outside : Nat → BlockError) (bytes : Octets) : Observed (List Octets) := do
  let header ← transferHeader bytes
  let size := header.blockLen.toNat
  check (size < transferHeaderLen) (.truncated transferHeaderLen size)
  check ((bytes.take size).length < size) (.truncated size bytes.length)
  let block ← slice bytes 0 size
  tables outside block size (size / tableHeaderLen) header.tableIndex.toNat

/-! ### Observing changes nothing -/

lemma result_transferHeader (bytes : Octets) :
    (transferHeader bytes).result = TransferHeader.parse bytes := by
  simp only [transferHeader, TransferHeader.parse, result_bind, result_check_bind, result_word16,
    result_word32]
  rfl

/-- A table header that lies in the block is read as it is; what else would be answered does not matter. -/
lemma result_tableHeader (outside : Nat → BlockError) {block : Octets} {offset : Nat}
    (h : offset + tableHeaderLen ≤ block.length) :
    (tableHeader outside block offset).result = TableHeader.parse block offset := by
  simp only [tableHeader, TableHeader.parse, result_bind, result_check_bind, result_word16,
    result_word32, result_add, result_slice, Checks.ok_bind, if_neg (Nat.not_lt.2 h),
    Nat.add_sub_cancel_left, Octets.slice_of_le h, Octets.slice?_of_le h]
  rfl

lemma result_datagramPointer (entry : Octets) :
    (datagramPointer entry).result = DatagramPointer.parse entry := by
  simp only [datagramPointer, result_bind, result_word16]
  rfl

lemma result_datagrams (block : Octets) (size : Nat) (entries : Octets) :
    (datagrams block size entries).result = Decode.datagrams block size entries := by
  fun_induction datagrams block size entries with
  | case1 b0 b1 b2 b3 rest ih =>
    have hentry : Octets.slice (b0 :: b1 :: b2 :: b3 :: rest) 0 (entryLen - 0) = .ok [b0, b1, b2, b3] := rfl
    simp only [Decode.datagrams, result_bind, result_check_bind, result_ite, result_slice, result_add,
      result_datagramPointer, hentry, Checks.ok_bind, Nat.add_sub_cancel_left, ih]
    rfl
  | case2 entries hshort =>
    rw [Decode.datagrams]
    · rfl
    · exact hshort

/-- The bounds of a table header are checked before it is read, so the answer `outside` is not given. -/
lemma result_tables (outside : Nat → BlockError) (block : Octets) (budget index : Nat) :
    (tables outside block block.length budget index).result =
      Decode.tables block block.length budget index := by
  induction budget generalizing index with
  | zero => rfl
  | succ budget ih =>
    simp only [tables, Decode.tables, result_bind, result_check_bind, result_ite, result_add, result_slice,
      Checks.ok_bind, result_datagrams, ih, Bool.or_eq_true, decide_eq_true_eq]
    by_cases hlow : index < transferHeaderLen
    · rw [if_pos hlow, if_pos (.inl hlow)]
      rfl
    rw [if_neg hlow]
    by_cases hhigh : block.length < index + tableHeaderLen
    · rw [if_pos hhigh, if_pos (.inr hhigh)]
      rfl
    rw [if_neg hhigh, if_neg (not_or.2 ⟨hlow, hhigh⟩), result_tableHeader outside (Nat.not_lt.1 hhigh)]
    refine Checks.bind_congr_ok fun table _ => ?_
    by_cases hshort : table.length.toNat < tableHeaderLen
    · rw [if_pos hshort, if_pos (.inl hshort)]
      rfl
    rw [if_neg hshort]
    by_cases hlong : block.length < index + table.length.toNat
    · rw [if_pos hlong, if_pos (.inr hlong)]
      rfl
    rw [if_neg hlong, if_neg (not_or.2 ⟨hshort, hlong⟩), Nat.add_sub_add_left]
    rfl

lemma result_decode (outside : Nat → BlockError) (bytes : Octets) :
    (decode outside bytes).result = NcmBridge.decode bytes := by
  simp only [decode, NcmBridge.decode, result_bind, result_check_bind, result_transferHeader, result_slice]
  refine Checks.bind_congr_ok fun header _ => ?_
  by_cases hshort : header.blockLen.toNat < transferHeaderLen
  · rw [if_pos hshort, if_pos hshort]
    rfl
  rw [if_neg hshort, if_neg hshort]
  by_cases hcut : (bytes.take header.blockLen.toNat).length < header.blockLen.toNat
  · rw [if_pos hcut, if_pos hcut]
    rfl
  have hlen : (bytes.take header.blockLen.toNat).length = header.blockLen.toNat :=
    Nat.le_antisymm (List.length_take_le _ _) (Nat.not_lt.1 hcut)
  have hslice : bytes.slice 0 (header.blockLen.toNat - 0) = .ok (bytes.take header.blockLen.toNat) :=
    Octets.slice_eq_ok_iff.2 ⟨hlen, List.take_prefix _ _⟩
  have htables := result_tables outside (bytes.take header.blockLen.toNat)
  rw [hlen] at htables
  rw [if_neg hcut, if_neg hcut, hslice, Checks.ok_bind, htables]

/-! ### No access is out of bounds -/

/-- All accesses are safe, and if the block is refused then for its contents. -/
structure Sound (x : Observed α) : Prop where
  safe : ∀ a ∈ x.accesses, a.Safe
  malformed : ∀ e, x.result = .error e → e.isMalformed = true

namespace Sound

variable {x : Observed α} {f : α → Observed β} {bytes : Octets} {start stop pos : Nat}

protected lemma pure (a : α) : (pure a : Observed α).Sound := ⟨List.forall_mem_nil _, nofun⟩

lemma fail {e : BlockError} (h : e.isMalformed = true) : (fail e : Observed α).Sound := by
  refine ⟨List.forall_mem_nil _, ?_⟩
  rintro _ ⟨⟩
  exact h

/-- What follows a read has to be sound for what the read yields. -/
lemma bind (hx : x.Sound) (hf : ∀ a, x.result = .ok a → (f a).Sound) : (x >>= f).Sound := by
  obtain ⟨accesses, _ | a⟩ := x
  · refine ⟨hx.safe, ?_⟩
    rintro _ ⟨⟩
    exact hx.malformed _ rfl
  · have hrest := hf a rfl
    exact ⟨List.forall_mem_append.2 ⟨hx.safe, hrest.safe⟩, hrest.malformed⟩

/-- A check that fails has to refuse the block for its contents. -/
lemma check_bind {c : Prop} [Decidable c] {e : BlockError} {f : Unit → Observed β}
    (he : c → e.isMalformed = true) (hf : ¬c → (f ()).Sound) : (check c e >>= f).Sound := by
  by_cases hc : c
  · rw [check, if_pos hc]
    exact bind (fail (he hc)) nofun
  · rw [check, if_neg hc]
    exact bind (.pure ()) fun _ _ => hf hc

/-- No sum of two words of 16 bits is too large. -/
lemma add_bind {a b : Nat} {f : Nat → Observed β} (ha : a < UInt16.size) (hb : b < UInt16.size)
    (hf : (f (a + b)).Sound) : (add a b >>= f).Sound := by
  have hsum : a + b < UInt32.size := (Nat.add_lt_add ha hb).trans (by decide)
  refine bind ⟨List.forall_mem_singleton.2 hsum, nofun⟩ ?_
  rintro _ ⟨⟩
  exact hf

/-- Bytes that are there are taken. -/
lemma slice_bind {f : Octets → Observed β} (hle : start ≤ stop) (hstop : stop ≤ bytes.length)
    (hf : ∀ piece, piece.length = stop - start → (f piece).Sound) : (slice bytes start stop >>= f).Sound := by
  refine bind ⟨List.forall_mem_singleton.2 ⟨hle, hstop⟩, ?_⟩ ?_
  · intro e he
    rw [result_slice, Octets.slice_of_le (by omega)] at he
    cases he
  · intro piece hpiece
    exact hf piece (Octets.slice_eq_ok_iff.1 hpiece).1

lemma word16_bind {f : UInt16 → Observed β} (h : pos + 2 ≤ bytes.length) (hf : ∀ w, (f w).Sound) :
    (word16 bytes pos >>= f).Sound := by
  refine bind ⟨List.forall_mem_singleton.2 ⟨Nat.le_add_right _ _, h⟩, ?_⟩ fun w _ => hf w
  intro e he
  obtain ⟨w, hw⟩ := Octets.exists_word16_of_le h
  cases hw.symm.trans he

lemma word32_bind {f : UInt32 → Observed β} (h : pos + 4 ≤ bytes.length) (hf : ∀ w, (f w).Sound) :
    (word32 bytes pos >>= f).Sound := by
  refine bind ⟨List.forall_mem_singleton.2 ⟨Nat.le_add_right _ _, h⟩, ?_⟩ fun w _ => hf w
  intro e he
  obtain ⟨w, hw⟩ := Octets.exists_word32_of_le h
  cases hw.symm.trans he

end Sound

lemma sound_transferHeader (bytes : Octets) : (transferHeader bytes).Sound := by
  refine .check_bind (fun _ => rfl) fun hfour => ?_
  rw [List.length_take] at hfour
  refine .word32_bind (by omega) fun signature => ?_
  refine .check_bind (fun _ => rfl) fun _ => ?_
  refine .check_bind (fun _ => rfl) fun htwelve => ?_
  rw [List.length_take, transferHeaderLen] at htwelve
  refine .word16_bind (by omega) fun headerLen => ?_
  refine .check_bind (fun _ => rfl) fun _ => ?_
  refine .word16_bind (by omega) fun sequence => ?_
  refine .word16_bind (by omega) fun blockLen => ?_
  exact .word16_bind (by omega) fun tableIndex => .pure _

lemma sound_tableHeader {outside : Nat → BlockError} {block : Octets} {offset : Nat}
    (hoffset : offset < UInt16.size) (h : offset + tableHeaderLen ≤ block.length) :
    (tableHeader outside block offset).Sound := by
  refine .add_bind hoffset (by decide) ?_
  refine .check_bind (fun hlt => absurd h (Nat.not_le.2 hlt)) fun _ => ?_
  refine .slice_bind (Nat.le_add_right _ _) h fun bytes hbytes => ?_
  rw [Nat.add_sub_cancel_left, tableHeaderLen] at hbytes
  refine .word32_bind (by omega) fun signature => ?_
  refine .check_bind (fun _ => rfl) fun _ => ?_
  refine .word16_bind (by omega) fun length => ?_
  exact .word16_bind (by omega) fun next => .pure _

lemma sound_datagramPointer {entry : Octets} (h : entry.length = entryLen) :
    (datagramPointer entry).Sound := by
  rw [entryLen] at h
  refine .word16_bind (by omega) fun offset => ?_
  exact .word16_bind (by omega) fun length => .pure _

/-- Each datagram is checked to lie in the block before it is taken. -/
lemma sound_datagrams (block entries : Octets) : (datagrams block block.length entries).Sound := by
  fun_induction datagrams block block.length entries with
  | case1 b0 b1 b2 b3 rest ih =>
    refine .slice_bind (Nat.zero_le _) (by simp [entryLen]) fun entry hentry => ?_
    refine .bind (sound_datagramPointer hentry) fun pointer _ => ?_
    split
    · exact .pure []
    refine .add_bind pointer.offset.toNat_lt pointer.length.toNat_lt ?_
    refine .check_bind (fun _ => rfl) fun _ => ?_
    refine .check_bind (fun _ => rfl) fun hfits => ?_
    refine .slice_bind (Nat.le_add_right _ _) (Nat.not_lt.1 hfits) fun frame _ => ?_
    exact .bind ih fun frames _ => .pure _
  | case2 entries hshort => exact .pure []

/-- Each table is checked to lie in the block before its header and its entries are taken. -/
lemma sound_tables (outside : Nat → BlockError) (block : Octets) (budget : Nat) {index : Nat}
    (hindex : index < UInt16.size) : (tables outside block block.length budget index).Sound := by
  induction budget generalizing index with
  | zero => exact .fail rfl
  | succ budget ih =>
    refine .check_bind (fun _ => rfl) fun _ => ?_
    refine .add_bind hindex (by decide) ?_
    refine .check_bind (fun _ => rfl) fun hheader => ?_
    refine .bind (sound_tableHeader hindex (Nat.not_lt.1 hheader)) fun table _ => ?_
    refine .check_bind (fun _ => rfl) fun hshort => ?_
    refine .add_bind hindex table.length.toNat_lt ?_
    refine .check_bind (fun _ => rfl) fun hlong => ?_
    refine .slice_bind (Nat.add_le_add_left (Nat.not_lt.1 hshort) _) (Nat.not_lt.1 hlong) fun entries _ => ?_
    refine .bind (sound_datagrams block entries) fun frames _ => ?_
    split
    · exact .pure frames
    · exact .bind (ih table.next.toNat_lt) fun rest _ => .pure _

lemma sound_decode (outside : Nat → BlockError) (bytes : Octets) : (decode outside bytes).Sound := by
  refine .bind (sound_transferHeader bytes) fun header _ => ?_
  refine .check_bind (fun _ => rfl) fun _ => ?_
  refine .check_bind (fun _ => rfl) fun hcut => ?_
  have hsize : header.blockLen.toNat ≤ bytes.length := (Nat.not_lt.1 hcut).trans (List.length_take_le' _ _)
  refine .slice_bind (Nat.zero_le _) hsize fun block hblock => ?_
  rw [Nat.sub_zero] at hblock
  rw [← hblock]
  exact sound_tables outside block _ header.tableIndex.toNat_lt

end Observed

end NcmBridge
