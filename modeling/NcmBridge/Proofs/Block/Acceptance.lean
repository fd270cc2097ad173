import Mathlib.Data.List.Nodup
import NcmBridge.Proofs.Block.Grammar

/-!
# The decoder accepts exactly the grammar

`decode` succeeds on a string of bytes exactly when the grammar describes it, and then yields the
datagrams in the order of the tables and of their entries. The bound on the number of tables ends every
cycle, and tables whose headers do not overlap never reach it.
-/

namespace NcmBridge

open Grammar Octets

namespace Decode

/-! ### Entries of one table -/

lemma parse_entry (b0 b1 b2 b3 : UInt8) (rest : Octets) :
    DatagramPointer.parse [b0, b1, b2, b3] = .ok (entryAt (b0 :: b1 :: b2 :: b3 :: rest) 0) := rfl

lemma entries_cons_four (b0 b1 b2 b3 : UInt8) (rest : Octets) :
    entries (b0 :: b1 :: b2 :: b3 :: rest) 0 (b0 :: b1 :: b2 :: b3 :: rest).length =
      entryAt (b0 :: b1 :: b2 :: b3 :: rest) 0 :: entries rest 0 rest.length := by
  rw [show (b0 :: b1 :: b2 :: b3 :: rest).length = rest.length + 4 from rfl, entries_add_four,
    Nat.zero_add]
  exact congrArg _ (entries_drop (b0 :: b1 :: b2 :: b3 :: rest) 4 0 rest.length).symm

lemma slice_eq_ok_iff_datagram {block frame : Octets} {p : DatagramPointer}
    (h : p.offset.toNat + p.length.toNat ≤ block.length) :
    block.slice p.offset.toNat p.length.toNat = .ok frame ↔ frame = datagram block p := by
  rw [slice_eq_ok_iff, datagram]
  constructor
  · rintro ⟨hlen, hpre⟩
    rw [List.prefix_iff_eq_take, hlen] at hpre
    exact hpre
  · rintro rfl
    refine ⟨?_, List.take_prefix _ _⟩
    rw [List.length_take, List.length_drop]
    omega

/-- The entries of an area are followed up to the first with a zero, and each names a datagram. -/
lemma datagrams_eq_ok_iff {block area : Octets} {fs : List Octets} :
    datagrams block block.length area = .ok fs ↔
      (∀ p ∈ listed (entries area 0 area.length), Within block.length p) ∧
        fs = (listed (entries area 0 area.length)).map (datagram block) := by
  induction area using datagrams.induct generalizing fs with
  | case1 b0 b1 b2 b3 rest ih =>
    rw [entries_cons_four]
    simp only [datagrams, parse_entry b0 b1 b2 b3 rest, Checks.bind_eq_ok_iff, Except.ok.injEq,
      exists_eq_left']
    generalize entryAt (b0 :: b1 :: b2 :: b3 :: rest) 0 = p
    by_cases hp : p.isTerminator = true
    · rw [listed_cons_of_isTerminator hp, if_pos hp, Checks.pure_eq_ok_iff]
      constructor
      · rintro rfl
        exact ⟨by simp, rfl⟩
      · rintro ⟨-, rfl⟩
        rfl
    · rw [listed_cons_of_not_isTerminator (Bool.not_eq_true _ ▸ hp), if_neg hp]
      simp only [Checks.unless_throw_eq_ok_iff, Checks.bind_eq_ok_iff, Checks.pure_eq_ok_iff,
        List.forall_mem_cons, List.map_cons, Nat.not_lt, ih]
      constructor
      · rintro ⟨hpast, hfits, frame, hslice, _, ⟨hrest, rfl⟩, rfl⟩
        rw [slice_eq_ok_iff_datagram hfits] at hslice
        exact ⟨⟨⟨hpast, hfits⟩, hrest⟩, by rw [hslice]⟩
      · rintro ⟨⟨⟨hpast, hfits⟩, hrest⟩, rfl⟩
        exact ⟨hpast, hfits, _, (slice_eq_ok_iff_datagram hfits).2 rfl, _, ⟨hrest, rfl⟩, rfl⟩
  | case2 area h =>
    have hlt : area.length < 4 := by
      match area, h with
      | [], _ | [_], _ | [_, _], _ | [_, _, _], _ => simp
      | b0 :: b1 :: b2 :: b3 :: rest, h => exact absurd rfl (h b0 b1 b2 b3 rest)
    rw [entries_of_lt_four hlt, datagrams.eq_2 _ _ _ h, Checks.pure_eq_ok_iff]
    constructor
    · rintro rfl
      exact ⟨by simp, rfl⟩
    · rintro ⟨-, rfl⟩
      rfl

/-! ### The chain of tables -/

/-- Reading the entries of a table yields its datagrams. -/
lemma area_eq_ok_iff {block : Octets} {t : Table} (ht : t.Stands block block.length)
    {fs : List Octets} :
    (∃ area, block.slice (t.offset + 8) (t.header.length.toNat - 8) = .ok area ∧
        datagrams block block.length area = .ok fs) ↔
      (∀ p ∈ t.pointers block, Within block.length p) ∧ fs = t.datagrams block := by
  obtain ⟨-, -, -, hlen, hfits⟩ := ht
  have harea : ((block.drop (t.offset + 8)).take (t.header.length.toNat - 8)).length =
      t.header.length.toNat - 8 := by
    rw [List.length_take, List.length_drop]
    omega
  have hentries : entries ((block.drop (t.offset + 8)).take (t.header.length.toNat - 8)) 0
      (t.header.length.toNat - 8) = entries block (t.offset + 8) (t.header.length.toNat - 8) := by
    rw [entries_take (by omega), entries_drop, Nat.add_zero]
  simp only [slice_eq_ok_iff, datagrams_eq_ok_iff, Table.datagrams, Table.pointers]
  rw [← hentries]
  constructor
  · rintro ⟨area, ⟨hlen', hpre⟩, h⟩
    rw [List.prefix_iff_eq_take, hlen'] at hpre
    rw [← hpre, ← hlen']
    exact h
  · intro h
    refine ⟨_, ⟨harea, List.take_prefix _ _⟩, ?_⟩
    rw [harea]
    exact h

/-- The bounds that are checked before a table is read, and after its header, are those of a table
that stands in the block. -/
lemma stands_iff {block : Octets} {t : Table} :
    t.Stands block block.length ↔
      ¬(t.offset < transferHeaderLen || block.length < t.offset + tableHeaderLen) = true ∧
        TableHeader.parse block t.offset = .ok t.header ∧
          ¬(t.header.length.toNat < tableHeaderLen ||
            block.length < t.offset + t.header.length.toNat) = true := by
  simp only [Bool.or_eq_true, decide_eq_true_eq, not_or, Nat.not_lt, TableHeader.parse_eq_ok_iff]
  constructor
  · rintro ⟨hpast, hhead, hw, hlen, hfits⟩
    exact ⟨⟨hpast, hhead⟩, hw, hlen, hfits⟩
  · rintro ⟨⟨hpast, hhead⟩, hw, hlen, hfits⟩
    exact ⟨hpast, hhead, hw, hlen, hfits⟩

/-- One table is followed, and then the chain from the index that it names. -/
lemma tables_succ_eq_ok_iff {block : Octets} {budget i : Nat} {fs : List Octets} :
    tables block block.length (budget + 1) i = .ok fs ↔
      ∃ t : Table, t.offset = i ∧ t.Stands block block.length ∧
        (∀ p ∈ t.pointers block, Within block.length p) ∧
          if t.header.next = 0 then fs = t.datagrams block
          else ∃ rest, tables block block.length budget t.header.next.toNat = .ok rest ∧
            fs = t.datagrams block ++ rest := by
  simp only [tables, Checks.unless_throw_eq_ok_iff, Checks.bind_eq_ok_iff]
  constructor
  · rintro ⟨hbounds, header, hparse, hlen, area, harea, ds, hds, h⟩
    have ht : Table.Stands ⟨i, header⟩ block block.length := stands_iff.2 ⟨hbounds, hparse, hlen⟩
    obtain ⟨hwithin, rfl⟩ := (area_eq_ok_iff ht).1 ⟨area, harea, hds⟩
    refine ⟨⟨i, header⟩, rfl, ht, hwithin, ?_⟩
    split at h
    next hnext =>
      rw [if_pos hnext]
      exact (Checks.pure_eq_ok_iff.1 h).symm
    next hnext =>
      rw [if_neg hnext]
      obtain ⟨rest, hrest, h⟩ := Checks.bind_eq_ok_iff.1 h
      exact ⟨rest, hrest, (Checks.pure_eq_ok_iff.1 h).symm⟩
  · rintro ⟨⟨i, header⟩, rfl, ht, hwithin, h⟩
    obtain ⟨hbounds, hparse, hlen⟩ := stands_iff.1 ht
    obtain ⟨area, harea, hds⟩ := (area_eq_ok_iff ht).2 ⟨hwithin, rfl⟩
    refine ⟨hbounds, header, hparse, hlen, area, harea, _, hds, ?_⟩
    split at h
    next hnext =>
      rw [if_pos hnext]
      exact Checks.pure_eq_ok_iff.2 h.symm
    next hnext =>
      rw [if_neg hnext]
      obtain ⟨rest, hrest, h⟩ := h
      exact Checks.bind_eq_ok_iff.2 ⟨rest, hrest, Checks.pure_eq_ok_iff.2 h.symm⟩

/-- The decoder follows exactly the paths of at most `budget` tables that end in the index 0. -/
lemma tables_eq_ok_iff {block : Octets} {budget i : Nat} {fs : List Octets} :
    tables block block.length budget i = .ok fs ↔
      ∃ ts, ts ≠ [] ∧ Path block block.length i ts 0 ∧ ts.length ≤ budget ∧
        (∀ t ∈ ts, ∀ p ∈ t.pointers block, Within block.length p) ∧
          fs = ts.flatMap (Table.datagrams · block) := by
  induction budget generalizing i fs with
  | zero =>
    simp only [tables, throw, throwThe, MonadExceptOf.throw, reduceCtorEq, Nat.le_zero,
      List.length_eq_zero_iff, false_iff]
    rintro ⟨ts, hne, -, hnil, -⟩
    exact hne hnil
  | succ budget ih =>
    rw [tables_succ_eq_ok_iff]
    constructor
    · rintro ⟨t, rfl, ht, hwithin, h⟩
      split at h
      next hnext =>
        refine ⟨[t], by simp, .cons t ht ?_, by simp, by simpa using hwithin, by simpa using h⟩
        rw [hnext]
        exact .nil 0
      next hnext =>
        obtain ⟨rest, hrest, rfl⟩ := h
        obtain ⟨ts, -, hpath, hlen, hall, rfl⟩ := ih.1 hrest
        refine ⟨t :: ts, by simp, .cons t ht hpath, by simpa using hlen, ?_, rfl⟩
        exact List.forall_mem_cons.2 ⟨hwithin, hall⟩
    · rintro ⟨ts, hne, hpath, hlen, hall, rfl⟩
      cases hpath with
      | nil => exact absurd rfl hne
      | @cons t ts _ ht hpath =>
        obtain ⟨hwithin, hall⟩ := List.forall_mem_cons.1 hall
        refine ⟨t, rfl, ht, hwithin, ?_⟩
        split
        next hnext =>
          rw [hnext] at hpath
          rw [hpath.eq_nil_of_zero]
          simp
        next hnext =>
          refine ⟨_, ih.2 ⟨ts, ?_, hpath, by simpa using hlen, hall, rfl⟩, rfl⟩
          rintro rfl
          exact hnext (UInt16.toNat_inj.1 hpath.eq_of_nil)

/-- The same of a block that is cut off from longer bytes. -/
lemma tables_take_eq_ok_iff {b : Octets} {size budget i : Nat} {fs : List Octets}
    (hsize : size ≤ b.length) :
    tables (b.take size) size budget i = .ok fs ↔
      ∃ ts, ts ≠ [] ∧ Path b size i ts 0 ∧ ts.length ≤ budget ∧
        (∀ t ∈ ts, ∀ p ∈ t.pointers b, Within size p) ∧ fs = ts.flatMap (Table.datagrams · b) := by
  have hiff : tables (b.take size) (b.take size).length budget i = .ok fs ↔ _ := tables_eq_ok_iff
  rw [List.length_take, Nat.min_eq_left hsize] at hiff
  rw [hiff]
  apply exists_congr
  intro ts
  rw [Path.take_iff]
  apply and_congr_right
  intro _
  apply and_congr_right
  intro hpath
  apply and_congr_right
  intro _
  have hpointers : ∀ t ∈ ts, t.pointers (b.take size) = t.pointers b := fun t ht =>
    Table.pointers_take (hpath.stands t ht)
  have hwithin : (∀ t ∈ ts, ∀ p ∈ t.pointers (b.take size), Within size p) ↔
      ∀ t ∈ ts, ∀ p ∈ t.pointers b, Within size p :=
    forall₂_congr fun t ht => by rw [hpointers t ht]
  rw [hwithin]
  apply and_congr_right
  intro hall
  have hdatagrams : ts.flatMap (Table.datagrams · (b.take size)) = ts.flatMap (Table.datagrams · b) :=
    List.flatMap_congr fun t ht => Table.datagrams_take (hpath.stands t ht) (hall t ht)
  rw [hdatagrams]

/-- A budget that no path reaches does not matter. -/
lemma tables_add (block : Octets) (budget extra : Nat) {i : Nat}
    (h : ∀ ts j, Path block block.length i ts j → ts.length < budget) :
    tables block block.length (budget + extra) i = tables block block.length budget i := by
  induction budget generalizing i with
  | zero => exact absurd (h [] i (.nil i)) (Nat.not_lt_zero _)
  | succ budget ih =>
    rw [Nat.add_right_comm]
    by_cases hbounds : (i < transferHeaderLen || block.length < i + tableHeaderLen) = true
    · simp only [tables, if_pos hbounds]
      rfl
    · simp only [tables, if_neg hbounds]
      apply Checks.bind_congr_ok
      intro header hparse
      split
      next hlen => rfl
      next hlen =>
        have ht : Table.Stands ⟨i, header⟩ block block.length := stands_iff.2 ⟨hbounds, hparse, hlen⟩
        rw [ih fun ts j hpath => Nat.lt_of_succ_lt_succ (h _ j (.cons ⟨i, header⟩ ht hpath))]

end Decode

/-! ### Whole blocks -/

/-- A string of bytes decodes exactly when the grammar describes it. -/
lemma decode_eq_ok_iff {b : Octets} {fs : List Octets} :
    decode b = .ok fs ↔ ∃ h ts, Describes b h ts ∧ fs = ts.flatMap (Table.datagrams · b) := by
  simp only [decode, Checks.unless_throw_eq_ok_iff, Checks.bind_eq_ok_iff,
    TransferHeader.parse_eq_ok_iff, Nat.not_lt, List.length_take, Nat.le_min, le_refl, true_and]
  constructor
  · rintro ⟨h, hopens, hmin, hcomplete, htables⟩
    obtain ⟨ts, hne, hpath, hfew, hwithin, rfl⟩ := (Decode.tables_take_eq_ok_iff hcomplete).1 htables
    exact ⟨h, ts, ⟨hopens, hmin, hcomplete, hne, hpath, hfew, hwithin⟩, rfl⟩
  · rintro ⟨h, ts, ⟨hopens, hmin, hcomplete, hne, hpath, hfew, hwithin⟩, rfl⟩
    exact ⟨h, hopens, hmin, hcomplete,
      (Decode.tables_take_eq_ok_iff hcomplete).2 ⟨ts, hne, hpath, hfew, hwithin, rfl⟩⟩

/-- Bytes past the declared size do not matter, not even for the error. -/
lemma decode_congr {b b' : Octets} {h : TransferHeader} (hopens : h.encode <+: b)
    (hmin : 12 ≤ h.blockLen.toNat) (heq : b'.take h.blockLen.toNat = b.take h.blockLen.toNat) :
    decode b' = decode b := by
  have hopens' : h.encode <+: b' := by
    have htake : h.encode <+: b'.take h.blockLen.toNat := by
      rw [heq]
      exact List.prefix_take_iff.2 ⟨hopens, hmin⟩
    exact (List.prefix_take_iff.1 htake).1
  have hlen : b.length < h.blockLen.toNat → b'.length = b.length := by
    intro hlt
    have := congrArg List.length heq
    rw [List.length_take, List.length_take] at this
    omega
  unfold decode
  rw [TransferHeader.parse_eq_ok_iff.2 hopens, TransferHeader.parse_eq_ok_iff.2 hopens']
  simp only [bind, Except.bind, heq]
  by_cases hlt : b.length < h.blockLen.toNat
  · rw [hlen hlt]
  · rw [List.length_take, Nat.min_eq_left (Nat.not_lt.1 hlt), if_neg (Nat.lt_irrefl _),
      if_neg (Nat.lt_irrefl _)]

/-- A chain that leads back to one of its tables is refused. -/
lemma decode_of_transGen_self {b : Octets} {h : TransferHeader} {i : Nat} (hopens : h.encode <+: b)
    (hreach : Relation.ReflTransGen (Links b) h.tableIndex.toNat i)
    (hback : Relation.TransGen (Links b) i i) : ∃ e, decode b = .error e := by
  cases hd : decode b with
  | error e => exact ⟨e, rfl⟩
  | ok fs =>
    exfalso
    obtain ⟨h', ts, hdesc, -⟩ := decode_eq_ok_iff.1 hd
    obtain rfl : h' = h := TransferHeader.eq_of_encode_prefix hdesc.opens hopens
    have hne : h'.tableIndex.toNat ≠ 0 := by
      intro hzero
      have hpath := hdesc.path
      rw [hzero] at hpath
      exact hdesc.nonempty hpath.eq_nil_of_zero
    rcases Relation.reflTransGen_iff_eq_or_transGen.1 hreach with rfl | hreach
    · exact Links.not_transGen_self hback hne hdesc.path
    · obtain ⟨us, -, hus⟩ := Links.transGen_path hreach hne hdesc.path
      exact Links.not_transGen_self hback (Links.transGen_ne_zero hreach) hus

/-- After the checks of the header the tables decide. -/
lemma decode_of_opens {b : Octets} {h : TransferHeader} (hopens : h.encode <+: b)
    (hmin : 12 ≤ h.blockLen.toNat) (hcomplete : h.blockLen.toNat ≤ b.length) :
    decode b = Decode.tables (b.take h.blockLen.toNat) h.blockLen.toNat (h.blockLen.toNat / 8)
      h.tableIndex.toNat := by
  unfold decode
  rw [TransferHeader.parse_eq_ok_iff.2 hopens]
  simp only [bind, Except.bind, List.length_take, Nat.min_eq_left hcomplete, Nat.lt_irrefl, if_false]
  exact if_neg (show ¬h.blockLen.toNat < transferHeaderLen from Nat.not_lt.2 hmin)

/-- A table budget does not matter for tables whose headers do not overlap. -/
lemma tables_eq_decode {b : Octets} {h : TransferHeader} {budget : Nat} (hopens : h.encode <+: b)
    (hmin : 12 ≤ h.blockLen.toNat) (hcomplete : h.blockLen.toNat ≤ b.length)
    (hapart : ∀ ts j, Path b h.blockLen.toNat h.tableIndex.toNat ts j → ts.Pairwise Table.Apart)
    (hbudget : h.blockLen.toNat / 8 ≤ budget) :
    Decode.tables (b.take h.blockLen.toNat) h.blockLen.toNat budget h.tableIndex.toNat = decode b := by
  obtain ⟨extra, rfl⟩ := Nat.exists_eq_add_of_le hbudget
  have hlen : (b.take h.blockLen.toNat).length = h.blockLen.toNat := by
    rw [List.length_take, Nat.min_eq_left hcomplete]
  have hadd := Decode.tables_add (b.take h.blockLen.toNat) (h.blockLen.toNat / 8) extra
    (i := h.tableIndex.toNat)
  rw [hlen] at hadd
  rw [hadd, decode_of_opens hopens hmin hcomplete]
  intro ts j hpath
  rw [Path.take_iff] at hpath
  exact hpath.length_lt_of_apart (hapart ts j hpath) hmin

/-- `decode` accepts exactly what the grammar describes, and yields the datagrams in the order of the
tables and of their entries. So bytes past the declared size do not matter, a chain that comes back to a
table is refused, and no chain of tables with separate headers is refused for its length. -/
theorem decode_accepts_exactly_the_grammar :
    (∀ (b : Octets) (fs : List Octets),
      decode b = .ok fs ↔ ∃ h ts, Describes b h ts ∧ fs = ts.flatMap (Table.datagrams · b)) ∧
    (∀ (b b' : Octets) (h : TransferHeader), h.encode <+: b → 12 ≤ h.blockLen.toNat →
      b'.take h.blockLen.toNat = b.take h.blockLen.toNat → decode b' = decode b) ∧
    (∀ (b : Octets) (h : TransferHeader) (i : Nat), h.encode <+: b →
      Relation.ReflTransGen (Links b) h.tableIndex.toNat i → Relation.TransGen (Links b) i i →
      ∃ e, decode b = .error e) ∧
    ∀ (b : Octets) (h : TransferHeader), h.encode <+: b → 12 ≤ h.blockLen.toNat →
      h.blockLen.toNat ≤ b.length →
      (∀ ts j, Path b h.blockLen.toNat h.tableIndex.toNat ts j → ts.Pairwise Table.Apart) →
      (∀ ts j, Path b h.blockLen.toNat h.tableIndex.toNat ts j →
        ts.length < h.blockLen.toNat / 8) ∧
      ∀ budget, h.blockLen.toNat / 8 ≤ budget →
        Decode.tables (b.take h.blockLen.toNat) h.blockLen.toNat budget h.tableIndex.toNat =
          decode b := by
  refine ⟨fun b fs => decode_eq_ok_iff, ?_, ?_, ?_⟩
  · intro b b' h hopens hmin heq
    exact decode_congr hopens hmin heq
  · intro b h i hopens hreach hback
    exact decode_of_transGen_self hopens hreach hback
  · intro b h hopens hmin hcomplete hapart
    refine ⟨?_, ?_⟩
    · intro ts j hpath
      exact hpath.length_lt_of_apart (hapart ts j hpath) hmin
    · intro budget hbudget
      exact tables_eq_decode hopens hmin hcomplete hapart hbudget

/-- A block whose first table lies behind its second; the second names the index `next`. -/
def backwardBlock (next : UInt16) : Octets :=
  (TransferHeader.mk 7 44 28).encode ++ (TableHeader.mk 12 next).encode ++ [40, 0, 4, 0] ++ zeros 4 ++
    (TableHeader.mk 12 12).encode ++ [42, 0, 2, 0] ++ [0xa1, 0xa2, 0xa3, 0xa4]

theorem decode_accepts_exactly_the_grammar_backward :
    (∃ h ts, Describes (backwardBlock 0) h ts ∧
      [[0xa3, 0xa4], [0xa1, 0xa2, 0xa3, 0xa4]] = ts.flatMap (Table.datagrams · (backwardBlock 0))) ∧
    decode (backwardBlock 0 ++ [1, 2, 3]) = decode (backwardBlock 0) ∧
    (∃ e, decode (backwardBlock 28) = .error e) ∧
    Decode.tables (backwardBlock 0) 44 1000 28 = decode (backwardBlock 0) := by
  obtain ⟨hiff, hcongr, hback, hbudget⟩ := decode_accepts_exactly_the_grammar
  refine ⟨?_, ?_, ?_, ?_⟩
  · exact (hiff _ _).1 (by decide)
  · exact hcongr _ _ ⟨7, 44, 28⟩ ⟨_, rfl⟩ (by decide) (by decide)
  · have hto : Links (backwardBlock 28) 28 12 := ⟨⟨12, 12⟩, by decide, rfl, by decide⟩
    have hfrom : Links (backwardBlock 28) 12 28 := ⟨⟨12, 28⟩, by decide, rfl, by decide⟩
    exact hback _ ⟨7, 44, 28⟩ 28 ⟨_, rfl⟩ .refl (.tail (.single hto) hfrom)
  · refine (hbudget (backwardBlock 0) ⟨7, 44, 28⟩ ⟨_, rfl⟩ (by decide) (by decide) ?_).2 1000 (by decide)
    intro ts j hpath
    have hfirst : (TableHeader.mk 12 12).encode <+: (backwardBlock 0).drop 28 := by decide
    have hsecond : (TableHeader.mk 12 0).encode <+: (backwardBlock 0).drop 12 := by decide
    rcases hpath.eq_nil_or_cons hfirst with rfl | ⟨us, rfl, hfrom⟩
    · simp
    · rcases hfrom.eq_nil_or_cons hsecond with rfl | ⟨vs, rfl, hend⟩
      · simp
      · rw [hend.eq_nil_of_zero]
        simp [Table.Apart]

end NcmBridge
