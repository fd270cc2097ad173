import Mathlib.Algebra.Order.Ring.Nat
import Mathlib.Order.Interval.Finset.Nat
import Mathlib.Tactic.Ring
import NcmBridge.Proofs.Tap.Name
import NcmBridge.Supervisor.InterfaceNames

/-!
# Names of interfaces are stable, unique and usable

Names with numbers of the same length differ, so fewer than 9 · 10^d names cannot take all those with
d + 1 digits, and the search for a free name ends. What it finds is short enough and holds no character
that the base name and the serial did not bring along, other than digits and a dash.
-/

namespace NcmBridge

open String (utf8Len)

namespace InterfaceNames

/-! ### Cutting to a length -/

lemma fit_isPrefix (max : Nat) (cs : List Char) : fit max cs <+: cs := by
  induction cs generalizing max with
  | nil => exact List.prefix_rfl
  | cons c cs ih =>
    rw [fit]
    split
    · exact (List.prefix_cons_inj c).2 (ih _)
    · exact List.nil_prefix

lemma utf8Len_fit_le (max : Nat) (cs : List Char) : utf8Len (fit max cs) ≤ max := by
  induction cs generalizing max with
  | nil => exact Nat.zero_le _
  | cons c cs ih =>
    rw [fit]
    split
    · have htail := ih (max - c.utf8Size)
      rw [String.utf8Len_cons]
      omega
    · exact Nat.zero_le _

/-- What is short enough at the start stays. -/
lemma prefix_fit_append {max : Nat} {as : List Char} (h : utf8Len as ≤ max) (bs : List Char) :
    as <+: fit max (as ++ bs) := by
  induction as generalizing max with
  | nil => exact List.nil_prefix
  | cons a as ih =>
    rw [String.utf8Len_cons] at h
    rw [List.cons_append, fit, if_pos (by omega)]
    exact (List.prefix_cons_inj a).2 (ih (by omega))

/-! ### Names with a number -/

lemma isAlphanum_of_mem_toDigits {tag : Nat} {c : Char} (h : c ∈ Nat.toDigits 10 tag) :
    c.isAlphanum = true := by
  have hdigit := Nat.isDigit_of_mem_toDigits (by decide) (by decide) h
  rw [Char.isAlphanum, hdigit, Bool.or_true]

lemma utf8Len_of_alphanum {cs : List Char} (h : ∀ c ∈ cs, c.isAlphanum = true) :
    utf8Len cs = cs.length := by
  induction cs with
  | nil => rfl
  | cons c cs ih =>
    obtain ⟨hc, hcs⟩ := List.forall_mem_cons.1 h
    rw [String.utf8Len_cons, ih hcs, (Tap.of_isAlphanum hc).1, List.length_cons]

lemma length_toDigits_of_lt {d tag : Nat} (hle : 10 ^ d ≤ tag) (hlt : tag < 10 ^ (d + 1)) :
    (Nat.toDigits 10 tag).length = d + 1 := by
  have hupper := (Nat.length_toDigits_le_iff (b := 10) (by decide) d.succ_pos).2 hlt
  rcases Nat.eq_zero_or_pos d with rfl | hd
  · exact Nat.le_antisymm hupper Nat.length_toDigits_pos
  · have hlower : ¬(Nat.toDigits 10 tag).length ≤ d := by
      rw [Nat.length_toDigits_le_iff (by decide) hd]
      omega
    omega

/-- Of one candidate, two numbers of the same length make different names. -/
lemma eq_of_tagged_eq {candidate : String} {s t : Nat}
    (hlen : (Nat.toDigits 10 s).length = (Nat.toDigits 10 t).length)
    (h : tagged candidate s = tagged candidate t) : s = t := by
  have hlist := String.ofList_inj.1 h
  rw [hlen] at hlist
  have hdigits := List.append_cancel_left hlist
  rw [← Nat.ofDigitChars_ten_toDigits (n := s), hdigits, Nat.ofDigitChars_ten_toDigits]

/-! ### The search for a free name -/

variable {n : InterfaceNames} {candidate : String}

lemma isTaken_iff {name : String} : n.isTaken name = true ↔ name ∈ n.assigned.map Prod.snd := by
  simp [isTaken]

/-- Some name is free among those whose number has `d + 1` digits, if fewer names were given than there
are such numbers. -/
lemma exists_free {d : Nat} (h : n.assigned.length < 9 * 10 ^ d) (candidate : String) :
    ∃ tag, 10 ^ d ≤ tag ∧ tag < 10 ^ (d + 1) ∧ n.isTaken (tagged candidate tag) = false := by
  by_contra hnone
  have htaken : ∀ tag ∈ Finset.Ico (10 ^ d) (10 ^ (d + 1)),
      tagged candidate tag ∈ (n.assigned.map Prod.snd).toFinset := by
    intro tag htag
    obtain ⟨hle, hlt⟩ := Finset.mem_Ico.1 htag
    rw [List.mem_toFinset, ← isTaken_iff, ← Bool.not_eq_false]
    exact fun hfree => hnone ⟨tag, hle, hlt, hfree⟩
  have hinj : Set.InjOn (tagged candidate) (Finset.Ico (10 ^ d) (10 ^ (d + 1)) : Finset Nat) := by
    intro s hs t ht heq
    obtain ⟨hs, hs'⟩ := Finset.mem_Ico.1 hs
    obtain ⟨ht, ht'⟩ := Finset.mem_Ico.1 ht
    exact eq_of_tagged_eq
      ((length_toDigits_of_lt hs hs').trans (length_toDigits_of_lt ht ht').symm) heq
  have hcard := Finset.card_le_card_of_injOn _ htaken hinj
  have hnames := List.toFinset_card_le (n.assigned.map Prod.snd)
  rw [Nat.card_Ico, pow_succ] at hcard
  rw [List.length_map] at hnames
  omega

structure FirstFree (n : InterfaceNames) (candidate : String) (tag : Nat) : Prop where
  pos : 1 ≤ tag
  free : n.isTaken (tagged candidate tag) = false
  first : ∀ earlier, 1 ≤ earlier → earlier < tag → n.isTaken (tagged candidate earlier) = true

lemma exists_firstFree {bound : Nat}
    (h : ∃ tag, 1 ≤ tag ∧ tag < bound ∧ n.isTaken (tagged candidate tag) = false) :
    ∃ tag < bound, FirstFree n candidate tag := by
  obtain ⟨hpos, hlt, hfree⟩ := Nat.find_spec h
  refine ⟨Nat.find h, hlt, hpos, hfree, ?_⟩
  intro earlier hearlier hbefore
  by_contra htaken
  exact Nat.find_min h hbefore ⟨hearlier, hbefore.trans hlt, Bool.eq_false_iff.2 htaken⟩

/-- A search that goes on for long enough finds the first free name. -/
lemma search_eq_some {fuel tag skipped : Nat} (hfuel : skipped < fuel)
    (htaken : ∀ k < skipped, n.isTaken (tagged candidate (tag + k)) = true)
    (hfree : n.isTaken (tagged candidate (tag + skipped)) = false) :
    n.search candidate fuel tag = some (tagged candidate (tag + skipped)) := by
  induction skipped generalizing fuel tag with
  | zero =>
    obtain ⟨fuel, rfl⟩ := Nat.exists_eq_succ_of_ne_zero (Nat.ne_of_gt hfuel)
    rw [Nat.add_zero] at hfree
    rw [search, hfree, Nat.add_zero]
    rfl
  | succ skipped ih =>
    obtain ⟨fuel, rfl⟩ := Nat.exists_eq_succ_of_ne_zero (Nat.ne_zero_of_lt hfuel)
    have hstep : n.search candidate fuel (tag + 1) = some (tagged candidate (tag + 1 + skipped)) := by
      refine ih (Nat.lt_of_succ_lt_succ hfuel) ?_ ?_
      · intro k hk
        rw [Nat.add_assoc, Nat.add_comm 1 k]
        exact htaken (k + 1) (Nat.succ_lt_succ hk)
      · rwa [Nat.add_assoc, Nat.add_comm 1 skipped]
    have hhead : n.isTaken (tagged candidate tag) = true := htaken 0 skipped.succ_pos
    rw [search, hhead, if_pos rfl, hstep, Nat.add_assoc, Nat.add_comm 1 skipped]

/-- How many names may be given: as many as there are numbers of nine digits. -/
def capacity : Nat := 9 * 10 ^ 8

/-- The search ends, at the first free name, and before the numbers get a tenth digit. -/
lemma search_of_few (h : n.assigned.length < capacity) (candidate : String) :
    ∃ tag < 10 ^ 9, FirstFree n candidate tag ∧
      n.search candidate n.searchBound 1 = some (tagged candidate tag) := by
  -- the fewest digits with which there are more numbers than names
  have hexists : ∃ d, n.assigned.length < 9 * 10 ^ d := ⟨8, h⟩
  obtain ⟨d, hd, hmin⟩ : ∃ d, n.assigned.length < 9 * 10 ^ d ∧
      ∀ e < d, ¬n.assigned.length < 9 * 10 ^ e :=
    ⟨Nat.find hexists, Nat.find_spec hexists, fun _ => Nat.find_min hexists⟩
  have hd8 : d ≤ 8 := by
    by_contra hgt
    exact hmin 8 (Nat.lt_of_not_le hgt) h
  have hbound : 10 ^ (d + 1) ≤ n.searchBound := by
    cases d with
    | zero =>
      rw [searchBound]
      omega
    | succ d =>
      have hle := Nat.le_of_not_lt (hmin d d.lt_succ_self)
      rw [searchBound, pow_succ, pow_succ]
      omega
  obtain ⟨free, hle, hlt, hfree⟩ := exists_free hd candidate
  obtain ⟨tag, htag, hfirst⟩ :=
    exists_firstFree ⟨free, Nat.one_le_pow _ _ (by decide) |>.trans hle, hlt, hfree⟩
  refine ⟨tag, htag.trans_le (Nat.pow_le_pow_right (by decide) (Nat.succ_le_succ hd8)), hfirst, ?_⟩
  obtain ⟨skipped, rfl⟩ := Nat.exists_eq_add_of_le hfirst.pos
  refine search_eq_some (by omega) ?_ hfirst.free
  intro k hk
  exact hfirst.first (1 + k) (Nat.le_add_right 1 k) (by omega)

/-- The name that a new device gets is free; it is the candidate, or the candidate with a number. -/
lemma unique_of_few (h : n.assigned.length < capacity) (candidate : String) :
    n.isTaken (n.unique candidate) = false ∧
      (n.unique candidate = candidate ∨ ∃ tag < 10 ^ 9, n.unique candidate = tagged candidate tag) := by
  rw [unique]
  split
  · obtain ⟨tag, htag, hfirst, hsearch⟩ := search_of_few h candidate
    rw [hsearch, Option.getD_some]
    exact ⟨hfirst.free, .inr ⟨tag, htag, rfl⟩⟩
  · next hfree => exact ⟨Bool.eq_false_iff.2 hfree, .inl rfl⟩

/-! ### Names that the kernel takes -/

lemma isValidName_tagged {candidate : String} (h : Tap.isValidName candidate = true) {tag : Nat}
    (htag : tag < 10 ^ 9) : Tap.isValidName (tagged candidate tag) = true := by
  rw [← String.ofList_toList (s := candidate), Tap.isValidName_ofList] at h
  obtain ⟨-, -, -, -, hallowed⟩ := h
  have hdigits : (Nat.toDigits 10 tag).length ≤ 9 :=
    (Nat.length_toDigits_le_iff (by decide) (by decide)).2 htag
  have hdigit : ∀ c ∈ Nat.toDigits 10 tag, c ≠ '.' ∧ Tap.isForbidden c = false := by
    intro c hc
    exact (Tap.of_isAlphanum (isAlphanum_of_mem_toDigits hc)).2
  obtain ⟨c, hc⟩ := List.exists_mem_of_ne_nil _ (Nat.toDigits_ne_nil (b := 10) (n := tag))
  rw [tagged, Tap.isValidName_ofList]
  refine ⟨?_, ?_, ?_, ?_, ?_⟩
  · exact List.append_ne_nil_of_right_ne_nil _ (List.ne_nil_of_mem hc)
  · have hfit := utf8Len_fit_le (Tap.maxNameLen - (Nat.toDigits 10 tag).length) candidate.toList
    rw [String.utf8Len_append, utf8Len_of_alphanum fun _ => isAlphanum_of_mem_toDigits]
    simp only [Tap.maxNameLen] at hfit ⊢
    omega
  · intro hdot
    have hmem := hdot ▸ List.mem_append_right _ hc
    exact (hdigit c hc).1 (List.mem_singleton.1 hmem)
  · intro hdots
    have hmem := hdots ▸ List.mem_append_right _ hc
    exact (hdigit c hc).1 (by simpa using hmem)
  · intro c hc
    rcases List.mem_append.1 hc with hc | hc
    · exact hallowed c ((fit_isPrefix _ _).subset hc)
    · exact (hdigit c hc).2

lemma isValidName_suffixed {base : String} (h : Tap.isValidName base = true) (serial : String) :
    Tap.isValidName (suffixed base serial) = true := by
  have hbase := h
  rw [← String.ofList_toList (s := base), Tap.isValidName_ofList] at hbase
  obtain ⟨hne, hlen, hdot, hdots, hallowed⟩ := hbase
  rw [suffixed, Tap.isValidName_ofList]
  generalize hsuffix : (serial.toList.filter Char.isAlphanum).drop _ = tail
  have htail : ∀ c ∈ tail, c.isAlphanum = true := by
    intro c hc
    exact (List.mem_filter.1 (List.mem_of_mem_drop (hsuffix ▸ hc))).2
  -- the base stays whole: either nothing else does, or a dash follows
  obtain ⟨rest, hrest⟩ := prefix_fit_append hlen ('-' :: tail)
  have hcut := fit_isPrefix Tap.maxNameLen (base.toList ++ '-' :: tail)
  rw [← hrest, List.prefix_append_right_inj] at hcut
  have hdash : ∀ dots, base.toList ≠ dots → '-' ∉ dots → base.toList ++ rest ≠ dots := by
    rintro dots hbase hdots rfl
    cases rest with
    | nil => exact hbase (List.append_nil _).symm
    | cons c rest =>
      obtain ⟨rfl, -⟩ := List.cons_prefix_cons.1 hcut
      exact hdots (List.mem_append_right _ List.mem_cons_self)
  refine ⟨?_, utf8Len_fit_le _ _, ?_, ?_, ?_⟩
  · rw [← hrest]
    exact List.append_ne_nil_of_left_ne_nil hne _
  · rw [← hrest]
    exact hdash _ hdot (by decide)
  · rw [← hrest]
    exact hdash _ hdots (by decide)
  · intro c hc
    rcases List.mem_append.1 ((fit_isPrefix _ _).subset hc) with hc | hc
    · exact hallowed c hc
    · rcases List.mem_cons.1 hc with rfl | hc
      · decide
      · exact (Tap.of_isAlphanum (htail c hc)).2.2

/-! ### Devices one after another -/

/-- The names that devices get one after another, and the names given in the end. -/
def nameAll (n : InterfaceNames) : List String → List String × InterfaceNames
  | [] => ([], n)
  | serial :: serials =>
    let (name, n) := n.nameFor serial
    let (names, n) := n.nameAll serials
    (name :: names, n)

lemma nameAll_cons (n : InterfaceNames) (serial : String) (serials : List String) :
    n.nameAll (serial :: serials) = ((n.nameFor serial).1 :: ((n.nameFor serial).2.nameAll serials).1,
      ((n.nameFor serial).2.nameAll serials).2) := rfl

lemma length_nameAll (n : InterfaceNames) (serials : List String) :
    (n.nameAll serials).1.length = serials.length := by
  induction serials generalizing n with
  | nil => rfl
  | cons serial serials ih => rw [nameAll_cons, List.length_cons, ih, List.length_cons]

/-- No serial has two names, no name has two serials, and the kernel takes all names. -/
structure Sound (n : InterfaceNames) : Prop where
  base : Tap.isValidName n.base = true
  serials_nodup : (n.assigned.map Prod.fst).Nodup
  names_nodup : (n.assigned.map Prod.snd).Nodup
  valid : ∀ entry ∈ n.assigned, Tap.isValidName entry.2 = true

/-- A device with a name keeps it, and a new device gets a name that is free and that the kernel
takes. -/
lemma nameFor_cases (hbase : Tap.isValidName n.base = true) (hfew : n.assigned.length < capacity)
    (serial : String) :
    ((serial, (n.nameFor serial).1) ∈ n.assigned ∧ (n.nameFor serial).2 = n) ∨
      (serial ∉ n.assigned.map Prod.fst ∧ (n.nameFor serial).1 ∉ n.assigned.map Prod.snd ∧
        Tap.isValidName (n.nameFor serial).1 = true ∧
        (n.nameFor serial).2 = { n with assigned := n.assigned ++ [(serial, (n.nameFor serial).1)] }) := by
  cases hlookup : n.assigned.lookup serial with
  | some name =>
    have heq : n.nameFor serial = (name, n) := by
      rw [nameFor, hlookup]
    rw [heq]
    refine .inl ⟨?_, rfl⟩
    obtain ⟨before, after, hsplit, -⟩ := List.lookup_eq_some_iff.1 hlookup
    rw [hsplit]
    exact List.mem_append_right _ List.mem_cons_self
  | none =>
    have hnew : serial ∉ n.assigned.map Prod.fst := by
      intro hmem
      obtain ⟨entry, hentry, rfl⟩ := List.mem_map.1 hmem
      simpa using List.lookup_eq_none_iff.1 hlookup entry hentry
    generalize hpreferred : (if n.isTaken n.base then suffixed n.base serial else n.base) = preferred
    have hvalid : Tap.isValidName preferred = true := by
      rw [← hpreferred]
      split
      · exact isValidName_suffixed hbase serial
      · exact hbase
    have heq : n.nameFor serial =
        (n.unique preferred, { n with assigned := n.assigned ++ [(serial, n.unique preferred)] }) := by
      rw [nameFor, hlookup, hpreferred]
    obtain ⟨hfree, hname⟩ := unique_of_few hfew preferred
    rw [heq]
    refine .inr ⟨hnew, ?_, ?_, rfl⟩
    · rw [← isTaken_iff, hfree]
      exact Bool.false_ne_true
    · rcases hname with hname | ⟨tag, htag, hname⟩
      · rw [hname]
        exact hvalid
      · rw [hname]
        exact isValidName_tagged hvalid htag

lemma nameFor_of_none (base serial : String) : ((mk base []).nameFor serial).1 = base := rfl

/-- The name of a device is entered, and no other entry is new. -/
lemma assigned_nameFor (hbase : Tap.isValidName n.base = true) (hfew : n.assigned.length < capacity)
    (serial : String) :
    (serial, (n.nameFor serial).1) ∈ (n.nameFor serial).2.assigned ∧
      n.assigned ⊆ (n.nameFor serial).2.assigned ∧
      ∀ entry ∈ (n.nameFor serial).2.assigned, entry ∈ n.assigned ∨ entry.1 = serial := by
  rcases nameFor_cases hbase hfew serial with ⟨hmem, heq⟩ | ⟨-, -, -, heq⟩
  · rw [heq]
    exact ⟨hmem, List.Subset.refl _, fun _ => .inl⟩
  · rw [heq]
    refine ⟨List.mem_append_right _ (List.mem_singleton_self _), List.subset_append_left _ _, ?_⟩
    intro entry hentry
    rcases List.mem_append.1 hentry with hentry | hentry
    · exact .inl hentry
    · exact .inr (congrArg Prod.fst (List.mem_singleton.1 hentry))

namespace Sound

variable {serials known : List String}

lemma nameFor (h : n.Sound) (hfew : n.assigned.length < capacity) (serial : String) :
    (n.nameFor serial).2.Sound := by
  rcases nameFor_cases h.base hfew serial with ⟨-, heq⟩ | ⟨hserial, hname, hvalid, heq⟩
  · rw [heq]
    exact h
  · rw [heq]
    refine ⟨h.base, ?_, ?_, ?_⟩
    · rw [List.map_append]
      exact h.serials_nodup.append (List.nodup_singleton _) (List.disjoint_singleton.2 hserial)
    · rw [List.map_append]
      exact h.names_nodup.append (List.nodup_singleton _) (List.disjoint_singleton.2 hname)
    · intro entry hentry
      rcases List.mem_append.1 hentry with hentry | hentry
      · exact h.valid entry hentry
      · rw [List.mem_singleton.1 hentry]
        exact hvalid

lemma length_lt (h : n.Sound) (hknown : ∀ entry ∈ n.assigned, entry.1 ∈ known)
    (hfew : known.toFinset.card < capacity) : n.assigned.length < capacity := by
  refine lt_of_le_of_lt ?_ hfew
  rw [← List.length_map (f := Prod.fst), ← List.toFinset_card_of_nodup h.serials_nodup]
  apply Finset.card_le_card
  intro serial hserial
  obtain ⟨entry, hentry, rfl⟩ := List.mem_map.1 (List.mem_toFinset.1 hserial)
  exact List.mem_toFinset.2 (hknown entry hentry)

/-- However many devices come, the names stay sound, no name is forgotten, and every device has the
name that it got. -/
lemma nameAll (h : n.Sound) (hknown : ∀ entry ∈ n.assigned, entry.1 ∈ known)
    (hfew : known.toFinset.card < capacity) (hserials : ∀ serial ∈ serials, serial ∈ known) :
    (n.nameAll serials).2.Sound ∧ n.assigned ⊆ (n.nameAll serials).2.assigned ∧
      (∀ entry ∈ (n.nameAll serials).2.assigned, entry.1 ∈ known) ∧
      ∀ entry ∈ serials.zip (n.nameAll serials).1, entry ∈ (n.nameAll serials).2.assigned := by
  induction serials generalizing n with
  | nil => exact ⟨h, List.Subset.refl _, hknown, fun _ hentry => absurd hentry List.not_mem_nil⟩
  | cons serial serials ih =>
    obtain ⟨hserial, hserials⟩ := List.forall_mem_cons.1 hserials
    have hlength := h.length_lt hknown hfew
    obtain ⟨hgiven, hkept, hnew⟩ := assigned_nameFor h.base hlength serial
    have hknown' : ∀ entry ∈ (n.nameFor serial).2.assigned, entry.1 ∈ known := by
      intro entry hentry
      rcases hnew entry hentry with hentry | heq
      · exact hknown entry hentry
      · exact heq ▸ hserial
    obtain ⟨hsound, hkept', hknown'', hzip⟩ := ih (h.nameFor hlength serial) hknown' hserials
    rw [nameAll_cons]
    refine ⟨hsound, List.Subset.trans hkept hkept', hknown'', ?_⟩
    rw [List.zip_cons_cons, List.forall_mem_cons]
    exact ⟨hkept' hgiven, hzip⟩

/-- Two entries have the same serial exactly when they have the same name. -/
lemma serial_eq_iff (h : n.Sound) {a b : String × String} (ha : a ∈ n.assigned) (hb : b ∈ n.assigned) :
    a.1 = b.1 ↔ a.2 = b.2 := by
  constructor
  · intro heq
    rw [List.inj_on_of_nodup_map h.serials_nodup ha hb heq]
  · intro heq
    rw [List.inj_on_of_nodup_map h.names_nodup ha hb heq]

end Sound

/-- Whatever serials come in whatever order, the first gets the base name, a serial keeps its name, no
two serials share one, the kernel takes every name, and the search for a free name always ends. -/
theorem names_are_stable_unique_usable (base : String) (hbase : Tap.isValidName base = true)
    (serials : List String) (hfew : serials.toFinset.card < 9 * 10 ^ 8) :
    let names := ((mk base []).nameAll serials).1
    names.length = serials.length ∧
      (names.head? = serials.head?.map fun _ => base) ∧
      (∀ given ∈ serials.zip names, ∀ given' ∈ serials.zip names,
        given.1 = given'.1 ↔ given.2 = given'.2) ∧
      (∀ name ∈ names, name.utf8ByteSize ≤ 15 ∧ Tap.isValidName name = true ∧
        (∀ k other, (TapDevice.create name k).1 ≠ .error (.invalidName other)) ∧
        (Tap.interfaceRequest name).length = 40 ∧ (Tap.interfaceRequest name)[15]? = some 0) ∧
      ∀ earlier, earlier <+: serials → ∀ candidate,
        let n := ((mk base []).nameAll earlier).2
        ∃ tag < 10 ^ 9, FirstFree n candidate tag ∧
          n.search candidate n.searchBound 1 = some (tagged candidate tag) := by
  have hstart : (mk base []).Sound := ⟨hbase, List.nodup_nil, List.nodup_nil, by simp⟩
  have hnone : ∀ entry ∈ (mk base []).assigned, entry.1 ∈ serials := by simp
  obtain ⟨hsound, -, -, hgiven⟩ := hstart.nameAll hnone hfew fun _ hserial => hserial
  refine ⟨length_nameAll _ _, ?_, ?_, ?_, ?_⟩
  · cases serials with
    | nil => rfl
    | cons serial serials => rw [nameAll_cons, nameFor_of_none]; rfl
  · intro given hmem given' hmem'
    exact hsound.serial_eq_iff (hgiven given hmem) (hgiven given' hmem')
  · intro name hname
    obtain ⟨serial, hentry⟩ : ∃ serial, (serial, name) ∈ ((mk base []).nameAll serials).2.assigned := by
      obtain ⟨i, hi, rfl⟩ := List.mem_iff_getElem.1 hname
      have hi' : i < serials.length := (length_nameAll (mk base []) serials).symm ▸ hi
      refine ⟨serials[i], hgiven _ ?_⟩
      rw [← List.getElem_zip (h := by simp [hi, hi'])]
      exact List.getElem_mem _
    have hvalid := hsound.valid _ hentry
    exact ⟨Tap.utf8ByteSize_le_of_isValidName hvalid, hvalid,
      fun k _ => TapDevice.create_ne_invalidName hvalid k, Tap.interfaceRequest_of_isValidName hvalid⟩
  · intro earlier hearlier candidate
    obtain ⟨hsound, -, hknown, -⟩ :=
      hstart.nameAll hnone hfew fun _ hserial => hearlier.subset hserial
    exact search_of_few (hsound.length_lt hknown hfew) candidate

/-- Serials three of which end alike, and one of which comes back. -/
def sharedTails : List String := ["00008030-0000é", "AAAA-11111111", "BBBB-11111111", "", "AAAA-11111111"]

/-- The name of the third device gets a number. -/
theorem names_of_shared_tails : ((mk "iphone" []).nameAll sharedTails).1 =
      ["iphone", "iphone-11111111", "iphone-11111112", "iphone-", "iphone-11111111"] ∧
    ∀ name ∈ ((mk "iphone" []).nameAll sharedTails).1, Tap.isValidName name = true := by
  refine ⟨by decide +kernel, ?_⟩
  obtain ⟨-, -, -, hnames, -⟩ := names_are_stable_unique_usable "iphone" (by decide +kernel) sharedTails
    ((List.toFinset_card_le _).trans_lt (by decide))
  exact fun name hname => (hnames name hname).2.1

end InterfaceNames

end NcmBridge
