import NcmBridge.Proofs.Toml.Atom
import NcmBridge.Proofs.Toml.Quoted
import NcmBridge.Toml.Reader

/-!
# Written values read back

A value is followed by a line end, a comma or a bracket, none of which it could go on with. So it is read as
far as it was written, and items of a list are read one after the other.
-/

namespace NcmBridge.Toml

/-! ### Values that a list may not have -/

section Option

variable {α β : Type} {f : α → Option β} {l : List α}

lemma mapM_eq_some_map {g : α → β} (h : ∀ a ∈ l, f a = some (g a)) : l.mapM f = some (l.map g) := by
  induction l with
  | nil => rfl
  | cons a l ih =>
    obtain ⟨ha, hl⟩ := List.forall_mem_cons.1 h
    rw [List.mapM_cons, ha, ih hl]
    rfl

lemma mapM_eq_none {a : α} (hmem : a ∈ l) (ha : f a = none) : l.mapM f = none := by
  induction l with
  | nil => exact absurd hmem List.not_mem_nil
  | cons b l ih =>
    rw [List.mapM_cons]
    obtain rfl | hmem := List.mem_cons.1 hmem
    · rw [ha]
      rfl
    · rw [ih hmem]
      cases f b <;> rfl

end Option

/-! ### Entries -/

namespace Entry

/-- All integers of an entry have at most 64 bits. -/
def Fits : Entry → Prop
  | integer n => IsWord64 n
  | integers ns => ∀ n ∈ ns, IsWord64 n
  | _ => True

@[simp] lemma fits_text (s : String) : (text s).Fits := trivial

@[simp] lemma fits_boolean (b : Bool) : (boolean b).Fits := trivial

@[simp] lemma fits_integer {n : Int} : (integer n).Fits ↔ IsWord64 n := Iff.rfl

@[simp] lemma fits_integers {ns : List Int} : (integers ns).Fits ↔ ∀ n ∈ ns, IsWord64 n := Iff.rfl

/-- The text of an entry that fits. -/
def chars : Entry → List Char
  | text s => Quoted.write s.toList
  | integer n => numeral n
  | boolean b => if b then "true".toList else "false".toList
  | integers ns => writeList (ns.map numeral)

lemma write_of_fits {e : Entry} (h : e.Fits) : e.write = some e.chars := by
  cases e with
  | text | boolean => rfl
  | integer n => exact writeInteger_of_isWord64 h
  | integers ns =>
    rw [write, mapM_eq_some_map fun n hn => writeInteger_of_isWord64 (h n hn)]
    rfl

lemma write_of_not_fits {e : Entry} (h : ¬e.Fits) : e.write = none := by
  cases e with
  | text s => exact absurd (fits_text s) h
  | boolean b => exact absurd (fits_boolean b) h
  | integer n => exact writeInteger_of_not_isWord64 h
  | integers ns =>
    obtain ⟨n, hmem, hn⟩ : ∃ n ∈ ns, ¬IsWord64 n := by simpa using h
    rw [write, mapM_eq_none hmem (writeInteger_of_not_isWord64 hn)]
    rfl

end Entry

/-! ### What stands between values -/

lemma skipSpace_cons {c : Char} (h : isSpace c = false) (s : List Char) : skipSpace (c :: s) = c :: s := by
  rw [skipSpace, List.dropWhile_cons, h]
  rfl

lemma skipGap_blank {c : Char} (hblank : isSpaceOrEnd c = true) (s : List Char) :
    skipGap (c :: s) = skipGap s := by
  rw [skipGap, if_pos hblank]
  rintro rfl
  cases hblank

lemma skipGap_cons {c : Char} (hblank : isSpaceOrEnd c = false) (hcomment : c ≠ '#') (s : List Char) :
    skipGap (c :: s) = c :: s := by
  rw [skipGap, if_neg (by rw [hblank]; decide)]
  exact hcomment

/-- A written value cannot go on with what follows. -/
def Ends (s : List Char) : Prop := Quoted.NoQuotes s ∧ Atom.NoWord s

lemma ends_cons {c : Char} (h : c = '\n' ∨ c = ',' ∨ c = ']') (s : List Char) : Ends (c :: s) := by
  rcases h with rfl | rfl | rfl <;>
    exact ⟨Quoted.noQuotes_cons (by decide) s, Atom.noWord_cons (by decide) s⟩

/-! ### Words -/

section Word

variable {c : Char}

lemma isSpaceOrEnd_of_isWordChar (hc : Atom.isWordChar c = true) : isSpaceOrEnd c = false := by
  simp [isSpaceOrEnd, isSpace, ne_of_kind hc (d := ' ') (by decide),
    ne_of_kind hc (d := '\t') (by decide), ne_of_kind hc (d := '\n') (by decide)]

lemma exists_numeral_eq (n : Int) : ∃ c s, numeral n = c :: s ∧ Atom.isWordChar c = true := by
  obtain ⟨hnumeral, -⟩ | ⟨hnumeral, -⟩ := Atom.numeral_cases n
  · exact ⟨'-', _, hnumeral, by decide⟩
  · obtain ⟨c, s, hcons⟩ := List.exists_cons_of_ne_nil (Nat.toDigits_ne_nil (n := n.natAbs) (b := 10))
    refine ⟨c, s, hnumeral.trans hcons, ?_⟩
    have hc : c.isDigit = true := Atom.isDigit_of_mem (hcons ▸ List.mem_cons_self)
    simp [Atom.isWordChar, Char.isAlphanum, hc]

lemma readValue_word (hc : Atom.isWordChar c = true) (depth : Nat) (s : List Char) :
    readValue depth (c :: s) = Atom.read (c :: s) := by
  have hne {d : Char} {s' : List Char} (hd : Atom.isWordChar d = false) : c :: s ≠ d :: s' :=
    fun heq => ne_of_kind hc hd (List.cons.inj heq).1
  have hscalar : readScalar (c :: s) = Atom.read (c :: s) := by
    rw [readScalar]
    · exact fun _ => hne (by decide)
    · exact fun _ => hne (by decide)
  rw [readValue, hscalar]
  · exact fun _ _ _ => hne (by decide)
  · exact fun _ _ _ => hne (by decide)

end Word

/-! ### Single values -/

lemma readValue_numeral {n : Int} (h : IsWord64 n) (depth : Nat) {rest : List Char} (hrest : Atom.NoWord rest) :
    readValue depth (numeral n ++ rest) = some (.integer n, rest) := by
  obtain ⟨c, s, hcons, hc⟩ := exists_numeral_eq n
  rw [← Atom.read_numeral h hrest, hcons]
  exact readValue_word hc depth (s ++ rest)

lemma readValue_boolean (b : Bool) (depth : Nat) {rest : List Char} (hrest : Atom.NoWord rest) :
    readValue depth ((if b then "true".toList else "false".toList) ++ rest) = some (.boolean b, rest) := by
  rw [← Atom.read_boolean b hrest]
  cases b with
  | false => exact readValue_word (c := 'f') (by decide) depth _
  | true => exact readValue_word (c := 't') (by decide) depth _

lemma readValue_text (s : String) (depth : Nat) {rest : List Char} (hrest : Quoted.NoQuotes rest) :
    readValue depth (Quoted.write s.toList ++ rest) = some (.text s, rest) := by
  have hread : (Quoted.any (Quoted.write s.toList ++ rest)).map
      (fun read => (Value.text (String.ofList read.1), read.2)) = some (.text s, rest) := by
    rw [Quoted.any_write hrest, Option.map_some, String.ofList_toList]
  obtain ⟨t, hopen | hopen⟩ := Quoted.exists_write_eq s.toList
  · rw [hopen] at hread ⊢
    rw [← hread]
    cases depth <;> rfl
  · rw [hopen] at hread ⊢
    rw [← hread]
    cases depth <;> rfl

/-! ### Lists -/

section Items

variable {item : ValueReader} {s start rest rest' : List Char} {v : Value}

lemma readItems_close (item : ValueReader) (h : skipGap s = ']' :: rest) :
    readItems item s = some ([], rest) := by
  rw [readItems]
  split
  · next heq => rw [(List.cons.inj (h.symm.trans heq)).2]
  · next hopen => exact absurd h (hopen _)

lemma readItems_last (hstart : skipGap s = start) (hopen : ∀ t, start ≠ ']' :: t)
    (hitem : item start = some (v, rest)) (hend : skipGap rest = ']' :: rest') :
    readItems item s = some ([v], rest') := by
  rw [readItems, hstart]
  split
  · next heq => exact absurd rfl (hopen _)
  · rw [hitem]
    dsimp only
    rw [hend]
    rfl

lemma readItems_next (hstart : skipGap s = start) (hopen : ∀ t, start ≠ ']' :: t)
    (hitem : item start = some (v, rest)) (hnext : skipGap rest = ',' :: rest')
    (hlt : rest'.length < s.length) :
    readItems item s = (readItems item rest').map fun (vs, rest) => (v :: vs, rest) := by
  rw [readItems, hstart]
  split
  · next heq => exact absurd rfl (hopen _)
  · rw [hitem]
    dsimp only
    rw [hnext]
    exact if_pos hlt

end Items

/-- A numeral begins an item of a list. -/
lemma numeral_starts (n : Int) (rest : List Char) :
    skipGap (numeral n ++ rest) = numeral n ++ rest ∧ ∀ t, numeral n ++ rest ≠ ']' :: t := by
  obtain ⟨c, s, hcons, hc⟩ := exists_numeral_eq n
  rw [hcons]
  exact ⟨skipGap_cons (isSpaceOrEnd_of_isWordChar hc) (ne_of_kind hc (by decide)) _,
    fun t heq => ne_of_kind hc (by decide) (List.cons.inj heq).1⟩

/-- The lines of a list with a line for each item. -/
def itemLines (ns : List Int) : List Char :=
  (ns.map numeral).flatMap fun item => [' ', ' ', ' ', ' '] ++ item ++ [',', '\n']

lemma readItems_itemLines (depth : Nat) {ns : List Int} (h : ∀ n ∈ ns, IsWord64 n) (rest : List Char) :
    readItems (readValue depth) ('\n' :: (itemLines ns ++ ']' :: rest)) = some (ns.map .integer, rest) := by
  induction ns with
  | nil =>
    refine readItems_close _ ?_
    show skipGap ('\n' :: ']' :: rest) = _
    rw [skipGap_blank (by decide), skipGap_cons (by decide) (by decide)]
  | cons n ns ih =>
    obtain ⟨hn, hns⟩ := List.forall_mem_cons.1 h
    obtain ⟨hstart, hopen⟩ := numeral_starts n (',' :: '\n' :: (itemLines ns ++ ']' :: rest))
    have hline : '\n' :: (itemLines (n :: ns) ++ ']' :: rest) =
        '\n' :: ' ' :: ' ' :: ' ' :: ' ' :: (numeral n ++ (',' :: '\n' :: (itemLines ns ++ ']' :: rest))) := by
      simp [itemLines]
    rw [hline, readItems_next ?_ hopen (readValue_numeral hn depth (Atom.noWord_cons (by decide) _))
      (skipGap_cons (by decide) (by decide) _), ih hns]
    · rfl
    · simp only [List.length_cons, List.length_append]
      omega
    · rw [skipGap_blank, skipGap_blank, skipGap_blank, skipGap_blank, skipGap_blank, hstart] <;> decide

lemma readValue_list (depth : Nat) {ns : List Int} (h : ∀ n ∈ ns, IsWord64 n) (rest : List Char) :
    readValue (depth + 1) (writeList (ns.map numeral) ++ rest) = some (.array (ns.map .integer), rest) := by
  -- one item is written on the line of the brackets, several have lines of their own
  match ns, h with
  | [], _ =>
    have hitems : readItems (readValue depth) (']' :: rest) = some ([], rest) :=
      readItems_close _ (skipGap_cons (by decide) (by decide) rest)
    show (readItems (readValue depth) (']' :: rest)).map _ = _
    rw [hitems]
    rfl
  | [n], h =>
    obtain ⟨hstart, hopen⟩ := numeral_starts n (']' :: rest)
    have hitems : readItems (readValue depth) (numeral n ++ ']' :: rest) = some ([.integer n], rest) :=
      readItems_last hstart hopen
        (readValue_numeral (h n List.mem_cons_self) depth (Atom.noWord_cons (by decide) _))
        (skipGap_cons (by decide) (by decide) rest)
    have htext : writeList ([n].map numeral) ++ rest = '[' :: (numeral n ++ ']' :: rest) := by
      simp [writeList]
    rw [htext, readValue, hitems]
    rfl
  | m :: n :: ns, h =>
    have htext : writeList ((m :: n :: ns).map numeral) ++ rest =
        '[' :: '\n' :: (itemLines (m :: n :: ns) ++ ']' :: rest) := by
      simp [writeList, itemLines]
    rw [htext, readValue, readItems_itemLines depth h]
    rfl

/-! ### Any entry -/

namespace Entry

/-- An entry is read back, and what follows it is left. -/
lemma readValue_chars {e : Entry} (h : e.Fits) (depth : Nat) {rest : List Char} (hrest : Ends rest) :
    readValue (depth + 1) (e.chars ++ rest) = some (e.value, rest) := by
  cases e with
  | text s => exact readValue_text s _ hrest.1
  | integer n => exact readValue_numeral h _ hrest.2
  | boolean b => exact readValue_boolean b _ hrest.2
  | integers ns => exact readValue_list depth h rest

/-- The text of an entry does not begin with a space. -/
lemma skipSpace_chars (e : Entry) (rest : List Char) : skipSpace (e.chars ++ rest) = e.chars ++ rest := by
  cases e with
  | text s =>
    obtain ⟨t, hopen | hopen⟩ := Quoted.exists_write_eq s.toList
    · rw [chars, hopen]
      rfl
    · rw [chars, hopen]
      rfl
  | integer n =>
    obtain ⟨c, s, hcons, hc⟩ := exists_numeral_eq n
    rw [chars, hcons]
    exact skipSpace_cons (Bool.or_eq_false_iff.1 (isSpaceOrEnd_of_isWordChar hc)).1 _
  | boolean b => cases b <;> rfl
  | integers ns =>
    match ns with
    | [] | [_] | _ :: _ :: _ => rfl

/-- Nothing in the text of an entry is a carriage return. -/
lemma return_notMem_chars (e : Entry) : '\r' ∉ e.chars := by
  have hnumeral (n : Int) : '\r' ∉ numeral n := Atom.notMem_numeral (by decide) (by decide) n
  cases e with
  | text s => exact Quoted.return_notMem_write _
  | integer n => exact hnumeral n
  | boolean b => cases b <;> decide
  | integers ns =>
    match ns with
    | [] => decide
    | [n] => simp [chars, writeList, hnumeral]
    | m :: n :: ns => simp [chars, writeList, hnumeral]

end Entry

end NcmBridge.Toml
