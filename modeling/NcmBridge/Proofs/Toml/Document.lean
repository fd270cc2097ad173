import Mathlib.Data.List.Nodup
import NcmBridge.Proofs.Toml.Entry

/-!
# Written documents read back

Each line of a written document is read as a whole, and the lines of a section put its entries into a table of
their own. So a document whose sections have different names, each with entries of different names, is read
back with all of its contents, in their order.
-/

namespace NcmBridge.Toml

/-! ### Names -/

/-- A name that needs no quotes. -/
def IsBare (name : String) : Prop := name.toList ≠ [] ∧ name.toList.all isBareChar = true

instance (name : String) : Decidable (IsBare name) := inferInstanceAs (Decidable (_ ∧ _))

lemma IsBare.isBareChar_of_mem {name : String} (h : IsBare name) {c : Char} (hc : c ∈ name.toList) :
    isBareChar c = true :=
  List.all_eq_true.1 h.2 c hc

lemma IsBare.exists_eq {name : String} (h : IsBare name) :
    ∃ c s, name.toList = c :: s ∧ isBareChar c = true := by
  obtain ⟨c, s, hcons⟩ := List.exists_cons_of_ne_nil h.1
  exact ⟨c, s, hcons, h.isBareChar_of_mem (hcons ▸ List.mem_cons_self)⟩

lemma skipSpace_bare {c : Char} (hc : isBareChar c = true) (s : List Char) : skipSpace (c :: s) = c :: s := by
  refine skipSpace_cons ?_ s
  simp [isSpace, ne_of_kind hc (d := ' ') (by decide), ne_of_kind hc (d := '\t') (by decide)]

/-- A name without quotes ends at the first character that is none of it. -/
lemma readKey_bare {name : String} (h : IsBare name) {rest : List Char}
    (hend : ∀ c s, rest = c :: s → isBareChar c = false) (hdot : ∀ s, skipSpace rest ≠ '.' :: s) :
    readKey (name.toList ++ rest) = some (⟨[], name⟩, skipSpace rest) := by
  obtain ⟨c, s, hcons, hc⟩ := h.exists_eq
  obtain ⟨htake, hdrop⟩ := takeWhile_dropWhile_append (fun _ => h.isBareChar_of_mem) hend
  have hquote {d : Char} (hd : isBareChar d = false) (t : List Char) : name.toList ++ rest ≠ d :: t := by
    rw [hcons]
    exact fun heq => ne_of_kind hc hd (List.cons.inj heq).1
  have hname : readName (name.toList ++ rest) = some (name, rest) := by
    rw [readName, htake, hdrop, if_neg h.1, Option.map_some]
    · dsimp only
      rw [String.ofList_toList]
    · exact hquote (by decide)
    · exact hquote (by decide)
  have hspace : skipSpace (name.toList ++ rest) = name.toList ++ rest := by
    rw [hcons]
    exact skipSpace_bare hc _
  have hnames : readNames (name.toList ++ rest) = some (⟨[], name⟩, skipSpace rest) := by
    rw [readNames, hspace, hname]
    dsimp only
    split
    · next heq => exact absurd heq (hdot _)
    · rfl
  rw [readKey, hnames]
  rfl

/-! ### Lines -/

/-- The text of a named entry that fits. -/
def entryChars (entry : String × Entry) : List Char :=
  entry.1.toList ++ [' ', '=', ' '] ++ entry.2.chars ++ ['\n']

lemma readLine_header {name : String} (h : IsBare name) (rest : List Char) :
    readLine ('[' :: (name.toList ++ (']' :: '\n' :: rest))) = some (some (.table ⟨[], name⟩), rest) := by
  obtain ⟨c, s, hcons, hc⟩ := h.exists_eq
  have hkey : readKey (name.toList ++ (']' :: '\n' :: rest)) = some (⟨[], name⟩, ']' :: '\n' :: rest) :=
    readKey_bare h (fun c s heq => (List.cons.inj heq).1 ▸ by decide)
      (fun s heq => absurd (List.cons.inj heq).1 (by decide))
  rw [readLine, skipSpace_cons (by decide)]
  split
  · -- a second bracket would begin a table in a list
    next heq =>
    rw [hcons] at heq
    exact absurd (List.cons.inj (List.cons.inj heq).2).1 (ne_of_kind hc (by decide))
  · next heq =>
    rw [← (List.cons.inj heq).2, hkey]
    rfl
  · next heq => cases heq
  · next heq => cases heq
  · next heq => cases heq
  · next hopen _ _ _ => exact absurd rfl (hopen _)

lemma readLine_entry {name : String} (hname : IsBare name) {e : Entry} (he : e.Fits) (rest : List Char) :
    readLine (entryChars (name, e) ++ rest) = some (some (.assign ⟨[], name⟩ e.value), rest) := by
  obtain ⟨c, s, hcons, hc⟩ := hname.exists_eq
  have hkey : readKey (name.toList ++ (' ' :: '=' :: ' ' :: (e.chars ++ '\n' :: rest))) =
      some (⟨[], name⟩, '=' :: ' ' :: (e.chars ++ '\n' :: rest)) :=
    readKey_bare hname (fun c s heq => (List.cons.inj heq).1 ▸ by decide)
      (fun s heq => absurd (List.cons.inj heq).1 (by decide))
  have hvalue : readValue maxDepth (e.chars ++ '\n' :: rest) = some (e.value, '\n' :: rest) :=
    e.readValue_chars he 78 (ends_cons (.inl rfl) rest)
  have htext : entryChars (name, e) ++ rest =
      name.toList ++ (' ' :: '=' :: ' ' :: (e.chars ++ '\n' :: rest)) := by
    simp [entryChars]
  have hspace : skipSpace (name.toList ++ (' ' :: '=' :: ' ' :: (e.chars ++ '\n' :: rest))) =
      name.toList ++ (' ' :: '=' :: ' ' :: (e.chars ++ '\n' :: rest)) := by
    rw [hcons]
    exact skipSpace_bare hc _
  have hother {d : Char} (hd : isBareChar d = false) {t : List Char} :
      name.toList ++ (' ' :: '=' :: ' ' :: (e.chars ++ '\n' :: rest)) ≠ d :: t := by
    rw [hcons]
    exact fun heq => ne_of_kind hc hd (List.cons.inj heq).1
  rw [htext, readLine, hspace]
  split
  · next heq => exact absurd heq (hother (by decide))
  · next heq => exact absurd heq (hother (by decide))
  · next heq => simp at heq
  · next heq => exact absurd heq (hother (by decide))
  · next heq => exact absurd heq (hother (by decide))
  · have hskip : skipSpace (' ' :: (e.chars ++ '\n' :: rest)) = e.chars ++ '\n' :: rest :=
      e.skipSpace_chars _
    simp only [hkey, hskip, hvalue]
    rfl

/-- What the line of an entry says. -/
def assignment (entry : String × Entry) : Statement := .assign ⟨[], entry.1⟩ entry.2.value

/-! ### Several lines -/

section Lines

variable {s rest : List Char} {line : Option Statement}

lemma readLines_of_readLine (h : readLine s = some (line, rest)) (hlt : rest.length < s.length) :
    readLines s = (readLines rest).map (line.toList ++ ·) := by
  match s with
  | [] => exact absurd hlt (Nat.not_lt_zero _)
  | c :: tail =>
    rw [readLines, h]
    exact if_pos (Nat.le_of_lt_succ hlt)

lemma readLines_blank (rest : List Char) : readLines ('\n' :: rest) = readLines rest := by
  have hline : readLine ('\n' :: rest) = some (none, rest) := rfl
  rw [readLines_of_readLine hline (Nat.lt_succ_self _)]
  cases readLines rest <;> rfl

lemma readLines_entries {entries : List (String × Entry)} (h : ∀ e ∈ entries, IsBare e.1 ∧ e.2.Fits)
    (rest : List Char) :
    readLines ((entries.map entryChars).flatten ++ rest) =
      (readLines rest).map (entries.map assignment ++ ·) := by
  induction entries with
  | nil => cases hrest : readLines rest <;> simp [hrest]
  | cons e entries ih =>
    obtain ⟨⟨hname, hfits⟩, hentries⟩ := List.forall_mem_cons.1 h
    rw [List.map_cons, List.flatten_cons, List.append_assoc,
      readLines_of_readLine (readLine_entry hname hfits _), ih hentries, Option.map_map]
    · rfl
    · rw [List.length_append, entryChars]
      simp only [List.length_append, List.length_cons]
      omega

end Lines

/-! ### Sections -/

/-- A section and its entries have bare names, and those of the entries differ. -/
structure IsPlain (part : String × List (String × Entry)) : Prop where
  name : IsBare part.1
  names : ∀ e ∈ part.2, IsBare e.1
  distinct : (part.2.map Prod.fst).Nodup

/-- The text of a section whose entries fit. -/
def sectionChars (part : String × List (String × Entry)) : List Char :=
  '[' :: part.1.toList ++ [']', '\n'] ++ (part.2.map entryChars).flatten

/-- What the lines of a section say. -/
def sectionLines (part : String × List (String × Entry)) : List Statement :=
  .table ⟨[], part.1⟩ :: part.2.map assignment

/-- The entries of a section as they stand in a document. -/
def sectionContents (part : String × List (String × Entry)) : String × Value :=
  (part.1, .table .header (part.2.map fun e => (e.1, e.2.value)))

lemma readLines_section {part : String × List (String × Entry)} (h : IsPlain part)
    (hfits : ∀ e ∈ part.2, e.2.Fits) (rest : List Char) :
    readLines (sectionChars part ++ rest) = (readLines rest).map (sectionLines part ++ ·) := by
  have htext : sectionChars part ++ rest =
      '[' :: (part.1.toList ++ (']' :: '\n' :: ((part.2.map entryChars).flatten ++ rest))) := by
    simp [sectionChars]
  rw [htext, readLines_of_readLine (readLine_header h.name _),
    readLines_entries (fun e he => ⟨h.names e he, hfits e he⟩), Option.map_map]
  · rfl
  · simp only [List.length_append, List.length_cons]
    omega

lemma readLines_sections {sections : Sections} (h : ∀ part ∈ sections, IsPlain part)
    (hfits : ∀ part ∈ sections, ∀ e ∈ part.2, e.2.Fits) :
    readLines (List.intercalate ['\n'] (sections.map sectionChars)) = some (sections.flatMap sectionLines) := by
  induction sections with
  | nil => exact readLines.eq_1
  | cons part sections ih =>
    obtain ⟨hpart, hsections⟩ := List.forall_mem_cons.1 h
    obtain ⟨hfit, hfits⟩ := List.forall_mem_cons.1 hfits
    have hrest := ih hsections hfits
    cases sections with
    | nil =>
      have hlines := readLines_section hpart hfit []
      rw [List.append_nil] at hlines
      simpa [readLines] using hlines
    | cons next sections =>
      rw [List.map_cons, List.map_cons, List.intercalate_cons_cons, ← List.map_cons, List.append_assoc,
        readLines_section hpart hfit, List.singleton_append, readLines_blank, hrest]
      rfl

/-! ### Tables -/

namespace Fields

variable {fields : Fields} {name : String}

lemma find?_of_notMem (h : name ∉ fields.map Prod.fst) : fields.find? name = none := by
  rw [find?, List.lookup_eq_none_iff]
  intro field hmem
  rw [bne_iff_ne]
  rintro rfl
  exact h (List.mem_map_of_mem hmem)

lemma find?_append_of_notMem (h : name ∉ fields.map Prod.fst) (v : Value) :
    find? (fields ++ [(name, v)]) name = some v := by
  rw [find?, List.lookup_append, show fields.lookup name = none from find?_of_notMem h, Option.none_or,
    List.lookup_cons_self]

lemma put_append_of_notMem (h : name ∉ fields.map Prod.fst) (v w : Value) :
    put (fields ++ [(name, v)]) name w = fields ++ [(name, w)] := by
  have hsame : ∀ field ∈ fields, (if field.1 = name then (name, w) else field) = field := by
    intro field hmem
    refine if_neg ?_
    rintro rfl
    exact h (List.mem_map_of_mem hmem)
  rw [put, List.map_append, List.map_congr_left hsame, List.map_id']
  simp

section Listed

variable {α β : Type} {l : List α} {key : α → String}

lemma keys_sublist (l : List α) (key : α → String) (value : α → Option β) :
    List.Sublist ((l.filterMap fun a => (value a).map (key a, ·)).map Prod.fst) (l.map key) := by
  induction l with
  | nil => exact List.nil_sublist _
  | cons a l ih =>
    cases ha : value a with
    | none =>
      rw [List.filterMap_cons_none (by rw [ha]; rfl)]
      exact ih.cons _
    | some v =>
      rw [List.filterMap_cons_some (by rw [ha]; rfl)]
      exact ih.cons_cons _

/-- Where names differ, each name is found with its own value, or not at all if it has none. -/
lemma find?_listed (hdistinct : (l.map key).Nodup) (value : α → Option Value) {a : α} (ha : a ∈ l) :
    find? (l.filterMap fun a => (value a).map (key a, ·)) (key a) = value a := by
  induction l with
  | nil => exact absurd ha List.not_mem_nil
  | cons b l ih =>
    obtain ⟨hb, hl⟩ := List.nodup_cons.1 hdistinct
    cases hvalue : value b with
    | none =>
      rw [List.filterMap_cons_none (by rw [hvalue]; rfl)]
      obtain rfl | ha := List.mem_cons.1 ha
      · rw [hvalue]
        exact find?_of_notMem fun hmem => hb ((keys_sublist l key value).subset hmem)
      · exact ih hl ha
    | some v =>
      rw [List.filterMap_cons_some (by rw [hvalue]; rfl), find?, List.lookup_cons]
      obtain rfl | ha := List.mem_cons.1 ha
      · rw [beq_self_eq_true, hvalue]
      · have hne : (key a == key b) = false := by
          rw [beq_eq_false_iff_ne]
          exact fun heq => hb (heq ▸ List.mem_map_of_mem ha)
        rw [hne]
        exact ih hl ha

end Listed

end Fields

namespace Draft

lemma add_table {fields : Fields} {name : String} (h : name ∉ fields.map Prod.fst) (current : List String) :
    add ⟨fields, current⟩ (.table ⟨[], name⟩) = some ⟨fields ++ [(name, .table .header [])], [name]⟩ := by
  rw [add, Fields.within, Fields.openTable, Fields.find?_of_notMem h]
  rfl

lemma add_assign {fields inner : Fields} {sect name : String} (hsect : sect ∉ fields.map Prod.fst)
    (hname : name ∉ inner.map Prod.fst) (v : Value) :
    add ⟨fields ++ [(sect, .table .header inner)], [sect]⟩ (.assign ⟨[], name⟩ v) =
      some ⟨fields ++ [(sect, .table .header (inner ++ [(name, v)]))], [sect]⟩ := by
  rw [add, Fields.within, Fields.find?_append_of_notMem hsect]
  simp only [Fields.within, Fields.assign, Fields.insert?, Fields.find?_of_notMem hname, Option.map_some,
    Fields.put_append_of_notMem hsect]

/-- The entries of a section come into its table one after the other. -/
lemma foldlM_assignments {fields : Fields} {sect : String} (hsect : sect ∉ fields.map Prod.fst)
    {entries : List (String × Entry)} {inner : Fields}
    (h : (inner.map Prod.fst ++ entries.map Prod.fst).Nodup) :
    (entries.map assignment).foldlM add ⟨fields ++ [(sect, .table .header inner)], [sect]⟩ =
      some ⟨fields ++ [(sect, .table .header (inner ++ entries.map fun e => (e.1, e.2.value)))], [sect]⟩ := by
  -- the section stays the last table of the document, so that only the entries in it grow
  induction entries generalizing inner with
  | nil => simp
  | cons e entries ih =>
    have hname : e.1 ∉ inner.map Prod.fst :=
      fun hmem => (List.nodup_append.1 h).2.2 _ hmem _ List.mem_cons_self rfl
    rw [List.map_cons, List.foldlM_cons, assignment, add_assign hsect hname]
    have hnext := @ih (inner ++ [(e.1, e.2.value)]) (by simpa using h)
    simpa using hnext

lemma foldlM_sections {sections : Sections} (h : ∀ part ∈ sections, IsPlain part) {fields : Fields}
    (hdistinct : (fields.map Prod.fst ++ sections.map Prod.fst).Nodup) (current : List String) :
    ((sections.flatMap sectionLines).foldlM add ⟨fields, current⟩).map Draft.fields =
      some (fields ++ sections.map sectionContents) := by
  -- which table is the current one does not matter, since each section begins with its own header
  induction sections generalizing fields current with
  | nil => simp
  | cons part sections ih =>
    obtain ⟨hpart, hsections⟩ := List.forall_mem_cons.1 h
    have hsect : part.1 ∉ fields.map Prod.fst :=
      fun hmem => (List.nodup_append.1 hdistinct).2.2 _ hmem _ List.mem_cons_self rfl
    have hentries := foldlM_assignments hsect (show (([] : Fields).map Prod.fst ++ _).Nodup from hpart.distinct)
    have hnext := @ih hsections (fields ++ [sectionContents part]) (by simpa [sectionContents] using hdistinct)
      [part.1]
    rw [List.flatMap_cons, List.foldlM_append, sectionLines, List.foldlM_cons, add_table hsect]
    simp only [Option.bind_eq_bind, Option.bind_some, hentries]
    simpa [sectionContents] using hnext

end Draft

/-! ### Carriage returns -/

lemma unifyLineEnds_of_notMem {s : List Char} (h : '\r' ∉ s) : unifyLineEnds s = s := by
  induction s with
  | nil => rfl
  | cons c s ih =>
    rw [List.mem_cons, not_or] at h
    rw [unifyLineEnds, ih h.2]
    exact fun _ hc => absurd hc.symm h.1

lemma return_notMem_bare {name : String} (h : IsBare name) : '\r' ∉ name.toList :=
  fun hmem => absurd (h.isBareChar_of_mem hmem) (by decide)

lemma return_notMem_section {part : String × List (String × Entry)} (h : IsPlain part) :
    '\r' ∉ sectionChars part := by
  have hentries : '\r' ∉ (part.2.map entryChars).flatten := by
    simp only [List.mem_flatten, List.mem_map, not_exists, not_and]
    rintro _ ⟨e, hmem, rfl⟩
    simp [entryChars, return_notMem_bare (h.names e hmem), e.2.return_notMem_chars]
  simp [sectionChars, return_notMem_bare h.name, hentries]

lemma return_notMem_document {sections : Sections} (h : ∀ part ∈ sections, IsPlain part) :
    '\r' ∉ List.intercalate ['\n'] (sections.map sectionChars) := by
  induction sections with
  | nil => exact List.not_mem_nil
  | cons part sections ih =>
    obtain ⟨hpart, hsections⟩ := List.forall_mem_cons.1 h
    cases sections with
    | nil =>
      rw [List.map_singleton, List.intercalate_singleton]
      exact return_notMem_section hpart
    | cons next sections =>
      rw [List.map_cons, List.map_cons, List.intercalate_cons_cons, ← List.map_cons]
      simp only [List.mem_append, not_or]
      exact ⟨⟨return_notMem_section hpart, by decide⟩, ih hsections⟩

/-! ### Documents -/

namespace Sections

variable {sections : Sections}

/-- All sections are plain, and their names differ. -/
structure IsPlain (sections : Sections) : Prop where
  parts : ∀ part ∈ sections, Toml.IsPlain part
  distinct : (sections.map Prod.fst).Nodup

/-- All integers in a document have at most 64 bits. -/
def Fits (sections : Sections) : Prop := ∀ part ∈ sections, ∀ e ∈ part.2, e.2.Fits

/-- The text of a document that fits. -/
def chars (sections : Sections) : List Char := List.intercalate ['\n'] (sections.map sectionChars)

lemma writeSection_of_fits {part : String × List (String × Entry)} (h : ∀ e ∈ part.2, e.2.Fits) :
    writeSection part = some (sectionChars part) := by
  have hentries : part.2.mapM writeEntry = some (part.2.map entryChars) := by
    refine mapM_eq_some_map fun e he => ?_
    rw [writeEntry, Entry.write_of_fits (h e he)]
    rfl
  rw [writeSection, hentries]
  rfl

lemma write_of_fits (h : sections.Fits) : write sections = some (String.ofList sections.chars) := by
  rw [write, mapM_eq_some_map fun part hpart => writeSection_of_fits (h part hpart)]
  rfl

lemma write_of_not_fits (h : ¬sections.Fits) : write sections = none := by
  obtain ⟨part, hpart, e, he, hfits⟩ : ∃ part ∈ sections, ∃ e ∈ part.2, ¬e.2.Fits := by
    simpa only [Fits, not_forall, exists_prop] using h
  have hentry : writeEntry e = none := by
    rw [writeEntry, Entry.write_of_not_fits hfits]
    rfl
  have hsection : writeSection part = none := by
    rw [writeSection, mapM_eq_none he hentry]
    rfl
  rw [write, mapM_eq_none hpart hsection]
  rfl

lemma skipMark_chars (sections : Sections) : skipMark sections.chars = sections.chars := by
  match sections with
  | [] | [_] | _ :: _ :: _ => rfl

/-- A written document is read back. -/
lemma read_chars (h : sections.IsPlain) (hfits : sections.Fits) :
    read (String.ofList sections.chars) = some (sections.map sectionContents) := by
  rw [read, String.toList_ofList, skipMark_chars, chars,
    unifyLineEnds_of_notMem (return_notMem_document h.parts), readLines_sections h.parts hfits,
    Option.bind_some, build]
  have hdistinct : ((([] : Fields).map Prod.fst) ++ sections.map Prod.fst).Nodup := h.distinct
  exact Draft.foldlM_sections h.parts hdistinct []

end Sections

end NcmBridge.Toml
