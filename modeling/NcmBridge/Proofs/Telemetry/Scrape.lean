import NcmBridge.Proofs.Telemetry.Updates
import NcmBridge.Telemetry.Exposition

/-!
# A scrape can be read back

A scraper splits the text into lines, passes over comments, and takes the other lines for samples: a name,
labels in braces with quoted values, and a number. It needs to know nothing of the registry. What it reads
are the number of devices and, for each counter, one sample per account in the order of the serials,
whatever characters the serials and interfaces have; so no two registries have the same text.
-/

namespace NcmBridge

/-- A sample as a scraper sees it. -/
structure Sample where
  name : String
  labels : List (String × String) := []
  value : Nat
  deriving DecidableEq, Repr

namespace Scrape

/-- What stands after a backslash for a character. -/
def unescape? : Char → Option Char
  | '\\' => some '\\'
  | '"' => some '"'
  | 'n' => some '\n'
  | _ => none

/-- Reads up to the closing quote, and tells what comes after it. -/
def readQuoted : List Char → Option (List Char × List Char)
  | [] => none
  | '"' :: rest => some ([], rest)
  | '\\' :: c :: rest => do
    let c ← unescape? c
    (readQuoted rest).map fun (value, rest) => (c :: value, rest)
  | c :: rest => (readQuoted rest).map fun (value, rest) => (c :: value, rest)

lemma length_readQuoted {text value rest : List Char} (h : readQuoted text = some (value, rest)) :
    rest.length < text.length := by
  fun_induction readQuoted text generalizing value with
  | case1 => cases h
  | case2 rest' =>
    obtain ⟨-, rfl⟩ : [] = value ∧ rest' = rest := by simpa using h
    exact Nat.lt_succ_self _
  | case3 c rest' ih =>
    obtain ⟨c', -, h⟩ := Option.bind_eq_some_iff.1 h
    obtain ⟨⟨value', rest''⟩, hread, heq⟩ := Option.map_eq_some_iff.1 h
    obtain ⟨-, rfl⟩ := Prod.mk.inj heq
    exact (ih hread).trans (Nat.lt_add_of_pos_right Nat.two_pos)
  | case4 c rest' _ _ ih =>
    obtain ⟨⟨value', rest''⟩, hread, heq⟩ := Option.map_eq_some_iff.1 h
    obtain ⟨-, rfl⟩ := Prod.mk.inj heq
    exact (ih hread).trans (Nat.lt_succ_self _)

/-- Reads a label with its value. -/
def readLabel (text : List Char) : Option ((String × String) × List Char) :=
  match text.dropWhile (· ≠ '=') with
  | '=' :: '"' :: rest =>
    (readQuoted rest).map fun (value, rest) =>
      ((String.ofList (text.takeWhile (· ≠ '=')), String.ofList value), rest)
  | _ => none

lemma length_readLabel {text rest : List Char} {label : String × String}
    (h : readLabel text = some (label, rest)) : rest.length < text.length := by
  rw [readLabel] at h
  split at h
  · next value hdrop =>
    obtain ⟨⟨value', rest'⟩, hread, heq⟩ := Option.map_eq_some_iff.1 h
    obtain ⟨-, rfl⟩ := Prod.mk.inj heq
    calc
      rest'.length < value.length := length_readQuoted hread
      _ < ('=' :: '"' :: value).length := Nat.lt_add_of_pos_right Nat.two_pos
      _ ≤ text.length := hdrop ▸ (List.dropWhile_sublist _).length_le
  · cases h

/-- Reads labels with commas between them up to the closing brace. -/
def readLabels (text : List Char) : Option (List (String × String) × List Char) :=
  match _ : readLabel text with
  | some (label, ',' :: rest) =>
    (readLabels rest).map fun (labels, rest) => (label :: labels, rest)
  | some (label, '\x7d' :: rest) => some ([label], rest)
  | _ => none
termination_by text.length
decreasing_by
  have hlt := length_readLabel ‹_›
  exact (Nat.lt_succ_self _).trans hlt

lemma readLabels_of_comma {text rest : List Char} {label : String × String}
    (h : readLabel text = some (label, ',' :: rest)) :
    readLabels text = (readLabels rest).map fun (labels, rest) => (label :: labels, rest) := by
  rw [readLabels]
  split
  all_goals simp_all

lemma readLabels_of_brace {text rest : List Char} {label : String × String}
    (h : readLabel text = some (label, '\x7d' :: rest)) : readLabels text = some ([label], rest) := by
  rw [readLabels]
  split
  all_goals simp_all

/-- Reads a number that takes up all of the text. -/
def readNumber (digits : List Char) : Option Nat :=
  if digits ≠ [] ∧ digits.all Char.isDigit then some (Nat.ofDigitChars 10 digits 0) else none

/-- Whether a character may stand in the name of a metric. -/
def isNameChar (c : Char) : Bool := c.isAlphanum || c == '_' || c == ':'

/-- Reads a line with a sample. -/
def readSample (line : List Char) : Option Sample :=
  let name := String.ofList (line.takeWhile isNameChar)
  match line.dropWhile isNameChar with
  | ' ' :: digits => (readNumber digits).map fun value => { name, value }
  | '\x7b' :: rest =>
    match readLabels rest with
    | some (labels, ' ' :: digits) => (readNumber digits).map fun value => { name, labels, value }
    | _ => none
  | _ => none

/-- Whether a line is neither empty nor a comment. -/
def isSample : List Char → Bool
  | [] | '#' :: _ => false
  | _ => true

/-- Reads lines that are samples or to be passed over. -/
def readLines (lines : List (List Char)) : Option (List Sample) :=
  (lines.filter isSample).mapM readSample

/-- Reads a scrape. -/
def read (text : String) : Option (List Sample) := readLines (text.toList.splitOn '\n')

/-! ### Reading what was written -/

open Exposition

lemma readQuoted_escapeChar (c : Char) (text : List Char) :
    readQuoted (escapeChar c ++ text) =
      (readQuoted text).map fun (value, rest) => (c :: value, rest) := by
  fun_cases escapeChar c with
  | case1 => simp [readQuoted, unescape?]
  | case2 => simp [readQuoted, unescape?]
  | case3 => simp [readQuoted, unescape?]
  | case4 _ hbackslash hquote _ =>
    rw [List.singleton_append, readQuoted]
    · exact hquote
    · intro _ _ heq
      exact absurd heq hbackslash

/-- The quote that ends a value is found, and none that stands in it is taken for it. -/
lemma readQuoted_escaped (value rest : List Char) :
    readQuoted (value.flatMap escapeChar ++ '"' :: rest) = some (value, rest) := by
  induction value with
  | nil => rfl
  | cons c value ih =>
    rw [List.flatMap_cons, List.append_assoc, readQuoted_escapeChar, ih]
    rfl

example : readQuoted ("a\\\"n\n".toList.flatMap escapeChar ++ "\"\x7d 1".toList) =
    some ("a\\\"n\n".toList, "\x7d 1".toList) := by
  decide

lemma readLabel_label {name : String} (h : '=' ∉ name.toList) (value : String) (rest : List Char) :
    readLabel ((label name value).toList ++ rest) = some ((name, value), rest) := by
  have htext : (label name value).toList ++ rest =
      name.toList ++ '=' :: '"' :: (value.toList.flatMap escapeChar ++ '"' :: rest) := by
    simp [label, escape]
  have hname : ∀ c ∈ name.toList, decide (c ≠ '=') = true := by
    intro c hc
    exact decide_eq_true fun heq => h (heq ▸ hc)
  rw [htext, readLabel, List.dropWhile_append_of_pos hname, List.takeWhile_append_of_pos hname]
  simp [readQuoted_escaped]

lemma readNumber_toDigits (n : Nat) : readNumber (Nat.toDigits 10 n) = some n := by
  rw [readNumber, if_pos, Nat.ofDigitChars_ten_toDigits]
  refine ⟨Nat.toDigits_ne_nil, List.all_eq_true.2 ?_⟩
  intro c hc
  exact Nat.isDigit_of_mem_toDigits (by decide) (by decide) hc

/-- The labels that tell whose sample it is. -/
def labelsOf (c : Counter) (serial interface : String) : List (String × String) :=
  match c with
  | .usbReceive | .usbSend => [("serial", serial)]
  | .networkReceive | .networkSend => [("device", interface), ("serial", serial)]

lemma readLabels_sample (c : Counter) (serial : String) (a : Account) (rest : List Char) :
    readLabels ((if c.showsInterface then label "device" a.interface ++ "," ++ label "serial" serial
      else label "serial" serial).toList ++ '\x7d' :: rest) =
      some (labelsOf c serial a.interface, rest) := by
  have hserial : readLabels ((label "serial" serial).toList ++ '\x7d' :: rest) =
      some ([("serial", serial)], rest) :=
    readLabels_of_brace (readLabel_label (by decide) _ _)
  have hboth : readLabels ((label "device" a.interface ++ "," ++ label "serial" serial).toList ++
      '\x7d' :: rest) = some ([("device", a.interface), ("serial", serial)], rest) := by
    have hdevice := readLabel_label (show '=' ∉ "device".toList by decide) a.interface
      (',' :: ((label "serial" serial).toList ++ '\x7d' :: rest))
    have htext : (label "device" a.interface ++ "," ++ label "serial" serial).toList ++ '\x7d' :: rest =
        (label "device" a.interface).toList ++
          ',' :: ((label "serial" serial).toList ++ '\x7d' :: rest) := by
      simp
    rw [htext, readLabels_of_comma hdevice, hserial]
    rfl
  cases c with
  | usbReceive | usbSend => exact hserial
  | networkReceive | networkSend => exact hboth

/-- The sample of a counter for one account. -/
def sampleOf (c : Counter) (entry : String × Account) : Sample :=
  { name := c.name, labels := labelsOf c entry.1 entry.2.interface, value := (entry.2.value c).toNat }

lemma toList_sample (name labels number : String) :
    (name ++ "\x7b" ++ labels ++ "\x7d " ++ number).toList =
      name.toList ++ '\x7b' :: (labels.toList ++ '\x7d' :: ' ' :: number.toList) := by
  simp

lemma readSample_sample (c : Counter) (entry : String × Account) :
    readSample (sample c entry.1 entry.2).toList = some (sampleOf c entry) := by
  have hname : ∀ x ∈ c.name.toList, isNameChar x = true := by
    apply List.all_eq_true.1
    cases c <;> rfl
  rw [sample, toList_sample, readSample, List.dropWhile_append_of_pos hname, List.takeWhile_append_of_pos hname]
  simp [isNameChar, readLabels_sample, readNumber_toDigits, sampleOf]

/-! ### Lines -/

lemma newline_not_mem_escapeChar (c : Char) : '\n' ∉ escapeChar c := by
  fun_cases escapeChar c with
  | case1 => decide
  | case2 => decide
  | case3 => decide
  | case4 _ _ _ hnewline =>
    intro h
    exact hnewline (List.mem_singleton.1 h).symm

lemma newline_not_mem_label {name : String} (h : '\n' ∉ name.toList) (value : String) :
    '\n' ∉ (label name value).toList := by
  simp [label, escape, h, newline_not_mem_escapeChar]

lemma newline_not_mem_number (n : Nat) : '\n' ∉ (toString n).toList := by
  rw [Nat.toString_eq_ofList_toDigits, String.toList_ofList]
  intro h
  exact absurd (Nat.isDigit_of_mem_toDigits (by decide) (by decide) h) (by decide)

lemma newline_not_mem_sample (c : Counter) (entry : String × Account) :
    '\n' ∉ (sample c entry.1 entry.2).toList := by
  have hname : '\n' ∉ c.name.toList := by
    cases c <;> decide
  have hdevice := newline_not_mem_label (show '\n' ∉ "device".toList by decide) entry.2.interface
  have hserial := newline_not_mem_label (show '\n' ∉ "serial".toList by decide) entry.1
  have hnumber := newline_not_mem_number (entry.2.value c).toNat
  rw [sample]
  split <;> simp_all

lemma newline_not_mem_describe {name help type line : String} (hname : '\n' ∉ name.toList)
    (hhelp : '\n' ∉ help.toList) (htype : '\n' ∉ type.toList) (h : line ∈ describe name help type) :
    '\n' ∉ line.toList := by
  rw [describe, List.mem_pair] at h
  rcases h with rfl | rfl
  · simp [hname, hhelp]
  · simp [hname, htype]

/-- No line is broken, whatever stands in the serials and interfaces. -/
lemma newline_not_mem_lines {r : Registry} {line : String} (h : line ∈ Exposition.lines r) :
    '\n' ∉ line.toList := by
  rw [Exposition.lines, List.mem_append, List.mem_flatMap] at h
  rcases h with h | ⟨c, -, h⟩
  · rcases List.mem_append.1 h with h | h
    · exact newline_not_mem_describe (by decide) (by decide) (by decide) h
    · rw [List.mem_singleton.1 h, String.toList_append, List.mem_append, not_or]
      exact ⟨by decide, newline_not_mem_number _⟩
  · rcases List.mem_append.1 h with h | h
    · have hname : '\n' ∉ c.name.toList := by
        cases c <;> decide
      have hhelp : '\n' ∉ c.help.toList := by
        cases c <;> decide
      exact newline_not_mem_describe hname hhelp (by decide) h
    · obtain ⟨entry, -, rfl⟩ := List.mem_map.1 h
      exact newline_not_mem_sample c entry

lemma splitOn_lines {lines : List String} (h : ∀ line ∈ lines, '\n' ∉ line.toList) :
    (String.join (lines.map (· ++ "\n"))).toList.splitOn '\n' = lines.map String.toList ++ [[]] := by
  induction lines with
  | nil => rfl
  | cons line lines ih =>
    rw [List.forall_mem_cons] at h
    rw [List.map_cons, String.toList_join, List.flatMap_cons, ← String.toList_join, String.toList_append]
    have hnewline : "\n".toList = ['\n'] := rfl
    rw [hnewline, List.append_assoc, List.singleton_append,
      List.splitOn_append_cons_self_of_not_mem h.1, ih h.2]
    rfl

/-- The samples of a registry. -/
def samplesOf (r : Registry) : List Sample :=
  { name := "device_count", value := r.deviceCount.toNat } ::
    Counter.all.flatMap fun c => r.accounts.map (sampleOf c)

section

variable {lines lines' : List (List Char)} {samples samples' : List Sample}

lemma readLines_append (h : readLines lines = some samples) (h' : readLines lines' = some samples') :
    readLines (lines ++ lines') = some (samples ++ samples') := by
  rw [readLines] at h h'
  rw [readLines, List.filter_append, List.mapM_append, h, h']
  rfl

lemma readLines_singleton {line : List Char} {sample : Sample} (h : readSample line = some sample) :
    readLines [line] = some [sample] := by
  have hsample : isSample line = true := by
    fun_cases isSample line with
    | case1 => cases h
    | case2 =>
      have hcomment : isNameChar '#' = false := rfl
      simp [readSample, hcomment] at h
    | case3 => rfl
  rw [readLines, List.filter_cons_of_pos hsample, List.filter_nil, List.mapM_cons, h]
  rfl

end

lemma readLines_describe (name help type : String) :
    readLines ((describe name help type).map String.toList) = some [] := by
  simp [readLines, describe, isSample]

lemma readLines_samples (c : Counter) (accounts : List (String × Account)) :
    readLines ((accounts.map fun entry => sample c entry.1 entry.2).map String.toList) =
      some (accounts.map (sampleOf c)) := by
  induction accounts with
  | nil => rfl
  | cons entry accounts ih => exact readLines_append (readLines_singleton (readSample_sample c entry)) ih

lemma readLines_family (r : Registry) (c : Counter) :
    readLines ((family r c).map String.toList) = some (r.accounts.map (sampleOf c)) := by
  rw [family, List.map_append]
  exact readLines_append (readLines_describe _ _ _) (readLines_samples c r.accounts)

lemma readLines_gauge (r : Registry) :
    readLines ((Exposition.gauge r).map String.toList) =
      some [{ name := "device_count", value := r.deviceCount.toNat }] := by
  have hline : readSample ("device_count " ++ toString r.deviceCount.toNat).toList =
      some { name := "device_count", value := r.deviceCount.toNat } := by
    have hname : ∀ x ∈ "device_count".toList, isNameChar x = true := List.all_eq_true.1 rfl
    have htext : ("device_count " ++ toString r.deviceCount.toNat).toList =
        "device_count".toList ++ ' ' :: Nat.toDigits 10 r.deviceCount.toNat := by
      simp
    rw [htext, readSample, List.dropWhile_append_of_pos hname, List.takeWhile_append_of_pos hname]
    simp [isNameChar, readNumber_toDigits]
  rw [Exposition.gauge, List.map_append]
  exact readLines_append (readLines_describe _ _ _) (readLines_singleton hline)

lemma readLines_families (r : Registry) (counters : List Counter) :
    readLines ((counters.flatMap (family r)).map String.toList) =
      some (counters.flatMap fun c => r.accounts.map (sampleOf c)) := by
  induction counters with
  | nil => rfl
  | cons c counters ih =>
    rw [List.flatMap_cons, List.flatMap_cons, List.map_append]
    exact readLines_append (readLines_family r c) ih

lemma read_render (r : Registry) : read r.render = some (samplesOf r) := by
  rw [read, Registry.render, splitOn_lines fun line => newline_not_mem_lines, Exposition.lines,
    List.map_append, ← List.append_nil (samplesOf r)]
  apply readLines_append (readLines_append (readLines_gauge r) (readLines_families r Counter.all))
  rfl

/-! ### What the samples tell -/

lemma name_injective : Function.Injective Counter.name := by
  intro c d
  cases c <;> cases d <;> decide

lemma filter_samplesOf (r : Registry) (c : Counter) :
    (samplesOf r).filter (·.name = c.name) = r.accounts.map (sampleOf c) := by
  have hcount : "device_count" ≠ c.name := by
    cases c <;> decide
  have hfamily (d : Counter) : (r.accounts.map (sampleOf d)).filter (·.name = c.name) =
      if d = c then r.accounts.map (sampleOf c) else [] := by
    have hname : (fun sample : Sample => decide (sample.name = c.name)) ∘ sampleOf d =
        fun _ => decide (d.name = c.name) := rfl
    rw [List.filter_map, hname]
    by_cases hd : d = c
    · simp [hd]
    · simp [hd, name_injective.ne hd]
  rw [samplesOf, List.filter_cons_of_neg (by simpa using hcount), List.filter_flatMap]
  simp only [hfamily]
  cases c <;> simp [Counter.all]

lemma eq_of_sampleOf {entry entry' : String × Account} (h : ∀ c, sampleOf c entry = sampleOf c entry') :
    entry = entry' := by
  obtain ⟨serial, interface, usbReceive, usbSend, networkReceive, networkSend⟩ := entry
  obtain ⟨serial', interface', usbReceive', usbSend', networkReceive', networkSend'⟩ := entry'
  have hvalue (c : Counter) := UInt64.toNat_inj.1 (congrArg Sample.value (h c))
  obtain ⟨rfl, rfl⟩ : interface = interface' ∧ serial = serial' := by
    simpa [sampleOf, labelsOf] using congrArg Sample.labels (h .networkReceive)
  obtain rfl : usbReceive = usbReceive' := hvalue .usbReceive
  obtain rfl : usbSend = usbSend' := hvalue .usbSend
  obtain rfl : networkReceive = networkReceive' := hvalue .networkReceive
  obtain rfl : networkSend = networkSend' := hvalue .networkSend
  rfl

lemma samplesOf_injective : Function.Injective samplesOf := by
  intro r r' h
  have hfamily (c : Counter) : r.accounts.map (sampleOf c) = r'.accounts.map (sampleOf c) := by
    rw [← filter_samplesOf, ← filter_samplesOf, h]
  have haccounts : r.accounts = r'.accounts := by
    apply List.ext_getElem
    · simpa using congrArg List.length (hfamily .usbReceive)
    · intro i hi hi'
      apply eq_of_sampleOf
      intro c
      have := congrArg (·[i]?) (hfamily c)
      simpa [hi, hi'] using this
  have hcount : r.deviceCount = r'.deviceCount := by
    simpa [samplesOf, UInt64.toNat_inj] using congrArg List.head? h
  obtain ⟨accounts, count⟩ := r
  obtain ⟨accounts', count'⟩ := r'
  obtain rfl : accounts = accounts' := haccounts
  obtain rfl : count = count' := hcount
  rfl

lemma render_injective : Function.Injective Registry.render := by
  intro r r' h
  have hread : some (samplesOf r) = some (samplesOf r') := by
    rw [← read_render, ← read_render, h]
  exact samplesOf_injective (Option.some.inj hread)

/-- The sample of a counter for one serial. -/
def shown (r : Registry) (c : Counter) (serial : String) : Sample where
  name := c.name
  labels := labelsOf c serial ((r.account? serial).getD {}).interface
  value := (r.counter c serial).toNat

end Scrape

namespace Registry

lemma Ordered.account?_of_mem {r : Registry} (h : r.Ordered) {serial : String} {a : Account}
    (hmem : (serial, a) ∈ r.accounts) : r.account? serial = some a := by
  obtain ⟨before, after, haccounts⟩ := List.append_of_mem hmem
  rw [Ordered, haccounts, List.pairwise_append] at h
  rw [account?, haccounts, List.lookup_append, List.lookup_cons_self]
  have hnone : before.lookup serial = none := by
    rw [List.lookup_eq_none_iff]
    intro entry hentry
    rw [bne_iff_ne]
    intro heq
    have hbefore := h.2.2 entry hentry (serial, a) List.mem_cons_self
    exact serialBefore_irrefl serial (heq ▸ hbefore)
  rw [hnone, Option.none_or]

lemma mem_serials_iff (r : Registry) (serial : String) :
    serial ∈ r.accounts.map Prod.fst ↔ (r.account? serial).isSome := by
  rw [account?, List.lookup_isSome_iff]
  simp

end Registry

/-- A scrape of any registry that updates lead to is read as the number of devices and, for each counter,
one sample of each serial that an update was about, in the order of the serials. No other registry is
shown by the same text. -/
theorem scrape_reads_back (updates : List Update) :
    let r := Registry.after updates
    (∃ serials : List String,
      serials.Pairwise (fun s t => serialBefore s t = true) ∧
      (∀ serial, serial ∈ serials ↔ ∃ u ∈ updates, u.serial? = some serial) ∧
      Scrape.read r.render = some ({ name := "device_count", value := r.deviceCount.toNat } ::
        [.usbReceive, .usbSend, .networkReceive, .networkSend].flatMap fun c =>
          serials.map (Scrape.shown r c))) ∧
    ∀ r' : Registry, r' ≠ r → r'.render ≠ r.render := by
  intro r
  have hordered : r.Ordered := Registry.ordered_after updates
  refine ⟨⟨r.accounts.map Prod.fst, List.pairwise_map.2 hordered, ?_, ?_⟩, ?_⟩
  · intro serial
    rw [Registry.mem_serials_iff, Registry.isSome_account?_after]
  · have hshown (c : Counter) : r.accounts.map (Scrape.sampleOf c) =
        (r.accounts.map Prod.fst).map (Scrape.shown r c) := by
      rw [List.map_map]
      apply List.map_congr_left
      intro entry hentry
      rw [Function.comp_apply, Scrape.shown, Registry.counter_eq_value, hordered.account?_of_mem hentry]
      rfl
    rw [Scrape.read_render, Scrape.samplesOf, Counter.all]
    simp only [hshown]
  · intro r' hne
    exact Scrape.render_injective.ne hne

end NcmBridge
