import Mathlib.Algebra.GroupWithZero.Nat
import Mathlib.Data.List.Lex
import Mathlib.Order.Basic
import Mathlib.Tactic.Lemma
import NcmBridge.Bridge.Pump
import NcmBridge.Proofs.Octets

/-!
# Counters hold what was counted

The accounts of a registry stand in the order of their serials, and every change keeps them so. Changing
the account of one serial leaves all others as they are, so a counter grows by exactly what is added to
it, modulo 2^64.
-/

namespace NcmBridge

/-! ### The order of serials -/

/-- The bytes that serials are compared by. -/
def serialKey (serial : String) : List UInt8 := serial.toUTF8.data.toList

lemma serialKey_injective : Function.Injective serialKey := by
  intro s t h
  exact String.toByteArray_inj.1 (ByteArray.ext (Array.toList_inj.1 h))

lemma serialBefore_iff {s t : String} : serialBefore s t = true ↔ serialKey s < serialKey t := by
  rw [serialBefore, decide_eq_true_eq]
  simp only [Octets.toList_byteArray]
  rfl

lemma serialBefore_irrefl (s : String) : serialBefore s s ≠ true := by
  rw [Ne, serialBefore_iff]
  exact List.lt_irrefl _

lemma serialBefore_trans {s t u : String} (h : serialBefore s t = true)
    (h' : serialBefore t u = true) : serialBefore s u = true := by
  rw [serialBefore_iff] at *
  exact Std.lt_trans h h'

/-- Of two different serials one comes before the other. -/
lemma serialBefore_of_not {s t : String} (hne : s ≠ t) (h : serialBefore s t ≠ true) :
    serialBefore t s = true := by
  rw [Ne, serialBefore_iff, List.not_lt] at h
  rw [serialBefore_iff]
  exact Std.lt_of_le_of_ne h fun heq => hne (serialKey_injective heq).symm

/-! ### Accounts -/

namespace Registry

/-- The accounts stand in the order of their serials, each serial once. -/
def Ordered (r : Registry) : Prop :=
  r.accounts.Pairwise fun a b => serialBefore a.1 b.1 = true

lemma ordered_empty : ({} : Registry).Ordered := .nil

variable {serial t : String} {change : Account → Account} {accounts : List (String × Account)}

lemma mem_updateIn {entry : String × Account} (h : entry ∈ updateIn serial change accounts) :
    entry.1 = serial ∨ entry ∈ accounts := by
  induction accounts with
  | nil => simp_all [updateIn]
  | cons head rest ih =>
    obtain ⟨s, a⟩ := head
    rw [updateIn] at h
    split at h
    · next heq =>
      rcases List.mem_cons.1 h with rfl | h
      · exact .inl heq
      · exact .inr (.tail _ h)
    · split at h
      · rcases List.mem_cons.1 h with rfl | h
        · exact .inl rfl
        · exact .inr h
      · rcases List.mem_cons.1 h with rfl | h
        · exact .inr (.head _)
        · exact (ih h).imp_right (.tail _)

/-- A change of one account keeps the order. -/
lemma pairwise_updateIn (h : accounts.Pairwise fun a b => serialBefore a.1 b.1 = true) :
    (updateIn serial change accounts).Pairwise fun a b => serialBefore a.1 b.1 = true := by
  induction accounts with
  | nil => exact List.pairwise_singleton _ _
  | cons head rest ih =>
    obtain ⟨s, a⟩ := head
    obtain ⟨hhead, hrest⟩ := List.pairwise_cons.1 h
    rw [updateIn]
    split
    · exact List.pairwise_cons.2 ⟨hhead, hrest⟩
    · next hne =>
      split
      · next hbefore =>
        refine List.pairwise_cons.2 ⟨?_, h⟩
        rw [List.forall_mem_cons]
        exact ⟨hbefore, fun entry hentry => serialBefore_trans hbefore (hhead entry hentry)⟩
      · next hafter =>
        refine List.pairwise_cons.2 ⟨?_, ih hrest⟩
        intro entry hentry
        rcases mem_updateIn hentry with heq | hmem
        · rw [heq]
          exact serialBefore_of_not (Ne.symm hne) hafter
        · exact hhead entry hmem

/-- A serial that comes before all others has no account. -/
lemma lookup_eq_none_of_before
    (h : ∀ entry ∈ accounts, serialBefore serial entry.1 = true) : accounts.lookup serial = none := by
  rw [List.lookup_eq_none_iff]
  intro entry hentry
  rw [bne_iff_ne]
  intro heq
  exact serialBefore_irrefl serial (heq ▸ h entry hentry)

lemma lookup_cons_of_ne {s : String} {a : Account} (h : t ≠ s) :
    ((s, a) :: accounts).lookup t = accounts.lookup t := by
  rw [List.lookup_cons, beq_eq_false_iff_ne.2 h]

/-- A change reaches the account of its serial, which may be new. -/
lemma lookup_updateIn_self (h : accounts.Pairwise fun a b => serialBefore a.1 b.1 = true) :
    (updateIn serial change accounts).lookup serial =
      some (change ((accounts.lookup serial).getD {})) := by
  induction accounts with
  | nil => rw [updateIn, List.lookup_cons_self, List.lookup_nil, Option.getD_none]
  | cons head rest ih =>
    obtain ⟨s, a⟩ := head
    obtain ⟨hhead, hrest⟩ := List.pairwise_cons.1 h
    rw [updateIn]
    split
    · next heq =>
      subst heq
      rw [List.lookup_cons_self, List.lookup_cons_self, Option.getD_some]
    · next hne =>
      split
      · next hbefore =>
        have hnone : ((s, a) :: rest).lookup serial = none := by
          apply lookup_eq_none_of_before
          rw [List.forall_mem_cons]
          exact ⟨hbefore, fun entry hentry => serialBefore_trans hbefore (hhead entry hentry)⟩
        rw [hnone, List.lookup_cons_self, Option.getD_none]
      · rw [lookup_cons_of_ne (Ne.symm hne), lookup_cons_of_ne (Ne.symm hne), ih hrest]

/-- A change leaves the accounts of other serials as they are. -/
lemma lookup_updateIn_of_ne (ht : t ≠ serial) :
    (updateIn serial change accounts).lookup t = accounts.lookup t := by
  induction accounts with
  | nil => rw [updateIn, lookup_cons_of_ne ht]
  | cons head rest ih =>
    obtain ⟨s, a⟩ := head
    rw [updateIn]
    split
    · next heq =>
      rw [heq, lookup_cons_of_ne ht, lookup_cons_of_ne ht]
    · split
      · rw [lookup_cons_of_ne ht]
      · rw [List.lookup_cons, ih, List.lookup_cons]

/-! ### Counters -/

variable {r : Registry} {c d : Counter} {n : UInt64}

lemma add_eq_update (r : Registry) (c : Counter) (serial : String) (n : UInt64) :
    r.add c serial n = r.update serial fun a => a.add c n := by
  rw [add, addKnown?, addOpening]
  cases r.account? serial with
  | none => rfl
  | some a => rfl

lemma Ordered.add (h : r.Ordered) : (r.add c serial n).Ordered := by
  rw [add_eq_update]
  exact pairwise_updateIn h

lemma value_add (a : Account) (c d : Counter) (n : UInt64) :
    (a.add c n).value d = a.value d + if d = c then n else 0 := by
  cases c <;> cases d <;> simp [Account.add, Account.value]

/-- The counter of a serial without an account is that of an empty one. -/
lemma counter_eq_value (r : Registry) (c : Counter) (serial : String) :
    r.counter c serial = ((r.account? serial).getD {}).value c := by
  rw [counter]
  cases r.account? serial with
  | none => cases c <;> rfl
  | some a => rfl

/-- An addition to one counter of a serial changes none of its other counters. -/
lemma Ordered.counter_add (h : r.Ordered) :
    (r.add c serial n).counter d serial = r.counter d serial + if d = c then n else 0 := by
  rw [counter_eq_value, counter_eq_value, add_eq_update, account?, update, lookup_updateIn_self h,
    Option.getD_some, value_add]
  rfl

end Registry

/-! ### Counted notes -/

namespace Note

/-- What a note adds to a counter. -/
def amount (c : Counter) : Note → Nat
  | counted d n => if c = d then n else 0
  | logged _ => 0

/-- What notes add to a counter. -/
def total (c : Counter) (notes : List Note) : Nat := (notes.map (amount c)).sum

@[simp] lemma total_nil (c : Counter) : total c [] = 0 := rfl

@[simp] lemma total_cons (c : Counter) (note : Note) (notes : List Note) :
    total c (note :: notes) = note.amount c + total c notes := by
  rw [total, List.map_cons, List.sum_cons, total]

@[simp] lemma total_append (c : Counter) (notes new : List Note) :
    total c (notes ++ new) = total c notes + total c new := by
  rw [total, List.map_append, List.sum_append, total, total]

@[simp] lemma amount_counted (c d : Counter) (n : Nat) :
    (counted d n).amount c = if c = d then n else 0 := rfl

@[simp] lemma amount_traced (c : Counter) (text : String) : (traced text).amount c = 0 := rfl

/-- Entering notes adds their total to each counter. -/
lemma counter_foldl_enter {serial : String} {r : Registry} (h : r.Ordered) (c : Counter)
    (notes : List Note) :
    (notes.foldl (enter serial) r).counter c serial =
      r.counter c serial + UInt64.ofNat (total c notes) := by
  induction notes generalizing r with
  | nil => simp
  | cons note notes ih =>
    rw [List.foldl_cons, total_cons]
    cases note with
    | logged line =>
      rw [enter, ih h, amount, Nat.zero_add]
    | counted d n =>
      rw [enter, ih h.add, h.counter_add, amount, UInt64.ofNat_add, UInt64.add_assoc]
      by_cases hc : c = d
      · simp [hc]
      · simp [hc]

/-- Notes entered in an empty registry leave their total in each counter. -/
lemma counter_foldl_enter_empty (serial : String) (c : Counter) (notes : List Note) :
    (notes.foldl (enter serial) {}).counter c serial = UInt64.ofNat (total c notes) := by
  rw [counter_foldl_enter Registry.ordered_empty]
  exact UInt64.zero_add _

end Note

end NcmBridge
