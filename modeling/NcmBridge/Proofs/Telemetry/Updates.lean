import Mathlib.Data.List.Induction
import Mathlib.Data.List.Perm.Basic
import NcmBridge.Proofs.Telemetry.Counters

/-!
# Updates of a registry by many threads

An addition looks its serial up under the shared lock, and only if it finds no account it comes back
later under the exclusive lock, when another thread may have opened one. Each update takes effect in
exactly one of its steps, so a registry is what its updates make of an empty one when they are carried out
one after another in the order of these steps. Of that order only the interfaces and the number of devices
depend.
-/

namespace NcmBridge

/-- An update of a registry. -/
inductive Update
  | add (counter : Counter) (serial : String) (n : UInt64)
  | register (serial interface : String)
  | setDeviceCount (count : UInt64)
  deriving DecidableEq, Repr

namespace Update

/-- Carries an update out. -/
def apply (r : Registry) : Update → Registry
  | add counter serial n => r.add counter serial n
  | register serial interface => r.register serial interface
  | setDeviceCount count => r.setDeviceCount count

/-- The serial whose account is changed. -/
def serial? : Update → Option String
  | add _ serial _ | register serial _ => some serial
  | setDeviceCount _ => none

/-- What happens to the account. -/
def change : Update → Account → Account
  | add counter _ n, a => a.add counter n
  | register _ interface, a => { a with interface := interface }
  | setDeviceCount _, a => a

/-- What is added to a counter of a serial. -/
def amount (c : Counter) (serial : String) : Update → Nat
  | add d t n => if d = c ∧ t = serial then n.toNat else 0
  | register _ _ | setDeviceCount _ => 0

/-- The interface that a serial is registered for. -/
def interface? (serial : String) : Update → Option String
  | register t interface => if t = serial then some interface else none
  | add _ _ _ | setDeviceCount _ => none

def count? : Update → Option UInt64
  | setDeviceCount count => some count
  | add _ _ _ | register _ _ => none

/-- What updates add to a counter of a serial. -/
def total (c : Counter) (serial : String) (updates : List Update) : Nat :=
  (updates.map (amount c serial)).sum

/-- The interface of the last registration of a serial. -/
def lastInterface? (serial : String) (updates : List Update) : Option String :=
  (updates.filterMap (interface? serial)).getLast?

/-- The number of devices that was set last. -/
def lastCount? (updates : List Update) : Option UInt64 := (updates.filterMap count?).getLast?

section

variable (c : Counter) (serial : String) (updates : List Update) (u : Update)

@[simp] lemma total_concat :
    total c serial (updates ++ [u]) = total c serial updates + u.amount c serial := by
  simp [total]

lemma total_perm {c serial} {updates updates' : List Update} (h : updates.Perm updates') :
    total c serial updates = total c serial updates' :=
  (h.map _).sum_nat

@[simp] lemma lastInterface?_concat :
    lastInterface? serial (updates ++ [u]) = (u.interface? serial).or (lastInterface? serial updates) := by
  rw [lastInterface?, List.filterMap_append, List.getLast?_append, lastInterface?]
  cases h : u.interface? serial with
  | none => simp [h]
  | some interface => simp [h]

@[simp] lemma lastCount?_concat :
    lastCount? (updates ++ [u]) = u.count?.or (lastCount? updates) := by
  rw [lastCount?, List.filterMap_append, List.getLast?_append, lastCount?]
  cases h : u.count? with
  | none => simp [h]
  | some count => simp [h]

variable {serial u}

lemma value_change (h : u.serial? = some serial) (a : Account) :
    (u.change a).value c = a.value c + UInt64.ofNat (u.amount c serial) := by
  cases u with
  | add d t n =>
    obtain rfl := Option.some.inj h
    rw [change, Registry.value_add, amount]
    by_cases hd : d = c
    · simp [hd]
    · simp [hd, Ne.symm hd]
  | register t interface => cases c <;> exact (UInt64.add_zero _).symm
  | setDeviceCount count => cases h

lemma amount_of_ne (h : u.serial? ≠ some serial) : u.amount c serial = 0 := by
  cases u with
  | add d t n => exact if_neg fun heq => h (congrArg some heq.2)
  | register t interface => rfl
  | setDeviceCount count => rfl

lemma interface_change (h : u.serial? = some serial) (a : Account) :
    (u.change a).interface = (u.interface? serial).getD a.interface := by
  cases u with
  | add d t n => cases d <;> rfl
  | register t interface =>
    obtain rfl := Option.some.inj h
    simp [change, interface?]
  | setDeviceCount count => cases h

lemma interface?_of_ne (h : u.serial? ≠ some serial) : u.interface? serial = none := by
  cases u with
  | add d t n => rfl
  | register t interface => exact if_neg fun heq => h (congrArg some heq)
  | setDeviceCount count => rfl

end

end Update

namespace Registry

open Update

/-! ### One update after another -/

variable {r : Registry} {serial : String}

lemma Ordered.apply (h : r.Ordered) (u : Update) : (u.apply r).Ordered := by
  cases u with
  | add counter serial n => exact h.add
  | register serial interface => exact pairwise_updateIn h
  | setDeviceCount count => exact h

/-- An update changes the account that it is about, which may be new, and no other. -/
lemma Ordered.account?_apply (h : r.Ordered) (u : Update) (serial : String) :
    (u.apply r).account? serial =
      if u.serial? = some serial then some (u.change ((r.account? serial).getD {}))
      else r.account? serial := by
  have hupdate (t : String) (change : Account → Account) :
      (r.update t change).account? serial =
        if some t = some serial then some (change ((r.account? serial).getD {}))
        else r.account? serial := by
    by_cases ht : t = serial
    · rw [ht, if_pos rfl]
      exact lookup_updateIn_self h
    · rw [if_neg (mt Option.some.inj ht)]
      exact lookup_updateIn_of_ne (Ne.symm ht)
  cases u with
  | add counter t n =>
    rw [Update.apply, add_eq_update]
    exact hupdate t _
  | register t interface => exact hupdate t _
  | setDeviceCount count => rfl

/-- An update adds its amount to each counter. -/
lemma Ordered.counter_apply (h : r.Ordered) (u : Update) (c : Counter) (serial : String) :
    (u.apply r).counter c serial = r.counter c serial + UInt64.ofNat (u.amount c serial) := by
  rw [counter_eq_value, counter_eq_value, h.account?_apply]
  split
  · next hserial =>
    rw [Option.getD_some, Update.value_change c hserial]
  · next hserial =>
    rw [Update.amount_of_ne c hserial]
    exact (UInt64.add_zero _).symm

/-- The registry after updates of an empty one. -/
def after (updates : List Update) : Registry := updates.foldl Update.apply {}

lemma after_concat (updates : List Update) (u : Update) :
    after (updates ++ [u]) = u.apply (after updates) := by
  rw [after, List.foldl_concat, ← after]

lemma ordered_after (updates : List Update) : (after updates).Ordered := by
  induction updates using List.reverseRecOn with
  | nil => exact ordered_empty
  | append_singleton updates u ih =>
    rw [after_concat]
    exact ih.apply u

/-- A counter holds what was added to it. -/
lemma counter_after (c : Counter) (serial : String) (updates : List Update) :
    (after updates).counter c serial = UInt64.ofNat (total c serial updates) := by
  induction updates using List.reverseRecOn with
  | nil => rfl
  | append_singleton updates u ih =>
    rw [after_concat, (ordered_after updates).counter_apply, ih, total_concat, UInt64.ofNat_add]

/-- A serial has an account when an update was about it. -/
lemma isSome_account?_after (serial : String) (updates : List Update) :
    ((after updates).account? serial).isSome ↔ ∃ u ∈ updates, u.serial? = some serial := by
  induction updates using List.reverseRecOn with
  | nil => simp [after, account?]
  | append_singleton updates u ih =>
    rw [after_concat, (ordered_after updates).account?_apply]
    by_cases hserial : u.serial? = some serial
    · simp [hserial]
    · simp [hserial, ih]

/-- An account has the interface of the last registration, and that of a serial never registered none. -/
lemma interface_after (serial : String) (updates : List Update) :
    (((after updates).account? serial).getD {}).interface =
      (lastInterface? serial updates).getD "" := by
  induction updates using List.reverseRecOn with
  | nil => rfl
  | append_singleton updates u ih =>
    rw [after_concat, (ordered_after updates).account?_apply, lastInterface?_concat]
    by_cases hserial : u.serial? = some serial
    · rw [if_pos hserial, Option.getD_some, interface_change hserial, ih]
      cases u.interface? serial with
      | none => rfl
      | some interface => rfl
    · rw [if_neg hserial, interface?_of_ne hserial, ih, Option.none_or]

lemma deviceCount_after (updates : List Update) :
    (after updates).deviceCount = (lastCount? updates).getD 0 := by
  induction updates using List.reverseRecOn with
  | nil => rfl
  | append_singleton updates u ih =>
    rw [after_concat, lastCount?_concat]
    cases u with
    | add counter serial n =>
      rw [Update.apply, add_eq_update]
      exact ih
    | register serial interface => exact ih
    | setDeviceCount count => rfl

end Registry

/-! ### Updates in two steps -/

/-- How far an update has come. -/
inductive Task
  | asked (update : Update)
  /-- An addition that has found no account, and has not the exclusive lock yet. -/
  | opening (counter : Counter) (serial : String) (n : UInt64)
  | done
  deriving DecidableEq, Repr

namespace Task

/-- The update that has not taken effect yet. -/
def update? : Task → Option Update
  | asked update => some update
  | opening counter serial n => some (.add counter serial n)
  | done => none

/-- How many more steps the update takes at most. -/
def stepsLeft : Task → Nat
  | asked _ => 2
  | opening _ _ _ => 1
  | done => 0

/-- One step under a lock, and the update that took effect in it, if one did. -/
def step (t : Task) (r : Registry) : Task × Registry × Option Update :=
  match t with
  | asked (.add counter serial n) =>
    match r.addKnown? counter serial n with
    | some r => (done, r, some (.add counter serial n))
    | none => (opening counter serial n, r, none)
  | opening counter serial n =>
    (done, r.addOpening counter serial n, some (.add counter serial n))
  | asked (.register serial interface) =>
    (done, r.register serial interface, some (.register serial interface))
  | asked (.setDeviceCount count) => (done, r.setDeviceCount count, some (.setDeviceCount count))
  | done => (done, r, none)

/-- In each step the update takes effect as a whole, or nothing does. -/
lemma step_cases (t : Task) (r : Registry) :
    (∃ u, t.update? = some u ∧ t.step r = (done, u.apply r, some u)) ∨
      (∃ t', t'.update? = t.update? ∧ t.step r = (t', r, none)) := by
  cases t with
  | asked u =>
    cases u with
    | add counter serial n =>
      cases hknown : r.addKnown? counter serial n with
      | none => exact .inr ⟨.opening counter serial n, rfl, by simp [step, hknown]⟩
      | some r' =>
        refine .inl ⟨_, rfl, ?_⟩
        simp [step, hknown, Update.apply, Registry.add]
    | register serial interface => exact .inl ⟨_, rfl, rfl⟩
    | setDeviceCount count => exact .inl ⟨_, rfl, rfl⟩
  | opening counter serial n =>
    refine .inl ⟨_, rfl, ?_⟩
    rw [step, Update.apply, Registry.add_eq_update]
    rfl
  | done => exact .inr ⟨.done, rfl, rfl⟩

lemma stepsLeft_step (t : Task) (r : Registry) : (t.step r).1.stepsLeft ≤ t.stepsLeft - 1 := by
  cases t with
  | asked u =>
    cases u with
    | add counter serial n =>
      cases hknown : r.addKnown? counter serial n with
      | none => simp [step, hknown, stepsLeft]
      | some r' => simp [step, hknown, stepsLeft]
    | register serial interface => exact Nat.zero_le _
    | setDeviceCount count => exact Nat.zero_le _
  | opening counter serial n => exact le_rfl
  | done => exact le_rfl

lemma eq_done_of_stepsLeft {t : Task} (h : t.stepsLeft = 0) : t = done := by
  cases t with
  | asked u => cases h
  | opening counter serial n => cases h
  | done => rfl

end Task

/-- A registry and the updates that threads carry out on it. -/
structure Updating where
  registry : Registry := {}
  tasks : List Task
  /-- The updates that have taken effect, in the order in which they did. -/
  performed : List Update := []
  deriving DecidableEq, Repr

namespace Updating

/-- An empty registry before any of the updates. -/
def start (updates : List Update) : Updating := { tasks := updates.map .asked }

/-- The task with a number takes a step. -/
def take (w : Updating) (i : Nat) : Updating :=
  match w.tasks[i]? with
  | none => w
  | some t =>
    let (t, registry, performed) := t.step w.registry
    ⟨registry, w.tasks.set i t, w.performed ++ performed.toList⟩

/-- Takes steps of tasks in the order of a schedule. -/
def run (w : Updating) (schedule : List Nat) : Updating := schedule.foldl take w

def Finished (w : Updating) : Prop := ∀ t ∈ w.tasks, t = .done

/-- The registry is what the performed updates make of an empty one, and these and the updates to come
are all that there were. -/
structure Holds (updates : List Update) (w : Updating) : Prop where
  registry : w.registry = .after w.performed
  perm : (w.performed ++ w.tasks.filterMap Task.update?).Perm updates

variable {updates : List Update} {w : Updating}

lemma holds_start (updates : List Update) : (start updates).Holds updates := by
  refine ⟨rfl, ?_⟩
  have hasked : (start updates).tasks.filterMap Task.update? = updates := by
    simp [start, List.filterMap_map, Function.comp_def, Task.update?]
  rw [hasked]
  exact List.Perm.refl _

lemma Holds.take (h : w.Holds updates) (i : Nat) : (w.take i).Holds updates := by
  unfold Updating.take
  split
  · exact h
  · next t ht =>
    obtain ⟨hregistry, hperm⟩ := h
    obtain ⟨hi, hget⟩ := List.getElem?_eq_some_iff.1 ht
    -- the task whose turn it is stands between others, and only it is replaced
    obtain ⟨before, later, hsplit, -, hset⟩ :=
      @List.exists_of_set _ i (t.step w.registry).1 w.tasks hi
    rw [hsplit, hget, List.filterMap_append, List.filterMap_cons] at hperm
    rcases t.step_cases w.registry with ⟨u, hu, hstep⟩ | ⟨t', ht', hstep⟩
    all_goals rw [hstep] at hset
    · simp only [hstep, hset, Option.toList_some]
      refine ⟨?_, ?_⟩
      · rw [Registry.after_concat, ← hregistry]
      · rw [List.filterMap_append, List.filterMap_cons]
        simp only [hu] at hperm
        refine List.Perm.trans ?_ hperm
        simp only [List.append_assoc, List.singleton_append, Task.update?]
        exact List.Perm.append_left _ List.perm_middle.symm
    · simp only [hstep, hset, Option.toList_none, List.append_nil]
      refine ⟨hregistry, ?_⟩
      rw [List.filterMap_append, List.filterMap_cons, ht']
      exact hperm

lemma Holds.run (h : w.Holds updates) (schedule : List Nat) : (w.run schedule).Holds updates := by
  induction schedule generalizing w with
  | nil => exact h
  | cons i schedule ih => exact ih (h.take i)

/-- When all updates are finished, all of them have been performed. -/
lemma Holds.perm_of_finished (h : w.Holds updates) (hfinished : w.Finished) :
    w.performed.Perm updates := by
  have hnone : w.tasks.filterMap Task.update? = [] := by
    rw [List.filterMap_eq_nil_iff]
    intro t ht
    rw [hfinished t ht]
    rfl
  simpa [hnone] using h.perm

/-- How many more steps the task with a number takes at most. -/
def stepsLeft (w : Updating) (i : Nat) : Nat := w.tasks[i]?.elim 0 Task.stepsLeft

/-- A turn of a task lowers the steps that it has left, and those of no other task. -/
lemma stepsLeft_take (w : Updating) (i j : Nat) :
    (w.take i).stepsLeft j ≤ w.stepsLeft j - if i = j then 1 else 0 := by
  unfold stepsLeft Updating.take
  split
  · next hnone =>
    by_cases hij : i = j
    · simp [← hij, hnone]
    · simp [hij]
  · next t ht =>
    by_cases hij : i = j
    · subst hij
      have hset (t' : Task) : (w.tasks.set i t')[i]? = some t' :=
        List.getElem?_set_self (List.getElem?_eq_some_iff.1 ht).1
      simpa [hset, ht] using t.stepsLeft_step w.registry
    · simp [hij]

lemma stepsLeft_run (w : Updating) (schedule : List Nat) (j : Nat) :
    (w.run schedule).stepsLeft j ≤ w.stepsLeft j - schedule.count j := by
  induction schedule generalizing w with
  | nil => exact le_rfl
  | cons i schedule ih =>
    have htake := w.stepsLeft_take i j
    have hrun : (w.run (i :: schedule)).stepsLeft j ≤ (w.take i).stepsLeft j - schedule.count j :=
      ih (w.take i)
    simp only [List.count_cons, beq_iff_eq]
    omega

/-- Two turns are enough for each update. -/
lemma finished_run (updates : List Update) (schedule : List Nat)
    (h : ∀ i < updates.length, 2 ≤ schedule.count i) : ((start updates).run schedule).Finished := by
  intro t ht
  obtain ⟨i, hi⟩ := List.mem_iff_getElem?.1 ht
  have hrun := stepsLeft_run (start updates) schedule i
  have hstart : (start updates).stepsLeft i ≤ schedule.count i := by
    rcases Nat.lt_or_ge i updates.length with hlt | hge
    · have hasked : (start updates).stepsLeft i = 2 := by simp [stepsLeft, start, hlt, Task.stepsLeft]
      rw [hasked]
      exact h i hlt
    · have hnone : (start updates).stepsLeft i = 0 := by simp [stepsLeft, start, hge]
      rw [hnone]
      exact Nat.zero_le _
  have hzero : t.stepsLeft = 0 := by
    rw [stepsLeft, hi, Option.elim_some] at hrun
    omega
  exact Task.eq_done_of_stepsLeft hzero

end Updating

/-- However the steps of updates follow each other, updates that get two turns each are finished; and once
all are finished, they have taken effect in some order in which none is missing and none comes twice. Each
counter then holds the sum of what was added to it, modulo 2^64. Exactly the serials of additions and
registrations have an account, each with the interface of its last registration in that order, and the
number of devices is the one set last. -/
theorem no_update_is_lost (updates : List Update) (schedule : List Nat) :
    let w := (Updating.start updates).run schedule
    ((∀ i < updates.length, 2 ≤ schedule.count i) → w.Finished) ∧
      (w.Finished →
        w.performed.Perm updates ∧
          (∀ c serial,
            (w.registry.counter c serial).toNat = Update.total c serial updates % 2 ^ 64) ∧
          (∀ serial, (w.registry.account? serial).map Account.interface =
            if ∃ u ∈ updates, u.serial? = some serial then
              some ((Update.lastInterface? serial w.performed).getD "")
            else none) ∧
          w.registry.deviceCount = (Update.lastCount? w.performed).getD 0) := by
  intro w
  have h : w.Holds updates := (Updating.holds_start updates).run schedule
  refine ⟨Updating.finished_run updates schedule, ?_⟩
  intro hfinished
  have hperm := h.perm_of_finished hfinished
  refine ⟨hperm, ?_, ?_, ?_⟩
  · intro c serial
    rw [h.registry, Registry.counter_after, Update.total_perm hperm, UInt64.toNat_ofNat']
  · intro serial
    have hknown := Registry.isSome_account?_after serial w.performed
    have hinterface := Registry.interface_after serial w.performed
    simp only [hperm.mem_iff] at hknown
    rw [h.registry]
    cases haccount : (Registry.after w.performed).account? serial with
    | none =>
      rw [haccount] at hknown
      exact (if_neg (mt hknown.2 Bool.false_ne_true)).symm
    | some a =>
      rw [haccount] at hknown hinterface
      rw [if_pos (hknown.1 rfl), ← hinterface]
      rfl
  · rw [h.registry, Registry.deviceCount_after]

/-- Both additions find no account, and the registration opens one before either comes back. -/
example :
    let w := (Updating.start [.add .usbSend "S1" 5, .add .usbSend "S1" 18446744073709551614,
      .register "S1" "tap0"]).run [0, 1, 2, 1, 0]
    w.registry.accounts = [("S1", { interface := "tap0", usbSend := 3 })] ∧
      w.performed = [.register "S1" "tap0", .add .usbSend "S1" 18446744073709551614,
        .add .usbSend "S1" 5] := by
  decide +kernel

end NcmBridge
