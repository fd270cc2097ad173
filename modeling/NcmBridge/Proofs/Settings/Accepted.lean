import NcmBridge.Proofs.Checks
import NcmBridge.Settings.Basic

/-!
# What accepted settings promise

Settings are accepted when every one of their values is. What the bridges rely on is that the limit for
a block leaves room for a frame and does not exceed what the length field of a block can say.
-/

namespace NcmBridge.Settings

variable {s : Settings}

/-- Settings are accepted exactly when no value of theirs has a fault. -/
lemma check_eq_ok_iff : s.check = .ok () ↔
    s.logLevel ∈ logLevels ∧ s.productIds ≠ [] ∧ s.scanSeconds ≠ 0 ∧ s.transferTimeout ≠ 0 ∧
      Tap.isValidName s.interfaceName = true ∧
      (minBatchLimit ≤ s.batchLimit.toNat ∧ s.batchLimit.toNat ≤ maxBlockLen) ∧
      (IpAddress.parse s.metricsAddress).isSome ∧ ∃ v, s.requiredVersion = .ok v := by
  simp only [check, Checks.unless_throw_eq_ok_iff, Checks.bind_eq_ok_iff, Checks.pure_eq_ok_iff,
    not_not, not_or, Nat.not_lt, ne_eq, Bool.not_eq_true', Bool.not_eq_false, Option.isNone_iff_eq_none,
    Option.isSome_iff_ne_none, and_true]

/-- The limit for a block leaves room for the longest frame, and a block within it can be written. -/
lemma batchLimit_of_check (h : s.check = .ok ()) :
    1544 ≤ s.bridgeOptions.batchLimit ∧ s.bridgeOptions.batchLimit ≤ 65535 := by
  obtain ⟨-, -, -, -, -, hlimit, -, -⟩ := check_eq_ok_iff.1 h
  exact hlimit

end NcmBridge.Settings
