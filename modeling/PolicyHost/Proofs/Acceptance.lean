import PolicyHost.Config

set_option autoImplicit false

namespace PolicyHost.Config

theorem then_ok (first next : Except Failure Unit) :
    (first >>= fun _ => next) = .ok () ↔ first = .ok () ∧ next = .ok () := by
  cases first <;> simp [bind, Except.bind]

def Timely (ms : Nat) : Prop := 0 < ms ∧ ms ≤ maxTimeoutMs

theorem check_timeout_iff (name : String) (ms : Nat) : checkTimeout name ms = .ok () ↔ Timely ms := by
  unfold checkTimeout Timely
  by_cases zero : ms = 0
  · simp [zero]
  · by_cases large : maxTimeoutMs < ms
    · simp [zero, large]
    · simp [zero, large, Nat.pos_of_ne_zero zero, Nat.not_lt.mp large]

theorem check_positive_iff (name : String) (n : Nat) : checkPositive name n = .ok () ↔ 0 < n := by
  unfold checkPositive
  by_cases zero : n = 0
  · simp [zero]
  · simp [zero, Nat.pos_of_ne_zero zero]

theorem check_filled_iff (name text : String) : checkFilled name text = .ok () ↔ text.isEmpty = false := by
  unfold checkFilled
  cases text.isEmpty <;> simp

theorem check_version_iff (text : String) : checkVersion text = .ok () ↔ ∃ v, Version.parse? text = some v := by
  unfold checkVersion
  cases Version.parse? text <;> simp

theorem check_limits_iff (limits : Wasm.Limits) : checkLimits limits = .ok () ↔ limits.fault? = none := by
  unfold checkLimits
  cases limits.fault? <;> simp

structure Accepted (c : Config) : Prop where
  binary : c.binary.isEmpty = false
  build : Timely c.buildTimeoutMs
  eval : Timely c.evalTimeoutMs
  version : Timely c.versionTimeoutMs
  defaultRule : (Text.trimmed c.defaultRule).isEmpty = false
  buffer : 0 < c.traceBufferMinBytes
  multiplier : 0 < c.traceBufferMultiplier
  budget : 0 < c.defaultTraceBytes
  minVersion : ∃ v, Version.parse? c.minVersion = some v
  wasm : c.wasm.fault? = none

theorem check_iff (c : Config) : c.check = .ok () ↔ c.Accepted := by
  simp only [check, then_ok, check_filled_iff, check_timeout_iff, check_positive_iff, check_version_iff,
    check_limits_iff]
  constructor
  · rintro ⟨binary, build, eval, version, defaultRule, buffer, multiplier, budget, minVersion, wasm⟩
    exact ⟨binary, build, eval, version, defaultRule, buffer, multiplier, budget, minVersion, wasm⟩
  · rintro ⟨binary, build, eval, version, defaultRule, buffer, multiplier, budget, minVersion, wasm⟩
    exact ⟨binary, build, eval, version, defaultRule, buffer, multiplier, budget, minVersion, wasm⟩

end PolicyHost.Config
