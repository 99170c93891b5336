import PolicyHost.Json.Printer
import PolicyHost.Trace.Basic

set_option autoImplicit false

namespace PolicyHost.Trace

def measure (t : Trace) : Nat := t.toJson.size

def settle : Nat → Trace → Trace
  | 0, t => t
  | rounds + 1, t =>
      let size := t.measure
      if size = t.sizeBytes then t else settle rounds { t with sizeBytes := size }

def measured (t : Trace) : Trace := settle 4 t

def halved (t : Trace) : Trace :=
  { t with
    rules := t.rules.take (t.rules.length / 2)
    path := t.path.take (t.path.length / 2)
    truncated := true }

theorem settle_rules (rounds : Nat) (t : Trace) : (settle rounds t).rules = t.rules := by
  induction rounds generalizing t with
  | zero => rfl
  | succ rounds ih =>
      simp only [settle]
      split
      · rfl
      · exact ih _

theorem settle_path (rounds : Nat) (t : Trace) : (settle rounds t).path = t.path := by
  induction rounds generalizing t with
  | zero => rfl
  | succ rounds ih =>
      simp only [settle]
      split
      · rfl
      · exact ih _

def shrink (budget : Nat) (t : Trace) : Trace :=
  if budget < t.sizeBytes ∧ (t.rules ≠ [] ∨ t.path ≠ []) then shrink budget t.halved.measured else t
  termination_by t.rules.length + t.path.length
  decreasing_by
    next h =>
      have nonempty : 0 < t.rules.length ∨ 0 < t.path.length :=
        h.2.imp List.length_pos_iff.mpr List.length_pos_iff.mpr
      simp only [measured, settle_rules, settle_path, halved, List.length_take]
      omega

def dropBindings (budget : Nat) (t : Trace) : Trace :=
  if budget < t.sizeBytes ∧ ¬ t.bindings.isEmpty then
    { t with bindings := .empty, truncated := true }.measured
  else t

def dropNotes (budget : Nat) (t : Trace) : Trace :=
  if budget < t.sizeBytes ∧ ¬ t.notes.isEmpty then { t with notes := [], truncated := true }.measured
  else t

def fit (budget : Nat) (t : Trace) : Trace :=
  dropNotes budget (dropBindings budget (shrink budget t.measured))

end PolicyHost.Trace
