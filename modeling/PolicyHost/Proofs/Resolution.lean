import PolicyHost.Proofs.Targets

set_option autoImplicit false

namespace PolicyHost

namespace NameSet

variable (names : NameSet)

structure Least (name : String) : Prop where
  inside : name ∈ names
  least : ∀ other ∈ names, name ≤ other

theorem least_unique (name other : String) (left : names.Least name) (right : names.Least other) : name = other :=
  String.le_antisymm (left.least other right.inside) (right.least name left.inside)

theorem head_least (name : String) (first : names.toList.head? = some name) : names.Least name := by
  have ascending : names.toList.Pairwise fun a b => a < b := List.pairwise_map.mpr names.dict.ascending
  obtain ⟨rest, all⟩ := List.head?_eq_some_iff.mp first
  refine ⟨List.mem_of_head? first, fun other inside => ?_⟩
  have here : other ∈ names.toList := inside
  rw [all] at here ascending
  rcases List.mem_cons.mp here with same | later
  · exact same ▸ String.le_refl name
  · exact Std.le_of_lt ((List.pairwise_cons.mp ascending).1 other later)

theorem head_iff_least (name : String) : names.toList.head? = some name ↔ names.Least name := by
  refine ⟨head_least names name, fun least => ?_⟩
  cases first : names.toList.head? with
  | none =>
      have bare : names.toList = [] := List.head?_eq_none_iff.mp first
      have inside : name ∈ names.toList := least.inside
      rw [bare] at inside
      cases inside
  | some other => rw [least_unique names other name (head_least names other first) least]

theorem least_exists (filled : names.isEmpty = false) : ∃ name, names.Least name := by
  cases first : names.toList.head? with
  | none =>
      have bare : names.dict.entries = [] := List.map_eq_nil_iff.mp (List.head?_eq_none_iff.mp first)
      rw [isEmpty, Dict.isEmpty, bare] at filled
      cases filled
  | some name => exact ⟨name, head_least names name first⟩

end NameSet

namespace Store

variable (s : Store) (package : Option String)

def Qualifies (p : Policy) : Prop := ∀ name, package = some name → name ∈ p.packages

theorem declares_iff (p : Policy) : declares package p = true ↔ Qualifies package p := by
  cases package <;> simp [declares, Qualifies]

structure Earliest (p : Policy) : Prop where
  loaded : p ∈ s.policies
  qualifies : Qualifies package p
  first : ∀ q ∈ s.policies, Qualifies package q → q = p ∨ p.order < q.order

theorem earliest_unique (p q : Policy) (left : s.Earliest package p) (right : s.Earliest package q) : p = q := by
  rcases left.first q right.loaded right.qualifies with same | less
  · exact same.symm
  · rcases right.first p left.loaded left.qualifies with same | more
    · exact same
    · exact absurd less (Nat.lt_asymm more)

theorem found_earliest (distinct : (s.policies.map Policy.order).Nodup) (p : Policy)
    (found : s.findByPackage? package = some p) : s.Earliest package p := by
  obtain ⟨chosen, least⟩ := earliest_some _ p found
  obtain ⟨loaded, declared⟩ := List.mem_filter.mp chosen
  refine ⟨loaded, (declares_iff package p).mp declared, fun q inside qualified => ?_⟩
  rcases Nat.lt_or_eq_of_le (least q (List.mem_filter.mpr ⟨inside, (declares_iff package q).mpr qualified⟩)) with
    less | same
  · exact Or.inr less
  · exact Or.inl (List.inj_on_of_nodup_map distinct inside loaded same.symm)

theorem unfound_iff : s.findByPackage? package = none ↔ ∀ p ∈ s.policies, ¬ Qualifies package p := by
  rw [findByPackage?, earliest_none, List.filter_eq_nil_iff]
  simp only [declares_iff]

theorem find_iff_earliest (distinct : (s.policies.map Policy.order).Nodup) (p : Policy) :
    s.findByPackage? package = some p ↔ s.Earliest package p := by
  refine ⟨found_earliest s package distinct p, fun earliest => ?_⟩
  cases found : s.findByPackage? package with
  | none => exact absurd earliest.qualifies ((unfound_iff s package).mp found p earliest.loaded)
  | some q => rw [earliest_unique s package q p (found_earliest s package distinct q found) earliest]

theorem earliest_exists (distinct : (s.policies.map Policy.order).Nodup) (filled : s.policies ≠ []) :
    ∃ p, s.Earliest none p := by
  cases found : s.findByPackage? none with
  | none =>
      obtain ⟨p, loaded⟩ := List.exists_mem_of_ne_nil _ filled
      exact absurd (fun _ given => nomatch given) ((unfound_iff s none).mp found p loaded)
  | some p => exact ⟨p, found_earliest s none distinct p found⟩

end Store

namespace Target

variable (s : Store) (package : Option String) (rule : String)

def Acceptable : Prop := ∀ name, package = some name → Source.isDottedPath name.toList = true

def Meant (p : Policy) (name : String) : Prop := package = some name ∨ package = none ∧ p.packages.Least name

structure Resolved (t : Target) : Prop where
  acceptable : Acceptable package
  named : Source.isIdentifier rule.toList = true
  earliest : s.Earliest package t.policy
  listed : rule ∈ t.policy.rules
  rule : t.rule = rule
  package : Meant package t.policy t.package

-- The rule is what is wrong with a request: it is not written as one, or the policy that answers has no such rule.
def RuleAtFault : Prop :=
  Acceptable package ∧
    (Source.isIdentifier rule.toList = false ∨ ∃ p, s.Earliest package p ∧ rule ∉ p.rules)

def packageless (p : Policy) : Failure :=
  { kind := .invalidNamespace, message := "policy " ++ p.path.text ++ " declares no namespace" }

structure Hinted (kind : Failure.Kind) (failure : Failure) : Prop where
  kind : failure.kind = kind
  suggestions : failure.suggestions ≠ []
  message : ∀ p : Policy, failure.message ≠ (packageless p).message

theorem invalid_hinted (kind : Failure.Kind) (message hint : String) (begins : message.toList.head? ≠ some 'p') :
    Hinted kind (invalid kind message hint) := by
  refine ⟨rfl, List.cons_ne_nil _ _, fun p same => begins ?_⟩
  have told : message = "policy " ++ p.path.text ++ " declares no namespace" := same
  rw [told]
  simp

-- Why a request is refused, in the order in which it is looked at.
inductive Refusal (failure : Failure) : Prop where
  | package (told : Hinted .invalidNamespace failure) (malformed : ¬ Acceptable package) : Refusal failure
  | rule (told : Hinted .invalidRule failure) (acceptable : Acceptable package)
      (malformed : Source.isIdentifier rule.toList = false) : Refusal failure
  | unloaded (told : Hinted .invalidNamespace failure) (named : Source.isIdentifier rule.toList = true)
      (nobody : ∀ p ∈ s.policies, ¬ Store.Qualifies package p) : Refusal failure
  | unlisted (told : Hinted .invalidRule failure) (p : Policy) (acceptable : Acceptable package)
      (earliest : s.Earliest package p) (absent : rule ∉ p.rules) : Refusal failure

theorem check_package_acceptable (acceptable : Acceptable package) : checkPackage package = .ok () := by
  cases package with
  | none => rfl
  | some name => exact if_pos (acceptable name rfl)

theorem check_package_malformed (malformed : ¬ Acceptable package) :
    ∃ failure, checkPackage package = .error failure ∧ Hinted .invalidNamespace failure := by
  cases package with
  | none => exact absurd (fun _ given => nomatch given) malformed
  | some name =>
      have undotted : ¬ Source.isDottedPath name.toList = true := fun dotted =>
        malformed fun _ given => Option.some.inj given ▸ dotted
      exact ⟨_, if_neg undotted, invalid_hinted _ _ _ (by simp)⟩

theorem check_rule_malformed (malformed : Source.isIdentifier rule.toList = false) :
    ∃ failure, checkRule rule = .error failure ∧ Hinted .invalidRule failure :=
  ⟨_, if_neg (by simp [malformed]), invalid_hinted _ _ _ (by simp)⟩

theorem find_policy_unfound (unfound : s.findByPackage? package = none) :
    ∃ failure, findPolicy s package = .error failure ∧ Hinted .invalidNamespace failure := by
  unfold findPolicy
  rw [unfound]
  cases package with
  | none => exact ⟨_, rfl, invalid_hinted _ _ _ (by simp)⟩
  | some name => exact ⟨_, rfl, invalid_hinted _ _ _ (by simp)⟩

theorem package_of_meant (p : Policy) (name : String) : packageOf p package = .ok name ↔ Meant package p name := by
  cases package with
  | some given => simp [packageOf, Meant]
  | none =>
      simp only [packageOf, Meant, Option.none_or, ← NameSet.head_iff_least]
      cases p.packages.toList.head? <;> simp

theorem meant_exists (p : Policy) (declared : p.packages.isEmpty = false) : ∃ name, Meant package p name := by
  cases package with
  | some given => exact ⟨given, Or.inl rfl⟩
  | none =>
      obtain ⟨name, least⟩ := NameSet.least_exists p.packages declared
      exact ⟨name, Or.inr ⟨rfl, least⟩⟩

theorem meant_unique (p : Policy) (name other : String) (left : Meant package p name) (right : Meant package p other) :
    name = other :=
  Except.ok.inj (((package_of_meant package p name).mpr left).symm.trans ((package_of_meant package p other).mpr right))

theorem missing_rule_hinted (p : Policy) (name : String) : Hinted .invalidRule (missingRule p name rule) :=
  invalid_hinted _ _ _ (by simp)

theorem find_malformed_rule (acceptable : Acceptable package) (failure : Failure)
    (bad : checkRule rule = .error failure) : find s package rule = .error failure := by
  simp only [find, check_package_acceptable package acceptable, bad, bind, Except.bind]

theorem find_chosen_cases (p : Policy) (declared : p.packages.isEmpty = false) (acceptable : Acceptable package)
    (named : Source.isIdentifier rule.toList = true) (found : s.findByPackage? package = some p)
    (earliest : s.Earliest package p) :
    (∃ t, find s package rule = .ok t ∧ Resolved s package rule t) ∨
      ∃ failure, find s package rule = .error failure ∧ Refusal s package rule failure := by
  obtain ⟨name, meant⟩ := meant_exists package p declared
  have outcome := find_chosen s package rule name p (check_package_acceptable package acceptable) named found
    ((package_of_meant package p name).mpr meant)
  by_cases listed : rule ∈ p.rules
  · rw [if_pos listed] at outcome
    exact Or.inl ⟨_, outcome, acceptable, named, earliest, listed, rfl, meant⟩
  · rw [if_neg listed] at outcome
    exact Or.inr ⟨_, outcome, .unlisted (missing_rule_hinted rule p name) p acceptable earliest listed⟩

theorem find_cases (distinct : (s.policies.map Policy.order).Nodup)
    (declared : ∀ p ∈ s.policies, p.packages.isEmpty = false) :
    (∃ t, find s package rule = .ok t ∧ Resolved s package rule t) ∨
      ∃ failure, find s package rule = .error failure ∧ Refusal s package rule failure := by
  by_cases acceptable : Acceptable package
  · cases named : Source.isIdentifier rule.toList with
    | false =>
        obtain ⟨failure, bad, told⟩ := check_rule_malformed rule named
        exact Or.inr ⟨failure, find_malformed_rule s package rule acceptable failure bad, .rule told acceptable named⟩
    | true =>
        cases found : s.findByPackage? package with
        | none =>
            obtain ⟨failure, bad, told⟩ := find_policy_unfound s package found
            refine Or.inr ⟨failure, ?_, .unloaded told named ((Store.unfound_iff s package).mp found)⟩
            have ruleFine : checkRule rule = .ok () := if_pos named
            simp only [find, check_package_acceptable package acceptable, ruleFine, bad, bind, Except.bind]
        | some p =>
            have earliest := Store.found_earliest s package distinct p found
            exact find_chosen_cases s package rule p (declared p earliest.loaded) acceptable named found earliest
  · obtain ⟨failure, bad, told⟩ := check_package_malformed package acceptable
    refine Or.inr ⟨failure, ?_, .package told acceptable⟩
    simp only [find, bad, bind, Except.bind]

theorem resolved_unique (t u : Target) (left : Resolved s package rule t) (right : Resolved s package rule u) : t = u := by
  have policy := Store.earliest_unique s package t.policy u.policy left.earliest right.earliest
  have named : t.rule = u.rule := left.rule.trans right.rule.symm
  have meant := meant_unique package t.policy t.package u.package left.package (policy ▸ right.package)
  cases t
  cases u
  simp_all

theorem resolved_unrefused (t : Target) (failure : Failure) (resolved : Resolved s package rule t)
    (refusal : Refusal s package rule failure) : False := by
  cases refusal with
  | package told malformed => exact malformed resolved.acceptable
  | rule told acceptable malformed =>
      rw [resolved.named] at malformed
      cases malformed
  | unloaded told named nobody => exact nobody t.policy resolved.earliest.loaded resolved.earliest.qualifies
  | unlisted told p acceptable earliest absent =>
      rw [Store.earliest_unique s package p t.policy earliest resolved.earliest] at absent
      exact absent resolved.listed

-- What a failure says of a request: its kind tells where the fault lies, and it never lacks a suggestion.
structure Refused (failure : Failure) : Prop where
  invalidRule : failure.kind = .invalidRule ↔ RuleAtFault s package rule
  invalidNamespace : failure.kind = .invalidNamespace ↔ ¬ RuleAtFault s package rule
  suggestions : failure.suggestions ≠ []
  message : ∀ p : Policy, failure.message ≠ (packageless p).message

theorem rule_refused (failure : Failure) (told : Hinted .invalidRule failure) (fault : RuleAtFault s package rule) :
    Refused s package rule failure :=
  ⟨iff_of_true told.kind fault, iff_of_false (by simp [told.kind]) (not_not_intro fault), told.suggestions, told.message⟩

theorem package_refused (failure : Failure) (told : Hinted .invalidNamespace failure)
    (faultless : ¬ RuleAtFault s package rule) : Refused s package rule failure :=
  ⟨iff_of_false (by simp [told.kind]) faultless, iff_of_true told.kind faultless, told.suggestions, told.message⟩

theorem refusal_refused (failure : Failure) (refusal : Refusal s package rule failure) :
    Refused s package rule failure := by
  cases refusal with
  | package told malformed => exact package_refused s package rule failure told fun fault => malformed fault.1
  | rule told acceptable malformed => exact rule_refused s package rule failure told ⟨acceptable, Or.inl malformed⟩
  | unloaded told named nobody =>
      refine package_refused s package rule failure told ?_
      rintro ⟨_, malformed | ⟨p, earliest, _⟩⟩
      · rw [named] at malformed
        cases malformed
      · exact nobody p earliest.loaded earliest.qualifies
  | unlisted told p acceptable earliest absent =>
      exact rule_refused s package rule failure told ⟨acceptable, Or.inr ⟨p, earliest, absent⟩⟩

theorem find_meant (distinct : (s.policies.map Policy.order).Nodup) (p : Policy) (name : String)
    (earliest : s.Earliest none p) (least : p.packages.Least name)
    (dotted : Source.isDottedPath name.toList = true) : find s none rule = find s (some name) rule := by
  have written : Acceptable (some name) := fun _ given => Option.some.inj given ▸ dotted
  have unwritten : Acceptable none := fun _ given => nomatch given
  cases named : Source.isIdentifier rule.toList with
  | false =>
      obtain ⟨failure, bad, _⟩ := check_rule_malformed rule named
      rw [find_malformed_rule s none rule unwritten failure bad, find_malformed_rule s (some name) rule written failure bad]
  | true =>
      have declaring : s.Earliest (some name) p :=
        ⟨earliest.loaded, fun _ given => Option.some.inj given ▸ least.inside,
          fun q loaded _ => earliest.first q loaded fun _ given => nomatch given⟩
      have anyone := (Store.find_iff_earliest s none distinct p).mpr earliest
      have declared := (Store.find_iff_earliest s (some name) distinct p).mpr declaring
      rw [find_chosen s none rule name p rfl named anyone ((package_of_meant none p name).mpr (Or.inr ⟨rfl, least⟩)),
        find_chosen s (some name) rule name p (check_package_acceptable (some name) written) named declared rfl]

structure Exact : Prop where
  target : ∀ t, find s package rule = .ok t ↔ Resolved s package rule t
  succeeds : (∃ t, find s package rule = .ok t) ↔
    Acceptable package ∧ Source.isIdentifier rule.toList = true ∧ ∃ p, s.Earliest package p ∧ rule ∈ p.rules
  refused : ∀ failure, find s package rule = .error failure → Refused s package rule failure
  meant : s.policies ≠ [] → ∃ p name, s.Earliest none p ∧ p.packages.Least name ∧
    find s none rule = find s (some name) rule

theorem find_exact (distinct : (s.policies.map Policy.order).Nodup)
    (declared : ∀ p ∈ s.policies, p.packages.isEmpty = false)
    (dotted : ∀ p ∈ s.policies, ∀ name ∈ p.packages, Source.isDottedPath name.toList = true) :
    Exact s package rule := by
  have cases := find_cases s package rule distinct declared
  have target : ∀ t, find s package rule = .ok t ↔ Resolved s package rule t := by
    intro t
    rcases cases with ⟨u, found, resolved⟩ | ⟨failure, bad, refusal⟩
    · rw [found, Except.ok.injEq]
      exact ⟨fun same => same ▸ resolved, resolved_unique s package rule u t resolved⟩
    · rw [bad]
      exact iff_of_false nofun fun resolved => resolved_unrefused s package rule t failure resolved refusal
  refine ⟨target, ?_, ?_, ?_⟩
  · constructor
    · rintro ⟨t, found⟩
      have resolved := (target t).mp found
      exact ⟨resolved.acceptable, resolved.named, t.policy, resolved.earliest, resolved.listed⟩
    · rintro ⟨acceptable, named, p, earliest, listed⟩
      obtain ⟨name, meant⟩ := meant_exists package p (declared p earliest.loaded)
      exact ⟨{ policy := p, package := name, rule },
        (target _).mpr ⟨acceptable, named, earliest, listed, rfl, meant⟩⟩
  · intro failure bad
    rcases cases with ⟨t, found, _⟩ | ⟨other, bad', refusal⟩
    · rw [bad] at found
      cases found
    · rw [bad, Except.error.injEq] at bad'
      exact refusal_refused s package rule failure (bad' ▸ refusal)
  · intro filled
    obtain ⟨p, earliest⟩ := Store.earliest_exists s distinct filled
    obtain ⟨name, least⟩ := NameSet.least_exists p.packages (declared p earliest.loaded)
    exact ⟨p, name, earliest, least,
      find_meant s rule distinct p name earliest least (dotted p earliest.loaded name least.inside)⟩

end Target

namespace Host

theorem resolution_exact (config : Config) (h : Host) (reachable : Reachable config h) (package : Option String)
    (rule : String) : Target.Exact h.store package rule := by
  have kept := reachable_kept config h reachable
  have faithful : ∀ p ∈ h.store.policies, Faithful config p := fun p loaded =>
    kept.faithful p (List.mem_append_left _ loaded)
  refine Target.find_exact h.store package rule (kept_orders config h kept) (fun p loaded => (faithful p loaded).declared) ?_
  intro p loaded name inside
  exact Source.mem_packages_dotted p.source name ((faithful p loaded).packages ▸ inside)

theorem resolution_exact_sharing :
    Reachable {} sharing ∧ Target.Exact sharing.store none "deny" ∧
      ∃ failure, Target.find sharing.store none "deny" = .error failure ∧ Target.RuleAtFault sharing.store none "deny" := by
  have exact := resolution_exact {} sharing sharing_reachable none "deny"
  refine ⟨sharing_reachable, exact, ?_⟩
  have kind : (match Target.find sharing.store none "deny" with
      | .ok _ => none
      | .error failure => some failure.kind) = some Failure.Kind.invalidRule := by decide +kernel
  cases outcome : Target.find sharing.store none "deny" with
  | ok t =>
      rw [outcome] at kind
      cases kind
  | error failure =>
      rw [outcome] at kind
      exact ⟨failure, rfl, (exact.refused failure outcome).invalidRule.mp (Option.some.inj kind)⟩

end Host

end PolicyHost
