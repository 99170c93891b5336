import PolicyHost.Proofs.Acceptance
import PolicyHost.Proofs.Heads
import PolicyHost.Proofs.Offers
import PolicyHost.Proofs.Resolution
import PolicyHost.Proofs.TracedDecisions

set_option autoImplicit false

namespace PolicyHost

namespace Config

theorem trimmed_filled_iff (text : String) :
    (Text.trimmed text).isEmpty = false ↔ ∃ c ∈ text.toList, Text.isBlank c = false := by
  rw [← Source.trim_filled_iff, Text.trimmed]
  simp

theorem default_rule_free (c : Config) (accepted : c.check = .ok ()) (text : String) :
    ({ c with defaultRule := text } : Config).check = .ok () ↔ ∃ c ∈ text.toList, Text.isBlank c = false := by
  have fine := (check_iff c).mp accepted
  rw [check_iff, ← trimmed_filled_iff]
  constructor
  · exact fun changed => changed.defaultRule
  · intro filled
    exact ⟨fine.binary, fine.build, fine.eval, fine.version, filled, fine.buffer, fine.multiplier, fine.budget,
      fine.minVersion, fine.wasm⟩

end Config

namespace Target

def malformed (rule : String) : Failure :=
  invalid .invalidRule ("'" ++ rule ++ "' is not a valid rule name") "rule names are identifiers, e.g. `allow`"

theorem find_unwritten (s : Store) (rule : String) (other : Source.isIdentifier rule.toList = false) :
    find s none rule = .error (malformed rule) :=
  find_malformed_rule s none rule (fun _ given => nomatch given) _ (if_neg (by simp [other]))

end Target

namespace Host

variable (config : Config) (h : Host)

theorem reachable_accepted (reachable : Reachable config h) : config.check = .ok () := by
  induction reachable with
  | new h started =>
      unfold Host.new at started
      cases checked : config.check with
      | error failure => simp [checked, bind, Except.bind] at started
      | ok _ => rfl
  | answered _ _ _ _ ih => exact ih
  | gathered _ _ _ _ _ ih => exact ih

theorem headless_rules (p : Policy) (faithful : Faithful config p) (headless : (Source.rules p.source).isEmpty = true) :
    p.rules = .ofList [config.defaultRule] := by
  rw [faithful.rules, Build.compiledRules, headless]
  rfl

-- What becomes of a question without names when the policy that it comes to has no rules of its own.
structure DefaultAnswered (p : Policy) : Prop where
  reported : ∀ cached, (p.outcome cached).rules = [config.defaultRule]
  found : Source.isIdentifier config.defaultRule.toList = true →
    ∃ package, p.packages.Least package ∧
      h.target none none = .ok { policy := p, package, rule := config.defaultRule } ∧
      ∀ input, h.evaluate input none none =
        match p.executable.evaluate (Build.entrypoint package config.defaultRule) input with
        | .ok result => .ok (.ofResult package config.defaultRule result)
        | .error fault => .error (moduleFailure fault)
  refused : Source.isIdentifier config.defaultRule.toList = false →
    h.target none none = .error (Target.malformed config.defaultRule) ∧
    (∀ input, h.evaluate input none none = .error (Target.malformed config.defaultRule)) ∧
    ∀ s input options,
      (explain s input none none options).run.run h = (.error (Target.malformed config.defaultRule), h)
  accepted : ∀ text, ({ config with defaultRule := text } : Config).check = .ok () ↔
    ∃ c ∈ text.toList, Text.isBlank c = false

theorem evaluate_unfound (input : Json) (package rule : Option String) (failure : Failure)
    (missing : h.target package rule = .error failure) : h.evaluate input package rule = .error failure := by
  simp only [evaluate, missing, bind, Except.bind]

theorem default_rule_answered (reachable : Reachable config h) (p : Policy) (earliest : h.store.Earliest none p)
    (headless : (Source.rules p.source).isEmpty = true) : DefaultAnswered config h p := by
  have kept := reachable_kept config h reachable
  have faithful : Faithful config p := kept.faithful p (List.mem_append_left _ earliest.loaded)
  have rules := headless_rules config p faithful headless
  have asked : h.target none none = Target.find h.store none config.defaultRule := by
    rw [target, kept.configured]
    rfl
  constructor
  case reported =>
    intro cached
    rw [Policy.outcome, rules]
    rfl
  case found =>
    intro named
    obtain ⟨package, least⟩ := NameSet.least_exists p.packages faithful.declared
    have meant := (Target.package_of_meant none p package).mpr (.inr ⟨rfl, least⟩)
    have chosen := (Store.find_iff_earliest h.store none (kept_orders config h kept) p).mpr earliest
    have listed : config.defaultRule ∈ p.rules := by
      rw [rules, NameSet.mem_of_list]
      exact List.mem_singleton_self _
    have found : h.target none none = .ok { policy := p, package, rule := config.defaultRule } := by
      rw [asked, Target.find_chosen h.store none config.defaultRule package p rfl named chosen meant, if_pos listed]
    exact ⟨package, least, found, fun input => evaluate_found h input none none _ found⟩
  case refused =>
    intro other
    have missing := asked.trans (Target.find_unwritten h.store config.defaultRule other)
    exact ⟨missing, fun input => evaluate_unfound h input none none _ missing,
      fun s input options => explain_unfound s h input none none options _ missing⟩
  case accepted => exact Config.default_rule_free config (reachable_accepted config h reachable)

def indenting : Host := { idle with config := { defaultRule := " allow" } }

def indented : Host := (indenting.answer (only ruleless) (.load "a.rego" none)).2

theorem indented_reachable : Reachable indenting.config indented := .answered _ _ _ (.new indenting rfl)

theorem indented_earliest : ∃ p, indented.store.Earliest none p ∧ (Source.rules p.source).isEmpty = true := by
  have loaded : (indented.store.findByPackage? none).map (fun p => (Source.rules p.source).isEmpty) = some true := by
    decide +kernel
  obtain ⟨p, found, headless⟩ := Option.map_eq_some_iff.mp loaded
  have kept := reachable_kept indenting.config indented indented_reachable
  exact ⟨p, Store.found_earliest indented.store none (kept_orders _ indented kept) p found, headless⟩

theorem default_rule_answered_indented :
    ∃ p, Reachable indenting.config indented ∧ indented.store.Earliest none p ∧
      (Source.rules p.source).isEmpty = true ∧ DefaultAnswered indenting.config indented p := by
  obtain ⟨p, earliest, headless⟩ := indented_earliest
  exact ⟨p, indented_reachable, earliest, headless,
    default_rule_answered indenting.config indented indented_reachable p earliest headless⟩

theorem indented_default_missed :
    ¬ ∀ (config : Config) (h : Host) (p : Policy), Reachable config h → h.store.Earliest none p →
      (Source.rules p.source).isEmpty = true → ∃ t, h.target none none = .ok t := by
  intro every
  obtain ⟨p, earliest, headless⟩ := indented_earliest
  obtain ⟨t, found⟩ := every indenting.config indented p indented_reachable earliest headless
  have missed : (indented.target none none).isOk = false := by decide +kernel
  rw [found] at missed
  cases missed

end Host

end PolicyHost
