import PolicyHost.Proofs.Declarations
import PolicyHost.Proofs.Reachable

set_option autoImplicit false

namespace PolicyHost

namespace Target

def missingRule (policy : Policy) (package rule : String) : Failure :=
  invalid .invalidRule ("rule '" ++ rule ++ "' not found in namespace '" ++ package ++ "'")
    ("available rules: " ++ Wasm.commaList policy.rules.toList)

theorem find_chosen (s : Store) (package : Option String) (rule name : String) (policy : Policy)
    (written : checkPackage package = .ok ()) (named : Source.isIdentifier rule.toList = true)
    (found : s.findByPackage? package = some policy) (meant : packageOf policy package = .ok name) :
    find s package rule =
      if rule ∈ policy.rules then .ok { policy, package := name, rule } else .error (missingRule policy name rule) := by
  have ruleFine : checkRule rule = .ok () := if_pos named
  have policyFound : findPolicy s package = .ok policy := by simp only [findPolicy, found]
  simp only [find, written, ruleFine, policyFound, meant, bind, Except.bind, pure, Except.pure]
  rfl

theorem find_named (s : Store) (package rule : String) (policy : Policy)
    (dotted : Source.isDottedPath package.toList = true) (named : Source.isIdentifier rule.toList = true)
    (found : s.findByPackage? (some package) = some policy) :
    find s (some package) rule =
      if rule ∈ policy.rules then .ok { policy, package, rule } else .error (missingRule policy package rule) :=
  find_chosen s (some package) rule package policy (if_pos dotted) named found rfl

end Target

namespace Host

variable (config : Config) (h : Host)

theorem headed_rules (p : Policy) (faithful : Faithful config p) (headed : (Source.rules p.source).isEmpty = false) :
    p.rules = Source.rules p.source := by
  rw [faithful.rules, Build.compiledRules, headed]
  rfl

-- The earliest of the policies that declare a package, seen from one of them.
theorem first_declaring (kept : Kept config h []) (p : Policy) (loaded : p ∈ h.store.policies) (package : String)
    (declared : package ∈ p.packages) :
    ∃ first, h.store.findByPackage? (some package) = some first ∧
      (first = p ∨ first ∈ h.store.policies ∧ first.order < p.order ∧ package ∈ first.packages) := by
  have chosen : p ∈ h.store.policies.filter (Store.declares (some package)) :=
    List.mem_filter.mpr ⟨loaded, decide_eq_true declared⟩
  cases found : h.store.findByPackage? (some package) with
  | none =>
      rw [(Store.earliest_none _).mp found] at chosen
      cases chosen
  | some first =>
      obtain ⟨inside, least⟩ := Store.earliest_some _ first found
      obtain ⟨held, declares⟩ := List.mem_filter.mp inside
      refine ⟨first, rfl, ?_⟩
      rcases Nat.lt_or_eq_of_le (least p chosen) with earlier | same
      · exact Or.inr ⟨held, earlier, of_decide_eq_true declares⟩
      · exact Or.inl (List.inj_on_of_nodup_map (kept_orders config h kept) held loaded same)

theorem listed_rule_target (config : Config) (h : Host) (reachable : Reachable config h) (p : Policy)
    (loaded : p ∈ h.store.policies) (headed : (Source.rules p.source).isEmpty = false) (package rule : String)
    (declared : package ∈ p.packages) (listed : rule ∈ p.rules) :
    ∃ first, h.store.inOrder.find? (Store.declares (some package)) = some first ∧
      h.target (some package) (some rule) =
        (if rule ∈ first.rules then .ok { policy := first, package, rule }
          else .error (Target.missingRule first package rule)) ∧
      ((∀ q ∈ h.store.policies, q.order < p.order → package ∈ q.packages → rule ∈ q.rules) →
        rule ∈ first.rules) := by
  have kept := reachable_kept config h reachable
  have faithful := kept.faithful p (List.mem_append_left _ loaded)
  obtain ⟨first, found, earlier⟩ := first_declaring config h kept p loaded package declared
  refine ⟨first, (Store.find_declaring h.store (kept_orders config h kept) (some package)).symm.trans found, ?_, ?_⟩
  · refine Target.find_named h.store package rule first ?_ ?_ found
    · exact Source.mem_packages_dotted p.source package (faithful.packages ▸ declared)
    · exact Source.mem_rules_identifier p.source rule (headed_rules config p faithful headed ▸ listed)
  · intro others
    rcases earlier with same | ⟨held, less, declares⟩
    · exact same ▸ listed
    · exact others first held less declares

def sharing : Host :=
  idle.after [(permissive twoPolicies ["srv"], .load "a.rego" none), (permissive twoPolicies ["srv"], .load "b.rego" none)]

theorem sharing_reachable : Reachable {} sharing :=
  .answered _ _ _ (.answered _ _ _ (.new idle rfl))

def denying : Policy := sharing.store.policies.getLast (by decide +kernel)

theorem denying_loaded : denying ∈ sharing.store.policies := List.getLast_mem _

theorem denying_lists :
    (Source.rules denying.source).isEmpty = false ∧ "shared" ∈ denying.packages ∧ "deny" ∈ denying.rules := by
  decide +kernel

theorem listed_rule_target_denied :
    ∃ first, sharing.store.inOrder.find? (Store.declares (some "shared")) = some first ∧
      sharing.target (some "shared") (some "deny") =
        (if "deny" ∈ first.rules then .ok { policy := first, package := "shared", rule := "deny" }
          else .error (Target.missingRule first "shared" "deny")) ∧
      ((∀ q ∈ sharing.store.policies, q.order < denying.order → "shared" ∈ q.packages → "deny" ∈ q.rules) →
        "deny" ∈ first.rules) :=
  listed_rule_target {} sharing sharing_reachable denying denying_loaded denying_lists.1 "shared" "deny"
    denying_lists.2.1 denying_lists.2.2

theorem listed_rule_missed :
    ¬ ∀ (config : Config) (h : Host) (p : Policy) (package rule : String), Reachable config h →
      p ∈ h.store.policies → (Source.rules p.source).isEmpty = false → package ∈ p.packages → rule ∈ p.rules →
      ∃ t, h.target (some package) (some rule) = .ok t := by
  intro every
  obtain ⟨headed, declared, listed⟩ := denying_lists
  obtain ⟨t, found⟩ := every {} sharing denying "shared" "deny" sharing_reachable denying_loaded headed declared listed
  have missed : (sharing.target (some "shared") (some "deny")).isOk = false := by decide +kernel
  rw [found] at missed
  cases missed

end Host

end PolicyHost
