import PolicyHost.Proofs.Agreement
import PolicyHost.Proofs.Entrypoints

set_option autoImplicit false

namespace PolicyHost

namespace Build

-- What a list of names is to the packages and rules of a source: an entrypoint for each pair of them. A pair whose
-- rule is not the default rule shares no name with a pair of any other source either.
structure Offers (source defaultRule : String) (built : List String) : Prop where
  packages : ∀ package ∈ Source.packages source, Source.isDottedPath package.toList = true
  heads : ∀ rule ∈ Source.rules source, Source.isIdentifier rule.toList = true
  fallback : (Source.rules source).isEmpty = true →
    ∀ rule, rule ∈ compiledRules (Source.rules source) defaultRule ↔ rule = defaultRule
  named : ∀ name, name ∈ built ↔ ∃ package ∈ Source.packages source,
    ∃ rule ∈ compiledRules (Source.rules source) defaultRule, name = entrypoint package rule
  distinct : built.Nodup
  count : built.length =
    (Source.packages source).toList.length * (compiledRules (Source.rules source) defaultRule).toList.length
  queries : ∀ package ∈ Source.packages source, ∀ rule ∈ compiledRules (Source.rules source) defaultRule,
    (query package rule = "data." ++ pointed (entrypoint package rule) ↔ '/' ∉ rule.toList)
  apart : ∀ package ∈ Source.packages source, ∀ rule ∈ compiledRules (Source.rules source) defaultRule,
    ∀ other ∈ Source.packages source, ∀ head ∈ compiledRules (Source.rules source) defaultRule,
      entrypoint package rule = entrypoint other head ∨ query package rule = query other head →
        package = other ∧ rule = head
  abroad : ∀ package ∈ Source.packages source, ∀ rule ∈ Source.rules source, ∀ foreign : String,
    ∀ other ∈ Source.packages foreign, ∀ head ∈ Source.rules foreign,
      entrypoint package rule = entrypoint other head ∨ query package rule = query other head →
        package = other ∧ rule = head

theorem alike_apart (source foreign package rule other head : String)
    (declared : package ∈ Source.packages source) (declares : other ∈ Source.packages foreign)
    (alike : ∀ sep, Source.continuesIdentifier sep = false → Alike sep rule head)
    (same : entrypoint package rule = entrypoint other head ∨ query package rule = query other head) :
    package = other ∧ rule = head := by
  rcases same with entrypoints | queries
  · exact entrypoint_parts package rule other head (package_slash_free source package declared)
      (package_slash_free foreign other declares) (alike '/' (by decide)) entrypoints
  · exact query_parts package rule other head (alike '.' (by decide)) queries

theorem entrypoints_offer (source defaultRule : String) :
    Offers source defaultRule (entrypoints (Source.packages source) (Source.rules source) defaultRule) := by
  refine ⟨Source.mem_packages_dotted source, Source.mem_rules_identifier source, ?_, mem_entrypoints _ _ _,
    entrypoints_distinct source defaultRule, entrypoints_count _ _ _, ?_, ?_, ?_⟩
  · intro bare rule
    rw [compiledRules, if_pos bare, NameSet.mem_of_list, List.mem_singleton]
  · intro package declared rule _
    exact query_pointed package rule (package_slash_free source package declared)
  · intro package declared rule listed other declares head lists
    refine alike_apart source source package rule other head declared declares fun sep stops => ?_
    exact compiled_rules_alike source defaultRule sep stops rule head listed lists
  · intro package declared rule listed foreign other declares head lists
    refine alike_apart source foreign package rule other head declared declares fun sep stops => ?_
    exact identifiers_alike sep stops rule head (Source.mem_rules_identifier source rule listed)
      (Source.mem_rules_identifier foreign head lists)

end Build

namespace Host

-- A policy that a load has entered, from a request to build these names. Whenever a question comes to the policy, its
-- module is asked for one of them.
structure Serves (s : Surroundings) (before after : Host) (source : String) (built : List String) (p : Policy) :
    Prop where
  text : p.source = source
  packages : p.packages = Source.packages source
  rules : p.rules = Build.compiledRules (Source.rules source) before.config.defaultRule
  asked : ∃ request, request.source = p.path.text ∧ request.entrypoints = built ∧
    after.calls = .load :: .build request :: (probe s before).calls
  answers : ∀ (later : Host) (input : Json) (package rule : Option String) (t : Target),
    later.target package rule = .ok t → t.policy = p →
      ∃ name ∈ built, name = Build.entrypoint t.package t.rule ∧ t.query = "data." ++ Build.pointed name ∧
        later.evaluate input package rule =
          ((p.executable.evaluate name input).map (.ofResult t.package t.rule)).mapError moduleFailure

variable (s : Surroundings) (h : Host)

theorem compiled_serves (key : Path) (p : Policy) (after : Host) (source : String)
    (read : s.workspace.tree.read key = .ok source) (compiled : CompileCase s h key (.ok p) after) :
    Serves s h after source
      (Build.entrypoints (Source.packages source) (Source.rules source) h.config.defaultRule) p := by
  cases compiled with
  | entered d artifact executable drafted built loaded =>
      obtain ⟨_, text, faithful⟩ := drafted_source s key d drafted
      have same : d.source = source := Except.ok.inj (text.symm.trans read)
      subst same
      refine ⟨rfl, faithful.packages, congrArg (Build.compiledRules · _) faithful.rules,
        ⟨buildRequest h d, rfl, ?_, rfl⟩, ?_⟩
      · rw [buildRequest, Build.request, faithful.packages, faithful.rules]
      · intro later input package rule t found comes
        obtain ⟨_, declared, listed, named⟩ := Target.find_listed _ _ _ t found
        rw [comes] at declared listed
        have declares : t.package ∈ Source.packages d.source := faithful.packages ▸ declared
        refine ⟨t.entrypoint, (Build.mem_entrypoints _ _ _ _).mpr ⟨t.package, declares, t.rule, ?_, rfl⟩, rfl, ?_, ?_⟩
        · exact faithful.rules ▸ listed
        · refine (Build.query_pointed t.package t.rule (Build.package_slash_free d.source t.package declares)).mpr ?_
          exact Source.identifier_free _ '/' named (by decide)
        · rw [evaluate_found later input package rule t found, comes]
          cases (compiledPolicy h d artifact executable).executable.evaluate t.entrypoint input <;> rfl

theorem load_entered (path : String) (base : Option String) (key : Path) (p : Policy)
    (resolved : s.workspace.resolve path base = .ok key) (absent : h.store.find? key = none)
    (entered : ((load s path base).run.run h).2.store.find? key = some p) :
    CompileCase s h key (.ok p) ((load s path base).run.run h).2 := by
  have cases := load_cases s h path base
  generalize (load s path base).run.run h = outcome at cases entered ⊢
  obtain ⟨result, after⟩ := outcome
  cases cases with
  | refused failure bad => cases resolved.symm.trans bad
  | hit other policy seen found => cases absent.symm.trans entered
  | failed other failure _ seen missing compiled =>
      rw [(failed_host s h other failure after compiled).1] at entered
      cases absent.symm.trans entered
  | fresh other policy _ seen missing compiled =>
      have same : other = key := Except.ok.inj (seen.symm.trans resolved)
      subst same
      obtain ⟨own, _, _⟩ := compiled_policy s h other policy after compiled
      have found := Store.put_policy_found (h.store.putLineMap policy.path policy.lineMap) policy
      rw [← (compiled_host s h other policy after compiled).1, own] at found
      exact Option.some.inj (found.symm.trans entered) ▸ compiled

theorem requests_built (source defaultRule : String) :
    Build.Offers source defaultRule
        (Build.entrypoints (Source.packages source) (Source.rules source) defaultRule) ∧
      ∀ (s : Surroundings) (h : Host) (path : String) (base : Option String) (key : Path) (p : Policy),
        h.config.defaultRule = defaultRule → s.workspace.resolve path base = .ok key →
        s.workspace.tree.read key = .ok source → h.store.find? key = none →
        ((load s path base).run.run h).2.store.find? key = some p →
          Serves s h ((load s path base).run.run h).2 source
            (Build.entrypoints (Source.packages source) (Source.rules source) defaultRule) p := by
  refine ⟨Build.entrypoints_offer source defaultRule, ?_⟩
  rintro s h path base key p rfl resolved read absent entered
  exact compiled_serves s h key p _ source read (load_entered s h path base key p resolved absent entered)

def twofold : String := "package team.rbac\npackage audit\ndefault allow := false\ndeny if input.late\n"

def ruleless : String := "package p\n"

theorem requests_built_twofold :
    ∃ p, ((load (only twofold) "a.rego" none).run.run idle).2.store.find? ⟨true, ["srv", "a.rego"]⟩ = some p ∧
      Build.entrypoints p.packages p.rules "allow" =
        ["audit/allow", "audit/deny", "team/rbac/allow", "team/rbac/deny"] ∧
      Serves (only twofold) idle ((load (only twofold) "a.rego" none).run.run idle).2 twofold
        (Build.entrypoints (Source.packages twofold) (Source.rules twofold) "allow") p := by
  have names : (((load (only twofold) "a.rego" none).run.run idle).2.store.find? ⟨true, ["srv", "a.rego"]⟩).map
      (fun p => Build.entrypoints p.packages p.rules "allow") =
        some ["audit/allow", "audit/deny", "team/rbac/allow", "team/rbac/deny"] := by
    decide +kernel
  obtain ⟨p, entered, listed⟩ := Option.map_eq_some_iff.mp names
  refine ⟨p, entered, listed, ?_⟩
  exact (requests_built twofold "allow").2 (only twofold) idle "a.rego" none ⟨true, ["srv", "a.rego"]⟩ p rfl rfl
    (by decide +kernel) rfl entered

def slashing : Host := { idle with config := { defaultRule := "a/b" } }

def slashed : Host := (slashing.answer (only ruleless) (.load "a.rego" none)).2

theorem slash_kept_in_query :
    ¬ ∀ (config : Config) (h : Host) (p : Policy) (package rule : String), Reachable config h →
      p ∈ h.store.policies → package ∈ p.packages → rule ∈ p.rules →
      Build.query package rule = "data." ++ Build.pointed (Build.entrypoint package rule) := by
  intro every
  have loaded : (slashed.store.policies.head?).map (fun p => (p.packages.toList, p.rules.toList)) =
      some (["p"], ["a/b"]) := by
    decide +kernel
  obtain ⟨p, first, names⟩ := Option.map_eq_some_iff.mp loaded
  obtain ⟨packages, rules⟩ := Prod.mk.inj names
  have declared : "p" ∈ p.packages.toList := packages ▸ List.mem_singleton_self "p"
  have listed : "a/b" ∈ p.rules.toList := rules ▸ List.mem_singleton_self "a/b"
  have same := every slashing.config slashed p "p" "a/b" (.answered _ _ _ (.new slashing rfl))
    (List.mem_of_head? first) declared listed
  have free := (Build.query_pointed "p" "a/b" (by decide)).mp same
  exact free (by decide)

end Host

end PolicyHost
