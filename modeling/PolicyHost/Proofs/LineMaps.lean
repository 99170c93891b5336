import Mathlib.Data.List.Induction
import PolicyHost.Proofs.Agreement
import PolicyHost.Proofs.Ledger

set_option autoImplicit false

namespace PolicyHost.Host

def Mapped (h : Host) : Prop := ∀ p ∈ h.store.policies, h.store.lineMap? p.path = some p.lineMap

section Steps

variable (s : Surroundings) (h : Host)

theorem compiled_mapped (key : Path) (policy : Policy) (after : Host) (compiled : CompileCase s h key (.ok policy) after)
    (mapped : Mapped h) : Mapped after := by
  obtain ⟨store, _, _⟩ := compiled_host s h key policy after compiled
  intro p loaded
  rw [store] at loaded ⊢
  rcases List.mem_append.mp loaded with old | last
  · obtain ⟨before, other⟩ := List.mem_filter.mp old
    exact (Store.put_line_map_other _ _ _ _ (of_decide_eq_true other)).trans (mapped p before)
  · rw [List.mem_singleton.mp last]
    exact Store.put_line_map_found _ _ _

theorem load_mapped (path : String) (base : Option String) (mapped : Mapped h) :
    Mapped ((load s path base).run.run h).2 := by
  have loaded := load_cases s h path base
  generalize (load s path base).run.run h = outcome at loaded ⊢
  obtain ⟨result, after⟩ := outcome
  cases loaded with
  | refused failure bad => exact mapped
  | hit key policy resolved found => exact mapped
  | failed key failure _ resolved absent compiled =>
      have same := (failed_host s h key failure after compiled).1
      unfold Mapped
      rwa [same]
  | fresh key policy _ resolved absent compiled => exact compiled_mapped s h key policy after compiled mapped

theorem unload_mapped (path : String) (mapped : Mapped h) : Mapped (unload s path h).2 := by
  intro p loaded
  obtain ⟨before, other⟩ := List.mem_filter.mp loaded
  exact (lookup_filter _ _ _ (of_decide_eq_true other)).trans (mapped p before)

theorem line_map_of_loaded (text : String) (p : Policy) (mapped : Mapped h) (loaded : p ∈ h.store.policies)
    (spells : Path.ofText text = p.path) : lineMap s text h = (p.lineMap, h) := by
  simp only [lineMap, spells, mapped p loaded]

theorem line_map_mapped (text : String) (mapped : Mapped h) : Mapped (lineMap s text h).2 := by
  intro p loaded
  have before : p ∈ h.store.policies := (unmoved_line_map s text h).policies ▸ loaded
  by_cases spells : Path.ofText text = p.path
  · rw [line_map_of_loaded s h text p mapped before spells]
    exact mapped p before
  · unfold lineMap
    dsimp only
    cases h.store.lineMap? (Path.ofText text) with
    | some m => exact mapped p before
    | none => exact (Store.put_line_map_other _ _ _ _ (Ne.symm spells)).trans (mapped p before)

theorem explain_mapped (input : Json) (package rule : Option String) (options : Trace.Options) (mapped : Mapped h) :
    Mapped ((explain s input package rule options).run.run h).2 := by
  have cases := explain_cases s h input package rule options
  generalize (explain s input package rule options).run.run h = outcome at cases ⊢
  obtain ⟨result, after⟩ := outcome
  cases cases with
  | unfound failure missing => exact mapped
  | refused t fault found bad => exact mapped
  | failed t document failure found told bad => exact mapped
  | given t document m _ found told fine read =>
      have kept := line_map_mapped s (h.record (.explain (explainRequest h.config t input options)))
        t.policy.path.text mapped
      rwa [read] at kept

theorem answer_mapped (request : Request) (single : request.isSingle = true) (mapped : Mapped h) :
    Mapped (h.answer s request).2 := by
  cases request with
  | load path base => exact load_mapped s h path base mapped
  | loadTogether path base callers => cases single
  | evaluate input package rule => exact mapped
  | explain input package rule options => exact explain_mapped s h input package rule options mapped
  | unload path => exact unload_mapped s h path mapped
  | clear => exact fun _ loaded => nomatch loaded
  | find package => exact mapped
  | lineMap path => exact line_map_mapped s h path mapped

theorem after_mapped (turns : List (Surroundings × Request)) (single : ∀ turn ∈ turns, turn.2.isSingle = true)
    (mapped : Mapped h) : Mapped (h.after turns) := by
  induction turns generalizing h with
  | nil => exact mapped
  | cons turn rest ih =>
      obtain ⟨alone, others⟩ := List.forall_mem_cons.mp single
      exact ih (h.answer turn.1 turn.2).2 others (answer_mapped turn.1 h turn.2 alone mapped)

theorem new_mapped (config : Config) (started : Host.new config = .ok h) : Mapped h := by
  rw [new_host config h started]
  exact fun _ loaded => nomatch loaded

end Steps

structure EnteredBy (new : Host) (turns past : List (Surroundings × Request)) (s : Surroundings) (path : String)
    (base : Option String) (rest : List (Surroundings × Request)) (p : Policy) : Prop where
  turns : turns = past ++ (s, .load path base) :: rest
  entering : Entering s (new.after past) path base p
  since : ∀ front, front <+: rest → p ∈ (new.after (past ++ (s, .load path base) :: front)).store.policies

section Entries

variable (h : Host) (p : Policy)

theorem after_concat (turns : List (Surroundings × Request)) (turn : Surroundings × Request) :
    h.after (turns ++ [turn]) = ((h.after turns).answer turn.1 turn.2).2 :=
  List.foldl_concat _ h turn turns

-- From the end of the run: the last turn has entered the policy, or it was there before.
theorem loaded_entered (turns : List (Surroundings × Request)) (single : ∀ turn ∈ turns, turn.2.isSingle = true)
    (bare : h.store.policies = []) (loaded : p ∈ (h.after turns).store.policies) :
    ∃ past s path base rest, EnteredBy h turns past s path base rest p := by
  induction turns using List.reverseRecOn with
  | nil =>
      have none : p ∈ h.store.policies := loaded
      rw [bare] at none
      cases none
  | append_singleton turns turn ih =>
      obtain ⟨others, alone⟩ := List.forall_mem_append.mp single
      have last := loaded
      rw [after_concat] at last
      rcases answer_entering turn.1 (h.after turns) turn.2 p last with
        old | ⟨path, base, request, entering⟩ | ⟨path, base, callers, several⟩
      · obtain ⟨past, s, path, base, rest, entered⟩ := ih others old
        have longer : turns ++ [turn] = past ++ (s, .load path base) :: (rest ++ [turn]) := by
          rw [entered.turns, List.append_assoc, List.cons_append]
        refine ⟨past, s, path, base, rest ++ [turn], longer, entered.entering, ?_⟩
        intro front inside
        rcases List.prefix_concat_iff.mp inside with whole | shorter
        · rw [whole, ← longer]
          exact loaded
        · exact entered.since front shorter
      · have own : turn = (turn.1, .load path base) := Prod.ext rfl request
        refine ⟨turns, turn.1, path, base, [], congrArg (fun turn => turns ++ [turn]) own, entering, ?_⟩
        intro front inside
        rw [List.prefix_nil.mp inside, ← own]
        exact loaded
      · have single := alone turn (List.mem_singleton_self turn)
        rw [several] at single
        cases single

end Entries

-- Whoever asks for the line map of a policy in the store is given that of its source, an explanation included.
structure SourceMapped (h : Host) (p : Policy) : Prop where
  spelled : Path.ofText p.path.text = p.path
  answered : ∀ (s : Surroundings) (text : String), Path.ofText text = p.path →
    h.answer s (.lineMap text) = (.lineMap (.ofSource p.source), h)
  explained : ∀ (s : Surroundings) (input : Json) (package rule : Option String) (options : Trace.Options) (t : Target)
    (answer : Explained), h.target package rule = .ok t → t.policy = p →
    ((explain s input package rule options).run.run h).1 = .ok answer →
    ∃ document, s.toolchain.explain s.workspace.tree (explainRequest h.config t input options) = .ok document ∧
      answer.trace = traceOf document (.ofSource p.source) options (traceBudget h.config options)

theorem source_mapped (h : Host) (p : Policy) (spelled : Path.ofText p.path.text = p.path) (mapped : Mapped h)
    (loaded : p ∈ h.store.policies) : SourceMapped h p := by
  refine ⟨spelled, ?_, ?_⟩
  · intro s text spells
    simp only [answer, line_map_of_loaded s h text p mapped loaded spells, Policy.lineMap]
  · rintro s input package rule options t answer found rfl given
    have cases := explain_cases s h input package rule options
    rw [given] at cases
    cases cases with
    | given other document m _ here told fine read =>
        cases found.symm.trans here
        rw [line_map_of_loaded s (h.record _) t.policy.path.text t.policy mapped loaded spelled] at read
        obtain ⟨rfl, _⟩ := Prod.mk.inj read
        exact ⟨document, told, rfl⟩

theorem line_maps_of_sources (config : Config) (new : Host) (turns : List (Surroundings × Request))
    (started : Host.new config = .ok new) (single : ∀ turn ∈ turns, turn.2.isSingle = true)
    (genuine : ∀ turn ∈ turns, Path.Genuine turn.1.workspace.directory) (p : Policy)
    (loaded : p ∈ (new.after turns).store.policies) :
    (∃ past s path base rest, EnteredBy new turns past s path base rest p) ∧ SourceMapped (new.after turns) p := by
  have bare : new.store.policies = [] := by
    rw [new_host config new started]
    rfl
  obtain ⟨past, s, path, base, rest, entered⟩ := loaded_entered new p turns single bare loaded
  have turn : (s, Request.load path base) ∈ turns := by
    rw [entered.turns]
    exact List.mem_append_right _ List.mem_cons_self
  obtain ⟨rooted, names⟩ :=
    Workspace.resolve_genuine s.workspace path base p.path (genuine _ turn) entered.entering.resolved
  have mapped := after_mapped new turns single (new_mapped new config started)
  exact ⟨⟨past, s, path, base, rest, entered⟩,
    source_mapped _ p (Path.of_text_text p.path rooted names) mapped loaded⟩

-- The file is missing at first, is written anew after its load, and is gone before and after the second load.
def rewrites : List (Surroundings × Request) :=
  let gone := permissive { nodes := [(["srv"], .directory)] } ["srv"]
  let first := only "package p\nallow := true\n"
  let second := only "package p\n\nallow := false\n"
  [(gone, .lineMap "/srv/a.rego"), (first, .load "a.rego" none), (second, .lineMap "/srv/a.rego"),
   (second, .unload "a.rego"), (gone, .lineMap "/srv/a.rego"), (second, .load "x/../a.rego" none),
   (gone, .explain .null none none .full)]

theorem line_maps_of_sources_rewritten :
    ∃ p ∈ (idle.after rewrites).store.policies, p.lineMap.heads = [(3, "allow")] ∧
      (∃ past s path base rest, EnteredBy idle rewrites past s path base rest p) ∧
      SourceMapped (idle.after rewrites) p := by
  have first : ((idle.after rewrites).store.policies.head?).map (·.lineMap.heads) = some [(3, "allow")] := by
    decide +kernel
  obtain ⟨p, head, mapped⟩ := Option.map_eq_some_iff.mp first
  have loaded := List.mem_of_head? head
  exact ⟨p, loaded, mapped,
    line_maps_of_sources {} idle rewrites rfl (by decide) (by decide +kernel) p loaded⟩

end PolicyHost.Host
