import PolicyHost.Proofs.Attribution
import PolicyHost.Proofs.References

set_option autoImplicit false

namespace PolicyHost.Trace

namespace Term

inductive EncodesPart : Json → Reference.Part → Prop where
  | text (term : Json) (value : String) (tagged : Tagged term "string" (.str value)) : EncodesPart term (.text value)
  | int (term : Json) (value : Int) (tagged : Tagged term "number" (.num (.int value))) : EncodesPart term (.int value)
  | bool (term : Json) (value : Bool) (tagged : Tagged term "boolean" (.bool value)) : EncodesPart term (.bool value)
  | null (term value : Json) (tagged : Tagged term "null" value) : EncodesPart term .null
  | var (term : Json) (name : Reference.Variable) (tagged : Tagged term "var" (.str name.name)) :
      EncodesPart term (.var name)

inductive EncodesReference : List Json → Reference → Prop where
  | intro (head : Json) (terms : List Json) (r : Reference) (headed : Tagged head "var" (.str r.head.name))
      (each : List.Forall₂ EncodesPart terms r.parts) : EncodesReference (head :: terms) r

section Encoded

variable (term : Json) (r : Reference)

theorem tagged_apart (kind other : String) (value given : Json) (tagged : Tagged term kind value)
    (apart : kind ≠ other) : ¬ Tagged term other given :=
  fun also => apart (Json.str.inj (Option.some.inj (tagged.typed.symm.trans also.typed)))

theorem item_writes (kind : String) (value : Json) (tagged : Tagged term kind value) (unnamed : kind ≠ "string")
    (unbound : kind ≠ "var") : WritesPart term (bracketed (plain term).chars) :=
  .item term (fun _ also => absurd also (tagged_apart term kind "string" value _ tagged unnamed))
    fun _ => tagged_apart term kind "var" value _ tagged unbound

theorem part_encoded (part : Reference.Part) (encodes : EncodesPart term part) : WritesPart term part.chars := by
  cases encodes with
  | text value tagged =>
      rw [Reference.Part.chars]
      split
      · next identifier => exact .field term value tagged identifier
      · next other =>
          have writes : WritesPart term (bracketed (plain term).chars) :=
            .item term (fun name also => by
              cases tagged.valued.symm.trans also.valued
              exact Bool.eq_false_iff.mpr other) fun _ => tagged_apart term "string" "var" _ _ tagged (by decide)
          rwa [plain_scalar term _ _ (.inr (.inr rfl)) tagged, Json.chars] at writes
  | int value tagged =>
      have writes := item_writes term _ _ tagged (by decide) (by decide)
      rwa [plain_scalar term _ _ (.inr (.inl rfl)) tagged, Json.chars, Json.Number.chars] at writes
  | bool value tagged =>
      have writes := item_writes term _ _ tagged (by decide) (by decide)
      rwa [plain_scalar term _ _ (.inl rfl) tagged] at writes
  | null value tagged =>
      have writes := item_writes term _ _ tagged (by decide) (by decide)
      rwa [plain_null term value tagged] at writes
  | var name tagged => exact .index term _ tagged

theorem reference_encoded (terms : List Json) (encodes : EncodesReference terms r) : Writes terms r.chars := by
  cases encodes with
  | intro head terms _ headed each =>
      have texts : List.Forall₂ WritesPart terms (r.parts.map Reference.Part.chars) :=
        List.forall₂_map_right_iff.mpr (each.imp part_encoded)
      rw [Reference.chars, List.flatMap_def]
      exact .named head _ terms _ headed.valued texts

end Encoded

-- A term that goes by a reference: the reference itself, or the call of a function that does.
inductive Refers : Json → Reference → Prop where
  | ref (term : Json) (parts : List Json) (r : Reference) (tagged : Tagged term "ref" (.arr parts))
      (encodes : EncodesReference parts r) : Refers term r
  | call (term function : Json) (arguments : List Json) (r : Reference)
      (tagged : Tagged term "call" (.arr (function :: arguments))) (refers : Refers function r) : Refers term r

theorem names_referred (term : Json) (r : Reference) (refers : Refers term r) (outside : r.head.name ≠ "data") :
    Names term r.text := by
  induction refers with
  | ref term parts r tagged encodes =>
      refine .reference term parts r.chars tagged (fun head rest same rooted => ?_) (reference_encoded r parts encodes)
      cases encodes with
      | intro first terms _ headed each =>
          cases same
          exact outside (Json.str.inj (Option.some.inj (headed.valued.symm.trans rooted)))
  | call term function arguments r tagged refers ih => exact .call term function arguments _ tagged (ih outside)

def partTerm : Reference.Part → Json
  | .text value => tag "string" (.str value)
  | .int value => tag "number" (.num (.int value))
  | .bool value => tag "boolean" (.bool value)
  | .null => tag "null" .null
  | .var name => tag "var" (.str name.name)

def referenceTerm (r : Reference) : Json := tag "ref" (.arr (tag "var" (.str r.head.name) :: r.parts.map partTerm))

theorem part_term_encodes (part : Reference.Part) : EncodesPart (partTerm part) part := by
  cases part with
  | text value => exact .text _ value (tag_tagged _ _)
  | int value => exact .int _ value (tag_tagged _ _)
  | bool value => exact .bool _ value (tag_tagged _ _)
  | null => exact .null _ _ (tag_tagged _ _)
  | var name => exact .var _ name (tag_tagged _ _)

theorem reference_term_refers (r : Reference) : Refers (referenceTerm r) r := by
  have each : List.Forall₂ EncodesPart (r.parts.map partTerm) r.parts :=
    List.forall₂_map_left_iff.mpr (List.forall₂_same.mpr fun part _ => part_term_encodes part)
  exact .ref _ _ r (tag_tagged _ _) (.intro _ _ r (tag_tagged _ _) each)

end Term

structure Cites (e : Event) (r : Reference) (place : Event.Location) : Prop where
  op : e.op = .enter ∨ e.op = .eval
  located : e.location = some place
  row : 0 < place.row
  node : ∃ node term, e.node = some node ∧ Term.GoesBy node term ∧ Term.Refers term r

theorem cites_mentions (e : Event) (r : Reference) (place : Event.Location) (cites : Cites e r place)
    (outside : r.head.name ≠ "data") : Mentions e r.text place := by
  obtain ⟨node, term, held, goes, refers⟩ := cites.node
  exact ⟨cites.op, cites.located, cites.row, node, held,
    .term node term r.text goes (Term.names_referred term r refers outside)⟩

theorem mentioned_entry (events : List Event) (m : LineMap) (level : Level) (result : Option Json) (e : Event)
    (name : String) (place : Event.Location) (inside : e ∈ events) (mentions : Mentions e name place) :
    ∃ entry ∈ (ofEvents events m level result).rules,
      entry.name = name ∧ entry.line = (m.lineOf? name).getD place.row := by
  obtain ⟨s, kept, same⟩ := mentioned_sighting m events e name _ inside ⟨place, mentions, rfl⟩
  rcases firsts_complete [] _ s kept with none | ⟨first, met, alike⟩
  · cases none
  · exact ⟨first.entry, List.mem_map_of_mem met, Prod.mk.inj (alike.trans same)⟩

theorem references_told_apart (r s : Reference) (different : r ≠ s) :
    (∀ first second, Term.EncodesReference first r → Term.EncodesReference second s →
      String.ofList (Term.refChars first) ≠ String.ofList (Term.refChars second)) ∧
    (r.head.name ≠ "data" → s.head.name ≠ "data" →
      (∀ t u, Term.Refers t r → Term.Refers u s →
        ∃ name other, Term.name? t = some name ∧ Term.name? u = some other ∧ name ≠ other) ∧
      ∀ events m level result, ∀ e ∈ events, ∀ f ∈ events, ∀ place there, Cites e r place → Cites f s there →
        ∃ entry ∈ (ofEvents events m level result).rules, ∃ other ∈ (ofEvents events m level result).rules,
          entry.name = r.text ∧ entry.line = (m.lineOf? r.text).getD place.row ∧
          other.name = s.text ∧ other.line = (m.lineOf? s.text).getD there.row ∧ entry.name ≠ other.name) := by
  have texts : r.text ≠ s.text := fun same => different (Reference.chars_unique r s (String.ofList_inj.mp same))
  refine ⟨?_, fun outside also => ⟨?_, ?_⟩⟩
  · intro first second encodes encoded same
    rw [Term.reference_written first _ (Term.reference_encoded r first encodes),
      Term.reference_written second _ (Term.reference_encoded s second encoded)] at same
    exact texts same
  · intro t u refers referred
    exact ⟨_, _, (Term.names_iff t _).mp (Term.names_referred t r refers outside),
      (Term.names_iff u _).mp (Term.names_referred u s referred also), texts⟩
  · intro events m level result e inside f within place there cites cited
    obtain ⟨entry, held, named, counted⟩ := mentioned_entry events m level result e _ place inside
      (cites_mentions e r place cites outside)
    obtain ⟨other, kept, called, placed⟩ := mentioned_entry events m level result f _ there within
      (cites_mentions f s there cited also)
    refine ⟨entry, held, other, kept, named, counted, called, placed, ?_⟩
    rwa [named, called]

def citing (r : Reference) : Event :=
  { op := .eval, query := 1, parentQuery := 0, location := some ⟨none, 3, 5⟩
    node := some (.obj [("index", .nat 0), ("terms", Term.referenceTerm r)]), locals := [], message := none }

theorem citing_cites (r : Reference) : Cites (citing r) r ⟨none, 3, 5⟩ :=
  ⟨.inr rfl, rfl, by decide, _, _, rfl, .single _ _ rfl rfl (fun _ same => nomatch same), Term.reference_term_refers r⟩

-- Two items one after the other, and one item under a name that looks like what stands between them.
def nested : Reference := ⟨⟨"input", by decide, by decide⟩, [.text "-", .text "-"]⟩

def spliced : Reference := ⟨⟨"input", by decide, by decide⟩, [.text "-\"][\"-"]⟩

theorem references_told_apart_spliced :
    nested ≠ spliced ∧ nested.text = "input[\"-\"][\"-\"]" ∧ spliced.text = "input[\"-\\\"][\\\"-\"]" ∧
    ∃ entry ∈ (ofEvents [citing nested, citing spliced] .empty .full none).rules,
      ∃ other ∈ (ofEvents [citing nested, citing spliced] .empty .full none).rules,
        entry.name = nested.text ∧ entry.line = 3 ∧ other.name = spliced.text ∧ other.line = 3 ∧
        entry.name ≠ other.name := by
  have different : nested ≠ spliced := by decide
  obtain ⟨_, named⟩ := references_told_apart nested spliced different
  obtain ⟨_, met⟩ := named (by decide) (by decide)
  exact ⟨different, rfl, rfl, met [citing nested, citing spliced] .empty .full none _ List.mem_cons_self _
    (List.mem_cons_of_mem _ List.mem_cons_self) _ _ (citing_cites nested) (citing_cites spliced)⟩

end PolicyHost.Trace
