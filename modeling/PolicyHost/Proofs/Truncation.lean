import PolicyHost.Proofs.Sizes

set_option autoImplicit false

namespace PolicyHost.Trace

-- As many digits as a frame has, or one more, is where the count stays after one more measurement.
theorem digits_settle (frame count : Nat) (low : digits frame ≤ count) (high : count ≤ digits frame + 1) :
    digits (frame + digits (frame + count)) = digits (frame + count) := by
  have least : digits frame ≤ digits (frame + count) := digits_mono _ _ (Nat.le_add_right _ _)
  have most : digits (frame + count) ≤ digits frame + 1 := digits_add frame count (Or.inr high)
  by_cases same : digits (frame + count) = count
  · rw [same, same]
  · have again : digits (frame + digits (frame + count)) ≤ digits frame + 1 := digits_add frame _ (Or.inr most)
    have still : digits frame ≤ digits (frame + digits (frame + count)) := digits_mono _ _ (Nat.le_add_right _ _)
    rcases Nat.lt_or_gt_of_ne same with fewer | more
    · have := digits_mono (frame + digits (frame + count)) (frame + count) (by omega)
      omega
    · have := digits_mono (frame + count) (frame + digits (frame + count)) (by omega)
      omega

theorem settle_iterate (rounds : Nat) (t : Trace) :
    settle rounds t = { t with sizeBytes := (fun size => t.frame + digits size)^[rounds] t.sizeBytes } := by
  induction rounds generalizing t with
  | zero => rfl
  | succ rounds ih =>
      simp only [settle, measure_eq]
      by_cases fixed : t.frame + digits t.sizeBytes = t.sizeBytes
      · rw [if_pos fixed, Function.iterate_fixed fixed]
      · rw [if_neg fixed, ih, Function.iterate_succ_apply]
        rfl

theorem measured_size (t : Trace) (short : digits t.sizeBytes ≤ 20) : t.measured.measure = t.measured.sizeBytes := by
  have first : digits t.frame ≤ digits (t.frame + digits t.sizeBytes) := digits_mono _ _ (Nat.le_add_right _ _)
  have bound := digits_add t.frame (digits t.sizeBytes) (Or.inl short)
  have second := digits_settle t.frame _ first bound
  rw [measure_eq, measured, settle_iterate]
  change t.frame + digits _ = _
  simp only [Function.iterate_succ_apply, Function.iterate_zero, id_eq, second]

theorem measured_short (t : Trace) (short : digits t.sizeBytes ≤ 20) (room : t.frame + 20 < 10 ^ 20) :
    digits t.measured.sizeBytes ≤ 20 := by
  rw [measured, settle_iterate]
  have kept : ∀ size, digits size ≤ 20 → digits (t.frame + digits size) ≤ 20 := fun size few =>
    (digits_le_iff _ 20 (by decide)).mpr (by omega)
  exact Function.Iterate.rec (fun size => digits size ≤ 20) short kept 4

theorem measured_same (t : Trace) : ∃ size, t.measured = { t with sizeBytes := size } := ⟨_, settle_iterate 4 t⟩

structure Addressable (t : Trace) : Prop where
  stated : t.sizeBytes < UInt64.size
  measured : (Text.encode t.toJson.text).length < UInt64.size

structure Piece (t u : Trace) : Prop where
  short : digits u.sizeBytes ≤ 20
  room : u.frame + 20 < 10 ^ 20
  lists : ∃ k, u.rules = t.rules.take (t.rules.length / 2 ^ k) ∧ u.path = t.path.take (t.path.length / 2 ^ k)
  decision : u.finalDecision = t.finalDecision
  level : u.level = t.level
  flag : u.truncated = true ↔
    t.truncated = true ∨ u.rules ≠ t.rules ∨ u.path ≠ t.path ∨ u.bindings ≠ t.bindings ∨ u.notes ≠ t.notes

theorem piece_whole (t : Trace) (addressable : Addressable t) : Piece t t := by
  have stated := addressable.stated
  have whole := addressable.measured
  have size : UInt64.size + 20 < 10 ^ 20 := by decide
  rw [text_length, measure_eq] at whole
  refine ⟨(digits_le_iff _ 20 (by decide)).mpr (by omega), by omega, ⟨0, ?_, ?_⟩, rfl, rfl, by simp⟩
  · rw [Nat.pow_zero, Nat.div_one, List.take_length]
  · rw [Nat.pow_zero, Nat.div_one, List.take_length]

theorem piece_measured (t u : Trace) (piece : Piece t u) :
    Piece t u.measured ∧ u.measured.measure = u.measured.sizeBytes := by
  refine ⟨?_, measured_size u piece.short⟩
  have short := measured_short u piece.short piece.room
  obtain ⟨size, same⟩ := measured_same u
  rw [same] at short ⊢
  exact ⟨short, piece.room, piece.lists, piece.decision, piece.level, piece.flag⟩

theorem take_half {α : Type} (all part : List α) (k : Nat) (taken : part = all.take (all.length / 2 ^ k)) :
    part.take (part.length / 2) = all.take (all.length / 2 ^ (k + 1)) := by
  have length : part.length = all.length / 2 ^ k := by
    rw [taken, List.length_take]
    exact Nat.min_eq_left (Nat.div_le_self _ _)
  rw [length, taken, List.take_take, Nat.div_div_eq_div_mul, ← Nat.pow_succ]
  exact congrArg (fun n => all.take n) (Nat.min_eq_left (Nat.div_le_div_left (Nat.pow_le_pow_right (by decide)
    (Nat.le_succ k)) (Nat.two_pow_pos k)))

theorem take_half_shorter {α : Type} (all part : List α) (n : Nat) (taken : part = all.take n) (filled : part ≠ []) :
    part.take (part.length / 2) ≠ all := by
  intro same
  have positive := List.length_pos_iff.mpr filled
  have half := congrArg List.length same
  have whole := congrArg List.length taken
  rw [List.length_take] at half whole
  omega

theorem piece_halved (t u : Trace) (piece : Piece t u) (filled : u.rules ≠ [] ∨ u.path ≠ []) : Piece t u.halved := by
  obtain ⟨k, rules, path⟩ := piece.lists
  have room := piece.room
  have smaller := frame_halved u
  refine ⟨piece.short, by omega, ⟨k + 1, take_half _ _ k rules, take_half _ _ k path⟩, piece.decision, piece.level, ?_⟩
  have removed : u.halved.rules ≠ t.rules ∨ u.halved.path ≠ t.path :=
    filled.imp (take_half_shorter _ _ _ rules) (take_half_shorter _ _ _ path)
  exact ⟨fun _ => Or.inr (removed.imp_right Or.inl), fun _ => rfl⟩

theorem piece_without_bindings (t u : Trace) (piece : Piece t u) (filled : ¬ u.bindings.isEmpty)
    (kept : u.bindings = t.bindings) : Piece t { u with bindings := .empty, truncated := true } := by
  have room := piece.room
  have smaller := frame_without_bindings u
  have removed : Dict.empty ≠ t.bindings := fun same => filled (by rw [kept, ← same]; rfl)
  exact ⟨piece.short, by omega, piece.lists, piece.decision, piece.level,
    fun _ => Or.inr (Or.inr (Or.inr (Or.inl removed))), fun _ => rfl⟩

theorem piece_without_notes (t u : Trace) (piece : Piece t u) (filled : ¬ u.notes.isEmpty)
    (kept : u.notes = t.notes) : Piece t { u with notes := [], truncated := true } := by
  have room := piece.room
  have smaller := frame_without_notes u
  have removed : [] ≠ t.notes := fun same => filled (by rw [kept, ← same]; rfl)
  exact ⟨piece.short, by omega, piece.lists, piece.decision, piece.level,
    fun _ => Or.inr (Or.inr (Or.inr (Or.inr removed))), fun _ => rfl⟩

theorem shrink_listless (budget : Nat) (t : Trace) (exceeds : budget < (shrink budget t).sizeBytes) :
    (shrink budget t).rules = [] ∧ (shrink budget t).path = [] := by
  induction t using shrink.induct budget with
  | case1 t larger ih =>
      rw [shrink, if_pos larger] at exceeds ⊢
      exact ih exceeds
  | case2 t fits =>
      rw [shrink, if_neg fits] at exceeds ⊢
      simpa [exceeds] using fits

theorem empty_dict {α : Type} (d : Dict α) (none : d.isEmpty = true) : d = .empty :=
  Dict.ext (List.isEmpty_iff.mp none)

theorem drop_bindings_unbound (budget : Nat) (t : Trace)
    (bare : budget < t.sizeBytes → t.rules = [] ∧ t.path = []) (exceeds : budget < (dropBindings budget t).sizeBytes) :
    (dropBindings budget t).bindings = .empty ∧ (dropBindings budget t).rules = [] ∧
      (dropBindings budget t).path = [] := by
  by_cases dropped : budget < t.sizeBytes ∧ ¬ t.bindings.isEmpty
  · obtain ⟨size, same⟩ := measured_same { t with bindings := .empty, truncated := true }
    rw [dropBindings, if_pos dropped, same]
    exact ⟨rfl, bare dropped.1⟩
  · rw [dropBindings, if_neg dropped] at exceeds ⊢
    exact ⟨empty_dict t.bindings (by simpa [exceeds] using dropped), bare exceeds⟩

theorem shrink_piece (budget : Nat) (t u : Trace) (piece : Piece t u) (settled : u.measure = u.sizeBytes) :
    Piece t (shrink budget u) ∧ (shrink budget u).measure = (shrink budget u).sizeBytes ∧
      (shrink budget u).bindings = u.bindings ∧ (shrink budget u).notes = u.notes ∧
      (budget < (shrink budget u).sizeBytes → (shrink budget u).rules = [] ∧ (shrink budget u).path = []) := by
  induction u using shrink.induct budget with
  | case1 u exceeds ih =>
      obtain ⟨half, stated⟩ := piece_measured t u.halved (piece_halved t u piece exceeds.2)
      obtain ⟨size, same⟩ := measured_same u.halved
      obtain ⟨final, measured, bindings, notes, done⟩ := ih half stated
      rw [shrink, if_pos exceeds]
      refine ⟨final, measured, bindings.trans ?_, notes.trans ?_, done⟩
      · rw [same]
        rfl
      · rw [same]
        rfl
  | case2 u fits =>
      have done := shrink_listless budget u
      rw [shrink, if_neg fits] at done ⊢
      exact ⟨piece, settled, rfl, rfl, done⟩

theorem drop_bindings_piece (budget : Nat) (t u : Trace) (piece : Piece t u) (settled : u.measure = u.sizeBytes)
    (kept : u.bindings = t.bindings) (bare : budget < u.sizeBytes → u.rules = [] ∧ u.path = []) :
    Piece t (dropBindings budget u) ∧ (dropBindings budget u).measure = (dropBindings budget u).sizeBytes ∧
      (dropBindings budget u).notes = u.notes ∧
      ((dropBindings budget u).bindings = t.bindings ∨ (dropBindings budget u).bindings = .empty ∧
        (dropBindings budget u).rules = [] ∧ (dropBindings budget u).path = []) ∧
      (budget < (dropBindings budget u).sizeBytes → (dropBindings budget u).bindings = .empty ∧
        (dropBindings budget u).rules = [] ∧ (dropBindings budget u).path = []) := by
  have done := drop_bindings_unbound budget u bare
  by_cases dropped : budget < u.sizeBytes ∧ ¬ u.bindings.isEmpty
  · obtain ⟨final, stated⟩ := piece_measured t _ (piece_without_bindings t u piece dropped.2 kept)
    obtain ⟨size, same⟩ := measured_same { u with bindings := .empty, truncated := true }
    rw [dropBindings, if_pos dropped] at done ⊢
    rw [same] at final stated done ⊢
    exact ⟨final, stated, rfl, Or.inr ⟨rfl, bare dropped.1⟩, done⟩
  · rw [dropBindings, if_neg dropped] at done ⊢
    exact ⟨piece, settled, rfl, Or.inl kept, done⟩

theorem drop_notes_piece (budget : Nat) (t u : Trace) (piece : Piece t u) (settled : u.measure = u.sizeBytes)
    (kept : u.notes = t.notes) :
    Piece t (dropNotes budget u) ∧ (dropNotes budget u).measure = (dropNotes budget u).sizeBytes ∧
      (dropNotes budget u).bindings = u.bindings ∧ (dropNotes budget u).rules = u.rules ∧
      (dropNotes budget u).path = u.path ∧
      ((dropNotes budget u).notes = t.notes ∨ (dropNotes budget u).notes = [] ∧ budget < u.sizeBytes) ∧
      (budget < (dropNotes budget u).sizeBytes → (dropNotes budget u).notes = [] ∧ budget < u.sizeBytes) := by
  by_cases dropped : budget < u.sizeBytes ∧ ¬ u.notes.isEmpty
  · obtain ⟨final, stated⟩ := piece_measured t _ (piece_without_notes t u piece dropped.2 kept)
    obtain ⟨size, same⟩ := measured_same { u with notes := [], truncated := true }
    rw [dropNotes, if_pos dropped]
    rw [same] at final stated ⊢
    exact ⟨final, stated, rfl, rfl, rfl, Or.inr ⟨rfl, dropped.1⟩, fun _ => ⟨rfl, dropped.1⟩⟩
  · rw [dropNotes, if_neg dropped]
    refine ⟨piece, settled, rfl, rfl, rfl, Or.inl kept, fun exceeds => ⟨?_, exceeds⟩⟩
    simpa [exceeds] using dropped

-- How a trace `u` that was cut down to a budget differs from the trace `t` that it was.
structure Fitted (budget : Nat) (t u : Trace) : Prop where
  size : u.sizeBytes = (Text.encode u.toJson.text).length
  within : u.sizeBytes ≤ budget ∨ u.rules = [] ∧ u.path = [] ∧ u.bindings = .empty ∧ u.notes = []
  lists : ∃ k, u.rules = t.rules.take (t.rules.length / 2 ^ k) ∧ u.path = t.path.take (t.path.length / 2 ^ k)
  bindings : u.bindings = t.bindings ∨ u.bindings = .empty ∧ u.rules = [] ∧ u.path = []
  notes : u.notes = t.notes ∨ u.notes = [] ∧ u.bindings = .empty ∧ u.rules = [] ∧ u.path = []
  flag : u.truncated = true ↔
    t.truncated = true ∨ u.rules ≠ t.rules ∨ u.path ≠ t.path ∨ u.bindings ≠ t.bindings ∨ u.notes ≠ t.notes
  decision : u.finalDecision = t.finalDecision
  level : u.level = t.level

theorem fit_fitted (budget : Nat) (t : Trace) (addressable : Addressable t) : Fitted budget t (t.fit budget) := by
  obtain ⟨whole, stated⟩ := piece_measured t t (piece_whole t addressable)
  obtain ⟨size, same⟩ := measured_same t
  have bindings : t.measured.bindings = t.bindings := by rw [same]
  have notes : t.measured.notes = t.notes := by rw [same]
  obtain ⟨shrunk, shrunkSize, shrunkBindings, shrunkNotes, bare⟩ := shrink_piece budget t t.measured whole stated
  obtain ⟨dropped, droppedSize, droppedNotes, unbound, barer⟩ :=
    drop_bindings_piece budget t _ shrunk shrunkSize (shrunkBindings.trans bindings) bare
  obtain ⟨final, finalSize, finalBindings, finalRules, finalPath, unnoted, barest⟩ :=
    drop_notes_piece budget t _ dropped droppedSize (droppedNotes.trans (shrunkNotes.trans notes))
  rw [← finalBindings, ← finalRules, ← finalPath] at unbound barer
  refine ⟨finalSize.symm.trans (text_length _).symm, ?_, final.lists, unbound, ?_, final.flag, final.decision, final.level⟩
  · rcases Nat.lt_or_ge budget (t.fit budget).sizeBytes with exceeds | fits
    · obtain ⟨noNotes, more⟩ := barest exceeds
      obtain ⟨noBindings, noRules, noPath⟩ := barer more
      exact Or.inr ⟨noRules, noPath, noBindings, noNotes⟩
    · exact Or.inl fits
  · exact unnoted.imp_right fun gone => ⟨gone.1, barer gone.2⟩

def staleTrace : Trace :=
  { rules := [⟨"allow", 3, some 1, .holds⟩, ⟨"admin", 7, none, .fails⟩, ⟨"owner", 9, none, .undefined⟩]
    bindings := .ofList [("user", .str "alice")]
    finalDecision := some true
    path := [⟨"allow", true, some 3, none⟩]
    level := .full
    truncated := false
    sizeBytes := 99
    notes := [⟨"checked", some 4⟩] }

-- It has 371 bytes and not the 99 that it states. The second budget is less than what is left when all is gone.
theorem stale_trace_fitted :
    Addressable staleTrace ∧ (Text.encode staleTrace.toJson.text).length = 371 ∧
      Fitted 320 staleTrace (staleTrace.fit 320) ∧ (staleTrace.fit 320).sizeBytes = 243 ∧
      (staleTrace.fit 320).rules.map RuleEntry.name = ["allow"] ∧ (staleTrace.fit 320).path = [] ∧
      Fitted 100 staleTrace (staleTrace.fit 100) ∧ (staleTrace.fit 100).sizeBytes = 136 := by
  have addressable : Addressable staleTrace := ⟨by decide, by decide +kernel⟩
  have fitted (budget : Nat) := fit_fitted budget staleTrace addressable
  exact ⟨addressable, by decide +kernel, fitted 320, by decide +kernel, by decide +kernel, by decide +kernel,
    fitted 100, by decide +kernel⟩

end PolicyHost.Trace
