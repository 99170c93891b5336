import PolicyHost.Wasm.Memory

set_option autoImplicit false

namespace PolicyHost

namespace Text

theorem decode_some (bytes : Bytes) (text : String) : decode? bytes = some text ↔ encode text = bytes := by
  unfold decode? String.fromUTF8?
  constructor
  · intro decoded
    split at decoded
    · cases decoded
      rfl
    · cases decoded
  · rintro rfl
    have same : (⟨(encode text).toArray⟩ : ByteArray) = text.toByteArray := rfl
    rw [dif_pos (same ▸ text.isValidUTF8)]
    rfl

theorem decode_none (bytes : Bytes) : decode? bytes = none ↔ ∀ text, encode text ≠ bytes := by
  rw [Option.eq_none_iff_forall_ne_some]
  exact forall_congr' fun text => not_congr (decode_some bytes text)

end Text

namespace Wasm.Memory

variable (m : Memory)

def slice (addr n : Nat) : Text.Bytes := (List.range n).map fun i => m.byte (addr + i)

-- A text of a length that is allowed, with the first zero byte right behind it.
structure Holds (addr : Int) (text : String) : Prop where
  address : 0 ≤ addr
  bytes : m.slice addr.toNat (Text.encode text).length = Text.encode text
  bare : 0 ∉ Text.encode text
  ended : m.byte (addr.toNat + (Text.encode text).length) = 0
  inside : addr.toNat + (Text.encode text).length < m.size
  short : (Text.encode text).length ≤ maxTextBytes

theorem slice_succ (addr n : Nat) : m.slice addr (n + 1) = m.byte addr :: m.slice (addr + 1) n := by
  rw [slice, List.range_succ_eq_map, List.map_cons, List.map_map, slice, Nat.add_zero]
  refine congrArg _ (List.map_congr_left fun i _ => ?_)
  rw [Function.comp_apply, Nat.succ_eq_add_one, Nat.add_comm i 1, Nat.add_assoc]

theorem slice_length (addr n : Nat) : (m.slice addr n).length = n := by
  rw [slice, List.length_map, List.length_range]

theorem until_zero_some (addr window : Nat) (done bytes : Text.Bytes) :
    m.untilZero addr window done = some bytes ↔
      ∃ n < window, bytes = done.reverse ++ m.slice addr n ∧ 0 ∉ m.slice addr n ∧ m.byte (addr + n) = 0 := by
  induction window generalizing addr done with
  | zero => simp [untilZero]
  | succ window ih =>
      rw [untilZero]
      by_cases zero : m.byte addr = 0
      · rw [if_pos zero]
        constructor
        · intro read
          refine ⟨0, Nat.succ_pos window, ?_, List.not_mem_nil, zero⟩
          rw [← Option.some.inj read]
          exact (List.append_nil _).symm
        · rintro ⟨n, _, read, bare, _⟩
          cases n with
          | zero =>
              rw [read]
              exact congrArg some (List.append_nil _).symm
          | succ n =>
              rw [slice_succ, zero] at bare
              exact absurd List.mem_cons_self bare
      · rw [if_neg zero, ih]
        constructor
        · rintro ⟨n, less, read, bare, ended⟩
          refine ⟨n + 1, Nat.succ_lt_succ less, ?_, ?_, ?_⟩
          · rw [read, slice_succ, List.reverse_cons, List.append_assoc]
            rfl
          · rw [slice_succ, List.mem_cons, not_or]
            exact ⟨Ne.symm zero, bare⟩
          · rwa [Nat.add_assoc, Nat.add_comm 1 n] at ended
        · rintro ⟨n, less, read, bare, ended⟩
          cases n with
          | zero => exact absurd ended zero
          | succ n =>
              rw [slice_succ] at read bare
              refine ⟨n, Nat.lt_of_succ_lt_succ less, ?_, fun found => bare (List.mem_cons_of_mem _ found), ?_⟩
              · rw [read, List.reverse_cons, List.append_assoc]
                rfl
              · rwa [Nat.add_assoc, Nat.add_comm 1 n]

theorem read_text_holds (addr : Int) (text : String) : m.readText addr = .ok text ↔ m.Holds addr text := by
  unfold readText
  constructor
  · intro read
    split at read
    · cases read
    · split at read
      · cases read
      · next address inside =>
          cases scanned : m.untilZero addr.toNat (min (maxTextBytes + 1) (m.size - addr.toNat)) [] with
          | none =>
              rw [scanned] at read
              cases read
          | some bytes =>
              simp only [scanned] at read
              cases decoded : Text.decode? bytes with
              | none =>
                  rw [decoded] at read
                  cases read
              | some found =>
                  simp only [decoded, Except.ok.injEq] at read
                  subst read
                  obtain ⟨n, window, whole, bare, ended⟩ := (until_zero_some m _ _ _ _).mp scanned
                  have same := (Text.decode_some bytes found).mp decoded
                  have length : (Text.encode found).length = n := by
                    rw [same, whole, List.reverse_nil, List.nil_append, slice_length]
                  rw [List.reverse_nil, List.nil_append] at whole
                  rw [← whole, ← same] at bare
                  rw [← length] at ended window whole
                  refine ⟨by omega, whole.symm.trans same.symm, bare, ended, by omega, by omega⟩
  · intro holds
    obtain ⟨address, bytes, bare, ended, inside, short⟩ := holds
    have scanned : m.untilZero addr.toNat (min (maxTextBytes + 1) (m.size - addr.toNat)) [] = some (Text.encode text) :=
      (until_zero_some m _ _ _ _).mpr
        ⟨(Text.encode text).length, by omega, bytes.symm, bytes.symm ▸ bare, ended⟩
    have decoded : Text.decode? (Text.encode text) = some text := (Text.decode_some _ text).mpr rfl
    rw [if_neg (by omega), if_neg (by omega), scanned]
    simp only [decoded]

theorem written_slice (addr : Nat) (bytes : Array UInt8) (after : Memory) (written : m.write? addr bytes = some after) :
    addr + bytes.size ≤ after.size ∧ after.slice addr bytes.size = bytes.toList := by
  unfold write? at written
  split at written
  · next fits =>
      cases written
      refine ⟨fits, List.ext_getElem ?_ fun i here there => ?_⟩
      · rw [slice_length, Array.length_toList]
      · have within : i < bytes.size := by rwa [slice_length] at here
        simp [slice, byte, covers, within]
  · cases written

end Wasm.Memory

end PolicyHost
