import PolicyHost.Proofs.Memory

set_option autoImplicit false

namespace PolicyHost.Wasm.Memory

def image (m : Memory) : Text.Bytes := m.slice 0 m.size

structure Terminated (image : Text.Bytes) (addr : Int) (n : Nat) : Prop where
  address : 0 ≤ addr
  inside : addr.toNat < image.length
  ended : image[addr.toNat + n]? = some 0
  first : ∀ i < n, image[addr.toNat + i]? ≠ some 0

def bytesFrom (image : Text.Bytes) (addr : Int) (n : Nat) : Text.Bytes := (image.drop addr.toNat).take n

-- Why there is no text at an address, and what is said about it.
inductive Unreadable (image : Text.Bytes) (addr : Int) : String → Prop where
  | negative (below : addr < 0) : Unreadable image addr ("negative guest address " ++ toString addr)
  | outside (beyond : (image.length : Int) < addr) :
      Unreadable image addr ("guest address " ++ toString addr ++ " is outside linear memory")
  | endless (address : 0 ≤ addr) (within : addr ≤ image.length)
      (missed : ∀ n ≤ maxTextBytes, ¬ Terminated image addr n) :
      Unreadable image addr ("string at " ++ toString addr ++ " is unterminated or exceeds " ++
        toString maxTextBytes ++ " bytes")
  | garbled (n : Nat) (near : n ≤ maxTextBytes) (terminated : Terminated image addr n)
      (foreign : ∀ text, Text.encode text ≠ bytesFrom image addr n) :
      Unreadable image addr ("string at " ++ toString addr ++ " is not UTF-8: ")

variable (m : Memory)

theorem slice_append (addr n k : Nat) : m.slice addr (n + k) = m.slice addr n ++ m.slice (addr + n) k := by
  rw [slice, List.range_add, List.map_append, List.map_map]
  refine congrArg (m.slice addr n ++ ·) (List.map_congr_left fun i _ => ?_)
  rw [Function.comp_apply, Nat.add_assoc]

theorem image_length : m.image.length = m.size := m.slice_length 0 m.size

theorem image_byte (i : Nat) (inside : i < m.size) : m.image[i]? = some (m.byte i) := by
  rw [image, slice, List.getElem?_map, List.getElem?_range inside, Option.map_some, Nat.zero_add]

theorem image_split (addr n : Nat) (inside : addr + n ≤ m.size) :
    m.image = m.slice 0 addr ++ (m.slice addr n ++ m.slice (addr + n) (m.size - (addr + n))) := by
  have size : m.size = addr + (n + (m.size - (addr + n))) := by omega
  calc m.image
    _ = m.slice 0 (addr + (n + (m.size - (addr + n)))) := congrArg (m.slice 0) size
    _ = m.slice 0 addr ++ m.slice addr (n + (m.size - (addr + n))) := by rw [slice_append, Nat.zero_add]
    _ = _ := by rw [slice_append]

theorem image_take (addr : Nat) (inside : addr ≤ m.size) : m.image.take addr = m.slice 0 addr := by
  rw [image_split m addr 0 inside, List.take_left' (m.slice_length 0 addr)]

theorem image_drop (addr : Nat) (inside : addr ≤ m.size) : m.image.drop addr = m.slice addr (m.size - addr) := by
  rw [image_split m addr 0 inside, List.drop_left' (m.slice_length 0 addr)]
  rfl

theorem image_slice (addr : Int) (n : Nat) (inside : addr.toNat + n ≤ m.size) :
    bytesFrom m.image addr n = m.slice addr.toNat n := by
  rw [bytesFrom, image_split m addr.toNat n inside, List.drop_left' (m.slice_length 0 addr.toNat),
    List.take_left' (m.slice_length addr.toNat n)]

theorem terminated_iff (addr : Int) (n : Nat) :
    Terminated m.image addr n ↔ 0 ≤ addr ∧ addr.toNat + n < m.size ∧ m.byte (addr.toNat + n) = 0 ∧
      0 ∉ m.slice addr.toNat n := by
  constructor
  · rintro ⟨address, _, ended, first⟩
    have inside : addr.toNat + n < m.size := by
      rw [← image_length]
      exact (List.getElem?_eq_some_iff.mp ended).1
    rw [image_byte m _ inside, Option.some.injEq] at ended
    refine ⟨address, inside, ended, fun zero => ?_⟩
    obtain ⟨i, member, same⟩ := List.mem_map.mp zero
    have before : i < n := List.mem_range.mp member
    refine first i before ?_
    rw [image_byte m _ (by omega), same]
  · rintro ⟨address, inside, ended, bare⟩
    refine ⟨address, by rw [image_length]; omega, by rw [image_byte m _ inside, ended], fun i before zero => ?_⟩
    rw [image_byte m _ (by omega), Option.some.injEq] at zero
    exact bare (List.mem_map.mpr ⟨i, List.mem_range.mpr before, zero⟩)

theorem terminated_unique (image : Text.Bytes) (addr : Int) (n k : Nat) (first : Terminated image addr n)
    (second : Terminated image addr k) : n = k := by
  rcases Nat.lt_trichotomy n k with less | same | more
  · exact absurd first.ended (second.first n less)
  · exact same
  · exact absurd second.ended (first.first k more)

theorem until_zero_iff (addr : Int) (bytes : Text.Bytes) (address : 0 ≤ addr) :
    m.untilZero addr.toNat (min (maxTextBytes + 1) (m.size - addr.toNat)) [] = some bytes ↔
      ∃ n ≤ maxTextBytes, Terminated m.image addr n ∧ bytes = bytesFrom m.image addr n := by
  rw [until_zero_some]
  refine exists_congr fun n => ?_
  rw [terminated_iff, List.reverse_nil, List.nil_append]
  constructor
  · rintro ⟨window, same, bare, ended⟩
    refine ⟨by omega, ⟨address, by omega, ended, bare⟩, ?_⟩
    rw [same, image_slice m addr n (by omega)]
  · rintro ⟨near, ⟨_, inside, ended, bare⟩, same⟩
    rw [image_slice m addr n (by omega)] at same
    exact ⟨by omega, same, bare, ended⟩

theorem until_zero_none (addr : Int) (address : 0 ≤ addr) :
    m.untilZero addr.toNat (min (maxTextBytes + 1) (m.size - addr.toNat)) [] = none ↔
      ∀ n ≤ maxTextBytes, ¬ Terminated m.image addr n := by
  rw [Option.eq_none_iff_forall_ne_some]
  constructor
  · intro missed n near terminated
    exact missed _ ((until_zero_iff m addr _ address).mpr ⟨n, near, terminated, rfl⟩)
  · intro missed bytes scan
    obtain ⟨n, near, terminated, _⟩ := (until_zero_iff m addr bytes address).mp scan
    exact missed n near terminated

theorem holds_iff (addr : Int) (text : String) :
    m.Holds addr text ↔
      ∃ n ≤ maxTextBytes, Terminated m.image addr n ∧ Text.encode text = bytesFrom m.image addr n := by
  constructor
  · rintro ⟨address, bytes, bare, ended, inside, short⟩
    refine ⟨(Text.encode text).length, short, (terminated_iff m addr _).mpr ⟨address, inside, ended, ?_⟩, ?_⟩
    · rwa [bytes]
    · rw [image_slice m addr _ (Nat.le_of_lt inside), bytes]
  · rintro ⟨n, near, terminated, same⟩
    obtain ⟨address, inside, ended, bare⟩ := (terminated_iff m addr n).mp terminated
    rw [image_slice m addr n (Nat.le_of_lt inside)] at same
    have length : (Text.encode text).length = n := by rw [same, slice_length]
    exact ⟨address, by rw [length, same], by rwa [same], by rwa [length], by rwa [length], by rwa [length]⟩

theorem read_text_error (addr : Int) (fault : Fault) :
    m.readText addr = .error fault ↔
      ∃ message, Unreadable m.image addr message ∧ fault = .invalidOutput message := by
  have length := m.image_length
  constructor
  · intro refused
    unfold readText at refused
    split at refused
    · next below =>
        cases refused
        exact ⟨_, .negative below, rfl⟩
    · next above =>
        have address : 0 ≤ addr := Int.not_lt.mp above
        split at refused
        · next beyond =>
            cases refused
            exact ⟨_, .outside (by omega), rfl⟩
        · next within =>
            cases scan : m.untilZero addr.toNat (min (maxTextBytes + 1) (m.size - addr.toNat)) [] with
            | none =>
                rw [scan] at refused
                cases refused
                exact ⟨_, .endless address (by omega) ((until_zero_none m addr address).mp scan), rfl⟩
            | some bytes =>
                obtain ⟨n, near, terminated, same⟩ := (until_zero_iff m addr bytes address).mp scan
                cases decoded : Text.decode? bytes with
                | none =>
                    simp only [scan, decoded] at refused
                    cases refused
                    exact ⟨_, .garbled n near terminated ((Text.decode_none _).mp (same ▸ decoded)), rfl⟩
                | some text =>
                    simp only [scan, decoded] at refused
                    cases refused
  · rintro ⟨message, unreadable, rfl⟩
    cases unreadable with
    | negative below => rw [readText, if_pos below]
    | outside beyond => rw [readText, if_neg (by omega), if_pos (by omega)]
    | endless address within missed =>
        rw [readText, if_neg (by omega), if_neg (by omega), (until_zero_none m addr address).mpr missed]
    | garbled n near terminated foreign =>
        have inside := terminated.inside
        have scan := (until_zero_iff m addr _ terminated.address).mpr ⟨n, near, terminated, rfl⟩
        rw [readText, if_neg (Int.not_lt.mpr terminated.address), if_neg (by omega), scan]
        simp only [(Text.decode_none _).mpr foreign]

theorem written_terminated (addr : Nat) (bytes : Text.Bytes) (after : Memory) (bare : 0 ∉ bytes)
    (written : m.write? addr (bytes ++ [0]).toArray = some after) :
    Terminated after.image addr bytes.length ∧ bytesFrom after.image addr bytes.length = bytes := by
  obtain ⟨fits, same⟩ := written_slice m addr _ after written
  simp only [List.size_toArray, List.length_append, List.length_singleton] at fits same
  rw [slice_append] at same
  obtain ⟨front, last⟩ := List.append_inj same (slice_length _ _ _)
  have ended : after.byte (addr + bytes.length) = 0 := List.cons.inj last |>.1
  have inside : (addr : Int).toNat + bytes.length < after.size := by
    rw [Int.toNat_natCast]
    omega
  refine ⟨(terminated_iff after addr _).mpr ⟨Int.natCast_nonneg addr, inside, ended, ?_⟩, ?_⟩
  · rwa [Int.toNat_natCast, front]
  · rw [image_slice after addr _ (Nat.le_of_lt inside), Int.toNat_natCast, front]

theorem written_image (addr : Nat) (bytes : Array UInt8) (after : Memory) (written : m.write? addr bytes = some after) :
    after.image = m.image.take addr ++ bytes.toList ++ m.image.drop (addr + bytes.size) := by
  obtain ⟨fits, same⟩ := written_slice m addr bytes after written
  have kept : after.size = m.size ∧ ∀ i, i < addr ∨ addr + bytes.size ≤ i → after.byte i = m.byte i := by
    unfold write? at written
    split at written
    · cases written
      refine ⟨rfl, fun i elsewhere => ?_⟩
      have missed : covers i (addr, bytes) = false := by
        simp only [covers, Bool.and_eq_false_iff, decide_eq_false_iff_not]
        omega
      rw [byte, List.find?_cons, missed]
      rfl
    · cases written
  obtain ⟨size, others⟩ := kept
  have front : after.slice 0 addr = m.slice 0 addr :=
    List.map_congr_left fun i below => others _ (.inl (by rw [List.mem_range] at below; omega))
  have back : after.slice (addr + bytes.size) (after.size - (addr + bytes.size)) =
      m.slice (addr + bytes.size) (m.size - (addr + bytes.size)) := by
    rw [size]
    exact List.map_congr_left fun i _ => others _ (.inr (Nat.le_add_right _ i))
  rw [image_split after addr bytes.size fits, front, same, back, image_take m addr (by omega),
    image_drop m _ (by omega), List.append_assoc]

theorem image_exists (bytes : Text.Bytes) : ∃ m : Memory, m.image = bytes := by
  have written : write? ⟨bytes.length, []⟩ 0 bytes.toArray = some ⟨bytes.length, [(0, bytes.toArray)]⟩ :=
    if_pos (by simp)
  obtain ⟨_, same⟩ := written_slice _ 0 bytes.toArray _ written
  exact ⟨_, same⟩

theorem texts_read (image : Text.Bytes) (addr : Int) :
    (∃ m : Memory, m.image = image) ∧ ∀ m : Memory, m.image = image →
      (∀ text, m.readText addr = .ok text ↔
        ∃ n ≤ maxTextBytes, Terminated image addr n ∧ Text.encode text = bytesFrom image addr n) ∧
      (∀ fault, m.readText addr = .error fault ↔
        ∃ message, Unreadable image addr message ∧ fault = .invalidOutput message) ∧
      ∀ text, 0 ∉ Text.encode text → 0 ≤ addr → addr.toNat + (Text.encode text).length < image.length →
        ∃ after, m.write? addr.toNat (Text.encode text ++ [0]).toArray = some after ∧
          after.image = image.take addr.toNat ++ (Text.encode text ++ [0]) ++
            image.drop (addr.toNat + (Text.encode text ++ [0]).length) ∧
          ((Text.encode text).length ≤ maxTextBytes → after.readText addr = .ok text) ∧
          (maxTextBytes < (Text.encode text).length →
            after.readText addr = .error (.invalidOutput ("string at " ++ toString addr ++
              " is unterminated or exceeds " ++ toString maxTextBytes ++ " bytes"))) := by
  refine ⟨image_exists image, ?_⟩
  rintro m rfl
  refine ⟨fun text => ?_, read_text_error m addr, fun text bare address fits => ?_⟩
  · rw [read_text_holds, holds_iff]
  · rw [image_length] at fits
    have written : m.write? addr.toNat (Text.encode text ++ [0]).toArray =
        some { m with writes := (addr.toNat, (Text.encode text ++ [0]).toArray) :: m.writes } :=
      if_pos (by rw [List.size_toArray, List.length_append, List.length_singleton]; omega)
    obtain ⟨terminated, same⟩ := written_terminated m addr.toNat (Text.encode text) _ bare written
    rw [Int.toNat_of_nonneg address] at terminated same
    refine ⟨_, written, written_image m addr.toNat _ _ written, fun short => ?_, fun long => ?_⟩
    · exact (read_text_holds _ addr text).mpr ((holds_iff _ addr text).mpr ⟨_, short, terminated, same.symm⟩)
    · refine (read_text_error _ addr _).mpr ⟨_, .endless address ?_ fun n near other => ?_, rfl⟩
      · have inside := terminated.inside
        omega
      · have length := terminated_unique _ addr n _ other terminated
        omega

def repeated (n : Nat) : String := String.ofList (List.replicate n 'a')

theorem repeated_encoded (n : Nat) : Text.encode (repeated n) = List.replicate n 97 := by
  have letters : (List.replicate n 'a').utf8Encode.data.toList = List.replicate n 97 := by
    induction n with
    | zero => rfl
    | succ n ih => rw [List.replicate_succ, List.utf8Encode_cons, ByteArray.toList_data_append, ih]; rfl
  rw [Text.encode, repeated, String.toUTF8_eq_toByteArray, String.toByteArray_ofList, letters]

-- The longest text, and one that is a byte longer, in a memory of one page more.
theorem texts_read_brimming :
    (∃ after, (ofPages 65).write? 65000 (Text.encode (repeated maxTextBytes) ++ [0]).toArray = some after ∧
      after.readText 65000 = .ok (repeated maxTextBytes)) ∧
    ∃ after, (ofPages 65).write? 65000 (Text.encode (repeated (maxTextBytes + 1)) ++ [0]).toArray = some after ∧
      after.readText 65000 =
        .error (.invalidOutput "string at 65000 is unterminated or exceeds 4194304 bytes") := by
  have bare (n : Nat) : 0 ∉ Text.encode (repeated n) := fun zero => by
    rw [repeated_encoded] at zero
    exact absurd (List.eq_of_mem_replicate zero) (by decide)
  have length (n : Nat) : (Text.encode (repeated n)).length = n := by rw [repeated_encoded, List.length_replicate]
  have fits (n : Nat) (most : n ≤ maxTextBytes + 1) :
      (65000 : Int).toNat + (Text.encode (repeated n)).length < (ofPages 65).image.length := by
    have size : (ofPages 65).size = 4259840 := rfl
    have limit : maxTextBytes = 4194304 := rfl
    rw [length, image_length, size]
    omega
  obtain ⟨_, reads⟩ := texts_read (ofPages 65).image 65000
  obtain ⟨_, _, writes⟩ := reads (ofPages 65) rfl
  obtain ⟨after, written, _, read, _⟩ := writes (repeated maxTextBytes) (bare _) (by decide) (fits _ (Nat.le_succ _))
  obtain ⟨longer, also, _, _, refused⟩ :=
    writes (repeated (maxTextBytes + 1)) (bare _) (by decide) (fits _ (Nat.le_refl _))
  refine ⟨⟨after, written, read (Nat.le_of_eq (length _))⟩, longer, also, ?_⟩
  exact refused (by rw [length]; exact Nat.lt_succ_self maxTextBytes)

end PolicyHost.Wasm.Memory
