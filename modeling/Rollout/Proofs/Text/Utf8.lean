import Rollout.Text.Utf8

/-!
The decoders on encoded text, and the lossy decoder on bytes that are put together.

A sequence that is cut off or broken ends in front of a byte below 128 at the latest, so bytes can
be decoded apart from each other where such a byte stands. What was encoded is decoded to itself by
both decoders, and by the lossy one whatever follows it. A file of encoded text is decoded to the
text, wherever its blocks cut through a sequence.
-/

set_option autoImplicit false
set_option relaxedAutoImplicit false

namespace Rollout.Text.Utf8

private theorem isTail_eq_false {b : UInt8} (ascii : b < 0x80) : isTail b = false := by
  have low : ¬ (0x80 : UInt8) ≤ b := UInt8.not_le.mpr ascii
  simp [isTail, low]

private theorem isSecond_eq_false (first : UInt8) {b : UInt8} (ascii : b < 0x80) :
    isSecond first b = false := by
  have low : ¬ (0x80 : UInt8) ≤ b := UInt8.not_le.mpr ascii
  have lower : ¬ (0xA0 : UInt8) ≤ b := fun above =>
    low (UInt8.le_trans (by decide : (0x80 : UInt8) ≤ 0xA0) above)
  have lowest : ¬ (0x90 : UInt8) ≤ b := fun above =>
    low (UInt8.le_trans (by decide : (0x80 : UInt8) ≤ 0x90) above)
  unfold isSecond
  split
  · simp [lower]
  · split <;> simp [low, lowest]

private theorem head_append (first : UInt8) (bs : List UInt8) {b : UInt8} (ascii : b < 0x80)
    (rest : List UInt8) :
    (head first (bs ++ b :: rest)).shown = (head first bs).shown ∧
      (head first (bs ++ b :: rest)).rest = (head first bs).rest ++ b :: rest := by
  have noTail := isTail_eq_false ascii
  have noSecond := isSecond_eq_false first ascii
  unfold head
  split
  · exact ⟨rfl, rfl⟩
  · rcases bs with _ | ⟨c, bs⟩
    · simp [noTail, Head.shown, Head.rest]
    · cases tail : isTail c <;> simp [tail, Head.shown, Head.rest]
  · rcases bs with _ | ⟨c, bs⟩
    · simp [noSecond, Head.shown, Head.rest]
    · cases second : isSecond first c
      · simp [second, Head.shown, Head.rest]
      · rcases bs with _ | ⟨d, bs⟩
        · simp [second, noTail, Head.shown, Head.rest]
        · cases tail : isTail d <;> simp [second, tail, Head.shown, Head.rest]
  · rcases bs with _ | ⟨c, bs⟩
    · simp [noSecond, Head.shown, Head.rest]
    · cases second : isSecond first c
      · simp [second, Head.shown, Head.rest]
      · rcases bs with _ | ⟨d, bs⟩
        · simp [second, noTail, Head.shown, Head.rest]
        · cases tail : isTail d
          · simp [second, tail, Head.shown, Head.rest]
          · rcases bs with _ | ⟨e, bs⟩
            · simp [second, tail, noTail, Head.shown, Head.rest]
            · cases last : isTail e <;> simp [second, tail, last, Head.shown, Head.rest]
  · exact ⟨rfl, rfl⟩

theorem decodeLossy_append (bs : List UInt8) {b : UInt8} (ascii : b < 0x80) (rest : List UInt8) :
    decodeLossy (bs ++ b :: rest) = decodeLossy bs ++ decodeLossy (b :: rest) := by
  fun_induction decodeLossy bs with
  | case1 => rfl
  | case2 first bs ih =>
    obtain ⟨shown, left⟩ := head_append first bs ascii rest
    rw [List.cons_append, decodeLossy, shown, left, ih, List.cons_append]

theorem encode_eq_flatMap (cs : List Char) : encode cs = cs.flatMap String.utf8EncodeChar := by
  simp [encode, List.utf8Encode]

theorem encode_cons (c : Char) (cs : List Char) :
    encode (c :: cs) = String.utf8EncodeChar c ++ encode cs := by
  simp only [encode_eq_flatMap, List.flatMap_cons]

private theorem encode_eq_nil_iff {cs : List Char} : encode cs = [] ↔ cs = [] := by
  cases cs with
  | nil => exact ⟨fun _ => rfl, fun _ => rfl⟩
  | cons c cs =>
    rw [encode_cons, List.append_eq_nil_iff]
    simp [String.utf8EncodeChar_ne_nil]

private theorem width?_eq (b : UInt8) :
    width? b =
      if b.toNat < 0x80 then some 1
      else if b.toNat < 0xC2 then none
      else if b.toNat < 0xE0 then some 2
      else if b.toNat < 0xF0 then some 3
      else if b.toNat < 0xF5 then some 4
      else none := by
  simp only [width?, UInt8.lt_iff_toNat_lt]
  rfl

private theorem isTail_of_toNat {b : UInt8} (low : 0x80 ≤ b.toNat) (high : b.toNat ≤ 0xBF) :
    isTail b = true := by
  simp only [isTail, UInt8.le_iff_toNat_le, Bool.and_eq_true, decide_eq_true_eq]
  exact ⟨low, high⟩

private theorem isSecond_of_toNat {first second : UInt8} (low : 0x80 ≤ second.toNat)
    (high : second.toNat ≤ 0xBF) (long₃ : first.toNat = 0xE0 → 0xA0 ≤ second.toNat)
    (long₄ : first.toNat = 0xF0 → 0x90 ≤ second.toNat)
    (surrogate : first.toNat = 0xED → second.toNat ≤ 0x9F)
    (beyond : first.toNat = 0xF4 → second.toNat ≤ 0x8F) : isSecond first second = true := by
  simp only [isSecond, Bool.and_eq_true, decide_eq_true_eq, beq_iff_eq, UInt8.le_iff_toNat_le,
    ← UInt8.toNat_inj]
  constructor
  · split
    · exact long₃ ‹_›
    · split
      · exact long₄ ‹_›
      · exact low
  · split
    · exact surrogate ‹_›
    · split
      · exact beyond ‹_›
      · exact high

private theorem toNat_ofNat_byte {k : Nat} (small : k < 256) : (UInt8.ofNat k).toNat = k := by
  simp [Nat.mod_eq_of_lt small]

/-! The sequences of one to four bytes, by the number of their character. -/

private theorem head_one {n : Nat} (high : n ≤ 0x7F) (rest : List UInt8) :
    head (.ofNat n) rest = .char (Char.ofNat n) rest := by
  have first := toNat_ofNat_byte (k := n) (by omega)
  have width : width? (.ofNat n) = some 1 := by rw [width?_eq, first, if_pos (by omega)]
  simp only [head, width, first]

private theorem head_two {n : Nat} (low : 0x7F < n) (high : n ≤ 0x7FF) (rest : List UInt8) :
    head (.ofNat (n / 64 % 32 + 192)) (.ofNat (n % 64 + 128) :: rest) =
      .char (Char.ofNat n) rest := by
  have first := toNat_ofNat_byte (k := n / 64 % 32 + 192) (by omega)
  have second := toNat_ofNat_byte (k := n % 64 + 128) (by omega)
  have width : width? (.ofNat (n / 64 % 32 + 192)) = some 2 := by
    rw [width?_eq, first, if_neg (by omega), if_neg (by omega), if_pos (by omega)]
  have tail : isTail (.ofNat (n % 64 + 128)) = true := isTail_of_toNat (by omega) (by omega)
  have code : (n / 64 % 32 + 192) % 32 * 64 + (n % 64 + 128) % 64 = n := by omega
  simp only [head, width, tail, if_true, low6, first, second, code]

private theorem head_three {n : Nat} (low : 0x7FF < n) (high : n ≤ 0xFFFF)
    (valid : n < 0xD800 ∨ 0xDFFF < n) (rest : List UInt8) :
    head (.ofNat (n / 4096 % 16 + 224))
        (.ofNat (n / 64 % 64 + 128) :: .ofNat (n % 64 + 128) :: rest) =
      .char (Char.ofNat n) rest := by
  have first := toNat_ofNat_byte (k := n / 4096 % 16 + 224) (by omega)
  have second := toNat_ofNat_byte (k := n / 64 % 64 + 128) (by omega)
  have third := toNat_ofNat_byte (k := n % 64 + 128) (by omega)
  have width : width? (.ofNat (n / 4096 % 16 + 224)) = some 3 := by
    rw [width?_eq, first, if_neg (by omega), if_neg (by omega), if_neg (by omega),
      if_pos (by omega)]
  have tail₂ : isSecond (.ofNat (n / 4096 % 16 + 224)) (.ofNat (n / 64 % 64 + 128)) = true := by
    apply isSecond_of_toNat <;> omega
  have tail₃ : isTail (.ofNat (n % 64 + 128)) = true := isTail_of_toNat (by omega) (by omega)
  have code : ((n / 4096 % 16 + 224) % 16 * 64 + (n / 64 % 64 + 128) % 64) * 64 +
      (n % 64 + 128) % 64 = n := by omega
  simp only [head, width, tail₂, tail₃, if_true, low6, first, second, third, code]

private theorem head_four {n : Nat} (low : 0xFFFF < n) (high : n < 0x110000) (rest : List UInt8) :
    head (.ofNat (n / 262144 % 8 + 240))
        (.ofNat (n / 4096 % 64 + 128) :: .ofNat (n / 64 % 64 + 128) :: .ofNat (n % 64 + 128) ::
          rest) =
      .char (Char.ofNat n) rest := by
  have first := toNat_ofNat_byte (k := n / 262144 % 8 + 240) (by omega)
  have second := toNat_ofNat_byte (k := n / 4096 % 64 + 128) (by omega)
  have third := toNat_ofNat_byte (k := n / 64 % 64 + 128) (by omega)
  have fourth := toNat_ofNat_byte (k := n % 64 + 128) (by omega)
  have width : width? (.ofNat (n / 262144 % 8 + 240)) = some 4 := by
    rw [width?_eq, first, if_neg (by omega), if_neg (by omega), if_neg (by omega),
      if_neg (by omega), if_pos (by omega)]
  have tail₂ : isSecond (.ofNat (n / 262144 % 8 + 240)) (.ofNat (n / 4096 % 64 + 128)) = true := by
    apply isSecond_of_toNat <;> omega
  have tail₃ : isTail (.ofNat (n / 64 % 64 + 128)) = true := isTail_of_toNat (by omega) (by omega)
  have tail₄ : isTail (.ofNat (n % 64 + 128)) = true := isTail_of_toNat (by omega) (by omega)
  have code : (((n / 262144 % 8 + 240) % 8 * 64 + (n / 4096 % 64 + 128) % 64) * 64 +
      (n / 64 % 64 + 128) % 64) * 64 + (n % 64 + 128) % 64 = n := by omega
  simp only [head, width, tail₂, tail₃, tail₄, if_true, low6, first, second, third, fourth, code]

private theorem head_encodeChar (c : Char) (rest : List UInt8) :
    ∃ b bs, String.utf8EncodeChar c ++ rest = b :: bs ∧ head b bs = .char c rest := by
  have valid : c.val.toNat < 0xD800 ∨ 0xDFFF < c.val.toNat ∧ c.val.toNat < 0x110000 := c.valid
  have same : Char.ofNat c.val.toNat = c := Char.ofNat_toNat c
  unfold String.utf8EncodeChar
  simp only
  generalize c.val.toNat = n at valid same ⊢
  subst same
  split
  · exact ⟨_, _, rfl, head_one (by omega) rest⟩
  · split
    · exact ⟨_, _, rfl, head_two (by omega) (by omega) rest⟩
    · split
      · exact ⟨_, _, rfl, head_three (by omega) (by omega) (by omega) rest⟩
      · exact ⟨_, _, rfl, head_four (by omega) (by omega) rest⟩

private theorem decodeLossy_encodeChar (c : Char) (rest : List UInt8) :
    decodeLossy (String.utf8EncodeChar c ++ rest) = c :: decodeLossy rest := by
  obtain ⟨b, bs, bytes, read⟩ := head_encodeChar c rest
  rw [bytes, decodeLossy, read]
  rfl

private theorem decodeFrom_encodeChar (position : Nat) (c : Char) (rest : List UInt8) :
    decodeFrom position (String.utf8EncodeChar c ++ rest) =
      (decodeFrom (position + c.utf8Size) rest).map (c :: ·) := by
  obtain ⟨b, bs, bytes, read⟩ := head_encodeChar c rest
  rw [bytes, decodeFrom, read]
  rfl

theorem decodeLossy_encode_append (cs : List Char) (rest : List UInt8) :
    decodeLossy (encode cs ++ rest) = cs ++ decodeLossy rest := by
  induction cs with
  | nil => rfl
  | cons c cs ih =>
    rw [encode_cons, List.append_assoc, decodeLossy_encodeChar, ih, List.cons_append]

theorem decodeLossy_encode (cs : List Char) : decodeLossy (encode cs) = cs := by
  have decoded := decodeLossy_encode_append cs []
  rwa [List.append_nil, decodeLossy, List.append_nil] at decoded

private theorem decodeFrom_encode (position : Nat) (cs : List Char) :
    decodeFrom position (encode cs) = .ok cs := by
  induction cs generalizing position with
  | nil =>
    have bytes : encode [] = [] := rfl
    rw [bytes, decodeFrom]
  | cons c cs ih =>
    rw [encode_cons, decodeFrom_encodeChar, ih]
    rfl

theorem decode_encode (cs : List Char) : decode (encode cs) = .ok cs := decodeFrom_encode 0 cs

/-! ### Files -/

private theorem head_of_cut {b : UInt8} {bs tail : List UInt8} {c : Char}
    (whole : head b (bs ++ tail) = .char c []) (cut : tail ≠ []) :
    head b bs = .bad (bs.length + 1) .truncated [] := by
  obtain ⟨t, ts, rfl⟩ := List.exists_cons_of_ne_nil cut
  unfold head at whole ⊢
  split at whole
  · simp at whole
  · rcases bs with _ | ⟨c, bs⟩
    · rfl
    · cases tail : isTail c <;> simp [tail] at whole
  · rcases bs with _ | ⟨c, bs⟩
    · rfl
    · cases second : isSecond b c
      · simp [second] at whole
      · rcases bs with _ | ⟨d, bs⟩
        · simp [second]
        · cases tail : isTail d <;> simp [second, tail] at whole
  · rcases bs with _ | ⟨c, bs⟩
    · rfl
    · cases second : isSecond b c
      · simp [second] at whole
      · rcases bs with _ | ⟨d, bs⟩
        · simp [second]
        · cases tail : isTail d
          · simp [second, tail] at whole
          · rcases bs with _ | ⟨e, bs⟩
            · simp [second, tail]
            · cases last : isTail e <;> simp [second, tail, last] at whole
  · cases whole

private theorem decodePart_encodeChar (position : Nat) (c : Char) (rest : List UInt8) :
    decodePart position (String.utf8EncodeChar c ++ rest) =
      (c :: (decodePart (position + c.utf8Size) rest).1,
        (decodePart (position + c.utf8Size) rest).2) := by
  obtain ⟨b, bs, bytes, read⟩ := head_encodeChar c rest
  rw [bytes, decodePart, read]
  rfl

/-- What is decoded of the bytes in front of a cut through an encoded text: all characters that are
whole. The bytes of the character that the cut goes through are left, if it goes through one. -/
private def IsFront (cs : List Char) (back : List UInt8) :
    List Char × Option (Fault × List UInt8) → Prop
  | (text, none) => ∃ rest, cs = text ++ rest ∧ encode rest = back
  | (text, some (fault, left)) => ∃ rest, cs = text ++ rest ∧ encode rest = left ++ back ∧
      back ≠ [] ∧ fault.reason = .truncated ∧ left.length = fault.length

private theorem IsFront.cons {cs : List Char} {back : List UInt8}
    {decoded : List Char × Option (Fault × List UInt8)} (front : IsFront cs back decoded) (c : Char) :
    IsFront (c :: cs) back (c :: decoded.1, decoded.2) := by
  obtain ⟨text, _ | ⟨fault, left⟩⟩ := decoded
  · obtain ⟨rest, rfl, others⟩ := front
    exact ⟨rest, rfl, others⟩
  · obtain ⟨rest, rfl, others⟩ := front
    exact ⟨rest, rfl, others⟩

private theorem isFront_decodePart {cs : List Char} {front back : List UInt8}
    (split : encode cs = front ++ back) (position : Nat) :
    IsFront cs back (decodePart position front) := by
  induction cs generalizing front position with
  | nil =>
    obtain ⟨rfl, rfl⟩ : front = [] ∧ back = [] := List.append_eq_nil_iff.mp split.symm
    rw [decodePart]
    exact ⟨[], rfl, rfl⟩
  | cons c cs ih =>
    rcases front with _ | ⟨b, bs⟩
    · rw [decodePart]
      exact ⟨c :: cs, rfl, split⟩
    rw [encode_cons, List.append_eq_append_iff] at split
    rcases split with ⟨later, first, others⟩ | ⟨tail, first, others⟩
    · rw [first, decodePart_encodeChar]
      exact (ih others _).cons c
    by_cases cut : tail = []
    -- The cut stands right behind the character.
    · subst cut
      rw [List.append_nil] at first
      rw [← first, ← List.append_nil (String.utf8EncodeChar c), decodePart_encodeChar]
      have later : encode cs = [] ++ back := others.symm
      exact (ih later _).cons c
    · obtain ⟨b', bs', bytes, read⟩ := head_encodeChar c []
      rw [List.append_nil, first, List.cons_append] at bytes
      obtain ⟨rfl, rfl⟩ := List.cons.inj bytes
      rw [decodePart, head_of_cut read cut]
      refine ⟨c :: cs, rfl, ?_, ?_, rfl, rfl⟩
      · rw [encode_cons, first, others, List.append_assoc]
      · rw [others]
        exact List.append_ne_nil_of_left_ne_nil cut _

private theorem decodeBlocks_of_flatten {cs : List Char} {kept : List UInt8}
    {row : List (List UInt8)} (whole : encode cs = kept ++ row.flatten) :
    decodeBlocks kept row = (cs, none) := by
  induction row generalizing cs kept with
  | nil =>
    have front := isFront_decodePart whole 0
    rw [decodeBlocks]
    generalize decodePart 0 kept = decoded at front
    rcases decoded with ⟨text, _ | ⟨fault, left⟩⟩
    · obtain ⟨rest, rfl, none⟩ := front
      rw [encode_eq_nil_iff.mp none, List.append_nil]
    · obtain ⟨-, -, -, more, -⟩ := front
      exact absurd rfl more
  | cons block row ih =>
    rw [List.flatten_cons, ← List.append_assoc] at whole
    have front := isFront_decodePart whole 0
    rw [decodeBlocks]
    generalize decodePart 0 (kept ++ block) = decoded at front
    rcases decoded with ⟨text, _ | ⟨fault, left⟩⟩
    · obtain ⟨rest, rfl, others⟩ := front
      have clean : encode rest = [] ++ row.flatten := others
      simp only [ih clean]
    · obtain ⟨rest, rfl, others, -, reason, length⟩ := front
      simp only [reason, length, and_self, if_true, ih others]

theorem flatten_blocks {α : Type} {size : Nat} (positive : size ≠ 0) (row : List α) :
    (blocks size row).flatten = row := by
  fun_induction blocks size row with
  | case1 row ends => simp [ends.resolve_left positive]
  | case2 row goes ih => rw [List.flatten_cons, ih, List.take_append_drop]

theorem decodeFile_encode (cs : List Char) : decodeFile (encode cs) = (cs, none) := by
  have row : (blocks blockSize (encode cs)).flatten = encode cs := flatten_blocks (by decide) _
  exact decodeBlocks_of_flatten row.symm

end Rollout.Text.Utf8
