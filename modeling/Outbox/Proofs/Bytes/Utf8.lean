import Outbox.Bytes.Utf8

/-!
# UTF-8 there and back

A decoder gives back every text from its bytes.  The bytes of a character below 128 are the
character itself; all bytes of any other character are at least 128, so no byte of a text is taken
for a character that is not there.
-/

set_option autoImplicit false

namespace Outbox.Utf8

theorem toNat_valid (c : Char) : c.toNat.isValidChar :=
  c.valid

theorem toNat_lt (c : Char) : c.toNat < 0x110000 := by
  rcases toNat_valid c with low | ⟨_, high⟩
  · omega
  · exact high

theorem character?_toNat {c : Char} {least : Nat} (enough : least ≤ c.toNat) :
    character? least c.toNat = some c := by
  unfold character?
  rw [if_pos ⟨enough, toNat_valid c⟩, Char.ofNat_toNat]

theorem toNat_octet {value : Nat} (small : value < 256) : (UInt8.ofNat value).toNat = value := by
  rw [UInt8.toNat_ofNat']
  exact Nat.mod_eq_of_lt small

theorem continuation?_octet {value : Nat} (small : value < 64) :
    continuation? (UInt8.ofNat (0x80 + value)) = some value := by
  unfold continuation?
  rw [toNat_octet (by omega), if_pos (by omega), Nat.add_sub_cancel_left]

/-! ## Reading one character -/

section Forms
variable {lead a b c : UInt8} {first second third fourth : Nat} {result : Char}
variable (seen : List Char) (rest : Bytes)

theorem decodeAfter_one (small : lead.toNat < 0x80) :
    decodeAfter seen (lead :: rest) = decodeAfter (Char.ofNat lead.toNat :: seen) rest := by
  -- its equations are slow to derive, so it is opened as it stands, here and below
  delta decodeAfter
  exact if_pos small

theorem decodeAfter_two (leads : lead.toNat = 0xC0 + first) (small : first < 0x20)
    (next : continuation? a = some second)
    (stands : character? 0x80 (first * 64 + second) = some result) :
    decodeAfter seen (lead :: a :: rest) = decodeAfter (result :: seen) rest := by
  delta decodeAfter
  refine (if_neg (show ¬lead.toNat < 0x80 by omega)).trans
    ((if_neg (show ¬lead.toNat < 0xC0 by omega)).trans
      ((if_pos (show lead.toNat < 0xE0 by omega)).trans ?_))
  simp only [next]
  rw [leads, Nat.add_sub_cancel_left, stands]

theorem decodeAfter_three (leads : lead.toNat = 0xE0 + first) (small : first < 0x10)
    (next : continuation? a = some second) (last : continuation? b = some third)
    (stands : character? 0x800 (first * 4096 + second * 64 + third) = some result) :
    decodeAfter seen (lead :: a :: b :: rest) = decodeAfter (result :: seen) rest := by
  delta decodeAfter
  refine (if_neg (show ¬lead.toNat < 0x80 by omega)).trans
    ((if_neg (show ¬lead.toNat < 0xC0 by omega)).trans
      ((if_neg (show ¬lead.toNat < 0xE0 by omega)).trans
        ((if_pos (show lead.toNat < 0xF0 by omega)).trans ?_)))
  simp only [next, last]
  rw [leads, Nat.add_sub_cancel_left, stands]

theorem decodeAfter_four (leads : lead.toNat = 0xF0 + first) (small : first < 8)
    (next : continuation? a = some second) (later : continuation? b = some third)
    (last : continuation? c = some fourth)
    (stands : character? 0x10000 (first * 262144 + second * 4096 + third * 64 + fourth) =
      some result) :
    decodeAfter seen (lead :: a :: b :: c :: rest) = decodeAfter (result :: seen) rest := by
  -- the bound stands as a variable, so that nothing below compares numbers of its size by counting
  obtain ⟨least, bound⟩ : ∃ least, 0x10000 = least := ⟨_, rfl⟩
  rw [bound] at stands
  delta decodeAfter
  refine (if_neg (show ¬lead.toNat < 0x80 by omega)).trans
    ((if_neg (show ¬lead.toNat < 0xC0 by omega)).trans
      ((if_neg (show ¬lead.toNat < 0xE0 by omega)).trans
        ((if_neg (show ¬lead.toNat < 0xF0 by omega)).trans
          ((if_pos (show lead.toNat < 0xF8 by omega)).trans ?_))))
  rw [leads, Nat.add_sub_cancel_left, bound]
  simp only [next, later, last, stands]

/-- Every character is read back from its bytes. -/
theorem decodeAfter_encodeChar (c : Char) :
    decodeAfter seen (encodeChar c ++ rest) = decodeAfter (c :: seen) rest := by
  have most := toNat_lt c
  unfold encodeChar
  by_cases one : c.toNat < 0x80
  · have own := toNat_octet (show c.toNat < 256 by omega)
    have read := decodeAfter_one seen rest (own.symm ▸ one)
    rw [own, Char.ofNat_toNat] at read
    rw [if_pos one]
    exact read
  · rw [if_neg one]
    by_cases two : c.toNat < 0x800
    · have code : c.toNat / 64 * 64 + c.toNat % 64 = c.toNat := by omega
      rw [if_pos two]
      apply decodeAfter_two seen rest (toNat_octet (by omega)) (by omega)
        (continuation?_octet (by omega))
      rw [code, character?_toNat (by omega)]
    · rw [if_neg two]
      by_cases three : c.toNat < 0x10000
      · have code : c.toNat / 4096 * 4096 + c.toNat / 64 % 64 * 64 + c.toNat % 64 = c.toNat := by
          omega
        rw [if_pos three]
        apply decodeAfter_three seen rest (toNat_octet (by omega)) (by omega)
          (continuation?_octet (by omega)) (continuation?_octet (by omega))
        rw [code, character?_toNat (by omega)]
      · have code : c.toNat / 262144 * 262144 + c.toNat / 4096 % 64 * 4096 +
            c.toNat / 64 % 64 * 64 + c.toNat % 64 = c.toNat := by omega
        rw [if_neg three]
        apply decodeAfter_four seen rest (toNat_octet (by omega)) (by omega)
          (continuation?_octet (by omega)) (continuation?_octet (by omega))
          (continuation?_octet (by omega))
        rw [code, character?_toNat (by omega)]

end Forms

/-! ## Reading a text -/

theorem decodeAfter_encode (seen text : List Char) :
    decodeAfter seen (encode text) = some (seen.reverse ++ text) := by
  induction text generalizing seen with
  | nil => rw [List.append_nil]; rfl
  | cons c text ih =>
      change decodeAfter seen (encodeChar c ++ encode text) = _
      rw [decodeAfter_encodeChar, ih]
      simp

theorem decode?_encode (text : List Char) : decode? (encode text) = some text :=
  decodeAfter_encode [] text

@[simp] theorem encode_append (text more : List Char) :
    encode (text ++ more) = encode text ++ encode more :=
  List.flatMap_append

@[simp] theorem encode_cons (c : Char) (text : List Char) :
    encode (c :: text) = encodeChar c ++ encode text :=
  rfl

@[simp] theorem encode_nil : encode [] = [] :=
  rfl

/-! ## The bytes of a text -/

theorem encodeChar_ascii {c : Char} (small : c.toNat < 0x80) :
    encodeChar c = [UInt8.ofNat c.toNat] := by
  unfold encodeChar
  exact if_pos small

theorem encode_ascii {text : List Char} (small : ∀ c ∈ text, c.toNat < 0x80) :
    encode text = text.map fun c => UInt8.ofNat c.toNat := by
  induction text with
  | nil => rfl
  | cons c text ih =>
      rw [encode_cons, encodeChar_ascii (small c (List.mem_cons_self ..)),
        ih fun other member => small other (List.mem_cons_of_mem _ member)]
      rfl

theorem high_of_encodeChar {c : Char} (large : 0x80 ≤ c.toNat) :
    ∀ byte ∈ encodeChar c, 0x80 ≤ byte.toNat := by
  have most := toNat_lt c
  have high {value : Nat} (least : 0x80 ≤ value) (small : value < 256) :
      0x80 ≤ (UInt8.ofNat value).toNat := by
    rw [toNat_octet small]
    exact least
  intro byte member
  unfold encodeChar at member
  rw [if_neg (by omega)] at member
  split at member
  · simp only [List.mem_cons, List.not_mem_nil, or_false] at member
    rcases member with rfl | rfl <;> exact high (by omega) (by omega)
  · split at member
    · simp only [List.mem_cons, List.not_mem_nil, or_false] at member
      rcases member with rfl | rfl | rfl <;> exact high (by omega) (by omega)
    · simp only [List.mem_cons, List.not_mem_nil, or_false] at member
      rcases member with rfl | rfl | rfl | rfl <;> exact high (by omega) (by omega)

end Outbox.Utf8
