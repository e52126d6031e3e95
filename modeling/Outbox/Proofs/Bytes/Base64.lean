import Outbox.Bytes.Base64

/-!
# Base64 there and back

A decoder gives back all bytes from their digits, whatever their number: three bytes at a time, and
at the end one or two bytes behind padding.
-/

set_option autoImplicit false

namespace Outbox.Base64

/-! ## Digits -/

theorem digitValue?_digit : ∀ value < 64, digitValue? (digit value) = some value := by
  decide

theorem digit_ne_padding : ∀ value < 64, digit value ≠ '=' := by
  decide

/-! ## Groups -/

theorem ofNat_toNat_of_eq {byte : UInt8} {value : Nat} (same : value = byte.toNat) :
    UInt8.ofNat value = byte := by
  rw [same, UInt8.ofNat_toNat]

section Groups
variable (a b c : UInt8)

theorem decodeOne?_digits :
    decodeOne? (digit (a.toNat / 4)) (digit (a.toNat % 4 * 16)) = some [a] := by
  have small := a.toNat_lt
  unfold decodeOne?
  rw [digitValue?_digit _ (by omega), digitValue?_digit _ (by omega)]
  simp only
  rw [if_pos (by omega), @ofNat_toNat_of_eq a _ (by omega)]

theorem decodeTwo?_digits :
    decodeTwo? (digit (a.toNat / 4)) (digit (a.toNat % 4 * 16 + b.toNat / 16))
      (digit (b.toNat % 16 * 4)) = some [a, b] := by
  have small_a := a.toNat_lt
  have small_b := b.toNat_lt
  unfold decodeTwo?
  rw [digitValue?_digit _ (by omega), digitValue?_digit _ (by omega),
    digitValue?_digit _ (by omega)]
  simp only
  rw [if_pos (by omega), @ofNat_toNat_of_eq a _ (by omega), @ofNat_toNat_of_eq b _ (by omega)]

theorem decodeThree?_digits :
    decodeThree? (digit (a.toNat / 4)) (digit (a.toNat % 4 * 16 + b.toNat / 16))
      (digit (b.toNat % 16 * 4 + c.toNat / 64)) (digit (c.toNat % 64)) = some [a, b, c] := by
  have small_a := a.toNat_lt
  have small_b := b.toNat_lt
  have small_c := c.toNat_lt
  unfold decodeThree?
  rw [digitValue?_digit _ (by omega), digitValue?_digit _ (by omega),
    digitValue?_digit _ (by omega), digitValue?_digit _ (by omega)]
  simp only
  rw [@ofNat_toNat_of_eq a _ (by omega), @ofNat_toNat_of_eq b _ (by omega),
    @ofNat_toNat_of_eq c _ (by omega)]

end Groups

/-- Four digits without padding stand for three bytes. -/
theorem decode?_unpadded {x y z w : Char} {bytes : Bytes} (unpadded : w ≠ '=')
    (group : decodeThree? x y z w = some bytes) (rest : List Char) :
    decode? (x :: y :: z :: w :: rest) = (decode? rest).map (bytes ++ ·) := by
  rw [decode?.eq_def]
  split
  · simp_all
  · simp_all
  · simp_all
  · rename_i same
    simp only [List.cons.injEq] at same
    obtain ⟨rfl, rfl, rfl, rfl, rfl⟩ := same
    rw [group]
  · rename_i other
    exact (other x y z w rest rfl).elim

theorem decode?_padded {x y z : Char} (unpadded : z ≠ '=') :
    decode? [x, y, z, '='] = decodeTwo? x y z := by
  rw [decode?.eq_def]
  split
  · simp_all
  · simp_all
  · simp_all
  · rename_i unpadded_end same
    simp only [List.cons.injEq] at same
    exact absurd same.2.2.2.1.symm (by simpa [same.2.2.2.2] using unpadded_end)
  · rename_i other
    exact (other x y z '=' [] rfl).elim

theorem decode?_encode (bytes : Bytes) : decode? (encode bytes) = some bytes := by
  fun_induction encode bytes with
  | case1 => rfl
  | case2 byte a => exact decodeOne?_digits byte
  | case3 byte other a b =>
      rw [decode?_padded (digit_ne_padding _ (by omega))]
      exact decodeTwo?_digits byte other
  | case4 byte other last rest a b c ih =>
      rw [decode?_unpadded (digit_ne_padding _ (by omega))
        (decodeThree?_digits byte other last), ih]
      rfl

end Outbox.Base64
