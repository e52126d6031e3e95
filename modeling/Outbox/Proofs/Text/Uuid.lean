import Mathlib.Algebra.Group.Nat.Defs
import Mathlib.Data.List.Basic
import Outbox.Uuid

/-!
# Identifiers there and back

Hexadecimal digits stand for the number that they were made from, and the written form of an
identifier is read as that identifier.
-/

set_option autoImplicit false

namespace Outbox.Text

theorem hexValue?_digitChar : ∀ value < 16, hexValue? (Nat.digitChar value) = some value := by
  decide

@[simp] theorem length_hexDigits (width value : Nat) : (hexDigits width value).length = width := by
  induction width generalizing value with
  | zero => rfl
  | succ width ih => simp [hexDigits, ih]

theorem ofHexDigits?_concat {digits : List Char} {value digit : Nat}
    (before : ofHexDigits? digits = some value) (small : digit < 16) :
    ofHexDigits? (digits ++ [Nat.digitChar digit]) = some (value * 16 + digit) := by
  unfold ofHexDigits? at before ⊢
  rw [Option.map_eq_some_iff] at before
  obtain ⟨values, read, rfl⟩ := before
  rw [List.mapM_append, read]
  simp [hexValue?_digitChar digit small]

theorem ofHexDigits?_hexDigits (width value : Nat) :
    ofHexDigits? (hexDigits width value) = some (value % 16 ^ width) := by
  induction width generalizing value with
  | zero => simp [hexDigits, ofHexDigits?, Nat.mod_one]
  | succ width ih =>
      rw [hexDigits, ofHexDigits?_concat (ih _) (Nat.mod_lt _ (by decide))]
      congr 1
      rw [Nat.pow_succ', Nat.mod_mul]
      omega

end Outbox.Text

namespace Outbox.Uuid

open Text (hexDigits)

theorem ofDigits?_hexDigits (id : Uuid) : ofDigits? (hexDigits 32 id.value) = some id := by
  have range : id.value % 16 ^ 32 = id.value := Nat.mod_eq_of_lt id.inRange
  unfold ofDigits?
  rw [if_pos (Text.length_hexDigits 32 _), Text.ofHexDigits?_hexDigits, range]
  simp only [id.inRange, dite_true]

/-- The hyphens of the written form stand where a reader looks for them. -/
theorem ofHyphenated?_groups {a b c d e : List Char} (length_a : a.length = 8)
    (length_b : b.length = 4) (length_c : c.length = 4) (length_d : d.length = 4) :
    ofHyphenated? (a ++ '-' :: b ++ '-' :: c ++ '-' :: d ++ '-' :: e) =
      ofDigits? (a ++ b ++ c ++ d ++ e) := by
  have past {group : List Char} {length : Nat} (full : group.length = length) (count : Nat)
      (beyond : length ≤ count) : group.drop count = [] :=
    List.drop_of_length_le (full ▸ beyond)
  simp [ofHyphenated?, List.getElem?_append, List.drop_append, length_a, length_b, length_c,
    length_d, past length_a 9, past length_a 14, past length_a 19, past length_a 24,
    past length_b 5, past length_b 10, past length_b 15, past length_c 5, past length_c 10,
    past length_d 5]

theorem length_text (id : Uuid) : id.text.length = 36 := by
  simp [text]

theorem parse?_text (id : Uuid) : parse? id.text = some id := by
  have groups : (hexDigits 32 id.value).take 8 ++ ((hexDigits 32 id.value).drop 8).take 4 ++
      ((hexDigits 32 id.value).drop 12).take 4 ++ ((hexDigits 32 id.value).drop 16).take 4 ++
      (hexDigits 32 id.value).drop 20 = hexDigits 32 id.value := by
    rw [← List.take_add, ← List.take_add, ← List.take_add, List.take_append_drop]
  unfold parse?
  rw [length_text]
  change ofHyphenated? id.text = some id
  unfold text
  rw [ofHyphenated?_groups (by simp) (by simp) (by simp) (by simp), groups]
  exact ofDigits?_hexDigits id

end Outbox.Uuid
