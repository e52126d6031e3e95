import Mathlib.Data.List.TakeWhile
import Outbox.Text.WhiteSpace

/-!
# White space around a text

Trimming takes white space from both ends and nothing else, and a text whose ends can be seen is
what is left of it, however much white space stands around it.
-/

set_option autoImplicit false

namespace Outbox.Text

/-- A text of white space only. -/
def Blanks (text : List Char) : Prop :=
  ∀ c ∈ text, isBlank c = true

/-- Neither the first nor the last character is white space. -/
structure Trimmed (text : List Char) : Prop where
  start : ∀ c ∈ text.head?, isBlank c = false
  finish : ∀ c ∈ text.getLast?, isBlank c = false

theorem trimmed_of_all {text : List Char} (visible : text.all (fun c => !isBlank c) = true) :
    Trimmed text := by
  have each : ∀ c ∈ text, isBlank c = false := by simpa using visible
  exact ⟨fun c member => each c (List.mem_of_mem_head? member),
    fun c member => each c (List.mem_of_getLast? member)⟩

theorem blanks_nil : Blanks [] := by
  intro c member
  cases member

theorem Blanks.append {first second : List Char} (blank : Blanks first) (also : Blanks second) :
    Blanks (first ++ second) := by
  intro c member
  exact (List.mem_append.mp member).elim (blank c) (also c)

theorem Blanks.reverse {text : List Char} (blank : Blanks text) : Blanks text.reverse :=
  fun c member => blank c (List.mem_reverse.mp member)

theorem blanks_takeWhile (text : List Char) : Blanks (text.takeWhile isBlank) :=
  fun _ member => List.mem_takeWhile_imp member

theorem isBlankText_iff {text : List Char} : isBlankText text = true ↔ Blanks text := by
  rw [isBlankText, List.all_eq_true, Blanks]

/-! ## The start of a text -/

theorem trimStart_append {before : List Char} (blank : Blanks before) (text : List Char) :
    trimStart (before ++ text) = trimStart text :=
  List.dropWhile_append_of_pos blank

theorem trimStart_of_visible {text : List Char} (visible : ∀ c ∈ text.head?, isBlank c = false) :
    trimStart text = text := by
  cases text with
  | nil => rfl
  | cons c rest => exact List.dropWhile_cons_of_neg (by simp [visible c rfl])

theorem trimStart_spec (text : List Char) :
    text = text.takeWhile isBlank ++ trimStart text :=
  List.takeWhile_append_dropWhile.symm

/-- What is left behind the characters of a kind does not begin with one of them. -/
theorem head?_dropWhile (kind : Char → Bool) (text : List Char) :
    ∀ c ∈ (text.dropWhile kind).head?, kind c = false := by
  intro c first
  have stopped := List.head?_dropWhile_not kind text
  rw [Option.mem_def] at first
  rwa [first] at stopped

/-- If the end of a text can be seen, its last part has no white space around it once its front is
trimmed. -/
theorem Trimmed.trimStart_back {front back : List Char} (trimmed : Trimmed (front ++ back)) :
    Trimmed (trimStart back) where
  start := head?_dropWhile isBlank back
  finish := by
    intro c last
    apply trimmed.finish
    rw [Option.mem_def] at last ⊢
    rw [trimStart_spec back, ← List.append_assoc, List.getLast?_append, last, Option.some_or]

/-! ## Both ends -/

theorem trimEnd_eq (text : List Char) : trimEnd text = (trimStart text.reverse).reverse :=
  rfl

/-- White space is taken from around a text whose ends can be seen. -/
theorem trim_around {before text after : List Char} (blank : Blanks before)
    (trimmed : Trimmed text) (behind : Blanks after) : trim (before ++ text ++ after) = text := by
  have turned : ∀ c ∈ text.reverse.head?, isBlank c = false := by
    rw [List.head?_reverse]
    exact trimmed.finish
  rw [trim, List.append_assoc, trimStart_append blank]
  cases text with
  | nil =>
      rw [List.nil_append, trimStart, List.dropWhile_eq_nil_iff.mpr behind]
      rfl
  | cons c rest =>
      have first : ∀ d ∈ (c :: rest ++ after).head?, isBlank d = false := trimmed.start
      rw [trimStart_of_visible first, trimEnd_eq, List.reverse_append,
        trimStart_append behind.reverse, trimStart_of_visible turned, List.reverse_reverse]

theorem trimEnd_spec (text : List Char) :
    text = trimEnd text ++ (text.reverse.takeWhile isBlank).reverse := by
  rw [trimEnd_eq, ← List.reverse_append, ← trimStart_spec, List.reverse_reverse]

/-- Only white space is taken. -/
theorem trim_spec (text : List Char) :
    ∃ before after, text = before ++ trim text ++ after ∧ Blanks before ∧ Blanks after := by
  refine ⟨text.takeWhile isBlank, ((trimStart text).reverse.takeWhile isBlank).reverse, ?_,
    blanks_takeWhile text, (blanks_takeWhile _).reverse⟩
  rw [List.append_assoc, trim, ← trimEnd_spec]
  exact trimStart_spec text

/-- All white space is taken. -/
theorem trimmed_trim (text : List Char) : Trimmed (trim text) := by
  constructor
  · intro c first
    apply head?_dropWhile isBlank text
    rw [Option.mem_def] at first
    change (trimStart text).head? = some c
    rw [trimEnd_spec (trimStart text), List.head?_append, ← trim, first, Option.some_or]
  · rw [trim, trimEnd_eq, List.getLast?_reverse]
    exact head?_dropWhile isBlank _

end Outbox.Text
