import Outbox.Proofs.Json.Grammar

/-!
# Values that are passed over

A reader that looks for the end of a value finds it, however deep the value is nested and whatever
stands in it.  A reader that wants the value itself finds the same end.
-/

set_option autoImplicit false

namespace Outbox.Json

/-! ## One step -/

/-- What is expected next, the frames that are open and the bytes ahead. -/
structure Standing where
  expecting : Expecting
  frames : List Frame
  bytes : Bytes

/-- Passing over values comes from one standing to another and takes a byte at least in each step,
so that the length of the bytes is fuel enough. -/
def Leads (start stop : Standing) : Prop :=
  ∃ steps, steps + stop.bytes.length ≤ start.bytes.length ∧
    ∀ fuel, skip (fuel + steps) start.expecting start.frames start.bytes =
      skip fuel stop.expecting stop.frames stop.bytes

theorem Leads.step {start stop : Standing} (shorter : stop.bytes.length < start.bytes.length)
    (same : ∀ fuel, skip (fuel + 1) start.expecting start.frames start.bytes =
      skip fuel stop.expecting stop.frames stop.bytes) : Leads start stop :=
  ⟨1, by omega, same⟩

theorem Leads.trans {start middle stop : Standing} (first : Leads start middle)
    (second : Leads middle stop) : Leads start stop := by
  obtain ⟨steps, short, same⟩ := first
  obtain ⟨more, shorter, equal⟩ := second
  refine ⟨more + steps, by omega, fun fuel => ?_⟩
  rw [← Nat.add_assoc, same, equal]

section Steps
variable {gap bytes rest : Bytes} {byte : UInt8} {frames : List Frame} {frame : Frame}

theorem skip_successor (ahead : dropSpace bytes = byte :: rest) (fuel : Nat) :
    skip (fuel + 1) .successor (frame :: frames) bytes =
      if byte = 0x2C then skip fuel frame.item (frame :: frames) rest
      else if byte = frame.closing then skip fuel .successor frames rest
      else .error .malformed := by
  rw [skip, ahead]

/-- A value without items is passed over in one step. -/
theorem skip_single {after : Bytes} (ahead : dropSpace bytes = byte :: rest)
    (single : byte ≠ 0x5B ∧ byte ≠ 0x7B)
    (passed : (if byte = 0x22 then skipText rest
      else if byte = 0x2D || isDigit byte then skipNumber (byte :: rest)
      else (expectWord byte rest).getD (.error .malformed)) = .ok after) (fuel : Nat) :
    skip (fuel + 1) .value frames bytes = skip fuel .successor frames after := by
  rw [skip, ahead]
  simp only [if_neg single.1, if_neg single.2, passed]

theorem Leads.comma (blank : Blank gap) (rest : Bytes) :
    Leads ⟨.successor, frame :: frames, gap ++ 0x2C :: rest⟩
      ⟨frame.item, frame :: frames, rest⟩ := by
  apply Leads.step
  · simp only [List.length_append, List.length_cons]
    omega
  · intro fuel
    exact skip_successor (blank.dropSpace_visible rfl rest) fuel

theorem Leads.closing (blank : Blank gap) (rest : Bytes) :
    Leads ⟨.successor, frame :: frames, gap ++ frame.closing :: rest⟩
      ⟨.successor, frames, rest⟩ := by
  apply Leads.step
  · simp only [List.length_append, List.length_cons]
    omega
  · intro fuel
    have visible : isSpace frame.closing = false ∧ frame.closing ≠ 0x2C := by
      cases frame <;> decide
    exact (skip_successor (blank.dropSpace_visible visible.1 rest) fuel).trans
      (by simp [visible.2])

theorem expectColon_blank (blank : Blank gap) (rest : Bytes) :
    expectColon (gap ++ 0x3A :: rest) = .ok rest := by
  rw [expectColon, blank.dropSpace_visible rfl]
  rfl

theorem Leads.name {name behind : Bytes} (blank : Blank gap) (literal : Literal name)
    (unsplit : Blank behind) (rest : Bytes) :
    Leads ⟨.member, frames, gap ++ 0x22 :: (name ++ 0x22 :: (behind ++ 0x3A :: rest))⟩
      ⟨.value, frames, rest⟩ := by
  apply Leads.step
  · simp only [List.length_append, List.length_cons]
    omega
  · intro fuel
    simp only
    rw [skip, blank.dropSpace_visible rfl]
    simp [literal.skipText, expectColon_blank unsplit]

theorem skip_opening (blank : Blank gap) (rest : Bytes) (fuel : Nat) :
    skip (fuel + 1) .value frames (gap ++ frame.opening :: rest) =
      match dropSpace rest with
      | [] => .error .truncated
      | next :: after =>
        if next = frame.closing then skip fuel .successor frames after
        else skip fuel frame.item (frame :: frames) rest := by
  cases frame
  all_goals
    rw [skip, blank.dropSpace_visible rfl]
    simp only [Frame.opening]
    rfl

theorem Leads.opening (blank : Blank gap) {rest : Bytes}
    (opens : ∃ first others, dropSpace rest = first :: others ∧ first ≠ frame.closing) :
    Leads ⟨.value, frames, gap ++ frame.opening :: rest⟩
      ⟨frame.item, frame :: frames, rest⟩ := by
  apply Leads.step
  · simp only [List.length_append, List.length_cons]
    omega
  · intro fuel
    obtain ⟨first, others, ahead, unclosed⟩ := opens
    simp only [skip_opening blank, ahead, if_neg unclosed]

theorem Leads.empty {inner : Bytes} (blank : Blank gap) (void : Blank inner) (rest : Bytes) :
    Leads ⟨.value, frames, gap ++ frame.opening :: (inner ++ frame.closing :: rest)⟩
      ⟨.successor, frames, rest⟩ := by
  apply Leads.step
  · simp only [List.length_append, List.length_cons]
    omega
  · intro fuel
    have visible : isSpace frame.closing = false := by
      cases frame <;> rfl
    simp only [skip_opening blank, void.dropSpace_visible visible, if_true]

theorem Leads.word (blank : Blank gap) {word : Bytes} (known : word ∈ words) (rest : Bytes) :
    Leads ⟨.value, frames, gap ++ (word ++ rest)⟩ ⟨.successor, frames, rest⟩ := by
  simp only [words, List.mem_cons, List.not_mem_nil, or_false] at known
  apply Leads.step
  · rcases known with rfl | rfl | rfl <;> simp only [List.length_append, List.length_cons] <;> omega
  · intro fuel
    rcases known with rfl | rfl | rfl
    all_goals
      exact skip_single (blank.dropSpace_visible rfl _) (by decide)
        (by simp [isDigit, expectWord, expect]) fuel

theorem skip_number {bytes others rest : Bytes} {first : UInt8}
    (ahead : dropSpace bytes = first :: others) (sort : first = 0x2D ∨ isDigit first = true)
    (passed : skipNumber (first :: others) = .ok rest) (fuel : Nat) :
    skip (fuel + 1) .value frames bytes = skip fuel .successor frames rest := by
  have plain : first ≠ 0x5B ∧ first ≠ 0x7B ∧ first ≠ 0x22 := by
    refine ⟨?_, ?_, ?_⟩ <;> (rintro rfl; revert sort; decide)
  exact skip_single ahead ⟨plain.1, plain.2.1⟩ (by simp [plain, sort, passed]) fuel

theorem Leads.number (blank : Blank gap) {number : Bytes} (figure : Figure number) {rest : Bytes}
    (stops : Stops rest) :
    Leads ⟨.value, frames, gap ++ (number ++ rest)⟩ ⟨.successor, frames, rest⟩ := by
  have passed := figure.skipNumber stops
  obtain ⟨first, others, rfl, sort⟩ := figure.head
  have visible : isSpace first = false := by
    rcases sort with rfl | digit
    · rfl
    · exact isSpace_of_isDigit digit
  apply Leads.step
  · simp only [List.length_append, List.length_cons]
    omega
  · exact skip_number (blank.dropSpace_visible visible _) sort passed

theorem skip_text {bytes content rest : Bytes} (ahead : dropSpace bytes = 0x22 :: content)
    (passed : skipText content = .ok rest) (fuel : Nat) :
    skip (fuel + 1) .value frames bytes = skip fuel .successor frames rest :=
  skip_single ahead (by decide) passed fuel

theorem Leads.text (blank : Blank gap) {content : Bytes} (literal : Literal content)
    (rest : Bytes) :
    Leads ⟨.value, frames, gap ++ 0x22 :: (content ++ 0x22 :: rest)⟩
      ⟨.successor, frames, rest⟩ := by
  apply Leads.step
  · simp only [List.length_append, List.length_cons]
    omega
  · exact skip_text (blank.dropSpace_visible rfl _) (literal.skipText rest)

end Steps

/-! ## Whole values -/

/-- What passing over a part of a value means, whatever frames are open around it. -/
def Part.Passed (bytes : Bytes) : Part → Prop
  | .value => ∀ {gap rest : Bytes} {frames : List Frame}, Blank gap → Stops rest →
      Leads ⟨.value, frames, gap ++ (bytes ++ rest)⟩ ⟨.successor, frames, rest⟩
  | .item frame => ∀ {rest : Bytes} {frames : List Frame}, Stops rest →
      Leads ⟨frame.item, frames, bytes ++ rest⟩ ⟨.successor, frames, rest⟩
  | .others frame => ∀ {rest : Bytes} {frames : List Frame},
      Leads ⟨.successor, frame :: frames, bytes ++ rest⟩ ⟨.successor, frames, rest⟩

theorem Written.passed {part : Part} {bytes : Bytes} (written : Written part bytes) :
    part.Passed bytes := by
  -- Over the grammar: an opened frame is closed by the part that follows its first item, whatever
  -- frames are open outside of it.
  induction written with
  | word known =>
      intro gap rest frames blank stops
      exact .word blank known rest
  | number figure =>
      intro gap rest frames blank stops
      exact .number blank figure stops
  | text literal =>
      intro gap rest frames blank stops
      simpa using Leads.text blank literal rest
  | empty frame void =>
      intro gap rest frames blank stops
      simpa using Leads.empty blank void rest
  | @filled frame item others opened followed item_ih others_ih =>
      intro gap rest frames blank stops
      have stop := followed.others_stop rest
      rw [List.cons_append, List.append_assoc]
      exact ((Leads.opening blank (opened.item_opens _)).trans (item_ih stop)).trans others_ih
  | element blank _ ih =>
      intro rest frames stops
      rw [List.append_assoc]
      exact ih blank stops
  | member blank literal unsplit inner _ ih =>
      intro rest frames stops
      simp only [List.append_assoc, List.cons_append]
      exact (Leads.name blank literal unsplit _).trans (ih inner stops)
  | closing frame blank =>
      intro rest frames
      simpa using Leads.closing blank rest
  | next frame blank _ followed item_ih others_ih =>
      intro rest frames
      have stop := followed.others_stop rest
      simp only [List.append_assoc, List.cons_append]
      exact ((Leads.comma blank _).trans (item_ih stop)).trans others_ih

/-- Every value is passed over up to what follows it. -/
theorem Written.skipValue {gap value rest : Bytes} (written : Written .value value)
    (blank : Blank gap) (stops : Stops rest) : skipValue (gap ++ (value ++ rest)) = .ok rest := by
  have led : Leads ⟨.value, [], gap ++ (value ++ rest)⟩ ⟨.successor, [], rest⟩ :=
    written.passed blank stops
  obtain ⟨steps, short, same⟩ := led
  have enough : (gap ++ (value ++ rest)).length + 2 =
      ((gap ++ (value ++ rest)).length - steps + 1) + 1 + steps := by
    simp only at short
    omega
  rw [Json.skipValue, enough, same]
  rfl

/-! ## The same end for every reader -/

section Readers
variable {bytes rest : Bytes}

/-- What was scanned as a text is a literal with its closing quote. -/
theorem literal_of_scanAfter {seen content : Bytes}
    (scanned : scanAfter seen bytes = .ok (content, rest)) :
    ∃ literal, Literal literal ∧ bytes = literal ++ 0x22 :: rest := by
  fun_induction scanAfter seen bytes with
  | case2 seen after =>
      cases scanned
      exact ⟨[], .nil, rfl⟩
  | case4 seen byte after unquoted unescaped visible ih =>
      obtain ⟨literal, plain, rfl⟩ := ih scanned
      exact ⟨_, .plain unquoted unescaped visible plain, rfl⟩
  | case6 seen byte _ escaped letter after _ c known ih =>
      obtain ⟨literal, plain, rfl⟩ := ih scanned
      obtain rfl := Decidable.not_not.mp escaped
      exact ⟨_, .escape (by rw [known]; rfl) plain, rfl⟩
  | case10 seen byte _ escaped letter long a b c d after unit known _ _ ih =>
      obtain ⟨literal, plain, rfl⟩ := ih scanned
      obtain rfl := Decidable.not_not.mp escaped
      obtain rfl := Decidable.not_not.mp long
      exact ⟨_, .unit (by rw [known]; rfl) plain, rfl⟩
  | case16 seen byte _ escaped letter long a b c d leading first _ _ mark marked letter' long'
      e f g h after trailing second _ ih =>
      obtain ⟨literal, plain, rfl⟩ := ih scanned
      obtain rfl := Decidable.not_not.mp escaped
      obtain rfl := Decidable.not_not.mp long
      obtain rfl := Decidable.not_not.mp marked
      obtain rfl := Decidable.not_not.mp long'
      exact ⟨_, .unit (by rw [first]; rfl) (.unit (by rw [second]; rfl) plain), rfl⟩
  | _ => cases scanned

theorem skipText_of_readText {text : List Char} (read : readText bytes = .ok (text, rest)) :
    skipText bytes = .ok rest := by
  unfold readText at read
  split at read
  · cases read
  · rename_i content after scanned
    split at read
    · cases read
      obtain ⟨literal, plain, rfl⟩ := literal_of_scanAfter scanned
      exact plain.skipText rest
    · cases read

theorem skipValue_of_readString {text : List Char} (read : readString bytes = .ok (text, rest)) :
    skipValue bytes = .ok rest := by
  unfold readString at read
  split at read
  · cases read
  · rename_i first after ahead
    split at read
    · subst first
      exact skip_text ahead (skipText_of_readText read) _
    · cases read

theorem skipValue_of_readParsed {α : Type} {parse? : List Char → Option α} {value : α}
    (read : readParsed parse? bytes = .ok (value, rest)) : skipValue bytes = .ok rest := by
  unfold readParsed at read
  split at read
  · cases read
  · rename_i text after found
    split at read
    · cases read
      exact skipValue_of_readString found
    · cases read

theorem readNumeral_of_readNumberSigned {negative : Bool} {number : Number}
    (read : readNumberSigned negative bytes = .ok (number, rest)) :
    ∃ numeral, readNumeral bytes = .ok (numeral, rest) := by
  unfold readNumberSigned at read
  split at read
  · cases read
  · rename_i numeral after found
    split at read
    · cases read
    · cases read
      exact ⟨numeral, found⟩

theorem skipNumber_of_readNumber {number : Number} (read : readNumber bytes = .ok (number, rest)) :
    skipNumber bytes = .ok rest := by
  unfold readNumber at read
  unfold skipNumber
  split at read
  · obtain ⟨numeral, found⟩ := readNumeral_of_readNumberSigned read
    simp [found]
  · obtain ⟨numeral, found⟩ := readNumeral_of_readNumberSigned read
    simp [found]

theorem skipValue_of_readInteger {α : Type} {convert? : Int → Option α} {value : α}
    (read : readInteger convert? bytes = .ok (value, rest)) : skipValue bytes = .ok rest := by
  unfold readInteger at read
  split at read
  · cases read
  · rename_i first after ahead
    split at read
    · rename_i sort
      split at read
      · cases read
      · cases read
      · rename_i integer behind found
        split at read
        · cases read
          have sort : first = 0x2D ∨ isDigit first = true := by simpa using sort
          exact skip_number ahead sort (skipNumber_of_readNumber found) _
        · cases read
    · cases read

end Readers

end Outbox.Json
