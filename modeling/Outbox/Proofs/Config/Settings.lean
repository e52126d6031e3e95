import Outbox.Config.Settings
import Outbox.Proofs.Config.Duration

/-!
# What a program is told by its environment

Four variables have values that can be wrong.  For each of them there is a relation that says what a
value stands for, and a reader that reads exactly those values and refuses all others under the key
of the variable.  Settings are loaded exactly if every variable that is not blank can be read by
itself, and the first that cannot be read is reported.
-/

set_option autoImplicit false

namespace Outbox.Config

open Text (Blanks Trimmed)
open Time (Span Spells)

/-! ## Counts -/

/-- A text that says how many, perhaps with a plus sign. -/
inductive SpellsCount : List Char → Nat → Prop where
  | intro {before sign digits after : List Char} {value : Nat}
    (before_blank : Blanks before) (after_blank : Blanks after)
    (positive : sign = [] ∨ sign = ['+']) (number : Spells digits value)
    (small : value < UInt64.size) : SpellsCount (before ++ sign ++ digits ++ after) value

theorem le_ofDigitChars (digits : List Char) (start : Nat) :
    start ≤ Nat.ofDigitChars 10 digits start := by
  induction digits generalizing start with
  | nil => exact Nat.le_refl start
  | cons c rest ih =>
      rw [Nat.ofDigitChars_cons]
      have more := ih (10 * start + (c.toNat - '0'.toNat))
      omega

theorem readDigits_eq_ok {digits : List Char} {start value : Nat} (small : start < UInt64.size) :
    readDigits start digits = .ok value ↔
      (∀ c ∈ digits, c.isDigit = true) ∧ Nat.ofDigitChars 10 digits start = value ∧
        value < UInt64.size := by
  induction digits generalizing start with
  | nil =>
      simp only [readDigits, Nat.ofDigitChars_nil, Except.ok.injEq, List.not_mem_nil, false_imp_iff,
        implies_true, true_and]
      exact ⟨fun same => ⟨same, same ▸ small⟩, fun same => same.1⟩
  | cons c rest ih =>
      have next : start * 10 + (c.toNat - '0'.toNat) = 10 * start + (c.toNat - '0'.toNat) := by
        omega
      rw [readDigits, Nat.ofDigitChars_cons, List.forall_mem_cons, next]
      split
      next digit =>
        simp only [digit, true_and]
        split
        next fits => exact ih fits
        next large =>
          -- What is read after this can only make the number larger.
          have more := le_ofDigitChars rest (10 * start + (c.toNat - '0'.toNat))
          constructor
          · intro read
            cases read
          · rintro ⟨_, rfl, fits⟩
            omega
      next other => simp [other]

theorem readCount_eq_ok {text : List Char} {value : Nat} : readCount text = .ok value ↔
    ∃ sign digits, (sign = [] ∨ sign = ['+']) ∧ text = sign ++ digits ∧ Spells digits value ∧
      value < UInt64.size := by
  have start_small : 0 < UInt64.size := by decide
  have unsigned {digits : List Char} (some_digit : digits ≠ []) :
      readDigits 0 digits = .ok value ↔ Spells digits value ∧ value < UInt64.size := by
    rw [readDigits_eq_ok start_small]
    exact ⟨fun ⟨decimal, number, small⟩ => ⟨⟨decimal, number, some_digit⟩, small⟩,
      fun ⟨number, small⟩ => ⟨number.decimal, number.value, small⟩⟩
  constructor
  · intro read
    unfold readCount at read
    split at read
    · cases read
    · cases read
    · rename_i rest some_digit
      obtain ⟨number, small⟩ := (unsigned some_digit).mp read
      exact ⟨['+'], rest, .inr rfl, rfl, number, small⟩
    · rename_i some_text _ _
      obtain ⟨number, small⟩ := (unsigned some_text).mp read
      exact ⟨[], text, .inl rfl, rfl, number, small⟩
  · rintro ⟨sign, digits, unsign | plus, rfl, number, small⟩
    · have read := (unsigned number.nonempty).mpr ⟨number, small⟩
      subst unsign
      cases digits with
      | nil => exact absurd rfl number.nonempty
      | cons c rest =>
          have decimal : c.isDigit = true := number.decimal c List.mem_cons_self
          have unsign : c ≠ '+' := by
            rintro rfl
            cases decimal
          unfold readCount
          split
          · simp_all
          · simp_all
          · simp_all
          · exact read
    · have read := (unsigned number.nonempty).mpr ⟨number, small⟩
      subst plus
      cases digits with
      | nil => exact absurd rfl number.nonempty
      | cons c rest => exact read

theorem trimmed_of_count {sign digits : List Char} {value : Nat}
    (positive : sign = [] ∨ sign = ['+']) (number : Spells digits value) :
    Trimmed (sign ++ digits) := by
  refine ⟨?_, ?_⟩
  · rcases positive with rfl | rfl
    · simpa using head?_of_spells number []
    · rintro c ⟨⟩
      rfl
  · rw [List.getLast?_append_of_ne_nil _ number.nonempty]
    exact getLast?_of_spells number

theorem readCount_trim_eq_ok {raw : List Char} {value : Nat} :
    readCount (Text.trim raw) = .ok value ↔ SpellsCount raw value := by
  rw [readCount_eq_ok]
  constructor
  · rintro ⟨sign, digits, positive, trimmed, number, small⟩
    obtain ⟨before, after, around, before_blank, after_blank⟩ := Text.trim_spec raw
    have spelled := SpellsCount.intro before_blank after_blank positive number small
    rw [around, trimmed]
    simpa using spelled
  · rintro @⟨before, sign, digits, after, _, before_blank, after_blank, positive, number, small⟩
    have cut := Text.trim_around before_blank (trimmed_of_count positive number) after_blank
    exact ⟨sign, digits, positive, by simpa using cut, number, small⟩

/-! ## Backends -/

def Backend.word : Backend → List Char
  | .memory => ['m', 'e', 'm', 'o', 'r', 'y']
  | .noop => ['n', 'o', 'o', 'p']

/-- The word of a backend, in any case of its letters. -/
inductive SpellsBackend : List Char → Backend → Prop where
  | intro {before word after : List Char} {backend : Backend}
    (before_blank : Blanks before) (after_blank : Blanks after)
    (named : word.map Char.toLower = backend.word) :
    SpellsBackend (before ++ word ++ after) backend

/-- No character of white space has a case. -/
theorem isBlank_toLower (c : Char) : Text.isBlank c.toLower = Text.isBlank c := by
  unfold Char.toLower
  split
  next upper =>
    have range : 65 ≤ c.val.toNat ∧ c.val.toNat ≤ 90 := by
      simpa [UInt32.le_iff_toNat_le] using upper
    have lower : (c.val + ('a'.val - 'A'.val)).toNat = c.val.toNat + 32 := by
      rw [UInt32.toNat_add]
      change (c.val.toNat + 32) % 4294967296 = c.val.toNat + 32
      omega
    simp only [Text.isBlank, Char.toNat, lower]
    rw [Bool.eq_iff_iff]
    simp only [Bool.or_eq_true, Bool.and_eq_true, decide_eq_true_eq, beq_iff_eq]
    omega
  next => rfl

theorem trimmed_of_word {word : List Char} {backend : Backend}
    (named : word.map Char.toLower = backend.word) : Trimmed word := by
  have visible : backend.word.all (fun c => !Text.isBlank c) = true := by
    cases backend <;> decide
  rw [← named, List.all_map] at visible
  simp only [Function.comp_def, isBlank_toLower] at visible
  exact Text.trimmed_of_all visible

theorem parseBackend_eq_ok {raw : List Char} {backend : Backend} :
    parseBackend raw = .ok backend ↔ SpellsBackend raw backend := by
  have read : parseBackend raw = .ok backend ↔
      (Text.trim raw).map Char.toLower = backend.word := by
    have same (word : List Char) : String.ofList ((Text.trim raw).map Char.toLower) =
        String.ofList word ↔ (Text.trim raw).map Char.toLower = word := String.ofList_inj
    have memory := same Backend.memory.word
    have noop := same Backend.noop.word
    unfold parseBackend
    dsimp only
    split
    next named =>
      have trimmed := memory.mp named
      rw [trimmed, Except.ok.injEq]
      cases backend <;> decide
    next =>
      split
      next named =>
        have trimmed := noop.mp named
        rw [trimmed, Except.ok.injEq]
        cases backend <;> decide
      next other another =>
        cases backend with
        | memory => simpa using fun named => other (memory.mpr named)
        | noop => simpa using fun named => another (noop.mpr named)
  rw [read]
  constructor
  · intro named
    obtain ⟨before, after, around, before_blank, after_blank⟩ := Text.trim_spec raw
    rw [around]
    exact .intro before_blank after_blank named
  · rintro ⟨before_blank, after_blank, named⟩
    rw [Text.trim_around before_blank (trimmed_of_word named) after_blank, named]

/-! ## Readers of one variable -/

/-- A reader takes exactly the texts that mean something, for what they mean, and refuses all others
under its key. -/
structure Reads {α : Type} (key : String) (Means : List Char → α → Prop)
    (read : List Char → Except ProgramError α) : Prop where
  eq_ok : ∀ raw value, read raw = .ok value ↔ Means raw value
  refused : ∀ raw error, read raw = .error error → ∃ reason, error = .setting key reason

def MeansInterval (raw : List Char) (interval : Span) : Prop :=
  SpellsSpan raw interval ∧ 0 < interval.nanoseconds

def MeansBatchSize (raw : List Char) (size : Nat) : Prop :=
  SpellsCount raw size ∧ 1 ≤ size

def MeansTimeout (raw : List Char) (timeout : Option Span) : Prop :=
  ∃ span, timeout = some span ∧ SpellsSpan raw span

theorem reads_interval : Reads intervalKey MeansInterval readInterval where
  eq_ok := by
    intro raw interval
    rw [MeansInterval, ← @parseDuration_eq_ok intervalKey, readInterval]
    cases read : parseDuration intervalKey raw with
    | error error => simp
    | ok span =>
        by_cases zero : span.nanoseconds = 0
        · have none_left : span.isZero = true := by simpa [Span.isZero] using zero
          simp only [none_left, if_true, reduceCtorEq, Except.ok.injEq, false_iff, not_and]
          rintro rfl
          omega
        · have some_left : span.isZero = false := by simpa [Span.isZero] using zero
          simp only [some_left, Bool.false_eq_true, if_false, Except.ok.injEq]
          constructor
          · rintro rfl
            exact ⟨rfl, by omega⟩
          · exact And.left
  refused := by
    intro raw error refused
    unfold readInterval at refused
    split at refused
    next inner read =>
      cases refused
      exact key_of_parseDuration read
    next =>
      split at refused
      · cases refused
        exact ⟨_, rfl⟩
      · cases refused

theorem reads_batchSize : Reads batchSizeKey MeansBatchSize readBatchSize where
  eq_ok := by
    intro raw size
    rw [MeansBatchSize, ← readCount_trim_eq_ok, readBatchSize]
    cases readCount (Text.trim raw) with
    | error error => simp
    | ok count =>
        by_cases zero : count = 0
        · simp only [zero, if_true, reduceCtorEq, Except.ok.injEq, false_iff, not_and]
          omega
        · simp only [zero, if_false, Except.ok.injEq]
          omega
  refused := by
    intro raw error refused
    unfold readBatchSize at refused
    split at refused
    · cases refused
      exact ⟨_, rfl⟩
    · split at refused
      · cases refused
        exact ⟨_, rfl⟩
      · cases refused

theorem reads_timeout : Reads publishTimeoutKey MeansTimeout
    fun raw => (parseDuration publishTimeoutKey raw).map some where
  eq_ok := by
    intro raw timeout
    simp only [MeansTimeout, ← @parseDuration_eq_ok publishTimeoutKey]
    cases parseDuration publishTimeoutKey raw <;> simp [Except.map, eq_comm]
  refused := by
    intro raw error refused
    cases read : parseDuration publishTimeoutKey raw with
    | error inner =>
        rw [read] at refused
        cases refused
        exact key_of_parseDuration read
    | ok span =>
        rw [read] at refused
        cases refused

theorem reads_backend : Reads backendKey SpellsBackend parseBackend where
  eq_ok := fun _ _ => parseBackend_eq_ok
  refused := by
    intro raw error refused
    unfold parseBackend at refused
    dsimp only at refused
    split at refused
    · cases refused
    · split at refused
      · cases refused
      · cases refused
        exact ⟨_, rfl⟩

/-! ## Variables that may be missing -/

/-- What a variable is set to: its default if it is blank, and else what its value means. -/
def Stands {α : Type} (lookup : String → Option String) (key : String) (default : α)
    (Means : List Char → α → Prop) (value : α) : Prop :=
  match present? lookup key with
  | none => value = default
  | some raw => Means raw.toList value

section Reader
variable {α : Type} {key : String} {Means : List Char → α → Prop}
variable {read : List Char → Except ProgramError α}

theorem Reads.readOr_eq_ok (reads : Reads key Means read) (lookup : String → Option String)
    (default value : α) :
    readOr lookup key default read = .ok value ↔ Stands lookup key default Means value := by
  unfold readOr Stands
  cases present? lookup key with
  | none => simp [eq_comm]
  | some raw => exact reads.eq_ok raw.toList value

theorem Reads.readOr_refused (reads : Reads key Means read) {lookup : String → Option String}
    {default : α} {error : ProgramError}
    (refused : readOr lookup key default read = .error error) :
    (∃ raw, present? lookup key = some raw ∧ ∀ value, ¬Means raw.toList value) ∧
      ∃ reason, error = .setting key reason := by
  unfold readOr at refused
  cases there : present? lookup key with
  | none =>
      rw [there] at refused
      cases refused
  | some raw =>
      rw [there] at refused
      dsimp only at refused
      refine ⟨⟨raw, rfl, ?_⟩, reads.refused _ _ refused⟩
      intro value meant
      rw [(reads.eq_ok _ _).mpr meant] at refused
      cases refused

end Reader

/-- The variables whose values can be wrong. -/
inductive Variable where
  | interval
  | batchSize
  | publishTimeout
  | backend
  deriving DecidableEq, Repr

namespace Variable

def key : Variable → String
  | .interval => intervalKey
  | .batchSize => batchSizeKey
  | .publishTimeout => publishTimeoutKey
  | .backend => backendKey

/-- The order in which they are checked. -/
def inOrder : List Variable :=
  [.interval, .batchSize, .publishTimeout, .backend]

/-- A value means something as the value of a variable. -/
def Accepts (raw : List Char) : Variable → Prop
  | .interval => ∃ interval, MeansInterval raw interval
  | .batchSize => ∃ size, MeansBatchSize raw size
  | .publishTimeout => ∃ timeout, MeansTimeout raw timeout
  | .backend => ∃ backend, SpellsBackend raw backend

/-- A variable is blank, or has a value that means something. -/
def Usable (lookup : String → Option String) (asked : Variable) : Prop :=
  ∀ raw, present? lookup asked.key = some raw → asked.Accepts raw.toList

end Variable

/-- Settings say what the variables of a program are set to. -/
structure Describes (lookup : String → Option String) (settings : Settings) : Prop where
  workerInterval :
    Stands lookup intervalKey (Span.ofSeconds 5) MeansInterval settings.workerInterval
  workerBatchSize : Stands lookup batchSizeKey 1000 MeansBatchSize settings.workerBatchSize
  publishTimeout : Stands lookup publishTimeoutKey none MeansTimeout settings.publishTimeout
  backend : Stands lookup backendKey .memory SpellsBackend settings.backend
  databaseUrl : settings.databaseUrl = present? lookup databaseKey

/-! ## Loading -/

section Bind
variable {ε α β : Type} {first : Except ε α} {next : α → Except ε β}

theorem bind_eq_ok {value : β} :
    (first >>= next) = .ok value ↔ ∃ middle, first = .ok middle ∧ next middle = .ok value := by
  cases first with
  | error error => simp [bind, Except.bind]
  | ok middle => simp [bind, Except.bind]

theorem bind_eq_error {error : ε} : (first >>= next) = .error error ↔
    first = .error error ∨ ∃ middle, first = .ok middle ∧ next middle = .error error := by
  cases first with
  | error other => simp [bind, Except.bind]
  | ok middle => simp [bind, Except.bind]

end Bind

section Load
variable {lookup other : String → Option String}

/-- Settings are loaded exactly as the variables describe them. -/
theorem load_eq_ok {settings : Settings} :
    load lookup = .ok settings ↔ Describes lookup settings := by
  simp only [load, bind_eq_ok, reads_interval.readOr_eq_ok, reads_batchSize.readOr_eq_ok,
    reads_timeout.readOr_eq_ok, reads_backend.readOr_eq_ok, Except.ok.injEq]
  constructor
  · rintro ⟨span, interval, count, size, limit, timeout, kind, backend, rfl⟩
    exact ⟨interval, size, timeout, backend, rfl⟩
  · rintro ⟨interval, size, timeout, backend, url⟩
    exact ⟨_, interval, _, size, _, timeout, _, backend, by rw [← url]⟩

theorem Stands.accepted {α : Type} {key : String} {default value : α}
    {Means : List Char → α → Prop} (stands : Stands lookup key default Means value) :
    ∀ raw, present? lookup key = some raw → ∃ value, Means raw.toList value := by
  intro raw there
  rw [Stands, there] at stands
  exact ⟨value, stands⟩

/-- A variable cannot be used, and those that are checked before it can. -/
def FirstUnusable (lookup : String → Option String) (asked : Variable) : Prop :=
  ∃ before after, Variable.inOrder = before ++ asked :: after ∧
    (∀ earlier ∈ before, earlier.Usable lookup) ∧ ¬asked.Usable lookup

/-- The first variable that cannot be used is reported. -/
theorem load_refused {error : ProgramError} (refused : load lookup = .error error) :
    ∃ asked reason, FirstUnusable lookup asked ∧ error = .setting asked.key reason := by
  have unusable {asked : Variable} {α : Type} {Means : List Char → α → Prop}
      (accepts : ∀ raw, asked.Accepts raw → ∃ value, Means raw value)
      (bad : ∃ raw, present? lookup asked.key = some raw ∧ ∀ value, ¬Means raw.toList value) :
      ¬asked.Usable lookup := by
    obtain ⟨raw, there, meaningless⟩ := bad
    intro usable
    obtain ⟨value, meant⟩ := accepts _ (usable raw there)
    exact meaningless value meant
  simp only [load, bind_eq_error, reads_interval.readOr_eq_ok, reads_batchSize.readOr_eq_ok,
    reads_timeout.readOr_eq_ok, reads_backend.readOr_eq_ok, reduceCtorEq, and_false, exists_false,
    or_false] at refused
  rcases refused with interval | ⟨_, interval, size | ⟨_, size, timeout | ⟨_, timeout, backend⟩⟩⟩
  · obtain ⟨bad, reason, rfl⟩ := reads_interval.readOr_refused interval
    exact ⟨.interval, reason, ⟨[], _, rfl, by simp, unusable (fun _ => id) bad⟩, rfl⟩
  · obtain ⟨bad, reason, rfl⟩ := reads_batchSize.readOr_refused size
    refine ⟨.batchSize, reason, ⟨[.interval], _, rfl, ?_, unusable (fun _ => id) bad⟩, rfl⟩
    simpa [Variable.Usable, Variable.Accepts, Variable.key] using interval.accepted
  · obtain ⟨bad, reason, rfl⟩ := reads_timeout.readOr_refused timeout
    refine ⟨.publishTimeout, reason,
      ⟨[.interval, .batchSize], _, rfl, ?_, unusable (fun _ => id) bad⟩, rfl⟩
    simpa [Variable.Usable, Variable.Accepts, Variable.key] using
      ⟨interval.accepted, size.accepted⟩
  · obtain ⟨bad, reason, rfl⟩ := reads_backend.readOr_refused backend
    refine ⟨.backend, reason,
      ⟨[.interval, .batchSize, .publishTimeout], _, rfl, ?_, unusable (fun _ => id) bad⟩, rfl⟩
    simpa [Variable.Usable, Variable.Accepts, Variable.key] using
      ⟨interval.accepted, size.accepted, timeout.accepted⟩

/-- Two values count as the same: they are equal, or both are missing or white space only. -/
def Alike (value other : Option String) : Prop :=
  value = other ∨ (∀ text ∈ value, Blanks text.toList) ∧ ∀ text ∈ other, Blanks text.toList

theorem present?_congr {key : String} (alike : Alike (lookup key) (other key)) :
    present? lookup key = present? other key := by
  have absent {lookup : String → Option String}
      (blank : ∀ text ∈ lookup key, Blanks text.toList) : present? lookup key = none := by
    rw [present?, Option.filter_eq_none_iff]
    intro text there
    simpa using Text.isBlankText_iff.mpr (blank text there)
  obtain same | ⟨blank, other_blank⟩ := alike
  · rw [present?, present?, same]
  · rw [absent blank, absent other_blank]

/-- The variables that a program reads. -/
def keys : List String :=
  [intervalKey, batchSizeKey, publishTimeoutKey, backendKey, databaseKey]

theorem load_congr (alike : ∀ key ∈ keys, Alike (lookup key) (other key)) :
    load lookup = load other := by
  have same {key : String} (member : key ∈ keys) : present? lookup key = present? other key :=
    present?_congr (alike key member)
  have reads {α : Type} {key : String} (member : key ∈ keys) (default : α)
      (read : List Char → Except ProgramError α) :
      readOr lookup key default read = readOr other key default read := by
    rw [readOr, readOr, same member]
  rw [load, load, reads (by simp [keys]), reads (by simp [keys]), reads (by simp [keys]),
    reads (by simp [keys]), same (by simp [keys])]

theorem usable_of_described {settings : Settings} (described : Describes lookup settings) :
    ∀ asked : Variable, asked.Usable lookup := by
  intro asked
  cases asked with
  | interval => exact described.workerInterval.accepted
  | batchSize => exact described.workerBatchSize.accepted
  | publishTimeout => exact described.publishTimeout.accepted
  | backend => exact described.backend.accepted

/-- A worker has a moment to wait for, and a row to claim. -/
theorem Describes.positive {settings : Settings} (described : Describes lookup settings) :
    0 < settings.workerInterval.nanoseconds ∧ 1 ≤ settings.workerBatchSize := by
  have interval := described.workerInterval
  have size := described.workerBatchSize
  unfold Stands at interval size
  constructor
  · split at interval
    · rw [interval]
      decide
    · exact interval.2
  · split at size
    · omega
    · exact size.2

theorem SpellsSpan.of_unit {raw : List Char} {span : Span} (spelled : SpellsSpan raw span) :
    ∃ value unit size, value < UInt64.size ∧ (unit, size) ∈ units ∧
      span.nanoseconds = value * size := by
  obtain ⟨_, _, _, _, small, known, length⟩ := spelled
  exact ⟨_, _, _, small, known, length⟩

/-- The interval is a number of 64 bits of one of the units. -/
theorem Describes.interval_of_unit {settings : Settings} (described : Describes lookup settings) :
    ∃ value unit size, value < UInt64.size ∧ (unit, size) ∈ units ∧
      settings.workerInterval.nanoseconds = value * size := by
  have interval := described.workerInterval
  unfold Stands at interval
  split at interval
  · rw [interval]
    exact ⟨5, [], 1000000000, by decide, by decide, rfl⟩
  · exact interval.1.of_unit

end Load

/-- Settings depend on five variables, of which a blank one counts as missing.  They are loaded
exactly if each variable can be used by itself, and then say what each of them is set to; the
publisher is given the interval, the batch size and the limit.  Otherwise the first variable that
cannot be used is reported, in the order interval, batch size, limit, backend. -/
theorem settings_are_exact (lookup : String → Option String) :
    (∀ other, (∀ key ∈ keys, Alike (lookup key) (other key)) → load lookup = load other) ∧
    ((∃ settings, load lookup = .ok settings) ↔ ∀ asked : Variable, asked.Usable lookup) ∧
    (∀ settings, load lookup = .ok settings ↔ Describes lookup settings) ∧
    (∀ settings, load lookup = .ok settings →
      (0 < settings.workerInterval.nanoseconds ∧ 1 ≤ settings.workerBatchSize) ∧
      settings.publisher =
        { interval := settings.workerInterval
          batchSize := settings.workerBatchSize
          publishTimeout := settings.publishTimeout }) ∧
    ∀ error, load lookup = .error error →
      ∃ asked reason, FirstUnusable lookup asked ∧ error = .setting asked.key reason := by
  refine ⟨fun other => load_congr, ?_, fun settings => load_eq_ok, ?_, fun error => load_refused⟩
  · constructor
    · rintro ⟨settings, loaded⟩
      exact usable_of_described (load_eq_ok.mp loaded)
    · intro usable
      cases loaded : load lookup with
      | ok settings => exact ⟨settings, rfl⟩
      | error error =>
          obtain ⟨asked, _, ⟨_, _, _, _, unusable⟩, _⟩ := load_refused loaded
          exact absurd (usable asked) unusable
  · intro settings loaded
    exact ⟨(load_eq_ok.mp loaded).positive, rfl⟩

/-- An interval with white space and leading zeros, a batch size with a sign, a blank limit, and a
backend in letters of both cases. -/
def wordyLookup (key : String) : Option String :=
  if key = intervalKey then some " 007 m\t"
  else if key = batchSizeKey then some "\t+12"
  else if key = publishTimeoutKey then some "  "
  else if key = backendKey then some "NoOp "
  else none

/-- A batch size of zero, and a backend that there is none of. -/
def brokenLookup (key : String) : Option String :=
  if key = batchSizeKey then some "+0" else if key = backendKey then some "kafka" else none

theorem wordyLookup_is_described :
    (∃ settings, load wordyLookup = .ok settings ∧ Describes wordyLookup settings ∧
      settings.workerInterval.nanoseconds = 420000000000 ∧ settings.workerBatchSize = 12) ∧
    ∃ asked reason, FirstUnusable brokenLookup asked ∧
      load brokenLookup = .error (.setting asked.key reason) ∧ asked = .batchSize := by
  constructor
  · have loaded : load wordyLookup = .ok
        { workerInterval := ⟨420000000000, by decide⟩, workerBatchSize := 12
          publishTimeout := none, backend := .noop, databaseUrl := none } := rfl
    obtain ⟨_, _, described, _⟩ := settings_are_exact wordyLookup
    exact ⟨_, loaded, (described _).mp loaded, rfl, rfl⟩
  · have refused : load brokenLookup = .error (.setting batchSizeKey "must be >= 1") := rfl
    obtain ⟨_, _, _, _, reported⟩ := settings_are_exact brokenLookup
    obtain ⟨asked, reason, first, same⟩ := reported _ refused
    refine ⟨asked, reason, first, refused.trans (congrArg _ same), ?_⟩
    have keyed : batchSizeKey = asked.key := (ProgramError.setting.inj same).1
    cases asked with
    | batchSize => rfl
    | _ => exact absurd keyed (by decide)

end Outbox.Config
