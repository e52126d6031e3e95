import Outbox.Bytes.Utf8
import Outbox.Text.Alphanumeric
import Outbox.Text.WhiteSpace

/-!
# Environment files

A file of lines `NAME=value` that adds variables to an environment.  A variable that is set already
keeps its value.  A line may begin with `export`; values may be quoted, and a quotation may go on
over several lines; a `#` behind white space starts a comment.  `$NAME` and `${NAME}` stand for
variables.  Reading stops without a word at the first line that breaks a rule.
-/

set_option autoImplicit false

namespace Outbox.Config

abbrev Environment := List (String × String)

def Environment.get? (environment : Environment) (name : String) : Option String :=
  (environment.find? fun entry => entry.1 = name).map (·.2)

/-- What a reference stands for.  An environment is written as entries `NAME=value`, and a reference
stands for the rest of the entry that begins with it and the sign.  So `A=B` reaches into the value
of `A`: when that is `B=C`, the reference stands for `C`. -/
def Environment.expand? (environment : Environment) (reference : List Char) : Option (List Char) :=
  environment.findSome? fun entry =>
    (reference ++ ['=']).isPrefixOf? (entry.1.toList ++ '=' :: entry.2.toList)

/-- Sets a variable that is not set. -/
def Environment.setDefault (environment : Environment) (name value : String) : Environment :=
  match environment.get? name with
  | some _ => environment
  | none => environment ++ [(name, value)]

namespace DotEnv

/-! ## Where a line ends -/

/-- Where the characters of a line stand with respect to quotations. -/
inductive LineState where
  | plain
  | blank
  | escape
  | weak
  | weakEscape
  | strong
  | strongEscape
  deriving DecidableEq, Repr

/-- The state behind a character, or none where a comment starts. -/
def LineState.next (state : LineState) (c : Char) : Option LineState :=
  let opened : LineState :=
    if c = '\\' then .escape else if c = '"' then .weak else if c = '\x27' then .strong else .plain
  match state with
  | .blank => if c = '#' then none else some opened
  | .escape => some .plain
  | .plain => some (if Text.isBlank c && c != '\n' && c != '\r' then .blank else opened)
  | .weak => some (if c = '\\' then .weakEscape else if c = '"' then .plain else .weak)
  | .weakEscape => some .weak
  | .strong => some (if c = '\\' then .strongEscape else if c = '\x27' then .plain else .strong)
  | .strongEscape => some .strong

/-- The state behind a text, and the text up to a comment. -/
def scan (state : LineState) : List Char → Option LineState × List Char
  | [] => (some state, [])
  | c :: rest =>
    match state.next c with
    | none => (none, [])
    | some state =>
      let (last, text) := scan state rest
      (last, c :: text)

/-- A line without its end. -/
def dropLineEnd (line : List Char) : List Char :=
  match line.reverse with
  | '\n' :: '\r' :: rest => rest.reverse
  | '\n' :: rest => rest.reverse
  | _ => line

/-! ## Values -/

inductive Reference where
  /-- `$NAME`, up to the first character that is neither letter nor digit of any script. -/
  | bare
  /-- `${NAME}`. -/
  | braced
  deriving DecidableEq, Repr

structure ValueState where
  /-- The value so far, in reverse order. -/
  output : List Char := []
  strong : Bool := false
  weak : Bool := false
  escaped : Bool := false
  ended : Bool := false
  commented : Bool := false
  reference : Option Reference := none
  /-- The name of the variable so far, in reverse order. -/
  name : List Char := []

namespace ValueState

def push (state : ValueState) (c : Char) : ValueState :=
  { state with output := c :: state.output }

/-- Adds what the reference stands for; a variable that is not set has no value to add. -/
def resolve (environment : Environment) (state : ValueState) : ValueState :=
  let value := (environment.expand? state.name.reverse).getD []
  { state with output := value.reverse ++ state.output, name := [] }

/-- The state behind a character within the name of a variable. -/
def nextInReference (environment : Environment) (state : ValueState) (reference : Reference)
    (c : Char) : ValueState :=
  if Text.isAlphanumeric c then { state with name := c :: state.name }
  else
    match reference with
    | .bare =>
      if c = '\x7b' ∧ state.name.isEmpty then { state with reference := some .braced }
      else
        let state := state.resolve environment
        if c = '$' then { state with reference := some .bare }
        else { state with reference := none }.push c
    | .braced =>
      if c = '\x7d' then { state with reference := none }.resolve environment
      else { state with name := c :: state.name }

/-- The state behind a character, or none where a rule is broken. -/
def next (environment : Environment) (state : ValueState) (c : Char) : Option ValueState :=
  if state.commented then some state
  else if state.ended then
    if c = ' ' ∨ c = '\t' then some state
    else if c = '#' then some { state with commented := true }
    else none
  else if state.escaped then
    let state := { state with escaped := false }
    if c = '\\' ∨ c = '\x27' ∨ c = '"' ∨ c = '$' ∨ c = ' ' then some (state.push c)
    else if c = 'n' then some (state.push '\n')
    else none
  else if state.strong then
    some (if c = '\x27' then { state with strong := false } else state.push c)
  else
    match state.reference with
    | some reference => some (state.nextInReference environment reference c)
    | none =>
      if c = '$' then some { state with reference := some .bare }
      else if state.weak then
        some <|
          if c = '"' then { state with weak := false }
          else if c = '\\' then { state with escaped := true }
          else state.push c
      else if c = '\x27' then some { state with strong := true }
      else if c = '"' then some { state with weak := true }
      else if c = '\\' then some { state with escaped := true }
      else if c = ' ' ∨ c = '\t' then some { state with ended := true }
      else some (state.push c)

end ValueState

/-- The value of a text.  No quotation and no brace may be left open. -/
def parseValue? (environment : Environment) (text : List Char) : Option String := do
  let state ← text.foldlM (ValueState.next environment) {}
  if state.reference = some .braced ∨ state.strong ∨ state.weak then none
  else some (String.ofList (state.resolve environment).output.reverse)

/-! ## Lines -/

def isNameChar (c : Char) : Bool :=
  c.isAlphanum || c == '_' || c == '.'

def parseName? (text : List Char) : Option (String × List Char) :=
  match text with
  | [] => none
  | first :: _ =>
    if first.isAlpha ∨ first = '_' then
      some (String.ofList (text.takeWhile isNameChar),
        Text.trimStart (text.dropWhile isNameChar))
    else none

/-- Reads a name and the sign behind it.  The word `export` may come first, unless it is itself the
name. -/
def parseTarget? (text : List Char) : Option (String × List Char) := do
  let (name, rest) ← parseName? text
  match rest with
  | '=' :: rest => some (name, rest)
  | _ =>
    if name = "export" then
      let (name, rest) ← parseName? rest
      match rest with
      | '=' :: rest => some (name, rest)
      | _ => none
    else none

inductive Line where
  | empty
  | assignment (name value : String)
  | broken
  deriving DecidableEq, Repr

/-- Nothing but a comment is left. -/
def isSilent (text : List Char) : Bool :=
  text.isEmpty || text.head? == some '#'

def parseLine (environment : Environment) (line : List Char) : Line :=
  let text := Text.trimStart (Text.trimEnd line)
  if isSilent text then .empty
  else
    match parseTarget? text with
    | none => .broken
    | some (name, rest) =>
      let rest := Text.trimStart rest
      if isSilent rest then .assignment name ""
      else
        match parseValue? environment rest with
        | some value => .assignment name value
        | none => .broken

/-! ## Files -/

/-- Cuts bytes behind every line feed.  The bytes `line` were read before and stand in reverse
order. -/
def splitLines (line : Bytes) : Bytes → List Bytes
  | [] => if line.isEmpty then [] else [line.reverse]
  | byte :: rest =>
    if byte = 0x0A then (byte :: line).reverse :: splitLines [] rest
    else splitLines (byte :: line) rest

/-- Loads lines.  The text `pending` is the part of a line that was read before. -/
def loadLines (environment : Environment) (pending : List Char) (state : LineState) :
    List Bytes → Environment
  | [] => environment
  | bytes :: rest =>
    match Utf8.decode? bytes with
    | none => environment
    | some part =>
      let text := pending ++ part
      if (Text.trimStart text).head? = some '#' then loadLines environment [] .plain rest
      else
        let (last, kept) := scan state part
        match last with
        | some .plain =>
          match parseLine environment (dropLineEnd text) with
          | .empty => loadLines environment [] .plain rest
          | .assignment name value =>
            loadLines (environment.setDefault name value) [] .plain rest
          | .broken => environment
        | none =>
          match parseLine environment (pending ++ kept) with
          | .empty => loadLines environment [] .plain rest
          | .assignment name value =>
            loadLines (environment.setDefault name value) [] .plain rest
          | .broken => environment
        | some state => loadLines environment text state rest

/-- Loads the bytes of a file, which may begin with a byte order mark. -/
def load (environment : Environment) (file : Bytes) : Environment :=
  let content := match file with
    | 0xEF :: 0xBB :: 0xBF :: rest => rest
    | _ => file
  loadLines environment [] .plain (splitLines [] content)

/-- The longest parts of a text with characters of one class. -/
def parts (belongs : Char → Bool) (text : List Char) : List String :=
  ((text.splitBy fun a b => belongs a == belongs b).filter fun part =>
    part.any belongs).map String.ofList

/-- The names that a text may mention: the names of its lines, what can follow a bare sign, and what
can stand in braces. -/
def names (text : List Char) : List String :=
  parts isNameChar text ++ parts Text.isAlphanumeric text ++
    parts (fun c => c != '\x7b' && c != '\x7d') text

end DotEnv

end Outbox.Config
