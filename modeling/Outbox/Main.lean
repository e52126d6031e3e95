import Outbox.Demo

/-!
# The demonstration as a program

Reads the environment and the file `.env` of the working directory, or of the nearest directory
above it that has one.  Says what the demonstration says, when it says it.
-/

set_option autoImplicit false

namespace Outbox.Terminal

def readVariables (names : List String) : IO Config.Environment := do
  let mut environment : Config.Environment := []
  for name in names do
    match ← IO.getEnv name with
    | some value => environment := environment.setDefault name value
    | none => pure ()
  return environment

/-- The bytes of the file `.env` in a directory, or so many directories above it. -/
def readEnvironmentFile (directory : String) : Nat → IO Bytes
  | 0 => pure []
  | levels + 1 => do
    try
      let content ← IO.FS.readBinFile (directory ++ ".env")
      return content.toList
    catch _ => readEnvironmentFile (directory ++ "../") levels

/-- The number of directories on the way to the working directory. -/
def workingDepth : IO Nat := do
  let directory ← IO.currentDir
  return directory.toString.toList.count '/' + 1

/-- The bits of an identifier that say that it is random. -/
def randomMark : Nat := 0x00000000000040008000000000000000

def randomBits : Nat := 0xffffffffffff0fff3fffffffffffffff

def randomId : IO Uuid := do
  let bytes ← IO.getRandomBytes 16
  let value := bytes.toList.foldl (fun value byte => value * 256 + byte.toNat) 0
  return ⟨(value &&& randomBits ||| randomMark) % uuidCount, Nat.mod_lt _ (by decide)⟩

def fieldText : String × Demo.Field → String
  | (name, .number value) => " " ++ name ++ "=" ++ toString value
  | (name, .text value) => " " ++ name ++ "=" ++ value

def say (notices : List Demo.Notice) : IO Unit := do
  for notice in notices do
    let line := notice.line
    let level := if line.isWarning then "WARN " else "INFO "
    IO.println (level ++ line.message ++ String.join (line.fields.map fieldText))

/-- Sleeps for some milliseconds, an hour at most at a time. -/
def sleep (milliseconds : Nat) : IO Unit := do
  let hour := 3600000
  for _ in [0:milliseconds / hour] do
    IO.sleep hour.toUInt32
  IO.sleep (milliseconds % hour).toUInt32

/-- Runs the demonstration; the exit code of a failure is 1, and that of a panic is 101.  The
demonstration shows no time, so its clock stands still.  It shows entries of one moment by their
ids, so these come in order. -/
def run : IO UInt32 := do
  let file ← readEnvironmentFile "" (← workingDepth)
  let known := [Config.intervalKey, Config.batchSizeKey, Config.publishTimeoutKey,
    Config.backendKey, Config.databaseKey]
  let mentioned := Config.DotEnv.names ((Utf8.decode? file).getD [])
  let environment ← readVariables (known ++ mentioned)
  let ids ← Demo.fruits.mapM fun _ => randomId
  let ordered := ids.mergeSort fun a b => decide (a ≤ b)
  match Demo.start environment file .epoch fun number => ordered.getD number default with
  | .panicked opening reason =>
    say opening
    IO.eprintln reason
    return 101
  | .ended account =>
    say account.opening
    sleep account.duration
    say account.closing
    match account.failure with
    | none => return 0
    | some error =>
      IO.eprintln ("Error: " ++ error.message)
      return 1

end Outbox.Terminal

def main : IO UInt32 := Outbox.Terminal.run
