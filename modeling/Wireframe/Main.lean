import Wireframe.Command.Arguments
import Wireframe.Command.Run

/-!
# The program

* **The host**: commands read and append to the files of the machine and see its environment. No model is asked.
* **The program** (`main`): the command that the arguments spell is run. Its text goes to standard output; the message
  of a failure goes to standard error, with 1 as the exit code, and a usage error has 2.
-/

namespace Wireframe

/-- The number and the text of a failure of the machine. -/
def systemFailure : IO.Error → UInt32 × String
  | .alreadyExists _ c s | .invalidArgument _ c s | .permissionDenied _ c s | .resourceExhausted _ c s
  | .inappropriateType _ c s | .noSuchThing _ c s | .interrupted _ c s | .noFileOrDirectory _ c s
  | .otherError c s | .resourceBusy c s | .resourceVanished c s | .unsupportedOperation c s | .hardwareFault c s
  | .unsatisfiedConstraints c s | .illegalOperation c s | .protocolError c s | .timeExpired c s => (c, s)
  | .unexpectedEof => (0, "unexpected end of file")
  | .userError s => (0, s)

def FileError.ofSystem (e : IO.Error) : FileError :=
  match systemFailure e with
  | (2, _) => .notFound
  | (20, _) => .notDirectory
  | (21, _) => .isDirectory
  | (36, _) => .nameTooLong
  | (c, s) => .other (s ++ " (os error " ++ Text.decimal c.toNat ++ ")")

/-- An action on a file, unless its name cannot be one. -/
def withName {α : Type} (path : String) (act : IO (Except FileError α)) : IO (Except FileError α) :=
  if path.contains '\x00' then return .error .nullInName else act

instance : Host IO where
  readFile path := withName path do
    let read : IO ByteArray := do
      let file ← IO.FS.Handle.mk ⟨path⟩ .read
      file.readBinToEnd
    match ← read.toBaseIO with
    | .error e => return .error (.ofSystem e)
    | .ok bytes =>
      match String.fromUTF8? bytes with
      | some s => return .ok s
      | none => return .error .notText
  appendFile path text := withName path do
    let write : IO Unit := do
      let file ← IO.FS.Handle.mk ⟨path⟩ .append
      file.putStr text
      file.flush
    match ← write.toBaseIO with
    | .error e => return .error (.ofSystem e)
    | .ok () => return .ok ()
  getVariable name := if name.contains '\x00' then return none else IO.getEnv name
  askModel _ _ _ := return none

def usage : String :=
  "usage: wireframe [--verbose] <plan|generate|explain|build|diff|history list|history show> [options]"

end Wireframe

/-- Runs the command that the arguments spell. -/
def main (args : List String) : IO UInt32 := do
  match Wireframe.Invocation.ofArguments args with
  | .error .help =>
    IO.println Wireframe.usage
    return 0
  | .error e =>
    IO.eprintln ("error: " ++ e.name ++ "\n" ++ Wireframe.usage)
    return 2
  | .ok i =>
    match ← (i.command.run.run : IO _) with
    | .ok text =>
      IO.println text
      return 0
    | .error e =>
      IO.eprintln e.message
      return 1
