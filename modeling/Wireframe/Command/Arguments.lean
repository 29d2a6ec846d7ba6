import Wireframe.Command.Basic
import Wireframe.Text.Natural

/-!
# Command lines

* **Words** (`Word`): an argument is a long option, short flags, the end mark, or a plain word.
* **Reading** (`Form.read`): options and their values are taken one by one; an option waits for its value, and is
  settled when the next one comes.
* **Trees** (`ofArguments`): a command may have commands below it.
-/

namespace Wireframe

/-- Why arguments are no command. -/
inductive UsageError where
  | help
  | helpForMissing
  | missingCommand
  | unknownCommand
  | missingRequired
  | unknownArgument
  | invalidValue
  | conflict
  | tooManyValues
  | badNumber
deriving DecidableEq

def UsageError.name : UsageError → String
  | help => "DisplayHelp"
  | helpForMissing => "DisplayHelpOnMissingArgumentOrSubcommand"
  | missingCommand => "MissingSubcommand"
  | unknownCommand => "InvalidSubcommand"
  | missingRequired => "MissingRequiredArgument"
  | unknownArgument => "UnknownArgument"
  | invalidValue => "InvalidValue"
  | conflict => "ArgumentConflict"
  | tooManyValues => "TooManyValues"
  | badNumber => "ValueValidation"

namespace Arguments

/-! ## Words -/

/-- An argument by its shape. -/
inductive Word where
  /-- A name after two dashes, perhaps with a value after an equals sign. -/
  | long (name : String) (value : Option String)
  /-- Letters after one dash. -/
  | short (letters : List Char)
  /-- Two dashes: only plain words follow. -/
  | endMark
  | plain (text : String)
deriving DecidableEq

/-- The shape of an argument; a dash alone is a plain word. -/
def Word.of (arg : String) : Word :=
  match arg.toList with
  | ['-', '-'] => .endMark
  | '-' :: '-' :: s =>
    let name := String.ofList (s.takeWhile (· ≠ '='))
    match s.dropWhile (· ≠ '=') with
    | [] => .long name none
    | _ :: value => .long name (some (String.ofList value))
  | '-' :: c :: s => .short (c :: s)
  | _ => .plain arg

/-! ## Forms -/

/-- What the value of an option has to be. -/
inductive ValueRule where
  | anyText
  | path
  | format
  | number
deriving DecidableEq

def ValueRule.check : ValueRule → String → Except UsageError Unit
  | anyText, _ => .ok ()
  | path, s => if s.isEmpty then .error .invalidValue else .ok ()
  | format, s => if s = OutputFormat.text.name ∨ s = OutputFormat.json.name then .ok () else .error .invalidValue
  | number, s => if (Text.natural64? s.toList).isSome then .ok () else .error .badNumber

/-- The options of a command: each has a value or, without a rule, is a flag. -/
structure Form where
  options : List (String × Option ValueRule)
  /-- The plain word of a command, if it has one. -/
  positional : Option (String × ValueRule)
  required : List String

/-- Arguments taken so far. -/
structure Taken where
  values : List (String × String)
  /-- An option that has its value or waits for it. -/
  pending : Option (String × ValueRule × Option String)
  /-- Whether the next plain word is the value of the pending option. -/
  waiting : Bool
  /-- Whether only plain words follow. -/
  plainOnly : Bool
  /-- Whether the plain word of the command was taken. -/
  positionalTaken : Bool

def Taken.none : Taken := ⟨[], .none, false, false, false⟩

/-- A value taken for an option that has none yet. -/
def Taken.put (t : Taken) (name : String) (rule : Option ValueRule) (value : String) : Except UsageError Taken :=
  if (t.values.lookup name).isSome then .error .conflict
  else
    match rule with
    | some r =>
      match r.check value with
      | .ok () => .ok { t with values := t.values ++ [(name, value)] }
      | .error e => .error e
    | .none => .ok { t with values := t.values ++ [(name, value)] }

/-- The pending option is settled: it needs a value by now. -/
def Taken.settle (t : Taken) : Except UsageError Taken :=
  match t.pending with
  | .none => .ok { t with waiting := false }
  | some (_, _, .none) => .error .invalidValue
  | some (name, rule, some value) => ({ t with pending := .none, waiting := false } : Taken).put name (some rule) value

def verboseName : String := "verbose"

/-- The options of a form and those of every command. -/
def Form.lookup? (f : Form) (name : String) : Option (Option ValueRule) :=
  if name = verboseName then some .none else f.options.lookup name

def Form.take (f : Form) (t : Taken) (arg : String) : Except UsageError Taken :=
  match t.plainOnly, Word.of arg with
  | false, .endMark => .ok { t with plainOnly := true }
  | false, .long name value =>
    if name = "help" then
      match value with
      | some _ => .error .tooManyValues
      | .none => t.settle.bind fun _ => .error .help
    else
      match f.lookup? name, value with
      | .none, _ => .error .unknownArgument
      | some .none, some _ => .error .tooManyValues
      | some .none, .none => t.settle.bind fun t => t.put name .none "true"
      | some (some rule), some v => t.settle.bind fun t => t.put name (some rule) v
      | some (some rule), .none => t.settle.map fun t => { t with pending := some (name, rule, .none), waiting := true }
  | false, .short letters =>
    if letters.head? = some 'h' then t.settle.bind fun _ => .error .help else .error .unknownArgument
  | plainOnly, _ =>
    match plainOnly || !t.waiting, t.pending with
    | false, some (name, rule, _) => .ok { t with pending := some (name, rule, some arg), waiting := false }
    | _, _ =>
      match f.positional, t.positionalTaken with
      | some (name, rule), false =>
        t.settle.map fun t => { t with pending := some (name, rule, some arg), positionalTaken := true }
      | _, _ => .error .unknownArgument

/-- The values that arguments give for a form. -/
def Form.read (f : Form) (args : List String) : Except UsageError (List (String × String)) := do
  let t ← args.foldlM f.take Taken.none
  let t ← t.settle
  if f.required.all fun n => (t.values.lookup n).isSome then return t.values else .error .missingRequired

/-! ## Commands -/

def storeOptions : List (String × Option ValueRule) := [("config", some .path), ("history", some .path)]

def planOptions : List (String × Option ValueRule) :=
  [("prompt", some .anyText), ("previous", some .path), ("model", none), ("format", some .format)] ++ storeOptions

def flag (vs : List (String × String)) (name : String) : Bool := (vs.lookup name).isSome

def formatOf (vs : List (String × String)) : OutputFormat :=
  if vs.lookup "format" = some OutputFormat.json.name then .json else .text

/-- A value that a form requires. -/
def need (vs : List (String × String)) (name : String) : String := (vs.lookup name).getD ""

def planOptionsOf (vs : List (String × String)) : PlanOptions where
  prompt := need vs "prompt"
  previous := vs.lookup "previous"
  model := flag vs "model"
  config := vs.lookup "config"
  history := vs.lookup "history"
  format := formatOf vs

/-- A command with its form. -/
structure Leaf where
  form : Form
  command : List (String × String) → Command

def leaves : List (String × Leaf) := [
  ("plan", ⟨⟨planOptions, none, ["prompt"]⟩, fun vs => .plan (planOptionsOf vs)⟩),
  ("generate", ⟨⟨[("plan", some .path), ("module", none), ("config", some .path)], none, ["plan"]⟩,
    fun vs => .generate (need vs "plan") (flag vs "module") (vs.lookup "config")⟩),
  ("explain", ⟨⟨[("plan", some .path), ("prompt", some .anyText), ("config", some .path)], none, ["plan", "prompt"]⟩,
    fun vs => .explain (need vs "plan") (need vs "prompt") (vs.lookup "config")⟩),
  ("build", ⟨⟨("module", none) :: planOptions, none, ["prompt"]⟩,
    fun vs => .build (planOptionsOf vs) (flag vs "module")⟩),
  ("diff", ⟨⟨[("before", some .path), ("after", some .path), ("format", some .format)], none, ["before", "after"]⟩,
    fun vs => .diff (need vs "before") (need vs "after") (formatOf vs)⟩)]

def historyLeaves : List (String × Leaf) := [
  ("list", ⟨⟨("format", some .format) :: storeOptions, none, []⟩,
    fun vs => .historyList (vs.lookup "history") (vs.lookup "config") (formatOf vs)⟩),
  ("show", ⟨⟨storeOptions, some ("version", .number), ["version"]⟩,
    fun vs => .historyShow ((Text.natural64? (need vs "version").toList).getD 0) (vs.lookup "history")
      (vs.lookup "config")⟩)]

def Leaf.read (l : Leaf) (verbose : Bool) (args : List String) : Except UsageError Invocation := do
  let vs ← l.form.read args
  return ⟨verbose || flag vs verboseName, l.command vs⟩

/-- A level of commands: what stands below each name. -/
abbrev Level := List (String × (Bool → List String → Except UsageError Invocation))

/-- Arguments before the name of a command at a level; `help` reads what follows a request for help. -/
def readLevel (level : Level) (help : List String → UsageError) (outer : Bool) :
    Bool → Bool → List String → Except UsageError Invocation
  | verbose, _, [] => .error (if verbose then .missingCommand else .helpForMissing)
  | verbose, plainOnly, arg :: args =>
    if plainOnly then
      .error (if arg = "help" ∨ (level.lookup arg).isSome then .unknownArgument else .unknownCommand)
    else
      match level.lookup arg with
      | some read => read (outer || verbose) args
      | none =>
        if arg = "help" then .error (help args)
        else
          match Word.of arg with
          | .endMark => readLevel level help outer verbose true args
          | .long name value =>
            if name = verboseName ∨ name = "help" then
              if value.isSome then .error .tooManyValues
              else if name = "help" then .error .help
              else if verbose then .error .conflict
              else readLevel level help outer true false args
            else .error .unknownArgument
          | .short letters => .error (if letters.head? = some 'h' then .help else .unknownArgument)
          | .plain _ => .error .unknownCommand

def historyName : String := "history"

/-- A request for help names a command or nothing, or asks for help with help. -/
def helpBelow (names : List String) : List String → UsageError
  | [] => .help
  | [n] => if names.contains n ∨ n = "help" then .help else .unknownCommand
  | _ => .unknownCommand

/-- A request for help at the top, where the history has commands of its own. -/
def helpAtTop : List String → UsageError
  | n :: ns =>
    if n = historyName then helpBelow (historyLeaves.map (·.1)) ns else helpBelow (leaves.map (·.1)) (n :: ns)
  | [] => .help

def levelOf (ls : List (String × Leaf)) : Level := ls.map fun l => (l.1, l.2.read)

def readHistory (outer : Bool) (args : List String) : Except UsageError Invocation :=
  readLevel (levelOf historyLeaves) (helpBelow (historyLeaves.map (·.1))) outer false false args

end Arguments

/-- The invocation that arguments spell. -/
def Invocation.ofArguments (args : List String) : Except UsageError Invocation :=
  Arguments.readLevel (Arguments.levelOf Arguments.leaves ++ [(Arguments.historyName, Arguments.readHistory)])
    Arguments.helpAtTop false false false args

end Wireframe
