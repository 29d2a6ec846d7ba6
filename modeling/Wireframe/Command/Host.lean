import Wireframe.Text.Lines

/-!
# What commands need from outside

* **Failures of files** (`FileError`): why a file cannot be read or written.
* **Hosts** (`Host`): reading and appending files, variables of the environment, and asking a model.
* **A directory** (`Directory`): a host that is a value, with files by name, on which commands can be run and reasoned
  about.
-/

namespace Wireframe

/-- Why a file cannot be read or written. -/
inductive FileError where
  | notFound
  | notDirectory
  | isDirectory
  | nameTooLong
  /-- No file has this character in its name. -/
  | nullInName
  /-- The bytes of the file are no text. -/
  | notText
  | other (text : String)
deriving DecidableEq

def FileError.message : FileError → String
  | notFound => "No such file or directory (os error 2)"
  | notDirectory => "Not a directory (os error 20)"
  | isDirectory => "Is a directory (os error 21)"
  | nameTooLong => "File name too long (os error 36)"
  | nullInName => "file name contained an unexpected NUL byte"
  | notText => "stream did not contain valid UTF-8"
  | other s => s

/-- What commands need from outside. -/
class Host (m : Type → Type) where
  /-- The text of a file. -/
  readFile : String → m (Except FileError String)
  /-- A text is written after the text of a file, or into a new file. -/
  appendFile : String → String → m (Except FileError Unit)
  /-- A variable of the environment. -/
  getVariable : String → m (Option String)
  /-- The answer of the model under an address, by its name, to a text; nothing if it cannot be asked. -/
  askModel : String → String → String → m (Option String)

inductive Content where
  | text (value : String)
  | bytes (value : List UInt8)
deriving DecidableEq

/-- Files by name in one directory, and an environment. -/
structure Directory where
  files : List (String × Content)
  environment : List (String × String)

namespace Directory

/-! ## Paths -/

inductive Target where
  /-- The directory itself. -/
  | inside
  /-- A directory above it. -/
  | above
  /-- A name in the directory, whether there is a file or not. -/
  | name (name : String)

/-- The parts of a path between slashes. -/
def parts (path : String) : List String :=
  ((Text.splitOn '/' path.toList).filter fun p => !p.isEmpty).map String.ofList

/-- How many bytes a part of a path may have. -/
def maxName : Nat := 255

/-- How many bytes a path may have. -/
def maxPath : Nat := 4095

/-- Why nothing can be found below a name: files hold no other files. -/
def below (d : Directory) (name : String) : FileError :=
  if (d.files.lookup name).isSome then .notDirectory else .notFound

/-- Where one more part of a path leads. What is in the directories above is not known here. -/
def follow (d : Directory) (target : Target) (part : String) : Except FileError Target :=
  match target with
  | .name n => .error (d.below n)
  | .inside =>
    if part = "." then .ok .inside
    else if part = ".." then .ok .above
    else if maxName < part.utf8ByteSize then .error .nameTooLong
    else .ok (.name part)
  | .above =>
    if part = "." ∨ part = ".." then .ok .above
    else if maxName < part.utf8ByteSize then .error .nameTooLong
    else .error .notFound

/-- Where a path leads in a directory that holds files only. -/
def target (d : Directory) (path : String) : Except FileError Target :=
  if path.contains '\x00' then .error .nullInName
  else if path.isEmpty then .error .notFound
  else if maxPath < path.utf8ByteSize then .error .nameTooLong
  else (parts path).foldlM d.follow (if path.toList.head? = some '/' then .above else .inside)

def endsWithSlash (path : String) : Bool := path.toList.getLast? == some '/'

/-! ## Files -/

def read (d : Directory) (path : String) : Except FileError String := do
  match ← d.target path with
  | .name n =>
    match d.files.lookup n with
    | none => .error .notFound
    | some c =>
      if endsWithSlash path then .error .notDirectory
      else
        match c with
        | .text s => .ok s
        | .bytes _ => .error .notText
  | _ => .error .isDirectory

/-- Files with the content of one name changed, or a new file at the end. -/
def putFile (name : String) (content : Content) : List (String × Content) → List (String × Content)
  | [] => [(name, content)]
  | f :: fs => if f.1 = name then (name, content) :: fs else f :: putFile name content fs

def appendContent (c : Option Content) (s : String) : Content :=
  match c with
  | none => .text s
  | some (.text t) => .text (t ++ s)
  | some (.bytes bs) => .bytes (bs ++ s.toUTF8.toList)

/-- The directory after a text is written at the end of a file. -/
def append (d : Directory) (path text : String) : Except FileError Directory := do
  match ← d.target path with
  | .name n =>
    let old := d.files.lookup n
    if endsWithSlash path then .error (if old.isSome then .notDirectory else .isDirectory)
    else .ok { d with files := putFile n (appendContent old text) d.files }
  | _ => .error .isDirectory

/-! ## Variables -/

def dropBeginning? (beginning text : List Char) : Option (List Char) :=
  if beginning.isPrefixOf text then some (text.drop beginning.length) else none

/-- A variable of the environment: what follows its name and an equals sign in the first entry that begins so. -/
def getVariable (d : Directory) (name : String) : Option String :=
  if name.isEmpty then none
  else d.environment.findSome? fun (n, v) =>
    (dropBeginning? (name.toList ++ ['=']) (n.toList ++ '=' :: v.toList)).map String.ofList

end Directory

/-- Commands that run in a directory. No model can be asked there. -/
instance : Host (StateM Directory) where
  readFile path := fun d => (d.read path, d)
  appendFile path text := fun d =>
    match d.append path text with
    | .ok d' => (.ok (), d')
    | .error e => (.error e, d)
  getVariable name := fun d => (d.getVariable name, d)
  askModel _ _ _ := fun d => (none, d)

end Wireframe
