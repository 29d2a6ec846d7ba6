/-!
# Commands

* **Commands** (`Command`): what a user can ask for, with its options.
* **Invocations** (`Invocation`): a command, and whether decisions are logged.
-/

namespace Wireframe

inductive OutputFormat where
  | text
  | json
deriving DecidableEq

def OutputFormat.name : OutputFormat → String
  | text => "text"
  | json => "json"

structure PlanOptions where
  prompt : String
  /-- The file of the last plan. -/
  previous : Option String
  /-- Whether the language model is asked. -/
  model : Bool
  /-- The settings file. -/
  config : Option String
  /-- The file of the history. -/
  history : Option String
  format : OutputFormat
deriving DecidableEq

/-- What a user can ask for. -/
inductive Command where
  /-- Make a plan. -/
  | plan (options : PlanOptions)
  /-- Write the markup of the plan in a file. -/
  | generate (plan : String) (asModule : Bool) (config : Option String)
  /-- Explain the plan in a file. -/
  | explain (plan prompt : String) (config : Option String)
  /-- Make a plan with its markup and explanation. -/
  | build (options : PlanOptions) (asModule : Bool)
  /-- Compare the plans in two files. -/
  | diff (before after : String) (format : OutputFormat)
  /-- List the versions of the history. -/
  | historyList (history config : Option String) (format : OutputFormat)
  /-- Show the plan of a version of the history. -/
  | historyShow (version : Nat) (history config : Option String)
deriving DecidableEq

/-- A command, and whether decisions are logged. -/
structure Invocation where
  verbose : Bool
  command : Command
deriving DecidableEq

end Wireframe
