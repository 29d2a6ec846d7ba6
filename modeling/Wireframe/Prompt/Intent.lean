import Wireframe.Json.Decode

/-!
# What a prompt asks for

* **Intents** (`Intent`): the kind of page that a prompt is about.
* **Actions** (`Action`): whether it makes a new plan or changes the last one.
-/

namespace Wireframe

/-- The kind of page that a prompt is about. -/
inductive Intent where
  | login
  | register
  | form
  | dashboard
  | search
  | profile
  | settings
  | list
  | landing
  | modal
  | contact
  | default
deriving DecidableEq, Repr

/-- Whether a prompt makes a plan or changes one. -/
inductive Action where
  | create
  | edit
deriving DecidableEq, Repr

namespace Intent

def all : List Intent :=
  [login, register, form, dashboard, search, profile, settings, list, landing, modal, contact, default]

def name : Intent → String
  | login => "login"
  | register => "register"
  | form => "form"
  | dashboard => "dashboard"
  | search => "search"
  | profile => "profile"
  | settings => "settings"
  | list => "list"
  | landing => "landing"
  | modal => "modal"
  | contact => "contact"
  | default => "default"

def decode : Json.Decoder Intent := (Json.names all name).decode

end Intent

def Action.name : Action → String
  | create => "create"
  | edit => "edit"

/-- What a prompt asks for. -/
structure Classification where
  action : Action
  intent : Intent
deriving DecidableEq

def Classification.toJson (c : Classification) : Json :=
  .obj [("action", .str c.action.name), ("intent", .str c.intent.name)]

end Wireframe
