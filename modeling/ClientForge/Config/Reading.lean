/-
  The configuration in a TOML text.

  Every member may be left out, and there are no members besides the four.  In an override all
  three members are needed and others are passed over; written as an array it gives them in order.
  A text that is a configuration is still refused if the configuration has a fault.
-/
import ClientForge.Config.Basic
import ClientForge.Toml.Reader

namespace ClientForge.Config

/-- The text that a value is. -/
def text? : Toml → Option String
  | .text s => some s
  | _ => none

/-- The texts that an array holds. -/
def texts? : Toml → Option (List String)
  | .array items => items.mapM text?
  | _ => none

/-- The override of a table's entries. -/
def overrideOfEntries? (entries : Toml.Entries) : Option ExampleOverride := do
  let member (name : String) : Option String := (Toml.lookup name entries).bind text?
  pure ⟨← member "route", ← member "method", ← member "body"⟩

/-- The override that a value describes. -/
def overrideOf? : Toml → Option ExampleOverride
  | .table _ entries => overrideOfEntries? entries
  | .array (route :: method :: body :: _) => do
    pure ⟨← text? route, ← text? method, ← text? body⟩
  | _ => none

/-- The overrides that a value describes. -/
def overridesOf? : Toml → Option (List ExampleOverride)
  | .array items => items.mapM overrideOf?
  | .tables items => items.mapM overrideOfEntries?
  | _ => none

/-- What is made of a member, or the value it has when it is left out. -/
def member? {α : Type} (entries : Toml.Entries) (name : String) (default : α)
    (read : Toml → Option α) : Option α :=
  match Toml.lookup name entries with
  | some value => read value
  | none => some default

/-- The members of a configuration. -/
def memberNames : List String := ["package_name", "routes", "skip_tests", "example_overrides"]

/-- The configuration that a table describes. -/
def ofEntries? (entries : Toml.Entries) : Option Config :=
  if entries.all fun e => memberNames.contains e.1 then do
    let default : Config := {}
    pure {
      packageName := ← member? entries "package_name" default.packageName text?
      routes := ← member? entries "routes" [] texts?
      skipTests := ← member? entries "skip_tests" [] texts?
      overrides := ← member? entries "example_overrides" [] overridesOf? }
  else none

/-- The configuration of a text. -/
def ofText (text : String) : Except Fault Config :=
  match (Toml.read? text).bind ofEntries? with
  | none => .error .malformed
  | some config => match config.fault? with
    | some fault => .error fault
    | none => .ok config

example : (ofText "skip_tests = ['/a']").isOk = true := by decide +kernel
example : (ofText "routes = 5").isOk = false := by decide +kernel

end ClientForge.Config
