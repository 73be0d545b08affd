/-
  Sets of templates: the static files of a generated crate.

  A file whose name has the template ending is rendered and loses the ending; every other file is
  copied.  The files are taken in the order of their names and then of their texts.
-/
import ClientForge.Template.Basic

namespace ClientForge.Template

/-- What goes into templates. -/
structure Values where
  packageName : String
  baseUrl : String
  /-- The address as it stands between the quotes of a text literal. -/
  baseUrlLiteral : String
  title : String
  version : String
deriving Inhabited

/-- The variables of the values. -/
def Values.context (values : Values) : Context :=
  [("package_name", values.packageName), ("base_url", values.baseUrl),
    ("base_url_literal", values.baseUrlLiteral), ("api_title", values.title),
    ("api_version", values.version)]

/-- Whether an entry comes no later than another. -/
def entryLe (a b : String × String) : Bool := a.1 < b.1 || (a.1 == b.1 && a.2 ≤ b.2)

/-- A list of entries in order, with one put at its place. -/
def insertEntry (entry : String × String) : List (String × String) → List (String × String)
  | [] => [entry]
  | other :: rest =>
    if entryLe entry other then entry :: other :: rest else other :: insertEntry entry rest

/-- The entries in order. -/
def sortEntries (entries : List (String × String)) : List (String × String) :=
  entries.foldr insertEntry []

/-- The ending of templates. -/
def ending : String := ".jinja2"

/-- The file that an entry gives. -/
def rendered? (context : Context) (entry : String × String) : Option (String × String) :=
  match Text.dropEnd? ending.toList entry.1.toList with
  | some target => (render? context entry.2).map fun text => (String.ofList target, text)
  | none => some entry

/-- The files that a set gives. -/
def renderSet? (values : Values) (entries : List (String × String)) :
    Option (List (String × String)) :=
  (sortEntries entries).mapM (rendered? values.context)

end ClientForge.Template
