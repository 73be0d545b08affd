/-
  Reading documents from text.

  A text is read in the language of its format, and then as what it should be: a document, a
  schema, or payloads.  What went wrong is not kept, only in which language.
-/
import ClientForge.Failure
import ClientForge.Yaml.Composer

namespace ClientForge

/-- Reads a text in a format. -/
def Format.read? (format : Format) (text : String) : Option Source :=
  match format with
  | .json => Json.read? text
  | .yaml => Yaml.read? text

/-- Reads a text in a format as what `view` makes of it. -/
def Format.parse {α : Type} (format : Format) (view : Source → Option α) (text : String) :
    Except Failure α :=
  match (format.read? text).bind view with
  | some value => .ok value
  | none => .error (.parse format)

/-- The document of a text. -/
def Document.ofText (format : Format) (text : String) : Except Failure Document :=
  format.parse Source.document? text

end ClientForge
