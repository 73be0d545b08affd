/-
  The tokens of YAML.

  Blocks have no brackets in the text; where a line begins further right or left than the one
  before, tokens that open and close them are put in.  A key without a mark is known as one only
  when its colon is met, so the tokens for it are put in behind where it began.
-/
import ClientForge.Document.Node

namespace ClientForge.Yaml

/-- A token. -/
inductive Token where
  | versionDirective (major minor : Nat)
  /-- A handle and what it stands for. -/
  | tagDirective (handle meaning : String)
  | documentStart
  | documentEnd
  | blockSequenceStart
  | blockMappingStart
  | blockEnd
  | flowSequenceStart
  | flowSequenceEnd
  | flowMappingStart
  | flowMappingEnd
  /-- The hyphen before an item of a block. -/
  | blockEntry
  /-- The comma behind an item in brackets. -/
  | flowEntry
  | key
  | value
  /-- Another mention of an anchored node. -/
  | mention (name : String)
  | anchor (name : String)
  | tag (handle ending : String)
  | scalar (text : String) (style : Style)
deriving DecidableEq, Repr, Inhabited

end ClientForge.Yaml
