/-
  A whole run of the program.

  The configuration comes before the document, both before anything is made, and nothing is
  written unless everything is made.  A crate that is written counts as a success even if trying
  it out fails.
-/
import ClientForge.CommandLine.Arguments
import ClientForge.Config.Reading
import ClientForge.Document.Loading
import ClientForge.Log.Filter
import ClientForge.Log.Generation
import ClientForge.Template.Embedded
import ClientForge.Verification

namespace ClientForge.CommandLine

/-- What a run finds around it. -/
structure Surroundings where
  tree : FileTree
  /-- The place that paths start from. -/
  here : List String
  /-- What is set about notices. -/
  logSetting : Option String := none
  /-- The program that tries a crate out. -/
  program : Option String := none

/-- What a run leaves behind. -/
structure Outcome where
  exit : Nat
  stdout : String := ""
  notices : List Log.Notice := []
  tree : FileTree

/-! ## Making and writing a crate -/

/-- The configuration of a run. -/
def loadConfig (around : Surroundings) (options : Options) : Except Failure Config :=
  match options.config with
  | none => .ok {}
  | some path => match around.tree.read around.here path with
    | .error failure => .error failure
    | .ok text => match Config.ofText text with
      | .ok config => .ok config
      | .error fault => .error (.config fault)

/-- What comes of making a crate: the notices, and its files if all went well. -/
def make (around : Surroundings) (options : Options) :
    List Log.Notice × Except Failure FileSet :=
  match loadConfig around options with
  | .error failure => ([], .error failure)
  | .ok config =>
    let first : List Log.Notice := if options.config.isSome then [⟨.config, .debug⟩] else []
    match Document.load around.tree around.here options.document with
    | .error failure => (first, .error failure)
    | .ok doc =>
      (first ++ [⟨.files, .info⟩] ++ Log.generationNotices doc config Template.embedded,
        Sdk.generate doc config Template.embedded)

/-- Makes a crate and writes it. -/
def produce (around : Surroundings) (options : Options) :
    List Log.Notice × FileTree × Except Failure Unit :=
  match make around options with
  | (notices, .error failure) => (notices, around.tree, .error failure)
  | (notices, .ok files) =>
    let writing := around.tree.write around.here options.out files
    let each : List Log.Notice := List.replicate writing.count ⟨.files, .debug⟩
    let last : List Log.Notice := if writing.result.isOk then [⟨.files, .info⟩, ⟨.program, .info⟩]
      else []
    (notices ++ each ++ last, writing.tree, writing.result)

/-! ## Trying it out -/

/-- Tries a crate out if that is asked for. -/
def tryOut (around : Surroundings) (options : Options) (tree : FileTree) :
    List Log.Notice × FileTree :=
  if options.verify then
    match Verification.run around.program around.here options.out tree with
    | (tree, .ok ()) => ([⟨.files, .info⟩, ⟨.files, .info⟩], tree)
    | (tree, .error _) => ([⟨.files, .info⟩, ⟨.program, .error⟩], tree)
  else ([], tree)

/-! ## The whole -/

/-- Does what options ask for. -/
def perform (around : Surroundings) (options : Options) : Outcome :=
  match produce around options with
  | (notices, tree, .error _) =>
    { exit := 1, notices := notices ++ [⟨.program, .error⟩], tree }
  | (notices, tree, .ok ()) =>
    let (more, tree) := tryOut around options tree
    { exit := 0, notices := notices ++ more, tree }

/-- What is printed when the version is asked for. -/
def versionText : String := "openapi-sdkgen 0.1.0\n"

/-- What is printed when help is asked for. -/
def helpText : String :=
  "Generate a typed Rust client crate from an OpenAPI 3.x document

Usage: openapi-sdkgen [OPTIONS] <SPEC>

Arguments:
  <SPEC>  OpenAPI document (.json, .yaml or .yml)

Options:
  -o, --out <DIR>      Directory the SDK crate is written to [default: sdk]
  -c, --config <FILE>  Generator configuration (TOML)
      --verify         Run \x60cargo test\x60 on the generated crate afterwards
  -v, --verbose...     Increase log verbosity (-v debug, -vv trace)
  -h, --help           Print help
  -V, --version        Print version
"

/-- Runs the program with arguments. -/
def run (args : List String) (around : Surroundings) : Outcome :=
  match request? args with
  | none => { exit := 2, tree := around.tree }
  | some .help => { exit := 0, stdout := helpText, tree := around.tree }
  | some .version => { exit := 0, stdout := versionText, tree := around.tree }
  | some (.run options) => perform around options

/-- The variable whose value is the setting about notices. -/
def logVariable : String := "OPENAPI_SDKGEN_LOG"

/-- The notices that are shown for arguments. -/
def shownNotices (args : List String) (around : Surroundings) (notices : List Log.Notice) :
    List Log.Notice :=
  match request? args with
  | some (.run options) =>
    notices.filter (Log.Filter.ofSetting around.logSetting options.verbosity).shows
  | _ => []

end ClientForge.CommandLine
