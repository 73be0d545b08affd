/-
  The order of object members in a JSON text has no effect on what is generated.

  A text is read into a tree, the tree is decoded into a document, and the crate is generated from the
  document.  The order of members is seen by the first step only, and it is forgotten in the second:

  1. Two texts whose trees are the same but for that order give the same document, or neither gives
     one (`Document.ofText_eq_of_reordered`).  This rests on the decoding being blind for the order,
     and it needs that no object has a key twice: of two members under one key the later one counts,
     and reordering would change which one that is.
  2. Everything that comes after starts from the document.  Its maps are only ever looked up by key
     or walked through in key order, so the files are the same to the byte, and a run that fails does
     so for the same reason (`Sdk.generateText_eq_of_reordered`).

  The statement is about TEXTS, so the reader of JSON stands in it as it is; the trees only say what
  it means for two texts to differ in the order of members alone.  The two texts at the end have the
  members of two objects the other way round.
-/
import ClientForge.Document.Reading
import ClientForge.Proofs.Document.Decoding
import ClientForge.Proofs.Json.Trees
import ClientForge.Sdk.Generate

namespace ClientForge

/-- **A JSON text gives the same document** in any order of its members. -/
theorem Document.ofText_eq_of_reordered {text text' : String} {source source' : Source}
    (h : Json.read? text = some source) (h' : Json.read? text' = some source')
    (hdistinct : source.root.DistinctKeys) (hreordered : source.root.Reordered source'.root) :
    Document.ofText .json text = Document.ofText .json text' := by
  obtain ⟨hjson, hsource⟩ := Json.read?_isJson h
  obtain ⟨-, hsource'⟩ := Json.read?_isJson h'
  have htwins : source.root.Twins source'.root := hjson.twins hdistinct hreordered
  have hdocument : source.document? = source'.document? := by
    rw [hsource, hsource']
    exact Decode.blind_document Json.maxDepth _ _ htwins
  have hread : (Format.json.read? text).bind Source.document? =
      (Format.json.read? text').bind Source.document? := by
    show (Json.read? text).bind Source.document? = (Json.read? text').bind Source.document?
    rw [h, h', Option.bind_some, Option.bind_some, hdocument]
  unfold Document.ofText Format.parse
  rw [hread]

namespace Sdk

/-- The files of the crate for a JSON text. -/
def generateText (text : String) (config : Config) (templates : List (String × String)) :
    Except Failure FileSet :=
  (Document.ofText .json text).bind fun doc => generate doc config templates

/-- **The order of members is of no account:** JSON texts that differ in nothing else, and in which
no object repeats a key, give the same files or fail for the same reason. -/
theorem generateText_eq_of_reordered {text text' : String} {source source' : Source}
    (h : Json.read? text = some source) (h' : Json.read? text' = some source')
    (hdistinct : source.root.DistinctKeys) (hreordered : source.root.Reordered source'.root)
    (config : Config) (templates : List (String × String)) :
    generateText text config templates = generateText text' config templates := by
  unfold generateText
  rw [Document.ofText_eq_of_reordered h h' hdistinct hreordered]

/-! ## Two orders of one text -/

/-- A document with one operation. -/
def apiText : String :=
  "\x7b\"paths\":\x7b\"/a\":\x7b\"get\":" ++
    "\x7b\"operationId\":\"list\",\"summary\":\"All\"\x7d\x7d\x7d," ++
    "\"servers\":[\x7b\"url\":\"https://a.example\"\x7d]\x7d"

/-- The same document, with the members of two objects the other way round. -/
def reorderedApiText : String :=
  "\x7b\"servers\":[\x7b\"url\":\"https://a.example\"\x7d]," ++
    "\"paths\":\x7b\"/a\":\x7b\"get\":" ++
    "\x7b\"summary\":\"All\",\"operationId\":\"list\"\x7d\x7d\x7d\x7d"

/-- A member under a text key. -/
def textMember (key : String) (value : Node) : Node × Node := (.scalar (.text key), value)

/-- The paths, with the members of the one operation. -/
def apiPaths (operation : List (Node × Node)) : Node × Node :=
  textMember "paths" (.table .typed [textMember "/a"
    (.table .typed [textMember "get" (.table .typed operation)])])

/-- The servers. -/
def apiServers : Node × Node :=
  textMember "servers" (.list .typed
    [.table .typed [textMember "url" (.scalar (.text "https://a.example"))]])

/-- The name of the operation. -/
def apiOperationId : Node × Node := textMember "operationId" (.scalar (.text "list"))

/-- The summary of the operation. -/
def apiSummary : Node × Node := textMember "summary" (.scalar (.text "All"))

/-- The tree of the text. -/
def apiTree : Node := .table .typed [apiPaths [apiOperationId, apiSummary], apiServers]

/-- The tree of the reordered text. -/
def reorderedApiTree : Node := .table .typed [apiServers, apiPaths [apiSummary, apiOperationId]]

set_option maxRecDepth 20000 in
/-- The text is read into its tree. -/
theorem read?_apiText : Json.read? apiText = some ⟨apiTree, [], Json.maxDepth⟩ := rfl

set_option maxRecDepth 20000 in
/-- The reordered text is read into the reordered tree. -/
theorem read?_reorderedApiText :
    Json.read? reorderedApiText = some ⟨reorderedApiTree, [], Json.maxDepth⟩ := rfl

/-- No object of the tree has a key twice. -/
theorem apiTree_distinctKeys : apiTree.DistinctKeys := by
  have hservers : apiServers.2.DistinctKeys := by
    refine .list (List.forall_mem_singleton.2 (.table (by decide) ?_))
    exact List.forall_mem_singleton.2 (.scalar _)
  have hoperation : Node.DistinctKeys (.table .typed [apiOperationId, apiSummary]) :=
    .table (by decide) (List.forall_mem_cons.2 ⟨.scalar _, List.forall_mem_singleton.2 (.scalar _)⟩)
  have hpaths : (apiPaths [apiOperationId, apiSummary]).2.DistinctKeys := by
    refine .table (by decide) (List.forall_mem_singleton.2 (.table (by decide) ?_))
    exact List.forall_mem_singleton.2 hoperation
  exact .table (by decide) (List.forall_mem_cons.2 ⟨hpaths, List.forall_mem_singleton.2 hservers⟩)

/-- The trees differ in the order of members in two objects, and in nothing else. -/
theorem apiTree_reordered : apiTree.Reordered reorderedApiTree := by
  have hurl : Node.Reordered apiServers.2 apiServers.2 := by
    refine .list (.cons (.table (.refl _) rfl (.cons (.scalar _) .nil)) .nil)
  have hoperation : Node.Reordered (.table .typed [apiOperationId, apiSummary])
      (.table .typed [apiSummary, apiOperationId]) :=
    .table (.swap _ _ _) rfl (.cons (.scalar _) (.cons (.scalar _) .nil))
  have hpaths : Node.Reordered (apiPaths [apiOperationId, apiSummary]).2
      (apiPaths [apiSummary, apiOperationId]).2 :=
    .table (.refl _) rfl (.cons (.table (.refl _) rfl (.cons hoperation .nil)) .nil)
  exact .table (.swap _ _ _) rfl (.cons hurl (.cons hpaths .nil))

/-- The statement at the two texts. -/
theorem generateText_eq_of_reordered_api :
    apiTree.DistinctKeys ∧ apiTree.Reordered reorderedApiTree ∧
      generateText apiText {} [] = generateText reorderedApiText {} [] :=
  ⟨apiTree_distinctKeys, apiTree_reordered, generateText_eq_of_reordered read?_apiText
    read?_reorderedApiText apiTree_distinctKeys apiTree_reordered {} []⟩

end Sdk

end ClientForge
