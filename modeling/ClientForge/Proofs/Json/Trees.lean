/-
  What trees the reader of JSON texts gives.

  Documents come as JSON and as YAML, and both are read into trees of one kind.  A tree that comes of a
  JSON text is more regular: its scalars have a type from the start, where YAML leaves a word that
  stands by itself to whoever reads it, and the keys of its tables are texts.  Whoever decodes a tree
  may rely on this once it is shown, and it is shown here, along the reader.

  The reader is two machines.  The first goes through the characters and gives tokens; the second puts
  tokens together.  So there are two invariants, each kept by one step:

  1. a scalar among the tokens has a type (`Token.Typed`, `stepChar_typed`) — the only place where
     scalars are made is the end of a word, of a number or of a text;
  2. what the second machine has built so far is made of trees of JSON texts (`Building.IsJson`,
     `Building.step_isJson`), and so is what it still holds open, frame by frame.

  The finished tree is one by the second invariant, whose assumption on tokens is the first
  (`read?_isJson`).  A JSON text gives a tree and nothing more: no anchors are named in it, and its
  nesting counts from the full depth.
-/
import ClientForge.Json.Reader
import ClientForge.Proofs.Document.Reordering

namespace ClientForge.Json

open Node

/-! ## Tokens -/

/-- A scalar among the tokens has a type. -/
def Token.Typed : Token → Prop
  | .scalar s => ∀ w, s ≠ .written w
  | _ => True

/-- A number with a fraction has a type. -/
theorem scaledReal_typed (negative : Bool) (digits : Nat) (e : Int) (w : Written) :
    scaledReal negative digits e ≠ .written w := by
  unfold scaledReal
  split <;> exact nofun

/-- So has one that is too large to be whole. -/
theorem realValue_typed (t : NumberText) (w : Written) : realValue t ≠ .written w := by
  unfold realValue
  cases t.fraction <;> rcases t.exponent with _ | ⟨negative, digits⟩ <;> dsimp only
  all_goals repeat' split
  all_goals first
    | exact scaledReal_typed _ _ _ w
    | exact nofun

/-- Every number has a type. -/
theorem numberValue_typed (t : NumberText) (w : Written) : numberValue t ≠ .written w := by
  unfold numberValue
  split
  · dsimp only
    split
    · exact nofun
    · split <;> exact nofun
  · exact realValue_typed t w

/-- The words that JSON knows have a type. -/
theorem word?_typed {cs : List Char} {s : Scalar} (h : word? cs = some s) (w : Written) :
    s ≠ .written w := by
  unfold word? at h
  split at h <;> cases h <;> exact nofun

/-- What ends at a character has a type, if it is a scalar. -/
theorem endToken_typed {state : Lexing} {done : List Token} (h : endToken state = some done) :
    ∀ token ∈ done, token.Typed := by
  unfold endToken at h
  split at h
  · cases h
    exact nofun
  · obtain ⟨s, hs, rfl⟩ := Option.map_eq_some_iff.1 h
    intro token hmem
    obtain rfl := List.mem_singleton.1 hmem
    exact word?_typed hs
  · obtain ⟨s, hs, rfl⟩ := Option.map_eq_some_iff.1 h
    obtain ⟨t, -, rfl⟩ := Option.map_eq_some_iff.1 hs
    intro token hmem
    obtain rfl := List.mem_singleton.1 hmem
    exact numberValue_typed t
  · cases h

/-- What is complete with its first character is no scalar. -/
theorem beginToken_typed {c : Char} {new : List Token} {next : Lexing}
    (h : beginToken c = some (new, next)) : ∀ token ∈ new, token.Typed := by
  have hpunctuation : ∀ token : Token, token.Typed → ∀ other ∈ [token], other.Typed := by
    intro token htoken other hmem
    obtain rfl := List.mem_singleton.1 hmem
    exact htoken
  unfold beginToken at h
  split at h
  · cases h
    exact nofun
  · split at h
    -- a punctuation mark
    case h_1 | h_2 | h_3 | h_4 | h_5 | h_6 =>
      cases h
      exact hpunctuation _ trivial
    -- a quote, which gives nothing before the text has ended
    case h_7 =>
      cases h
      exact nofun
    -- the first character of a number or of a word
    case h_8 =>
      split at h
      · cases h
        exact nofun
      · split at h
        · cases h
          exact nofun
        · cases h

/-- A character after a word or a number ends it and begins what comes next. -/
theorem endThenBegin_typed {state next : Lexing} {c : Char} {done : List Token}
    (h : ((endToken state).bind fun done => (beginToken c).bind fun (new, next) =>
      some (done ++ new, next)) = some (done, next)) : ∀ token ∈ done, token.Typed := by
  obtain ⟨ended, hended, h⟩ := Option.bind_eq_some_iff.1 h
  obtain ⟨⟨new, begun⟩, hbegun, h⟩ := Option.bind_eq_some_iff.1 h
  cases h
  intro token hmem
  rcases List.mem_append.1 hmem with hmem | hmem
  · exact endToken_typed hended token hmem
  · exact beginToken_typed hbegun token hmem

/-- One step of the first machine gives tokens with a type. -/
theorem stepChar_typed {state next : Lexing} {c : Char} {done : List Token}
    (h : stepChar state c = some (done, next)) : ∀ token ∈ done, token.Typed := by
  unfold stepChar at h
  -- Between tokens: the character begins one.
  split at h
  · exact beginToken_typed h
  · -- Inside a word, and then inside a number: either it goes on with nothing given yet, or the
    -- character ends it and begins the next.
    split at h
    · cases h
      exact nofun
    · exact endThenBegin_typed h
  · split at h
    · cases h
      exact nofun
    · exact endThenBegin_typed h
  · -- Inside a text only the closing quote gives a token, and a text has a type.
    split at h
    · cases h
      intro token hmem
      obtain rfl := List.mem_singleton.1 hmem
      trivial
    · split at h
      · cases h
        exact nofun
      · split at h <;> cases h
        exact nofun
  · split at h
    · cases h
      exact nofun
    · obtain ⟨d, -, heq⟩ := Option.map_eq_some_iff.1 h
      cases heq
      exact nofun
  · obtain ⟨d, -, heq⟩ := Option.map_eq_some_iff.1 h
    cases heq
    exact nofun

/-- **Every scalar that the first machine gives has a type.** -/
theorem tokensFrom_typed {state : Lexing} {cs : List Char} {tokens : List Token}
    (h : tokensFrom state cs = some tokens) : ∀ token ∈ tokens, token.Typed := by
  induction cs generalizing state tokens with
  | nil => exact endToken_typed h
  | cons c rest ih =>
    obtain ⟨⟨done, next⟩, hstep, h⟩ := Option.bind_eq_some_iff.1 h
    obtain ⟨others, hothers, h⟩ := Option.bind_eq_some_iff.1 h
    cases h
    intro token hmem
    rcases List.mem_append.1 hmem with hmem | hmem
    · exact stepChar_typed hstep token hmem
    · exact ih hothers token hmem

/-! ## Trees -/

/-- The members gathered so far are those of trees of JSON texts. -/
def Frame.IsJson : Frame → Prop
  | .list items => ∀ item ∈ items, item.IsJson
  | .table entries =>
    (∀ key ∈ entries.map Prod.fst, IsKey key) ∧ ∀ entry ∈ entries, entry.2.IsJson
  | .entry entries key =>
    key.IsKey ∧ (∀ key ∈ entries.map Prod.fst, IsKey key) ∧ ∀ entry ∈ entries, entry.2.IsJson

/-- What has been built so far is made of trees of JSON texts. -/
structure Building.IsJson (b : Building) : Prop where
  frames : ∀ frame ∈ b.frames, frame.IsJson
  done : ∀ root, b.expecting = .done root → root.IsJson

namespace Building

variable {frames : List Frame} {token : Token} {b next : Building}

/-- What is not finished is made of such trees if its frames are. -/
theorem IsJson.waiting {expecting : Expecting} (hframes : ∀ frame ∈ frames, frame.IsJson)
    (h : ∀ root, expecting ≠ .done root) : IsJson ⟨frames, expecting⟩ :=
  ⟨hframes, fun root heq => absurd heq (h root)⟩

/-- A tree put into the innermost frame. -/
theorem place_isJson {node : Node} (hframes : ∀ frame ∈ frames, frame.IsJson) (hnode : node.IsJson)
    (h : place frames node = some next) : next.IsJson := by
  unfold place at h
  split at h
  · cases h
    refine ⟨hframes, fun root heq => ?_⟩
    cases heq
    exact hnode
  · cases h
    obtain ⟨hitems, hrest⟩ := List.forall_mem_cons.1 hframes
    refine .waiting (List.forall_mem_cons.2 ⟨?_, hrest⟩) nofun
    exact List.forall_mem_cons.2 ⟨hnode, hitems⟩
  · cases h
    obtain ⟨⟨hkey, hkeys, hentries⟩, hrest⟩ := List.forall_mem_cons.1 hframes
    refine .waiting (List.forall_mem_cons.2 ⟨⟨?_, ?_⟩, hrest⟩) nofun
    · exact List.forall_mem_cons.2 ⟨hkey, hkeys⟩
    · exact List.forall_mem_cons.2 ⟨hnode, hentries⟩
  · cases h

/-- A frame that is closed becomes a tree of the one around it. -/
theorem close_isJson (hframes : ∀ frame ∈ frames, frame.IsJson)
    (h : close frames token = some next) : next.IsJson := by
  unfold close at h
  split at h
  · obtain ⟨hitems, hrest⟩ := List.forall_mem_cons.1 hframes
    refine place_isJson hrest (.list fun item hitem => ?_) h
    exact hitems item (List.mem_reverse.1 hitem)
  · obtain ⟨⟨hkeys, hentries⟩, hrest⟩ := List.forall_mem_cons.1 hframes
    refine place_isJson hrest (.table (fun key hkey => ?_) fun entry hentry => ?_) h
    · rw [List.map_reverse, List.mem_reverse] at hkey
      exact hkeys key hkey
    · exact hentries entry (List.mem_reverse.1 hentry)
  · cases h

/-- A token where a value is expected: a scalar, or the beginning of a frame. -/
theorem begin_isJson (hframes : ∀ frame ∈ frames, frame.IsJson) (htoken : token.Typed)
    (h : begin frames token = some next) : next.IsJson := by
  unfold begin at h
  split at h
  · cases h
    exact .waiting (List.forall_mem_cons.2 ⟨nofun, hframes⟩) nofun
  · cases h
    exact .waiting (List.forall_mem_cons.2 ⟨⟨nofun, nofun⟩, hframes⟩) nofun
  · refine place_isJson hframes ?_ h
    exact .scalar nofun
  · refine place_isJson hframes ?_ h
    exact .scalar nofun
  · exact place_isJson hframes (.scalar htoken) h
  · cases h

/-- A token where a key is expected. -/
theorem key_isJson (hframes : ∀ frame ∈ frames, frame.IsJson) (h : key frames token = some next) :
    next.IsJson := by
  unfold key at h
  split at h
  · cases h
    obtain ⟨hentries, hrest⟩ := List.forall_mem_cons.1 hframes
    exact .waiting (List.forall_mem_cons.2 ⟨⟨.text _, hentries⟩, hrest⟩) nofun
  · cases h
    obtain ⟨hentries, hrest⟩ := List.forall_mem_cons.1 hframes
    exact .waiting (List.forall_mem_cons.2 ⟨⟨.unreadable, hentries⟩, hrest⟩) nofun
  · cases h

/-- **One step of the second machine** keeps to trees of JSON texts. -/
theorem step_isJson (hb : b.IsJson) (htoken : token.Typed) (h : step b token = some next) :
    next.IsJson := by
  unfold step at h
  split at h
  · exact begin_isJson hb.frames htoken h
  · exact close_isJson hb.frames h
  · exact begin_isJson hb.frames htoken h
  · exact key_isJson hb.frames h
  · exact close_isJson hb.frames h
  · exact key_isJson hb.frames h
  · cases h
    exact .waiting hb.frames nofun
  · split at h
    · cases h
      exact .waiting hb.frames nofun
    · cases h
      exact .waiting hb.frames nofun
    · cases h
  · exact close_isJson hb.frames h
  · cases h

/-- A whole row of tokens. -/
theorem foldlM_isJson {tokens : List Token} (hb : b.IsJson)
    (htokens : ∀ token ∈ tokens, token.Typed) (h : tokens.foldlM step b = some next) :
    next.IsJson := by
  induction tokens generalizing b with
  | nil =>
    cases h
    exact hb
  | cons token rest ih =>
    rw [List.foldlM_cons] at h
    obtain ⟨middle, hmiddle, h⟩ := Option.bind_eq_some_iff.1 h
    obtain ⟨htoken, hrest⟩ := List.forall_mem_cons.1 htokens
    exact ih (step_isJson hb htoken hmiddle) hrest h

end Building

/-- **The tree of a JSON text:** its scalars have a type, its tables are keyed by texts, and nothing
in it is mentioned twice. -/
theorem read?_isJson {text : String} {source : Source} (h : read? text = some source) :
    source.root.IsJson ∧ source = ⟨source.root, [], maxDepth⟩ := by
  obtain ⟨tokens, htokens, h⟩ := Option.bind_eq_some_iff.1 h
  obtain ⟨root, hroot, h⟩ := Option.bind_eq_some_iff.1 h
  cases h
  refine ⟨?_, rfl⟩
  obtain ⟨last, hlast, hroot⟩ := Option.bind_eq_some_iff.1 hroot
  have hstart : Building.IsJson ⟨[], .value⟩ := .waiting nofun nofun
  have hbuilt := Building.foldlM_isJson hstart (tokensFrom_typed htokens) hlast
  split at hroot
  · rename_i found hdone
    cases hroot
    exact hbuilt.done _ hdone
  · cases hroot

end ClientForge.Json
