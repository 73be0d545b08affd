/-
  What is read of a tree does not depend on the order of its members.

  The parts that decoding is put together from are blind to the order (`Blind`): single values, lists,
  maps from keys, records, values of any kind, JSON values.  For a single value there is nothing to
  show, as twins that are scalars are equal, and a list is read item by item.  The work is in tables,
  and all of it goes through one form:

  1. **Rows** — a table becomes a row under text keys first, whatever it is read as (`keyed?`).  Twins
     give rows that are reordered and have the same keys, none of them twice, or neither gives a row
     because a key cannot be read (`keyed?_twins`).  `TwinRows` is that relation.
  2. **Maps** — each value of a row is read under its key, and the entries are put into a map.
     Insertions under different keys commute, so the map is the same (`TwinRows.map_ofList`).
  3. **Records** — the member of each name is looked up.  In a row that repeats no key what is looked
     up is what stands there, at whatever place (`lookup_eq_some_iff_mem`), so twins have the same
     members with twins for values (`record?_twins`), and a record that is put together alike from
     the same members is read alike (`record?_bind_eq`).
  4. **Any value** — a value of no particular kind is typed first, its scalars getting a type each.
     Typing makes twins of twins (`typed?_twins`), so what is read after it may assume types.

  Where reading may fail, related inputs fail together: the statements use `Option.Rel`, and a step
  is put behind another by the bind lemmas for it.
-/
import ClientForge.Proofs.Document.Reordering

namespace ClientForge.View

open Node

variable {α : Type} {node node' : Node}

/-- What is read is the same for twins. -/
def Blind (read : Node → Option α) : Prop :=
  ∀ node node' : Node, node.Twins node' → read node = read node'

/-! ## Single values and lists -/

/-- A text is read alike from twins. -/
theorem blind_text : Blind (text? []) := by
  intro node node' h
  cases h <;> rfl

/-- That a value is there at all does not depend on its members. -/
theorem blind_present : Blind (present? []) := by
  intro node node' h
  cases h <;> rfl

/-- A truth value is read alike from twins. -/
theorem blind_flag : Blind (flag? []) := by
  intro node node' h
  cases h <;> rfl

/-- A list is read blindly if each of its items is. -/
theorem Blind.listOf {read : Node → Option α} (hread : Blind read) (depth : Nat) :
    Blind (listOf [] depth read) := by
  intro node node' h
  cases h with
  | scalar hs => rfl
  | table => rfl
  | list hitems =>
    cases depth with
    | zero => rfl
    | succ depth => exact mapM_congr (hitems.imp hread)

/-! ## Rows under text keys -/

/-- Rows with the same keys, none of them twice, and with twins under each, in some order. -/
def TwinRows (rows rows' : List (String × Node)) : Prop :=
  (rows.map Prod.fst).Nodup ∧ ∃ middle, rows.Perm middle ∧
    List.Forall₂ (fun row row' => row.1 = row'.1 ∧ row.2.Twins row'.2) middle rows'

/-- The members of a table under text keys. -/
def keyed? (entries : List (Node × Node)) : Option (List (String × Node)) :=
  entries.mapM fun (key, value) => (text? [] key).map fun key => (key, value)

/-- The key of a member has a text, or it is one that cannot be read. -/
theorem text?_of_isKey {key : Node} (h : key.IsKey) : text? [] key = Decode.typedText? key := by
  cases h <;> rfl

/-- Rows of entries are related if their keys are the same and their values are related. -/
theorem forall₂_entries {κ : Type} {related : Node → Node → Prop}
    {entries entries' : List (κ × Node)} (hkeys : entries.map Prod.fst = entries'.map Prod.fst)
    (h : List.Forall₂ related (entries.map Prod.snd) (entries'.map Prod.snd)) :
    List.Forall₂ (fun entry entry' => entry.1 = entry'.1 ∧ related entry.2 entry'.2)
      entries entries' := by
  induction entries generalizing entries' with
  | nil => cases entries' with
    | nil => exact .nil
    | cons => cases hkeys
  | cons entry rest ih => cases entries' with
    | nil => cases hkeys
    | cons entry' rest' =>
      obtain ⟨hkey, hkeys⟩ := List.cons.inj hkeys
      cases h with
      | cons hfirst h => exact .cons ⟨hkey, hfirst⟩ (ih hkeys h)

/-- Conversely related rows have the same keys. -/
theorem map_fst_eq_of_forall₂ {κ : Type} {related : Node → Node → Prop}
    {entries entries' : List (κ × Node)}
    (h : List.Forall₂ (fun entry entry' => entry.1 = entry'.1 ∧ related entry.2 entry'.2)
      entries entries') : entries.map Prod.fst = entries'.map Prod.fst := by
  induction h with
  | nil => rfl
  | cons hrel _ ih => rw [List.map_cons, List.map_cons, hrel.1, ih]

/-- **Twin tables give twin rows,** or neither gives one because a key cannot be read. -/
theorem keyed?_twins {entries middle entries' : List (Node × Node)}
    (hjson : ∀ key ∈ entries.map Prod.fst, IsKey key)
    (hdistinct : ((entries.map Prod.fst).filterMap Decode.typedText?).Nodup)
    (hperm : entries.Perm middle) (hkeys : middle.map Prod.fst = entries'.map Prod.fst)
    (h : List.Forall₂ Twins (middle.map Prod.snd) (entries'.map Prod.snd)) :
    Option.Rel TwinRows (keyed? entries) (keyed? entries') := by
  have hmembers : List.Forall₂ (fun entry entry' => Option.Rel
      (fun row row' => row.1 = row'.1 ∧ row.2.Twins row'.2)
      ((text? [] entry.1).map fun key => (key, entry.2))
      ((text? [] entry'.1).map fun key => (key, entry'.2))) middle entries' := by
    refine (forall₂_entries hkeys h).imp fun entry entry' hrel => ?_
    obtain ⟨hkey, htwins⟩ := hrel
    rw [hkey]
    cases text? [] entry'.1 with
    | none => exact .none
    | some key => exact .some ⟨rfl, htwins⟩
  refine rel_imp (mapM_reordered hperm hmembers) fun rows rows' hrows => ?_
  obtain ⟨hrows, hreordered⟩ := hrows
  -- the row has a text for every key of the table, so a key that stood twice would do so before
  have hread : rows.map (fun row => some row.1) =
      entries.map fun entry => Decode.typedText? entry.1 := by
    refine map_of_mapM hrows fun entry hentry row hrow => ?_
    obtain ⟨key, hkey, rfl⟩ := Option.map_eq_some_iff.1 hrow
    rw [← hkey, text?_of_isKey (hjson entry.1 (List.mem_map_of_mem hentry))]
  have hkeys : (entries.map Prod.fst).filterMap Decode.typedText? = rows.map Prod.fst := by
    calc (entries.map Prod.fst).filterMap Decode.typedText?
        = (entries.map fun entry => Decode.typedText? entry.1).filterMap id := by
          rw [List.filterMap_map, List.filterMap_map]
          rfl
      _ = (rows.map fun row => some row.1).filterMap id := by rw [hread]
      _ = rows.map Prod.fst := by
          rw [List.filterMap_map]
          exact congrFun List.filterMap_eq_map rows
  rw [hkeys] at hdistinct
  exact ⟨hdistinct, hreordered⟩

/-! ## Maps -/

/-- The values of a row, each read under its key. -/
def readRow? (read : Node → Option α) (rows : List (String × Node)) : Option (List (String × α)) :=
  rows.mapM fun (key, value) => (read value).map fun value => (key, value)

/-- Reading the values leaves the keys as they are. -/
theorem keys_of_readRow? {read : Node → Option α} {rows : List (String × Node)}
    {entries : List (String × α)} (h : readRow? read rows = some entries) :
    entries.map Prod.fst = rows.map Prod.fst := by
  refine map_of_mapM h fun row _ entry hentry => ?_
  obtain ⟨value, -, rfl⟩ := Option.map_eq_some_iff.1 hentry
  rfl

/-- **Twin rows make the same map.** -/
theorem TwinRows.map_ofList {rows rows' : List (String × Node)} (h : TwinRows rows rows')
    {read : Node → Option α} (hread : Blind read) :
    (readRow? read rows).map Table.ofList = (readRow? read rows').map Table.ofList := by
  obtain ⟨hnodup, middle, hperm, hvalues⟩ := h
  have hmembers : List.Forall₂ (fun row row' => Option.Rel Eq
      ((read row.2).map fun value => (row.1, value))
      ((read row'.2).map fun value => (row'.1, value))) middle rows' := by
    refine hvalues.imp fun row row' hrel => ?_
    obtain ⟨hkey, htwins⟩ := hrel
    rw [hkey, hread _ _ htwins]
    cases read row'.2 with
    | none => exact .none
    | some value => exact .some rfl
  rw [Option.map_eq_bind, Option.map_eq_bind]
  refine bind_eq_of_rel (mapM_reordered hperm hmembers) fun entries entries' hentries => ?_
  obtain ⟨hentries, between, hperm, hsame⟩ := hentries
  rw [List.forall₂_eq_eq_eq] at hsame
  subst hsame
  rw [← keys_of_readRow? hentries] at hnodup
  dsimp only [Function.comp_apply]
  rw [Table.ofList_perm hperm hnodup]

/-- A table is read as a map through its row. -/
theorem tableOf_table (read : Node → Option α) (depth : Nat) (entries : List (Node × Node)) :
    tableOf [] (depth + 1) read (.table .typed entries) =
      (keyed? entries).bind fun rows => (readRow? read rows).map Table.ofList := by
  simp only [Option.map_eq_bind]
  rfl

/-- **A map** is read blindly if its values are. -/
theorem Blind.tableOf {read : Node → Option α} (hread : Blind read) (depth : Nat) :
    Blind (tableOf [] depth read) := by
  intro node node' h
  cases h with
  | scalar hs => rfl
  | list => rfl
  | table hjson hdistinct hperm hkeys h =>
    cases depth with
    | zero => rfl
    | succ depth =>
      rw [tableOf_table, tableOf_table]
      exact bind_eq_of_rel (keyed?_twins hjson hdistinct hperm hkeys h)
        fun rows rows' hrows => hrows.map_ofList hread

/-! ## Records -/

/-- The same members are there, with twins for values. -/
def SameMembers (fields fields' : List (String × Node)) : Prop :=
  ∀ name, Option.Rel Twins (fields.lookup name) (fields'.lookup name)

/-- Without a repeat none is found. -/
theorem hasRepeat_eq_false {names : List String} (h : names.Nodup) : hasRepeat names = false := by
  induction names with
  | nil => rfl
  | cons name rest ih =>
    obtain ⟨hname, hrest⟩ := List.nodup_cons.1 h
    rw [hasRepeat, ih hrest, Bool.or_false]
    simpa using hname

/-- In a row without repeated keys a key gives what stands under it. -/
theorem lookup_eq_some_iff_mem {rows : List (String × Node)} (h : (rows.map Prod.fst).Nodup)
    {name : String} {value : Node} : rows.lookup name = some value ↔ (name, value) ∈ rows := by
  rw [List.lookup_eq_some_iff]
  constructor
  · rintro ⟨before, after, rfl, -⟩
    exact List.mem_append_right _ List.mem_cons_self
  · intro hmem
    obtain ⟨before, after, rfl⟩ := List.append_of_mem hmem
    refine ⟨before, after, rfl, fun row hrow => bne_iff_ne.2 fun heq => ?_⟩
    rw [List.map_append, List.nodup_append] at h
    exact h.2.2 row.1 (List.mem_map_of_mem hrow) name List.mem_cons_self heq.symm

/-- In rows related place by place a key gives twins, or nothing in both. -/
theorem lookup_rel {rows rows' : List (String × Node)}
    (h : List.Forall₂ (fun row row' => row.1 = row'.1 ∧ row.2.Twins row'.2) rows rows')
    (name : String) : Option.Rel Twins (rows.lookup name) (rows'.lookup name) := by
  induction h with
  | nil => exact .none
  | @cons row row' rows rows' hrel _ ih =>
    obtain ⟨hkey, htwins⟩ := hrel
    rw [List.lookup_cons, List.lookup_cons, hkey]
    split
    · exact .some htwins
    · exact ih

/-- The other row repeats no key either. -/
theorem TwinRows.nodup_right {rows rows' : List (String × Node)} (h : TwinRows rows rows') :
    (rows'.map Prod.fst).Nodup := by
  obtain ⟨hnodup, middle, hperm, hvalues⟩ := h
  rw [← map_fst_eq_of_forall₂ hvalues]
  exact (hperm.map Prod.fst).nodup_iff.1 hnodup

/-- Twin rows have the same members. -/
theorem TwinRows.sameMembers {rows rows' : List (String × Node)} (h : TwinRows rows rows') :
    SameMembers rows rows' := by
  obtain ⟨hnodup, middle, hperm, hvalues⟩ := h
  intro name
  -- in a row without repeated keys a lookup does not see the order
  have hlookup : rows.lookup name = middle.lookup name := by
    have hnodup' := (hperm.map Prod.fst).nodup_iff.1 hnodup
    apply Option.ext
    intro value
    rw [lookup_eq_some_iff_mem hnodup, lookup_eq_some_iff_mem hnodup', hperm.mem_iff]
  rw [hlookup]
  exact lookup_rel hvalues name

/-- They stay twin rows when members are dropped by their keys. -/
theorem TwinRows.filter {rows rows' : List (String × Node)} (h : TwinRows rows rows')
    (keep : String → Bool) :
    TwinRows (rows.filter fun row => keep row.1) (rows'.filter fun row => keep row.1) := by
  obtain ⟨hnodup, middle, hperm, hvalues⟩ := h
  refine ⟨hnodup.sublist (List.filter_sublist.map Prod.fst), _, hperm.filter _, ?_⟩
  exact List.rel_filter (fun row row' hrel => by dsimp only; rw [hrel.1]) hvalues

/-- A record listed by its members in order. -/
theorem sameMembers_zip (names : List String) {items items' : List Node}
    (h : List.Forall₂ Twins items items') :
    SameMembers (names.zip items) (names.zip items') := by
  intro name
  refine lookup_rel ?_ name
  induction h generalizing names with
  | nil =>
    rw [List.zip_nil_right]
    exact .nil
  | cons hfirst _ ih => cases names with
    | nil => exact .nil
    | cons first rest => exact .cons ⟨rfl, hfirst⟩ (ih rest)

/-- In a tree of a text a member is named by the text of its key. -/
theorem memberName?_of_isKey {key : Node} (h : key.IsKey) (names : List String) :
    memberName? [] names .typed key = text? [] key := by
  cases h <;> rfl

/-- A record is read of a table through its row: members that the record does not know are left out,
and repeats among those it does know are refused. -/
theorem record?_table {entries : List (Node × Node)} (h : ∀ key ∈ entries.map Prod.fst, IsKey key)
    (names spare : List String) (depth : Nat) :
    record? [] names spare (depth + 1) (.table .typed entries) =
      (keyed? entries).bind fun rows =>
        let known := rows.filter fun row => names.contains row.1
        if hasRepeat (known.map Prod.fst) then none else some known := by
  have hnamed : (entries.mapM fun (key, value) =>
      (memberName? [] names .typed key).map fun name => (name, value)) = keyed? entries := by
    refine mapM_congr (List.forall₂_same.2 fun entry hentry => ?_)
    dsimp only
    rw [memberName?_of_isKey (h entry.1 (List.mem_map_of_mem hentry))]
  rw [← hnamed]
  rfl

/-- **Twins have the same members as records,** or neither is one. -/
theorem record?_twins (h : node.Twins node') (names spare : List String) (depth : Nat) :
    Option.Rel SameMembers (record? [] names spare depth node)
      (record? [] names spare depth node') := by
  cases h with
  | @scalar s hs =>
    show Option.Rel SameMembers (if isEmpty (.scalar s) then some [] else none)
      (if isEmpty (.scalar s) then some [] else none)
    split
    · exact .some fun name => .none
    · exact .none
  | list hitems =>
    unfold record?
    simp only [follow, hitems.length_eq]
    split
    · exact .none
    · split
      · -- a list with an item for each member is a record as well
        exact .some (sameMembers_zip names hitems)
      · exact .none
  | @table entries middle entries' hjson hdistinct hperm hkeys h =>
    cases depth with
    | zero => exact .none
    | succ depth =>
      have hjson' : ∀ key ∈ entries'.map Prod.fst, IsKey key := by
        intro key hkey
        rw [← hkeys] at hkey
        exact hjson key ((hperm.map Prod.fst).mem_iff.2 hkey)
      rw [record?_table hjson, record?_table hjson']
      refine bind_rel (keyed?_twins hjson hdistinct hperm hkeys h) fun rows rows' hrows => ?_
      have hknown := hrows.filter names.contains
      dsimp only
      rw [hasRepeat_eq_false hknown.1, hasRepeat_eq_false hknown.nodup_right]
      exact .some hknown.sameMembers

/-- A record is read alike from twins if it is put together alike from the same members. -/
theorem record?_bind_eq (h : node.Twins node') {names spare : List String} {depth : Nat}
    {next : List (String × Node) → Option α}
    (hnext : ∀ fields fields', SameMembers fields fields' → next fields = next fields') :
    (record? [] names spare depth node).bind next =
      (record? [] names spare depth node').bind next :=
  bind_eq_of_rel (record?_twins h names spare depth) hnext

/-- A member that may be missing is read alike. -/
theorem SameMembers.optional {fields fields' : List (String × Node)}
    (h : SameMembers fields fields') (name : String) {read : Node → Option α} (hread : Blind read) :
    optional [] fields name read = optional [] fields' name read := by
  have hmember := h name
  unfold View.optional
  generalize fields.lookup name = member at hmember
  generalize fields'.lookup name = member' at hmember
  cases hmember with
  | none => rfl
  | some htwins =>
    dsimp only
    rw [blind_present _ _ htwins, hread _ _ htwins]

/-- So is one that has a default. -/
theorem SameMembers.defaulted {fields fields' : List (String × Node)}
    (h : SameMembers fields fields') (name : String) (default : α) {read : Node → Option α}
    (hread : Blind read) :
    defaulted fields name default read = defaulted fields' name default read := by
  have hmember := h name
  unfold View.defaulted
  generalize fields.lookup name = member at hmember
  generalize fields'.lookup name = member' at hmember
  cases hmember with
  | none => rfl
  | some htwins => exact hread _ _ htwins

/-! ## Any value -/

/-- A scalar is typed by itself. -/
theorem typed?_scalar (depth : Nat) (s : Scalar) :
    typed? [] depth (.scalar s) = (typedScalar? s).map Node.scalar := by
  cases depth <;> rfl

/-- A list is typed item by item, with one level less for nesting. -/
theorem typed?_list (depth : Nat) (items : List Node) :
    typed? [] (depth + 1) (.list .typed items) =
      (items.mapM (typed? [] depth)).map (Node.list .typed) := rfl

/-- A member with its key and its value typed. -/
def typedMember? (depth : Nat) (entry : Node × Node) : Option (Node × Node) :=
  (typed? [] depth entry.1).bind fun key => (typed? [] depth entry.2).bind fun value =>
    some (key, value)

/-- A table is typed member by member. -/
theorem typed?_table (depth : Nat) (entries : List (Node × Node)) :
    typed? [] (depth + 1) (.table .typed entries) =
      (entries.mapM (typedMember? depth)).map (Node.table .typed) := by
  rw [Option.map_eq_bind]
  rfl

/-- Typing a key leaves it as it is, or refuses it. -/
theorem typed?_of_isKey {key : Node} (h : key.IsKey) (depth : Nat) :
    typed? [] depth key = none ∨ typed? [] depth key = some key := by
  cases h with
  | text s =>
    rw [typed?_scalar]
    exact Or.inr rfl
  | unreadable =>
    rw [typed?_scalar]
    exact Or.inl rfl

/-- Typing the members leaves their keys as they are. -/
theorem keys_of_typedMembers {depth : Nat} {entries typed : List (Node × Node)}
    (hjson : ∀ key ∈ entries.map Prod.fst, IsKey key)
    (h : entries.mapM (typedMember? depth) = some typed) :
    typed.map Prod.fst = entries.map Prod.fst := by
  refine map_of_mapM h fun entry hentry member hmember => ?_
  obtain ⟨key, hkey, hmember⟩ := Option.bind_eq_some_iff.1 hmember
  obtain ⟨value, -, hmember⟩ := Option.bind_eq_some_iff.1 hmember
  cases hmember
  rcases typed?_of_isKey (hjson entry.1 (List.mem_map_of_mem hentry)) depth with hnone | hsome
  · rw [hnone] at hkey
    cases hkey
  · rw [hsome] at hkey
    cases hkey
    rfl

/-- A typed scalar is a twin of itself, if there is one. -/
theorem typedScalar?_twins {s : Scalar} (h : ∀ w, s ≠ .written w) :
    Option.Rel Twins ((typedScalar? s).map Node.scalar) ((typedScalar? s).map Node.scalar) := by
  cases s with
  | unreadable => exact .none
  | written w => exact absurd rfl (h w)
  | _ => exact .some (.scalar h)

/-- **Typing makes twins of twins,** or refuses both. -/
theorem typed?_twins (depth : Nat) (h : node.Twins node') :
    Option.Rel Twins (typed? [] depth node) (typed? [] depth node') := by
  induction depth generalizing node node' with
  | zero => cases h with
    | scalar hs =>
      rw [typed?_scalar]
      exact typedScalar?_twins hs
    | list => exact .none
    | table => exact .none
  | succ depth ih => cases h with
    | scalar hs =>
      rw [typed?_scalar]
      exact typedScalar?_twins hs
    | list hitems =>
      rw [typed?_list, typed?_list, Option.map_eq_bind, Option.map_eq_bind]
      exact bind_rel (mapM_rel (hitems.imp fun _ _ => ih)) fun _ _ htyped => .some (.list htyped)
    | @table entries middle entries' hjson hdistinct hperm hkeys h =>
      have hmembers : List.Forall₂ (fun entry entry' => Option.Rel
          (fun typed typed' : Node × Node => typed.1 = typed'.1 ∧ typed.2.Twins typed'.2)
          (typedMember? depth entry) (typedMember? depth entry')) middle entries' := by
        refine (forall₂_entries hkeys h).imp fun entry entry' hrel => ?_
        obtain ⟨hkey, htwins⟩ := hrel
        unfold typedMember?
        rw [hkey]
        cases typed? [] depth entry'.1 with
        | none => exact .none
        | some key => exact bind_rel (ih htwins) fun _ _ htyped => .some ⟨rfl, htyped⟩
      rw [typed?_table, typed?_table, Option.map_eq_bind, Option.map_eq_bind]
      refine bind_rel (mapM_reordered hperm hmembers) fun typed typed' htyped => .some ?_
      obtain ⟨htyped, between, hperm, hvalues⟩ := htyped
      -- typing leaves the keys as they are, so they stay texts that stand once
      have hsame := keys_of_typedMembers hjson htyped
      rw [← hsame] at hjson hdistinct
      refine .table hjson hdistinct hperm (map_fst_eq_of_forall₂ hvalues) ?_
      rw [List.forall₂_map_left_iff, List.forall₂_map_right_iff]
      exact hvalues.imp fun _ _ hrel => hrel.2

/-- What is read of a typed value is read blindly of the value itself. -/
theorem Blind.bind_typed {read : Node → Option α} (hread : Blind read) (depth : Nat) :
    Blind fun node => (typed? [] depth node).bind read := by
  intro node node' h
  exact bind_eq_of_rel (typed?_twins depth h) hread

/-! ## JSON values -/

/-- The JSON value of a list. -/
theorem json?_list (depth : Nat) (items : List Node) :
    json? [] (depth + 1) (.list .typed items) =
      (items.mapM (json? [] depth)).map Json.array := rfl

/-- The members of a table are read under their keys and put in order. -/
theorem json?_table (depth : Nat) (entries : List (Node × Node)) :
    json? [] (depth + 1) (.table .typed entries) =
      (keyed? entries).bind fun rows => ((readRow? (json? [] depth) rows).map Table.ofList).map
        fun table => Json.object table.entries := by
  -- `json?` reads keys and values in one round, where maps read all of the keys first
  have hrounds : ((keyed? entries).bind fun rows => readRow? (json? [] depth) rows) =
      entries.mapM fun entry => (text? [] entry.1).bind fun key =>
        (json? [] depth entry.2).bind fun value => some (key, value) := by
    unfold keyed? readRow?
    rw [mapM_bind]
    refine congrArg (entries.mapM ·) (funext fun entry => ?_)
    dsimp only
    cases text? [] entry.1 with
    | none => rfl
    | some key => exact Option.map_eq_bind
  show (entries.mapM fun entry => (text? [] entry.1).bind fun key =>
    (json? [] depth entry.2).bind fun value => some (key, value)).bind
      (fun members => some (Json.ofEntries members)) = _
  rw [← hrounds]
  cases keyed? entries with
  | none => rfl
  | some rows =>
    rw [Option.bind_some, Option.bind_some]
    cases readRow? (json? [] depth) rows <;> rfl

/-- **The JSON value of a tree** is the same for twins. -/
theorem blind_json (depth : Nat) : Blind (json? [] depth) := by
  induction depth with
  | zero =>
    intro node node' h
    cases h <;> rfl
  | succ depth ih =>
    intro node node' h
    cases h with
    | scalar hs => rfl
    | list hitems => rw [json?_list, json?_list, mapM_congr (hitems.imp ih)]
    | table hjson hdistinct hperm hkeys h =>
      rw [json?_table, json?_table]
      exact bind_eq_of_rel (keyed?_twins hjson hdistinct hperm hkeys h)
        fun rows rows' hrows => by rw [hrows.map_ofList ih]

end ClientForge.View
