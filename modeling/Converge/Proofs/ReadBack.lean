import Converge.Manifest.Reader
import Converge.Workspace.StateStore
import Converge.Proofs.JsonText

/-!
# Stores and manifests that are read back

Field maps are written down in two places, and both texts are read again. A state store keeps the fields of
each record as a text: a record is loaded as it was saved (`StateStore.load_save`), and edits of other
addresses do not touch it (`StateStore.get?_edits`). A manifest is written as one text, and every reader of
its parts gives back what was written, with more text behind it (`Declaration.read_renderChars`,
`Manifest.parse_render`). Main theorem: `written_reads_back`.
-/

namespace Converge

/-! ## Records -/

namespace StateStore

/-- A change to the records of a store. -/
inductive Edit where
  | save (r : ResourceRecord)
  | remove (address : String)

def Edit.address : Edit → String
  | .save r => r.address
  | .remove address => address

def edit (s : StateStore) : Edit → StateStore
  | .save r => s.save r
  | .remove address => s.remove address

theorem get?_edit_of_ne (s : StateStore) {e : Edit} {address : String} (h : e.address ≠ address) :
    (s.edit e).rows.get? address = s.rows.get? address := by
  cases e with
  | save r => exact (SortedMap.get?_insert _ _ _ _).trans (if_neg h)
  | remove a => exact (SortedMap.get?_erase _ _ _).trans (if_neg h)

/-- Edits of other addresses leave the row of an address alone. -/
theorem get?_edits (s : StateStore) {edits : List Edit} {address : String} (h : ∀ e ∈ edits, e.address ≠ address) :
    (edits.foldl edit s).rows.get? address = s.rows.get? address := by
  induction edits generalizing s with
  | nil => rfl
  | cons e edits ih =>
    obtain ⟨he, hedits⟩ := List.forall_mem_cons.1 h
    exact (ih (s.edit e) hedits).trans (s.get?_edit_of_ne he)

/-- What is loaded is what the row of the address holds. -/
theorem load_congr {s s' : StateStore} {address : String} (h : s.rows.get? address = s'.rows.get? address) :
    s.load address = s'.load address := by
  rw [load, load, h]

/-- What is on record can be read again. -/
theorem load_of_row {s : StateStore} {address kind id : String} {fields : FieldMap}
    (h : s.rows.get? address = some ⟨kind, id, fields.toText⟩) :
    s.load address = .ok (some ⟨address, kind, id, fields⟩) := by
  simp only [load, h, decode, FieldMap.parse_toText]
  rfl

theorem get?_save (s : StateStore) (r : ResourceRecord) :
    (s.save r).rows.get? r.address = some ⟨r.kind, r.remoteId, r.fields.toText⟩ :=
  (SortedMap.get?_insert _ _ _ _).trans (if_pos rfl)

/-- **A record is loaded as it was saved.** -/
theorem load_save (s : StateStore) (r : ResourceRecord) : (s.save r).load r.address = .ok (some r) :=
  load_of_row (s.get?_save r)

end StateStore

/-! ## Declarations -/

open Json (Closes Opens isBlank skipBlank_cons closes_cons closes_tailChars innerChars tailChars memberChars
  renderChars readList_inner readObject_first readObject_next)

theorem readText_renderChars (s : String) (rest : List Char) :
    readText (renderChars (.string s) ++ rest) = .ok (s, rest) := by
  have htext : renderChars (.string s) ++ rest = '"' :: (s.toList.flatMap Json.escapeChar ++ '"' :: rest) := by
    simp [renderChars, Json.renderString]
  have hquote : isBlank '"' = false := by decide
  rw [htext, readText, skipBlank_cons hquote]
  simp [Json.readString_escaped, Except.map]

/-- A member that was not read yet is read as its value is. -/
theorem readOnce_colon {α : Type} (name : String) (read : Json.Reader α) (cs : List Char) :
    readOnce name none read (':' :: cs) = read cs := by
  have hcolon : isBlank ':' = false := by decide
  simp only [readOnce, Json.readColon, skipBlank_cons hcolon, if_true, bind, Except.bind]

namespace Declaration

variable {bound depth : Nat} {rest : List Char}

theorem readMember_address (address : String) :
    readMember bound depth {} "address".toList (':' :: (renderChars (.string address) ++ rest)) =
      .ok ({ address := some address }, rest) := by
  simp only [readMember, String.ofList_toList, readOnce_colon, readText_renderChars, bind, Except.bind, pure,
    Except.pure]

theorem readMember_kind (address kind : String) :
    readMember bound depth { address := some address } "kind".toList (':' :: (renderChars (.string kind) ++ rest)) =
      .ok ({ address := some address, kind := some kind }, rest) := by
  simp only [readMember, String.ofList_toList, readOnce_colon, readText_renderChars, bind, Except.bind, pure,
    Except.pure]

theorem readMember_fields (address kind : String) (fields : FieldMap)
    (hbound : (renderChars fields.toJson ++ rest).length < bound) :
    readMember bound (depth + 3) { address := some address, kind := some kind } "fields".toList
      (':' :: (renderChars fields.toJson ++ rest)) =
        .ok ({ address := some address, kind := some kind, fields := some fields }, rest) := by
  have htext : fields.toText.toList = renderChars fields.toJson := String.toList_ofList
  have hread := FieldMap.read_toText fields depth (htext ▸ hbound)
  rw [htext] at hread
  simp only [readMember, String.ofList_toList, readOnce_colon, hread, bind, Except.bind, pure, Except.pure]

/-- The members of a resource as they are written. -/
theorem renderChars_toJson (d : Declaration) : renderChars d.toJson =
    '\x7b' :: innerChars '\x7d' ([("address", .string d.address), ("kind", .string d.kind),
      ("fields", FieldMap.toJson d.fields)].map (memberChars (·.1) fun m : String × Json => renderChars m.2)) :=
  Json.renderChars_object _

theorem opens_renderChars (d : Declaration) : Opens (renderChars d.toJson) := by
  rw [renderChars_toJson]
  exact ⟨'\x7b', _, rfl, by decide⟩

theorem read_brace (bound depth : Nat) (cs : List Char) : read bound (depth + 1) ('\x7b' :: cs) = do
    let (p, rest) ← Json.readObject (readMember bound depth) bound true {} cs
    return (← ofPartial p, rest) := by
  rw [read, skipBlank_cons (by decide)]
  rfl

/-- **A resource is read as it was written**, with more text behind it. -/
theorem read_renderChars (d : Declaration) (hbound : (renderChars d.toJson ++ rest).length < bound) :
    read bound (depth + 4) (renderChars d.toJson ++ rest) = .ok (d, rest) := by
  let text (m : String × Json) : List Char := renderChars m.2
  let member := memberChars (fun m : String × Json => m.1) text
  have htext : renderChars d.toJson = '\x7b' :: (member ("address", .string d.address) ++
      tailChars '\x7d' [member ("kind", .string d.kind), member ("fields", FieldMap.toJson d.fields)]) :=
    renderChars_toJson d
  -- each of the three members takes at least one character
  have hlength : (renderChars d.toJson ++ rest).length =
      (member ("address", .string d.address)).length + (member ("kind", .string d.kind)).length +
        (member ("fields", FieldMap.toJson d.fields)).length + rest.length + 4 := by
    rw [htext]
    simp only [tailChars, List.flatMap_cons, List.flatMap_nil, List.length_append, List.length_cons, List.length_nil]
    omega
  have hinner := Json.length_memberChars (·.1) text ("fields", FieldMap.toJson d.fields)
  have hfields : (renderChars (FieldMap.toJson d.fields) ++ (tailChars '\x7d' [] ++ rest)).length < bound := by
    simp only [tailChars, List.flatMap_nil, List.length_append, List.length_cons, List.length_nil]
    change (renderChars (FieldMap.toJson d.fields)).length <
      (member ("fields", FieldMap.toJson d.fields)).length at hinner
    omega
  obtain ⟨bound, rfl⟩ : ∃ b, bound = b + 4 := ⟨bound - 4, by omega⟩
  have hend : Json.readObject (readMember (bound + 4) (depth + 3)) (bound + 1) false
      { address := some d.address, kind := some d.kind, fields := some d.fields } (tailChars '\x7d' [] ++ rest) =
        .ok ({ address := some d.address, kind := some d.kind, fields := some d.fields }, rest) := rfl
  rw [htext, List.cons_append, List.append_assoc, read_brace,
    readObject_first (readMember_address d.address), readObject_next (readMember_kind d.address d.kind),
    readObject_next (readMember_fields d.address d.kind d.fields hfields), hend]
  rfl

end Declaration

/-! ## Manifests -/

namespace Manifest

theorem readResources_bracket (bound depth : Nat) (cs : List Char) : readResources bound (depth + 1) ('[' :: cs) =
    Json.readList (Declaration.read bound depth) bound true cs := by
  rw [readResources, skipBlank_cons (by decide)]
  rfl

theorem read_brace (bound depth : Nat) (cs : List Char) : read bound (depth + 1) ('\x7b' :: cs) = do
    let (rs, rest) ← Json.readObject (readMember bound depth) bound true none cs
    return (⟨rs.getD []⟩, rest) := by
  rw [read, skipBlank_cons (by decide)]
  rfl

variable {bound depth : Nat} {rest : List Char}

/-- The list of the resources is read as it was written. -/
theorem readResources_renderChars (ds : List Declaration)
    (hbound : (renderChars (.array (ds.map Declaration.toJson)) ++ rest).length < bound) :
    readResources bound (depth + 5) (renderChars (.array (ds.map Declaration.toJson)) ++ rest) = .ok (ds, rest) := by
  have htext : renderChars (.array (ds.map Declaration.toJson)) ++ rest =
      '[' :: (innerChars ']' (ds.map fun d => renderChars d.toJson) ++ rest) := by
    rw [Json.renderChars_array, List.map_map]
    rfl
  rw [htext, List.length_cons] at hbound
  have hread : Json.readList (Declaration.read bound (depth + 4)) bound true
      (innerChars ']' (ds.map fun d => renderChars d.toJson) ++ rest) = .ok (ds.map id, rest) :=
    readList_inner (fun d _ => d.opens_renderChars) (fun d _ rest _ hl => d.read_renderChars hl) (by omega) (by omega)
  rw [htext, readResources_bracket, hread, List.map_id]

theorem readMember_resources (ds : List Declaration)
    (hbound : (renderChars (.array (ds.map Declaration.toJson)) ++ rest).length < bound) :
    readMember bound (depth + 5) none "resources".toList
      (':' :: (renderChars (.array (ds.map Declaration.toJson)) ++ rest)) = .ok (some ds, rest) := by
  simp only [readMember, String.ofList_toList, readOnce_colon, readResources_renderChars ds hbound, bind, Except.bind,
    pure, Except.pure]

/-- **A manifest is read as it was written**, however many resources it has and whatever they hold. -/
theorem parse_render (m : Manifest) : Manifest.parse m.render = .ok m := by
  let resources : Json := .array (m.resources.map Declaration.toJson)
  let text (m : String × Json) : List Char := renderChars m.2
  have htext : m.render.toList =
      '\x7b' :: (memberChars (fun m : String × Json => m.1) text ("resources", resources) ++ tailChars '\x7d' []) := by
    rw [render, Json.render, String.toList_ofList, toJson, Json.renderChars_object]
    rfl
  have hlength := Json.length_memberChars (fun m : String × Json => m.1) text ("resources", resources)
  have hbound : (renderChars resources ++ tailChars '\x7d' []).length < m.render.toList.length + 1 := by
    rw [htext, List.length_cons, List.length_append, List.length_append]
    change (renderChars resources).length < _ at hlength
    omega
  obtain ⟨bound, hlong⟩ : ∃ b, m.render.toList.length + 1 = b + 2 := ⟨m.render.toList.length - 1, by
    rw [htext, List.length_cons]
    omega⟩
  rw [hlong] at hbound
  have hend : Json.readObject (readMember (bound + 2) 127) (bound + 1) false (some m.resources) (tailChars '\x7d' []) =
      .ok (some m.resources, []) := rfl
  have hread : read (bound + 2) Json.depthLimit m.render.toList = .ok (m, []) := by
    have hmember : readMember (bound + 2) 127 none "resources".toList
        (':' :: (renderChars resources ++ tailChars '\x7d' [])) = .ok (some m.resources, tailChars '\x7d' []) :=
      readMember_resources m.resources hbound
    rw [htext, Json.depthLimit, read_brace, readObject_first hmember, hend]
    rfl
  simp only [parse, Json.readWhollyWith, hlong, hread, bind, Except.bind]
  rfl

end Manifest

/-! ## Both -/

/-- **What is written down reads back unchanged.** The text that a store keeps for a field map is read as
this map; a record that was saved is loaded as it was, whatever edits of other addresses came in between; and
the text of a manifest is read as this manifest. -/
theorem written_reads_back :
    (∀ (s : StateStore) (r : ResourceRecord), ∃ row, (s.save r).rows.get? r.address = some row ∧
      FieldMap.parse row.fieldsText = .ok r.fields) ∧
    (∀ (s : StateStore) (r : ResourceRecord) (edits : List StateStore.Edit), (∀ e ∈ edits, e.address ≠ r.address) →
      (edits.foldl StateStore.edit (s.save r)).load r.address = .ok (some r)) ∧
    ∀ m : Manifest, Manifest.parse m.render = .ok m := by
  refine ⟨fun s r => ⟨_, s.get?_save r, FieldMap.parse_toText r.fields⟩, fun s r edits h => ?_, Manifest.parse_render⟩
  rw [StateStore.load_congr (StateStore.get?_edits _ h), s.load_save r]

/-- Values that are easily read as others: the least number, digits as a text, escapes and a character beyond the
basic plane, and an empty list and an empty map, which are spelled differently. -/
def awkwardFields : FieldMap :=
  .ofList [("", .int Int64.minValue), ("digits", .string "-007"), ("empty", .list []), ("\n", .map .empty),
    ("text", .string "\u0000\"\\/\u001f😀"), ("yes", .bool true), ("ys", .list ["", "1"]),
    ("zs", .map (.ofList [("", "1"), ("k", "")]))]

/-- A record is loaded although records of other addresses were saved and removed after it, and a manifest of two
resources is read although both have the same address. -/
theorem written_reads_back_awkward :
    ([StateStore.Edit.save ⟨"b", "k", "i", .empty⟩, .remove "b", .remove "c"].foldl StateStore.edit
        ((StateStore.mk .empty).save ⟨"a", "", "id", awkwardFields⟩)).load "a" =
      .ok (some ⟨"a", "", "id", awkwardFields⟩) ∧
    Manifest.parse (Manifest.mk [⟨"a", "k", awkwardFields⟩, ⟨"a", "", .empty⟩]).render =
      .ok ⟨[⟨"a", "k", awkwardFields⟩, ⟨"a", "", .empty⟩]⟩ :=
  ⟨written_reads_back.2.1 (.mk .empty) ⟨"a", "", "id", awkwardFields⟩ _ (by simp [StateStore.Edit.address]),
    written_reads_back.2.2 _⟩

end Converge
