import Converge.Proofs.Wire

/-!
# The two decoders of field values

A manifest and a reply write the same values, and two decoders read them, so a value that one of them takes otherwise
than the other would never match its own report. The lenient decoder is the strict one behind a pass that puts quotes
around the numbers and the truth values in a list or an object (`FieldValue.ofShape?_eq_ofJson?`), and that pass
changes nothing that the strict decoder takes. So the two differ on the containers of scalars that hold a number or a
truth value, and on nothing else. Main theorem: `FieldValue.decoders_agree`.
-/

namespace Converge

theorem int64?_eq_some_iff {i : Int} {j : Int64} : int64? i = some j ↔ j.toInt = i := by
  constructor
  · intro h
    unfold int64? at h
    split at h
    · rename_i hrange
      cases h
      rw [Int64.toInt_ofInt_of_le (by omega) (by omega)]
    · cases h
  · rintro rfl
    exact int64?_toInt j

theorem SortedMap.ofList_map {β γ : Type} (f : β → γ) (es : List (String × β)) :
    ofList (es.map fun e => (e.1, f e.2)) = (ofList es).mapValues f := by
  have hlookup : ∀ (l : List (String × β)) n,
      lookup n (l.map fun e => (e.1, f e.2)) = (lookup n l).map f := by
    intro l n
    induction l with
    | nil => rfl
    | cons e l ih => by_cases hn : e.1 = n <;> simp [lookup, hn, ih]
  refine ext_get? fun n => ?_
  rw [get?_mapValues, get?_ofList, get?_ofList, ← List.map_reverse, hlookup]

/-- A list that is read element by element is known by what it is read as, if each element is. -/
theorem mapM_eq_some_iff {α β : Type} {f : α → Option β} {g : β → α} (h : ∀ a b, f a = some b ↔ a = g b)
    {as : List α} {bs : List β} : as.mapM f = some bs ↔ as = bs.map g := by
  induction as generalizing bs with
  | nil => cases bs <;> simp
  | cons a as ih =>
    simp only [List.mapM_cons, Option.bind_eq_bind, Option.bind_eq_some_iff, Option.pure_def, Option.some.injEq, h, ih]
    constructor
    · rintro ⟨b, rfl, bs, rfl, rfl⟩
      rfl
    · intro heq
      cases bs with
      | nil => cases heq
      | cons b bs =>
        obtain ⟨rfl, rfl⟩ := List.cons.inj heq
        exact ⟨b, rfl, bs, rfl, rfl⟩

/-! ## Elements -/

namespace Json

/-- The elements of a list or an object; what is neither has none to tell. -/
def elements? : Json → Option (List Json)
  | .array items => some items
  | .object ms => some (ms.map (·.2))
  | _ => none

/-- Changes every element of a list or an object. -/
def mapElements (f : Json → Json) : Json → Json
  | .array items => .array (items.map f)
  | .object ms => .object (ms.map fun m => (m.1, f m.2))
  | v => v

/-- Is the value a number or a truth value? -/
def isPlainScalar : Json → Bool
  | .number _ | .bool _ => true
  | _ => false

/-- Is the value a string, a number or a truth value? -/
def isScalar (v : Json) : Bool := v.string?.isSome || v.isPlainScalar

/-- A number and a truth value as the string they print as. -/
def quoted (v : Json) : Json := if v.isPlainScalar then .string v.render else v

theorem elements?_mapElements (f : Json → Json) (v : Json) :
    (v.mapElements f).elements? = v.elements?.map (List.map f) := by
  cases v <;> simp [mapElements, elements?]

theorem mapElements_eq_self {f : Json → Json} {v : Json} (h : ∀ es, v.elements? = some es → ∀ e ∈ es, f e = e) :
    v.mapElements f = v := by
  cases v with
  | array items => rw [mapElements, List.map_congr_left (h items rfl), List.map_id']
  | object ms =>
    have hms : ∀ m ∈ ms, (m.1, f m.2) = m := fun m hm =>
      Prod.ext rfl (h (ms.map (·.2)) rfl m.2 (List.mem_map_of_mem hm))
    rw [mapElements, List.map_congr_left hms, List.map_id']
  | _ => rfl

theorem canonicalItems_strings (xs : List String) : canonicalItems (xs.map .string) = xs.map .string := by
  induction xs with
  | nil => rfl
  | cons x xs ih => rw [List.map_cons, canonicalItems, ih, canonical]

theorem canonicalMembers_strings (es : List (String × String)) :
    canonicalMembers (es.map fun e => (e.1, .string e.2)) = es.map fun e => (e.1, .string e.2) := by
  induction es with
  | nil => rfl
  | cons e es ih => rw [List.map_cons, canonicalMembers, ih, canonical]

theorem string?_eq_some_iff {v : Json} {s : String} : v.string? = some s ↔ v = .string s := by
  cases v <;> simp [string?]

/-- What is quoted is a string exactly if it was a scalar. -/
theorem isScalar_iff {v : Json} : v.isScalar = true ↔ ∃ s, v.quoted.string? = some s := by
  cases v <;> simp [isScalar, quoted, isPlainScalar, string?]

/-- The elements of a list that are strings, all of them. -/
theorem mapM_string?_eq_some_iff {items : List Json} {xs : List String} :
    items.mapM string? = some xs ↔ items = xs.map .string :=
  mapM_eq_some_iff fun _ _ => string?_eq_some_iff

/-- The members of an object that are strings, all of them. -/
theorem pairs?_string?_eq_some_iff {ms : List (String × Json)} {es : List (String × String)} :
    FieldValue.pairs? string? ms = some es ↔ ms = es.map fun e => (e.1, .string e.2) := by
  refine mapM_eq_some_iff fun m e => ?_
  rw [Option.map_eq_some_iff, Prod.ext_iff]
  constructor
  · rintro ⟨s, hs, rfl⟩
    exact ⟨rfl, string?_eq_some_iff.1 hs⟩
  · rintro ⟨hname, hvalue⟩
    exact ⟨e.2, string?_eq_some_iff.2 hvalue, Prod.ext hname rfl⟩

end Json

namespace FieldValue

open Json (mapElements quoted)

/-! ## One decoder in terms of the other -/

theorem scalarText?_eq (v : Json) : scalarText? v = v.quoted.string? := by
  rcases v with _ | (_ | _) | n | s | _ | _ <;>
    simp [scalarText?, quoted, Json.isPlainScalar, Json.string?, Json.render, Json.renderChars]

/-- **The lenient decoder is the strict one** behind a pass that quotes the elements. -/
theorem ofShape?_eq_ofJson? (v : Json) : ofShape? v = ofJson? (v.mapElements quoted) := by
  have htext : scalarText? = fun v => v.quoted.string? := funext scalarText?_eq
  cases v with
  | array items => simp only [ofShape?, mapElements, ofJson?, List.mapM_map, htext, Function.comp_def]
  | object ms => simp only [ofShape?, mapElements, ofJson?, pairs?, List.mapM_map, htext, Function.comp_def]
  | _ => rfl

/-! ## What the strict decoder takes -/

section
variable {v : Json} {x : FieldValue} (h : ofJson? v = some x)
include h

theorem exists_string_of_ofJson? {es : List Json} (hes : v.elements? = some es) {e : Json} (he : e ∈ es) :
    ∃ s, e = .string s := by
  cases v with
  | array items =>
    obtain ⟨xs, hxs, _⟩ := Option.map_eq_some_iff.1 h
    cases hes
    rw [Json.mapM_string?_eq_some_iff.1 hxs] at he
    obtain ⟨s, _, rfl⟩ := List.mem_map.1 he
    exact ⟨s, rfl⟩
  | object ms =>
    obtain ⟨ps, hps, _⟩ := Option.map_eq_some_iff.1 h
    cases hes
    rw [Json.pairs?_string?_eq_some_iff.1 hps] at he
    simp only [List.map_map, List.mem_map, Function.comp_apply] at he
    obtain ⟨p, _, rfl⟩ := he
    exact ⟨p.2, rfl⟩
  | _ => cases hes

/-- The pass leaves alone what the strict decoder takes. -/
theorem mapElements_quoted_of_ofJson? : v.mapElements quoted = v := by
  refine Json.mapElements_eq_self fun es hes e he => ?_
  obtain ⟨s, rfl⟩ := exists_string_of_ofJson? h hes he
  rfl

/-- **What the strict decoder takes is the value as it is written**, but for the order of the members and for those
that are repeated. -/
theorem canonical_of_ofJson? : v.canonical = x.toJson := by
  cases v with
  | null => cases h
  | bool b =>
    cases h
    rfl
  | number n =>
    obtain ⟨j, hj, rfl⟩ := Option.map_eq_some_iff.1 h
    obtain ⟨i, hi, hj⟩ := Option.bind_eq_some_iff.1 hj
    cases n with
    | int k =>
      cases hi
      rw [toJson, int64?_eq_some_iff.1 hj, Json.canonical]
    | float negative m => cases hi
  | string s =>
    cases h
    rfl
  | array items =>
    obtain ⟨xs, hxs, rfl⟩ := Option.map_eq_some_iff.1 h
    rw [Json.mapM_string?_eq_some_iff.1 hxs, Json.canonical, Json.canonicalItems_strings]
    rfl
  | object ms =>
    obtain ⟨es, hes, rfl⟩ := Option.map_eq_some_iff.1 h
    rw [Json.pairs?_string?_eq_some_iff.1 hes, Json.canonical, Json.canonicalMembers_strings, Json.sortMembers,
      SortedMap.ofList_map]
    rfl

end

/-- **What only the lenient decoder takes** is a list or an object of scalars that are not all strings. -/
theorem ofShape?_and_not_ofJson?_iff {v : Json} {x : FieldValue} :
    ofShape? v = some x ∧ ofJson? v = none ↔
      ∃ es, v.elements? = some es ∧ (∀ e ∈ es, e.isScalar = true) ∧ (∃ e ∈ es, e.isPlainScalar = true) ∧
        ofJson? (v.mapElements quoted) = some x := by
  rw [ofShape?_eq_ofJson?]
  constructor
  · rintro ⟨hlenient, hstrict⟩
    have hchanged : ∃ es, v.elements? = some es ∧ ∃ e ∈ es, quoted e ≠ e := by
      by_contra! hsame
      rw [Json.mapElements_eq_self hsame, hstrict] at hlenient
      cases hlenient
    obtain ⟨es, hes, e, he, hne⟩ := hchanged
    refine ⟨es, hes, fun a ha => ?_, ⟨e, he, ?_⟩, hlenient⟩
    · have hquoted : (v.mapElements quoted).elements? = some (es.map quoted) := by
        rw [Json.elements?_mapElements, hes, Option.map_some]
      obtain ⟨s, hs⟩ := exists_string_of_ofJson? hlenient hquoted (List.mem_map_of_mem ha)
      exact Json.isScalar_iff.2 ⟨s, Json.string?_eq_some_iff.2 hs⟩
    · by_contra hplain
      exact hne (if_neg hplain)
  · rintro ⟨es, hes, _, ⟨e, he, hplain⟩, hlenient⟩
    refine ⟨hlenient, ?_⟩
    by_contra hstrict
    obtain ⟨y, hy⟩ := Option.ne_none_iff_exists'.1 hstrict
    obtain ⟨s, rfl⟩ := exists_string_of_ofJson? hy hes he
    cases hplain

end FieldValue

/-! ## Whole objects -/

namespace Vault

/-- What is written is read back, over what was there. -/
theorem readFields_writeFields (fields : FieldMap) (names : List String) (target : FieldMap) :
    readFields (Json.ofMap (writeFields fields names [])) names target =
      target.overwrite (fields.filter fun n _ => names.contains n) := by
  refine SortedMap.ext_get? fun n => ?_
  rw [get?_readFields, Json.get?_ofMap, get?_writeFields, SortedMap.get?_overwrite, SortedMap.get?_filter_key]
  have hwire : ∀ v : FieldValue, wireValue false v = v.toJson := by
    intro v
    cases v <;> rfl
  by_cases hn : n ∈ names
  · cases fields.get? n <;> simp [hn, hwire, FieldValue.ofShape?_toJson]
  · simp [hn]

end Vault

open FieldValue in
/-- **The two decoders agree.** What the strict one takes the lenient one takes as the same, also after the members of
every object have been sorted. What only the lenient one takes is exactly a list or an object of scalars in which a
number or a truth value stands, and it takes that as the strict one does with each of them in quotes. Every value comes
back from its JSON, and so do the listed fields that are written without durations. -/
theorem FieldValue.decoders_agree :
    (∀ v x, ofJson? v = some x → ofShape? v = some x ∧ ofShape? v.canonical = some x) ∧
    (∀ v x, ofShape? v = some x ∧ ofJson? v = none ↔
      ∃ es, v.elements? = some es ∧ (∀ e ∈ es, e.isScalar = true) ∧ (∃ e ∈ es, e.isPlainScalar = true) ∧
        ofJson? (v.mapElements Json.quoted) = some x) ∧
    (∀ x : FieldValue, ofShape? x.toJson = some x) ∧
    ∀ (fields : FieldMap) (names : List String),
      Vault.readFields (Json.ofMap (Vault.writeFields fields names [])) names SortedMap.empty =
        fields.filter fun n _ => names.contains n := by
  refine ⟨fun v x h => ⟨?_, ?_⟩, fun _ _ => ofShape?_and_not_ofJson?_iff, ofShape?_toJson, fun fields names => ?_⟩
  · rw [ofShape?_eq_ofJson?, mapElements_quoted_of_ofJson? h, h]
  · rw [canonical_of_ofJson? h, ofShape?_toJson]
  · rw [Vault.readFields_writeFields]
    refine SortedMap.ext_get? fun n => ?_
    rw [SortedMap.get?_overwrite, SortedMap.get?_empty, Option.or_none]

open FieldValue in
theorem FieldValue.decoders_agree_ports :
    ofShape? (.object [("b", .string "2"), ("a", .string "1"), ("b", .string "3")]) =
        some (.map (SortedMap.ofList [("a", "1"), ("b", "3")])) ∧
      ofShape? (.array [.string "a", .number (.int 1), .bool true]) = some (.list ["a", "1", "true"]) ∧
      ofJson? (.array [.string "a", .number (.int 1), .bool true]) = none :=
  ⟨(FieldValue.decoders_agree.1 _ _ (by decide)).1,
    (FieldValue.decoders_agree.2.1 _ _).2 ⟨_, rfl, by decide, ⟨.bool true, by simp, rfl⟩, by decide⟩⟩

end Converge
