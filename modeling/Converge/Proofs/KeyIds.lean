import Converge.Vault.TransitKey.Wire
import Converge.Proofs.BuiltIn
import Converge.Proofs.Wire

/-!
# The ids of transit keys

The id of a key is cut where its separator stands last (`parseKeyId_eq_ok_iff`). The cut gives the backend and
the name back exactly for a name that keeps clear of the separator; any other name loses its front to the
backend, and the key is reported under another backend and another name than it was created with. No name is
refused for that. Two keys share an id exactly if the backend of one reaches into the name of the other
(`keyId_eq_iff`). Main theorem: `Vault.TransitKey.keyId_told`.
-/

namespace Converge

namespace Text

/-- Trimming keeps all characters that are not of the class. -/
theorem count_trimBoth {p : Char → Bool} {c : Char} (hc : p c = false) (cs : List Char) :
    (trimBoth p cs).count c = cs.count c := by
  obtain ⟨front, back, hcs, hfront, hback⟩ := exists_append_trimBoth p cs
  have hnone : ∀ l : List Char, (∀ d ∈ l, p d = true) → l.count c = 0 := by
    intro l hl
    rw [List.count_eq_zero]
    intro hmem
    rw [hl c hmem] at hc
    cases hc
  conv_rhs => rw [hcs, List.count_append, List.count_append, hnone front hfront, hnone back hback]
  rw [Nat.zero_add, Nat.add_zero]

end Text

/-- An attribute that comes first in the schema and forces a replacement is the reason for it. -/
theorem Schema.action_of_head_forced {s : Schema} {f : FieldSpec} {rest : List FieldSpec} (hs : s.fields = f :: rest)
    {desired remote : FieldMap} (hf : f.Forced desired remote) : s.action desired remote = .replace f.name desired := by
  have hmem : f ∈ s.fields := by simp [hs]
  obtain ⟨reason, d, haction⟩ := exists_action_eq_replace_iff.2 ⟨f, hmem, hf⟩
  obtain ⟨⟨before, g, after, hplace, rfl, _, hbefore⟩, rfl⟩ := firstForced_of_action haction
  rw [hs] at hplace
  cases before with
  | nil =>
    obtain ⟨rfl, _⟩ := List.cons.inj hplace
    exact haction
  | cons e before =>
    obtain ⟨rfl, _⟩ := List.cons.inj hplace
    exact absurd hf (hbefore f List.mem_cons_self)

/-- A text without slashes at its ends does not end with one. -/
theorem Normalizer.withoutSlashes_ne_concat (s : String) (cs : List Char) :
    (withoutSlashes s).toList ≠ cs ++ ['/'] := by
  intro h
  have htrim : (withoutSlashes s).toList =
      List.rdropWhile (fun c : Char => decide (c = '/')) (s.toList.dropWhile fun c => decide (c = '/')) := by
    rw [withoutSlashes, String.toList_ofList]
    rfl
  rw [htrim] at h
  have hne : cs ++ ['/'] ≠ [] := by simp
  have hlast := List.rdropWhile_last_not _ _ (h ▸ hne)
  simp [h] at hlast

/-- What an attribute takes that is a text without slashes at its ends and not empty. -/
theorem FieldSpec.checkDesired_of_trimmed {f : FieldSpec} (htype : f.type = .string)
    (hnorm : f.normalizer = some Normalizer.trimSlashes) (hvalid : f.validator = some Validator.nonEmpty)
    {v w : FieldValue} : f.checkDesired v = .ok w ↔
      ∃ s, v = .string s ∧ Normalizer.withoutSlashes s ≠ "" ∧ w = .string (Normalizer.withoutSlashes s) := by
  have hcomputes : f.overflowsOn v = false := by simp [FieldSpec.overflowsOn, hnorm, Normalizer.trimSlashes]
  rw [FieldSpec.checkDesired_eq_ok, FieldSpec.checkType_eq_ok, FieldSpec.normalize, hnorm, htype]
  cases v with
  | string s =>
    simp only [Normalizer.trimSlashes, hcomputes, FieldSpec.complaint, hvalid, Option.bind_some, true_and]
    constructor
    · rintro ⟨⟨rfl, _⟩, hcomplaint⟩
      refine ⟨s, rfl, ?_, rfl⟩
      intro hempty
      simp [Validator.nonEmpty, hempty] at hcomplaint
    · rintro ⟨_, hs, hne, rfl⟩
      cases hs
      exact ⟨⟨rfl, rfl⟩, by simp [Validator.nonEmpty, hne]⟩
  | bool | int | list | map =>
    constructor
    · rintro ⟨⟨-, rfl, htyped⟩, -⟩
      cases htyped
    · rintro ⟨_, hs, -⟩
      cases hs

/-- What such an attribute without a default is resolved to is trimmed and not empty. -/
theorem Schema.Collected.trimmed {fs : List FieldSpec} {desired m : FieldMap}
    (hm : Collected (·.desiredEntry desired) fs m) {f : FieldSpec} (hf : f ∈ fs) (htype : f.type = .string)
    (hnorm : f.normalizer = some Normalizer.trimSlashes) (hvalid : f.validator = some Validator.nonEmpty)
    (hdefault : f.default = none) {s : String} (hs : m.get? f.name = some (.string s)) :
    Normalizer.withoutSlashes s = s ∧ s ≠ "" := by
  rcases FieldSpec.desiredEntry_eq_ok.1 (hm.entries f hf) with ⟨v, w, _, hw, he⟩ | ⟨_, _, he⟩
  · obtain ⟨r, _, hne, rfl⟩ := (FieldSpec.checkDesired_of_trimmed htype hnorm hvalid).1 hw
    rw [hs] at he
    cases he
    exact ⟨Normalizer.withoutSlashes_withoutSlashes r, hne⟩
  · rw [hs, FieldSpec.defaultValue, hdefault] at he
    cases he

namespace Vault.TransitKey

/-! ## The last separator -/

theorem splitLast?_eq_none_iff {sep cs : List Char} : splitLast? sep cs = none ↔ ¬ sep <:+: cs := by
  induction cs with
  | nil => simp [splitLast?]
  | cons c cs ih =>
    rw [List.infix_cons_iff, not_or, splitLast?]
    cases hs : splitLast? sep cs with
    | some cut =>
      have hin : sep <:+: cs := by
        by_contra hout
        rw [ih.2 hout] at hs
        cases hs
      simp [hin]
    | none => simp [ih.1 hs]

/-- A text is cut where the separator stands and does not occur again. -/
theorem splitLast?_append {c : Char} {sep : List Char} (before : List Char) {after : List Char}
    (h : ¬ c :: sep <:+: sep ++ after) :
    splitLast? (c :: sep) (before ++ c :: sep ++ after) = some (before, after) := by
  induction before with
  | nil => simp [splitLast?, splitLast?_eq_none_iff.2 h]
  | cons b before ih =>
    rw [List.cons_append, List.cons_append, splitLast?, ih]

/-- **Where a text is cut**: where the separator stands, and nowhere else does it not occur again. -/
theorem splitLast?_eq_some_iff {c : Char} {sep cs before after : List Char} :
    splitLast? (c :: sep) cs = some (before, after) ↔
      cs = before ++ c :: sep ++ after ∧ ¬ c :: sep <:+: sep ++ after := by
  constructor
  · intro h
    induction cs generalizing before with
    | nil => simp [splitLast?] at h
    | cons d cs ih =>
      rw [splitLast?] at h
      split at h
      · rename_i b a hs
        cases h
        obtain ⟨rfl, hlast⟩ := ih hs
        exact ⟨rfl, hlast⟩
      · rename_i hs
        split at h
        · rename_i hprefix
          cases h
          obtain ⟨rest, hrest⟩ := List.isPrefixOf_iff_prefix.1 hprefix
          obtain ⟨rfl, rfl⟩ := List.cons.inj hrest
          simpa using splitLast?_eq_none_iff.1 hs
        · cases h
  · rintro ⟨rfl, hlast⟩
    exact splitLast?_append before hlast

/-- A name keeps clear of the separator: it neither begins with its end nor contains it. -/
def Clear (name : String) : Prop := ¬ "keys/".toList <+: name.toList ∧ ¬ "/keys/".toList <:+: name.toList

instance (name : String) : Decidable (Clear name) := inferInstanceAs (Decidable (_ ∧ _))

/-- The separator does not occur again exactly where the name keeps clear of it. -/
theorem not_infix_iff_clear {name : String} : ¬ '/' :: "keys/".toList <:+: "keys/".toList ++ name.toList ↔ Clear name := by
  have htail : "keys/".toList = ['k', 'e', 'y', 's', '/'] := by decide
  have hsep : "/keys/".toList = ['/', 'k', 'e', 'y', 's', '/'] := by decide
  -- of the five places before the name only the last begins with a slash
  simp [Clear, htail, hsep, List.infix_cons_iff, List.cons_prefix_cons]

/-- The parts of an id around its last separator. -/
theorem splitLast?_separator {id : String} {before after : List Char} :
    splitLast? separator id.toList = some (before, after) ↔
      id = String.ofList before ++ "/keys/" ++ String.ofList after ∧ Clear (String.ofList after) := by
  have hsep : separator = '/' :: "keys/".toList := by decide
  have htext : "/keys/".toList = '/' :: "keys/".toList := by decide
  simp only [hsep, splitLast?_eq_some_iff, ← not_infix_iff_clear, ← String.toList_inj, String.toList_append,
    htext, String.toList_ofList]

/-- **What the id of a key tells**: the parts around the last separator, where neither is empty. -/
theorem parseKeyId_eq_ok_iff {id backend name : String} : parseKeyId id = .ok (backend, name) ↔
    id = backend ++ "/keys/" ++ name ∧ Clear name ∧ backend ≠ "" ∧ name ≠ "" := by
  unfold parseKeyId
  constructor
  · intro h
    split at h
    · rename_i before after hs
      split at h
      · cases h
      · rename_i hempty
        cases h
        obtain ⟨hid, hclear⟩ := splitLast?_separator.1 hs
        simp only [Bool.or_eq_true, List.isEmpty_iff, not_or] at hempty
        refine ⟨hid, hclear, ?_, ?_⟩
        · simpa using hempty.1
        · simpa using hempty.2
    · cases h
  · rintro ⟨hid, hclear, hb, hn⟩
    have hs : splitLast? separator id.toList = some (backend.toList, name.toList) :=
      splitLast?_separator.2 (by simpa using ⟨hid, hclear⟩)
    simp [hs, hb, hn]

/-! ## Keys that share an id -/

/-- The backend of the first key reaches into the name of the second, up to a place where the separator stands
again: at the front of the name, the slash before it shared, or further behind. -/
def ReachesInto (backend name backend' name' : String) : Prop :=
  (backend = backend' ++ "/keys" ∧ name' = "keys/" ++ name) ∨
    ∃ front, backend = backend' ++ "/keys/" ++ front ∧ name' = front ++ "/keys/" ++ name

theorem append_separator_cases {front name name' : List Char}
    (h : "/keys/".toList ++ name = front ++ ("/keys/".toList ++ name')) :
    (front = [] ∧ name = name') ∨ (front = "/keys".toList ∧ name = "keys/".toList ++ name') ∨
      ∃ rest, front = "/keys/".toList ++ rest ∧ name = rest ++ "/keys/".toList ++ name' := by
  have hsep : "/keys/".toList = ['/', 'k', 'e', 'y', 's', '/'] := by decide
  have hfront : "/keys".toList = ['/', 'k', 'e', 'y', 's'] := by decide
  have hback : "keys/".toList = ['k', 'e', 'y', 's', '/'] := by decide
  rw [hsep] at h ⊢
  rw [hfront, hback]
  rcases List.append_eq_append_iff.1 h with ⟨rest, rfl, hrest⟩ | ⟨rest, hprefix, _⟩
  · exact .inr (.inr ⟨rest, rfl, by simpa using hrest⟩)
  · -- the two separators overlap, which they can in nothing or in one slash
    have hpre : front <+: ['/', 'k', 'e', 'y', 's', '/'] := ⟨rest, hprefix.symm⟩
    simp only [List.prefix_cons_iff, List.prefix_nil] at hpre
    rcases hpre with rfl | ⟨_, rfl, rfl | ⟨_, rfl, rfl | ⟨_, rfl, rfl | ⟨_, rfl, rfl | ⟨_, rfl, rfl |
      ⟨_, rfl, rfl⟩⟩⟩⟩⟩⟩
    · exact .inl ⟨rfl, by simpa using h⟩
    · simp at h
    · simp at h
    · simp at h
    · simp at h
    · exact .inr (.inl ⟨rfl, by simpa using h⟩)
    · exact .inr (.inr ⟨[], rfl, by simpa using h⟩)

theorem ReachesInto.joined_eq {backend name backend' name' : String} (h : ReachesInto backend name backend' name') :
    backend ++ "/keys/" ++ name = backend' ++ "/keys/" ++ name' := by
  have hshared : "/keys" ++ "/keys/" = "/keys/" ++ "keys/" := by decide
  rcases h with ⟨rfl, rfl⟩ | ⟨front, rfl, rfl⟩
  · calc backend' ++ "/keys" ++ "/keys/" ++ name
      _ = backend' ++ ("/keys" ++ "/keys/") ++ name := by simp only [String.append_assoc]
      _ = backend' ++ "/keys/" ++ ("keys/" ++ name) := by simp only [hshared, String.append_assoc]
  · simp only [String.append_assoc]

/-- Of two readings of one id the one with the longer backend reaches into the name of the other. -/
theorem reachesInto_of_joined_eq {backend name backend' name' : String} {front : List Char}
    (h : backend ++ "/keys/" ++ name = backend' ++ "/keys/" ++ name')
    (hb : backend.toList = backend'.toList ++ front) :
    (backend = backend' ∧ name = name') ∨ ReachesInto backend name backend' name' := by
  simp only [← String.toList_inj, String.toList_append, List.append_assoc, hb] at h
  rcases append_separator_cases (List.append_cancel_left h).symm with ⟨rfl, hn⟩ | ⟨rfl, hn⟩ | ⟨rest, rfl, hn⟩
  · exact .inl ⟨String.toList_inj.1 (by simpa using hb), (String.toList_inj.1 hn).symm⟩
  · refine .inr (.inl ⟨String.toList_inj.1 ?_, String.toList_inj.1 ?_⟩)
    · rw [hb, String.toList_append]
    · rw [hn, String.toList_append]
  · refine .inr (.inr ⟨String.ofList rest, String.toList_inj.1 ?_, String.toList_inj.1 ?_⟩)
    · simp only [hb, String.toList_append, String.toList_ofList, List.append_assoc]
    · simp only [hn, String.toList_append, String.toList_ofList]

/-- **Two readings of one id**: the same, or the backend of one reaches into the name of the other. -/
theorem joined_eq_iff {backend name backend' name' : String} :
    backend ++ "/keys/" ++ name = backend' ++ "/keys/" ++ name' ↔
      (backend = backend' ∧ name = name') ∨ ReachesInto backend name backend' name' ∨
        ReachesInto backend' name' backend name := by
  constructor
  · intro h
    have htext := h
    simp only [← String.toList_inj, String.toList_append, List.append_assoc] at htext
    rcases List.append_eq_append_iff.1 htext with ⟨front, hb, _⟩ | ⟨front, hb, _⟩
    · rcases reachesInto_of_joined_eq h.symm hb with ⟨rfl, rfl⟩ | hreaches
      · exact .inl ⟨rfl, rfl⟩
      · exact .inr (.inr hreaches)
    · rcases reachesInto_of_joined_eq h hb with hsame | hreaches
      · exact .inl hsame
      · exact .inr (.inl hreaches)
  · rintro (⟨rfl, rfl⟩ | h | h)
    · rfl
    · exact h.joined_eq
    · exact h.joined_eq.symm

/-- A name that a backend reaches into does not keep clear of the separator. -/
theorem ReachesInto.not_clear {backend name backend' name' : String} (h : ReachesInto backend name backend' name') :
    ¬ Clear name' := by
  rintro ⟨hstart, hinside⟩
  rcases h with ⟨-, rfl⟩ | ⟨front, -, rfl⟩
  · exact hstart ⟨name.toList, by rw [String.toList_append]⟩
  · exact hinside ⟨front.toList, name.toList, by rw [String.toList_append, String.toList_append]⟩

/-! ## Accepted keys -/

/-- What makes up the id of a key is a text that is trimmed and not empty. -/
theorem rules_of_id : ∀ f ∈ fields, f.name = "backend" ∨ f.name = "name" → f.type = .string ∧
    f.normalizer = some Normalizer.trimSlashes ∧ f.validator = some Validator.nonEmpty := by
  simp [fields]

theorem exists_field_of_id {n : String} (hn : n = "backend" ∨ n = "name") : ∃ f ∈ fields, f.name = n := by
  have hmem : "backend" ∈ fields.map (·.name) ∧ "name" ∈ fields.map (·.name) := by simp [fields]
  rcases hn with rfl | rfl
  · exact List.mem_map.1 hmem.1
  · exact List.mem_map.1 hmem.2

theorem checkDesired_of_id {f : FieldSpec} (hf : f ∈ fields) (hn : f.name = "backend" ∨ f.name = "name")
    {v w : FieldValue} : f.checkDesired v = .ok w ↔
      ∃ s, v = .string s ∧ Normalizer.withoutSlashes s ≠ "" ∧ w = .string (Normalizer.withoutSlashes s) := by
  obtain ⟨htype, hnorm, hvalid⟩ := rules_of_id f hf hn
  exact FieldSpec.checkDesired_of_trimmed htype hnorm hvalid

section
variable {desired m : FieldMap}

/-- What is declared of an id is a text, and is resolved to the text without slashes at its ends. -/
theorem get?_of_declared (hm : Schema.Collected (·.desiredEntry desired) fields m) {n : String}
    (hn : n = "backend" ∨ n = "name") {v : FieldValue} (hv : desired.get? n = some v) :
    ∃ s, v = .string s ∧ Normalizer.withoutSlashes s ≠ "" ∧ m.get? n = some (.string (Normalizer.withoutSlashes s)) := by
  obtain ⟨f, hf, rfl⟩ := exists_field_of_id hn
  rcases FieldSpec.desiredEntry_eq_ok.1 (hm.entries f hf) with ⟨u, w, hu, hw, he⟩ | ⟨hnone, _⟩
  · rw [hv] at hu
    cases hu
    obtain ⟨s, rfl, hne, rfl⟩ := (checkDesired_of_id hf hn).1 hw
    exact ⟨s, rfl, hne, he⟩
  · rw [hv] at hnone
    cases hnone

/-- What is declared of an id is resolved to a text that is trimmed and not empty. -/
theorem exists_declared (hm : Schema.Collected (·.desiredEntry desired) fields m) {n : String}
    (hn : n = "backend" ∨ n = "name") (hc : desired.contains n = true) :
    ∃ s, m.get? n = some (.string s) ∧ Normalizer.withoutSlashes s = s ∧ s ≠ "" := by
  rw [SortedMap.contains_eq, Option.isSome_iff_exists] at hc
  obtain ⟨v, hv⟩ := hc
  obtain ⟨s, _, hne, hs⟩ := get?_of_declared hm hn hv
  exact ⟨_, hs, Normalizer.withoutSlashes_withoutSlashes s, hne⟩

end

/-- A declaration of nothing but a backend and a name. -/
def bare (backend name : String) : FieldMap := .ofList [("backend", .string backend), ("name", .string name)]

theorem get?_bare (backend name n : String) : (bare backend name).get? n =
    if n = "name" then some (.string name) else if n = "backend" then some (.string backend) else none := by
  simp [bare, SortedMap.get?_ofList, SortedMap.lookup, eq_comm]

theorem nameError_bare (backend name : String) : (bare backend name).keys.findSome? schema.nameError = none := by
  rw [List.findSome?_eq_none_iff]
  intro n hkey
  have hid : n = "name" ∨ n = "backend" := by
    rw [SortedMap.mem_keys, get?_bare] at hkey
    by_contra hne
    rw [not_or] at hne
    simp [hne.1, hne.2] at hkey
  rcases hid with rfl | rfl
  · decide +kernel
  · decide +kernel

/-- The schema takes a declaration of a key of this backend and this name. -/
def Accepts (backend name : String) : Prop :=
  ∃ desired resolved, schema.resolveDesired desired = .ok resolved ∧
    desired.get? "backend" = some (.string backend) ∧ desired.get? "name" = some (.string name)

variable {backend name : String}

/-- **The keys that are accepted**: those whose backend and name are more than slashes. -/
theorem accepts_iff : Accepts backend name ↔
    Normalizer.withoutSlashes backend ≠ "" ∧ Normalizer.withoutSlashes name ≠ "" := by
  constructor
  · rintro ⟨desired, resolved, hr, hb, hn⟩
    obtain ⟨_, m, hm, _⟩ := Schema.resolveDesired_eq_ok.1 hr
    obtain ⟨_, hbs, hbackend, _⟩ := get?_of_declared hm (.inl rfl) hb
    obtain ⟨_, hns, hname, _⟩ := get?_of_declared hm (.inr rfl) hn
    cases hbs
    cases hns
    exact ⟨hbackend, hname⟩
  · rintro ⟨hb, hn⟩
    have hplain : ∀ f ∈ fields, f.defaultOverflows = false := by decide +kernel
    have hentries : ∀ f ∈ fields, ∃ o, f.desiredEntry (bare backend name) = .ok o := by
      intro f hf
      by_cases hname : f.name = "name"
      · exact ⟨_, FieldSpec.desiredEntry_eq_ok.2 (.inl ⟨_, _, by rw [get?_bare, if_pos hname],
          (checkDesired_of_id hf (.inr hname)).2 ⟨name, rfl, hn, rfl⟩, rfl⟩)⟩
      by_cases hbackend : f.name = "backend"
      · exact ⟨_, FieldSpec.desiredEntry_eq_ok.2 (.inl ⟨_, _, by rw [get?_bare, if_neg hname, if_pos hbackend],
          (checkDesired_of_id hf (.inl hbackend)).2 ⟨backend, rfl, hb, rfl⟩, rfl⟩)⟩
      · exact ⟨_, FieldSpec.desiredEntry_eq_ok.2 (.inr ⟨by rw [get?_bare, if_neg hname, if_neg hbackend],
          hplain f hf, rfl⟩)⟩
    obtain ⟨m, hm⟩ := Schema.exists_collected (s := schema) hentries
    exact ⟨bare backend name, _, Schema.resolveDesired_eq_ok.2 ⟨nameError_bare backend name, m, hm, rfl⟩,
      get?_bare backend name _, get?_bare backend name _⟩

/-! ## Reading an id back -/

theorem keyId_eq (backend name : String) :
    keyId backend name = Normalizer.withoutSlashes backend ++ "/keys/" ++ Normalizer.withoutSlashes name := by
  have hsep : String.ofList separator = "/keys/" := by decide
  rw [keyId, hsep]

/-- **Keys that share an id** are the same key, but for slashes at the ends, or the backend of one reaches into the
name of the other. -/
theorem keyId_eq_iff {backend' name' : String} : keyId backend name = keyId backend' name' ↔
    (Normalizer.withoutSlashes backend = Normalizer.withoutSlashes backend' ∧
      Normalizer.withoutSlashes name = Normalizer.withoutSlashes name') ∨
    ReachesInto (Normalizer.withoutSlashes backend) (Normalizer.withoutSlashes name)
      (Normalizer.withoutSlashes backend') (Normalizer.withoutSlashes name') ∨
    ReachesInto (Normalizer.withoutSlashes backend') (Normalizer.withoutSlashes name')
      (Normalizer.withoutSlashes backend) (Normalizer.withoutSlashes name) := by
  rw [keyId_eq, keyId_eq, joined_eq_iff]

/-- **The id of a key tells its backend and its name**, if the name keeps clear of the separator. -/
theorem parseKeyId_keyId (backend name : String) (hb : Normalizer.withoutSlashes backend ≠ "")
    (hn : Normalizer.withoutSlashes name ≠ "")
    (hstart : ¬ "keys/".toList <+: (Normalizer.withoutSlashes name).toList)
    (hinside : ¬ "/keys/".toList <:+: (Normalizer.withoutSlashes name).toList) :
    parseKeyId (keyId backend name) = .ok (Normalizer.withoutSlashes backend, Normalizer.withoutSlashes name) :=
  parseKeyId_eq_ok_iff.2 ⟨keyId_eq backend name, ⟨hstart, hinside⟩, hb, hn⟩

/-- What reaches into a name that does not end with a slash has a backend and a name. -/
theorem ReachesInto.nonempty {backend' name' : String} (h : ReachesInto backend' name' backend name)
    (hend : ∀ cs, name.toList ≠ cs ++ ['/']) : backend' ≠ "" ∧ name' ≠ "" := by
  have hback : "keys/".toList = "keys".toList ++ ['/'] := by decide
  have hsep : "/keys/".toList = "/keys".toList ++ ['/'] := by decide
  rcases h with ⟨rfl, rfl⟩ | ⟨front, rfl, rfl⟩
  · refine ⟨by simp, ?_⟩
    rintro rfl
    exact hend "keys".toList (by rw [String.toList_append, hback]; simp)
  · refine ⟨by simp, ?_⟩
    rintro rfl
    exact hend (front.toList ++ "/keys".toList) (by rw [String.toList_append, String.toList_append, hsep]; simp)

/-- **The id of an accepted key can be read**, as this key or as one whose backend reaches into the name. -/
theorem exists_parseKeyId (h : Accepts backend name) : ∃ b n, parseKeyId (keyId backend name) = .ok (b, n) ∧
    ((b = Normalizer.withoutSlashes backend ∧ n = Normalizer.withoutSlashes name ∧ Clear n) ∨
      ReachesInto b n (Normalizer.withoutSlashes backend) (Normalizer.withoutSlashes name)) := by
  obtain ⟨hb, hn⟩ := accepts_iff.1 h
  have hcut : ∃ before after, splitLast? separator (keyId backend name).toList = some (before, after) := by
    cases hs : splitLast? separator (keyId backend name).toList with
    | none =>
      refine absurd ?_ (splitLast?_eq_none_iff.1 hs)
      exact ⟨_, _, by rw [keyId, String.toList_append, String.toList_append, String.toList_ofList]⟩
    | some cut => exact ⟨cut.1, cut.2, rfl⟩
  obtain ⟨before, after, hs⟩ := hcut
  obtain ⟨hid, hclear⟩ := splitLast?_separator.1 hs
  have hjoined := hid
  rw [keyId_eq, joined_eq_iff] at hjoined
  rcases hjoined with ⟨hbefore, hafter⟩ | hreached | hreaches
  · refine ⟨_, _, parseKeyId_eq_ok_iff.2 ⟨hid, hclear, ?_, ?_⟩, .inl ⟨hbefore.symm, hafter.symm, hclear⟩⟩
    · rw [← hbefore]
      exact hb
    · rw [← hafter]
      exact hn
  · exact absurd hclear hreached.not_clear
  · obtain ⟨hne, hne'⟩ := hreaches.nonempty (Normalizer.withoutSlashes_ne_concat name)
    exact ⟨_, _, parseKeyId_eq_ok_iff.2 ⟨hid, hclear, hne, hne'⟩, .inr hreaches⟩

theorem backend_name_apart : "backend" ∉ readable ∧ "name" ∉ readable := by simp [readable]

/-- A reply about a key is read as one about the backend and the name that its id tells. -/
theorem fieldsOfResponse_tells {id : String} (h : parseKeyId id = .ok (backend, name)) (response : Json) :
    ∃ m, fieldsOfResponse id response = .ok m ∧ m.string? "backend" = some backend ∧ m.string? "name" = some name := by
  refine ⟨_, by rw [fieldsOfResponse, h]; rfl, ?_, ?_⟩
  · simp [FieldMap.string?, get?_readFields, backend_name_apart.1, FieldValue.string?]
  · simp [FieldMap.string?, get?_readFields, backend_name_apart.2, FieldValue.string?]

/-! ## Keys that are replaced for their name -/

/-- The backend that reaches into a name is another one, also without slashes at its ends. -/
theorem ReachesInto.withoutSlashes_ne {backend' name' : String} (h : ReachesInto backend' name' backend name) :
    Normalizer.withoutSlashes backend' ≠ backend := by
  intro hsame
  have hlonger : backend.toList.count 'k' < backend'.toList.count 'k' := by
    rcases h with ⟨rfl, _⟩ | ⟨front, rfl, _⟩
    · simp [String.toList_append]
    · simp [String.toList_append]
  have hcount : (Normalizer.withoutSlashes backend').toList.count 'k' = backend'.toList.count 'k' := by
    rw [Normalizer.withoutSlashes, String.toList_ofList, Text.count_trimBoth (by decide)]
  rw [hsame] at hcount
  omega

/-- **A key whose name does not keep clear of the separator is never in line with its declaration**: whatever a
server reports of it, the plan is to replace the key, for its backend. -/
theorem compute_of_not_clear {desired resolved m : FieldMap} {response : Json} {p : Plan}
    (hr : schema.resolveDesired desired = .ok resolved) (hb : desired.get? "backend" = some (.string backend))
    (hn : desired.get? "name" = some (.string name)) (hname : ¬ Clear (Normalizer.withoutSlashes name))
    (hm : fieldsOfResponse (keyId backend name) response = .ok m)
    (hp : Plan.compute schema desired (some m) = .ok p) : p = .single (.replace "backend" resolved) := by
  obtain ⟨b, n, hparse, ⟨_, rfl, hclear⟩ | hreaches⟩ := exists_parseKeyId ⟨desired, resolved, hr, hb, hn⟩
  · exact absurd hclear hname
  obtain ⟨m', hm', hbackend, _⟩ := fieldsOfResponse_tells hparse response
  rw [hm] at hm'
  cases hm'
  obtain ⟨d, hd, hcases⟩ := Plan.compute_eq_ok.1 hp
  rw [hr] at hd
  cases hd
  rcases hcases with ⟨hnone, _⟩ | ⟨_, r, hreported, hresolved, _, hplan⟩
  · cases hnone
  cases hreported
  obtain ⟨_, mapped, hcollected, rfl⟩ := Schema.resolveDesired_eq_ok.1 hr
  obtain ⟨mappedRemote, hcollected', rfl⟩ := Schema.resolveRemote_eq_ok.1 hresolved
  rw [Schema.canonicalize_eq_self rfl] at hr hplan ⊢
  rw [Schema.canonicalize_eq_self rfl] at hresolved hplan
  -- the backend comes first among the attributes
  obtain ⟨f, rest, hfields, hfname, hfixed, hrules⟩ : ∃ f rest, schema.fields = f :: rest ∧ f.name = "backend" ∧
      f.mutability = .immutable ∧ f.normalizer = some Normalizer.trimSlashes := ⟨_, _, rfl, rfl, rfl, rfl⟩
  have hf : f ∈ schema.fields := by simp [hfields]
  obtain ⟨_, hs, _, hwant⟩ := get?_of_declared hcollected (.inl rfl) hb
  cases hs
  have hheld := (hcollected'.get?_of_remote hf).1
  rw [hfname, FieldMap.string?_eq_some.1 hbackend] at hheld
  have hforced : f.Forced mapped mappedRemote := by
    refine ⟨⟨by simp [hfixed], _, by rw [hfname]; exact hwant, ?_⟩, .inl hfixed⟩
    rw [FieldSpec.held, hfname, hheld]
    simpa [FieldSpec.normalize, hrules, Normalizer.trimSlashes] using hreaches.withoutSlashes_ne
  rw [hplan, Schema.action_of_head_forced hfields hforced, hfname]

/-! ## Ambiguous ids -/

/-- **The id of a key is ambiguous.** For every backend and every name that the schema accepts, the id can be
read, and every reply is read as one about the backend and the name that it tells. These are the trimmed ones
exactly if the name keeps clear of the separator; otherwise the backend that is told reaches into the name. And
two keys have one id exactly if they are the same or the backend of one reaches into the name of the other, so
that keys whose names are clear of the separator share none. -/
theorem keyId_told (h : Accepts backend name) :
    (∃ b n, parseKeyId (keyId backend name) = .ok (b, n) ∧ keyId backend name = b ++ "/keys/" ++ n ∧
      ((b = Normalizer.withoutSlashes backend ∧ n = Normalizer.withoutSlashes name) ↔
        Clear (Normalizer.withoutSlashes name)) ∧
      (¬ Clear (Normalizer.withoutSlashes name) →
        ReachesInto b n (Normalizer.withoutSlashes backend) (Normalizer.withoutSlashes name)) ∧
      ∀ response, ∃ m, fieldsOfResponse (keyId backend name) response = .ok m ∧
        m.string? "backend" = some b ∧ m.string? "name" = some n) ∧
    ∀ backend' name',
      (keyId backend name = keyId backend' name' ↔
        (Normalizer.withoutSlashes backend = Normalizer.withoutSlashes backend' ∧
          Normalizer.withoutSlashes name = Normalizer.withoutSlashes name') ∨
        ReachesInto (Normalizer.withoutSlashes backend) (Normalizer.withoutSlashes name)
          (Normalizer.withoutSlashes backend') (Normalizer.withoutSlashes name') ∨
        ReachesInto (Normalizer.withoutSlashes backend') (Normalizer.withoutSlashes name')
          (Normalizer.withoutSlashes backend) (Normalizer.withoutSlashes name)) ∧
      (Clear (Normalizer.withoutSlashes name) → Clear (Normalizer.withoutSlashes name') →
        keyId backend name = keyId backend' name' →
        Normalizer.withoutSlashes backend = Normalizer.withoutSlashes backend' ∧
          Normalizer.withoutSlashes name = Normalizer.withoutSlashes name') := by
  constructor
  · obtain ⟨b, n, hparse, hkey⟩ := exists_parseKeyId h
    obtain ⟨hid, hclear, _⟩ := parseKeyId_eq_ok_iff.1 hparse
    refine ⟨b, n, hparse, hid, ?_, ?_, fieldsOfResponse_tells hparse⟩
    · rcases hkey with ⟨rfl, rfl, _⟩ | hreaches
      · simp [hclear]
      · constructor
        · rintro ⟨_, rfl⟩
          exact hclear
        · intro hname
          exact absurd hname hreaches.not_clear
    · intro hname
      rcases hkey with ⟨_, rfl, _⟩ | hreaches
      · exact absurd hclear hname
      · exact hreaches
  · intro backend' name'
    refine ⟨keyId_eq_iff, fun hname hname' hsame => ?_⟩
    rcases keyId_eq_iff.1 hsame with hsame | hreaches | hreaches
    · exact hsame
    · exact absurd hname' hreaches.not_clear
    · exact absurd hname hreaches.not_clear

/-- The key `app` of the backend `transit`, spelled with slashes. -/
theorem keyId_told_app : ∃ b n, parseKeyId (keyId "/transit/" "app") = .ok (b, n) ∧ b = "transit" ∧ n = "app" := by
  obtain ⟨⟨b, n, hparse, _, htold, _⟩, _⟩ :=
    keyId_told (accepts_iff.2 ⟨by decide, by decide⟩ : Accepts "/transit/" "app")
  obtain ⟨rfl, rfl⟩ := htold.2 (by decide +kernel)
  exact ⟨_, _, hparse, by decide, by decide⟩

/-- A key whose name begins with `keys/`, as it is resolved. -/
def nestedKey : FieldMap :=
  .ofList [("backend", .string "transit"), ("name", .string "keys/app"),
    ("type", .string "aes256-gcm96"), ("convergent_encryption", .bool false), ("derived", .bool false),
    ("deletion_allowed", .bool false), ("exportable", .bool false), ("allow_plaintext_backup", .bool false),
    ("min_decryption_version", .int 1), ("min_encryption_version", .int 0)]

/-- The key `keys/app` of the backend `transit` is taken for the key `app` of the backend `transit/keys`, whose
id it shares; as soon as it is created it is planned to be replaced. -/
theorem keyId_told_nested :
    schema.resolveDesired (bare "transit" "keys/app") = .ok nestedKey ∧
    Accepts "transit" "keys/app" ∧ Accepts "transit/keys" "app" ∧
    parseKeyId (keyId "transit" "keys/app") = .ok ("transit/keys", "app") ∧
    keyId "transit" "keys/app" = keyId "transit/keys" "app" ∧
    ∃ after, fieldsOfResponse (keyId "transit" "keys/app")
        (.object [("data", (createBody nestedKey).merge (configBody nestedKey))]) = .ok after ∧
      Plan.compute schema (bare "transit" "keys/app") (some after) = .ok (.single (.replace "backend" nestedKey)) := by
  refine ⟨by decide +kernel, accepts_iff.2 ⟨by decide, by decide⟩, accepts_iff.2 ⟨by decide, by decide⟩,
    by decide +kernel, by decide +kernel, ?_⟩
  exact ⟨_, rfl, by decide +kernel⟩

end Vault.TransitKey

end Converge
