/-!
# Sorted maps

A finite map from names to values, kept in the order of its names. Strings are compared by code
point, which is also the order of their UTF-8 bytes. The entries of a map are strictly increasing, so
a map is determined by what `get?` finds: **`SortedMap.ext_get?`**.
-/

namespace Converge

/-- A finite map from names to values; the entries are strictly increasing in their names. -/
structure SortedMap (β : Type) where
  entries : List (String × β)
  sorted : entries.Pairwise (fun a b => a.1 < b.1)

namespace SortedMap

variable {β γ : Type}

instance [DecidableEq β] : DecidableEq (SortedMap β) := fun a b =>
  if h : a.entries = b.entries then
    isTrue (by cases a; cases b; cases h; rfl)
  else
    isFalse (fun e => h (e ▸ rfl))

/-! ## Association lists -/

/-- The value of the first entry named `k`. -/
def lookup (k : String) : List (String × β) → Option β
  | [] => none
  | (a, b) :: r => if a = k then some b else lookup k r

/-- Puts an entry in its place, over an entry of the same name. -/
def place (k : String) (v : β) : List (String × β) → List (String × β)
  | [] => [(k, v)]
  | (a, b) :: r =>
    if k < a then (k, v) :: (a, b) :: r
    else if a = k then (k, v) :: r
    else (a, b) :: place k v r

theorem mem_place {k : String} {v : β} {es : List (String × β)} {e : String × β}
    (h : e ∈ place k v es) : e = (k, v) ∨ e ∈ es := by
  induction es with
  | nil => simpa [place] using h
  | cons x r ih =>
    obtain ⟨a, b⟩ := x
    simp only [place] at h
    split at h
    · simpa using h
    · split at h
      · simp only [List.mem_cons] at h ⊢
        rcases h with h | h
        · exact .inl h
        · exact .inr (.inr h)
      · simp only [List.mem_cons] at h ⊢
        rcases h with h | h
        · exact .inr (.inl h)
        · rcases ih h with h | h
          · exact .inl h
          · exact .inr (.inr h)

theorem pairwise_place {k : String} {v : β} {es : List (String × β)}
    (h : es.Pairwise (fun a b => a.1 < b.1)) :
    (place k v es).Pairwise (fun a b => a.1 < b.1) := by
  induction es with
  | nil => simp [place]
  | cons x r ih =>
    obtain ⟨a, b⟩ := x
    have hr := List.pairwise_cons.1 h
    simp only [place]
    split
    · rename_i hlt
      refine List.pairwise_cons.2 ⟨?_, h⟩
      intro e he
      rcases List.mem_cons.1 he with rfl | he
      · exact hlt
      · exact String.lt_trans hlt (hr.1 e he)
    · split
      · rename_i heq
        subst heq
        exact List.pairwise_cons.2 ⟨hr.1, hr.2⟩
      · rename_i hlt hne
        refine List.pairwise_cons.2 ⟨?_, ih hr.2⟩
        intro e he
        rcases mem_place he with rfl | he
        · rcases Decidable.em (a < k) with h' | h'
          · exact h'
          · exact absurd (String.le_antisymm (String.not_lt.1 hlt) (String.not_lt.1 h')) hne
        · exact hr.1 e he

theorem lookup_place {k n : String} {v : β} {es : List (String × β)} :
    lookup n (place k v es) = if k = n then some v else lookup n es := by
  induction es with
  | nil => simp [place, lookup]
  | cons x r ih =>
    obtain ⟨a, b⟩ := x
    simp only [place]
    split
    · simp [lookup]
    · split
      · rename_i h
        subst h
        simp only [lookup]
        split <;> rfl
      · rename_i h
        simp only [lookup, ih]
        split
        · rename_i h'
          subst h'
          simp [Ne.symm h]
        · rfl

theorem lookup_eq_none_of_lt {k : String} {es : List (String × β)} (h : ∀ e ∈ es, k < e.1) :
    lookup k es = none := by
  induction es with
  | nil => rfl
  | cons x r ih =>
    obtain ⟨a, b⟩ := x
    have ha : k < a := h _ List.mem_cons_self
    have hne : a ≠ k := fun e => String.lt_irrefl k (e ▸ ha)
    simp only [lookup, if_neg hne]
    exact ih fun e he => h e (List.mem_cons_of_mem _ he)

theorem lookup_filter_key {k : String} {p : String → Bool} {es : List (String × β)} :
    lookup k (es.filter fun e => p e.1) = if p k then lookup k es else none := by
  induction es with
  | nil => simp [lookup]
  | cons x r ih =>
    obtain ⟨a, b⟩ := x
    by_cases hp : p a <;> by_cases hk : a = k <;> simp_all [lookup]

theorem lookup_eq_some_iff {k : String} {v : β} {es : List (String × β)}
    (h : es.Pairwise (fun a b => a.1 < b.1)) : lookup k es = some v ↔ (k, v) ∈ es := by
  induction es with
  | nil => simp [lookup]
  | cons x r ih =>
    obtain ⟨a, b⟩ := x
    have hr := List.pairwise_cons.1 h
    simp only [lookup, List.mem_cons, Prod.mk.injEq]
    by_cases hk : a = k
    · subst hk
      have hn : ∀ w, (a, w) ∉ r := fun w hw => String.lt_irrefl a (hr.1 _ hw)
      simp [hn, eq_comm]
    · rw [if_neg hk, ih hr.2]
      constructor
      · exact .inr
      · rintro (⟨h', _⟩ | h')
        · exact absurd h'.symm hk
        · exact h'

theorem lookup_concat {n : String} (l : List (String × β)) (x : String × β) :
    lookup n (l ++ [x]) = (lookup n l).or (if x.1 = n then some x.2 else none) := by
  induction l with
  | nil => simp [lookup]
  | cons y l ih =>
    simp only [List.cons_append, lookup]
    split
    · simp
    · exact ih

/-! ## Maps -/

def empty : SortedMap β := ⟨[], List.Pairwise.nil⟩

instance : EmptyCollection (SortedMap β) := ⟨empty⟩
instance : Inhabited (SortedMap β) := ⟨empty⟩

def get? (m : SortedMap β) (k : String) : Option β := lookup k m.entries

def contains (m : SortedMap β) (k : String) : Bool := (m.get? k).isSome

def size (m : SortedMap β) : Nat := m.entries.length

def isEmpty (m : SortedMap β) : Bool := m.entries.isEmpty

def keys (m : SortedMap β) : List String := m.entries.map (·.1)

/-- Puts a value under a name, over the one that was there. -/
def insert (m : SortedMap β) (k : String) (v : β) : SortedMap β :=
  ⟨place k v m.entries, pairwise_place m.sorted⟩

def filter (m : SortedMap β) (p : String → β → Bool) : SortedMap β :=
  ⟨m.entries.filter (fun e => p e.1 e.2), m.sorted.filter _⟩

def erase (m : SortedMap β) (k : String) : SortedMap β := m.filter fun n _ => n != k

def insertAll (m : SortedMap β) (es : List (String × β)) : SortedMap β :=
  es.foldl (fun acc e => acc.insert e.1 e.2) m

/-- The map of a list of pairs; of two pairs with one name the later counts. -/
def ofList (es : List (String × β)) : SortedMap β := empty.insertAll es

/-- The first map with every entry of the second written over it. -/
def overwrite (m other : SortedMap β) : SortedMap β := m.insertAll other.entries

def mapValues (m : SortedMap β) (f : β → γ) : SortedMap γ :=
  ⟨m.entries.map fun e => (e.1, f e.2), by
    have := m.sorted
    rw [List.pairwise_map]
    exact this⟩

/-! ## What `get?` finds -/

theorem get?_eq_some_iff {m : SortedMap β} {k : String} {v : β} :
    m.get? k = some v ↔ (k, v) ∈ m.entries :=
  lookup_eq_some_iff m.sorted

@[simp] theorem get?_empty (k : String) : (empty : SortedMap β).get? k = none := rfl

@[simp] theorem get?_insert (m : SortedMap β) (k n : String) (v : β) :
    (m.insert k v).get? n = if k = n then some v else m.get? n :=
  lookup_place

@[simp] theorem get?_erase (m : SortedMap β) (k n : String) :
    (m.erase k).get? n = if k = n then none else m.get? n := by
  refine (lookup_filter_key (p := fun a => a != k)).trans ?_
  by_cases h : k = n
  · simp [h]
  · have h' : n ≠ k := fun e => h e.symm
    simp [h, h', get?]

@[simp] theorem get?_filter_key (m : SortedMap β) (p : String → Bool) (n : String) :
    (m.filter fun k _ => p k).get? n = if p n then m.get? n else none :=
  lookup_filter_key

@[simp] theorem get?_mapValues (m : SortedMap β) (f : β → γ) (n : String) :
    (m.mapValues f).get? n = (m.get? n).map f := by
  show lookup n (m.entries.map fun e => (e.1, f e.2)) = (lookup n m.entries).map f
  induction m.entries with
  | nil => rfl
  | cons x r ih =>
    obtain ⟨a, b⟩ := x
    simp only [List.map_cons, lookup]
    split
    · rfl
    · exact ih

@[simp] theorem contains_eq (m : SortedMap β) (k : String) :
    m.contains k = (m.get? k).isSome := rfl

theorem mem_keys {m : SortedMap β} {k : String} : k ∈ m.keys ↔ (m.get? k).isSome := by
  simp only [keys, List.mem_map, Option.isSome_iff_exists, get?_eq_some_iff]
  constructor
  · rintro ⟨e, he, rfl⟩
    exact ⟨e.2, he⟩
  · rintro ⟨v, hv⟩
    exact ⟨_, hv, rfl⟩

theorem get?_eq_none_of_isEmpty {m : SortedMap β} (h : m.isEmpty = true) (k : String) : m.get? k = none := by
  rw [get?, List.isEmpty_iff.1 h, lookup]

theorem get?_insertAll (m : SortedMap β) (es : List (String × β)) (n : String) :
    (m.insertAll es).get? n = (lookup n es.reverse).or (m.get? n) := by
  induction es generalizing m with
  | nil => simp [insertAll, lookup]
  | cons x r ih =>
    have hstep : m.insertAll (x :: r) = (m.insert x.1 x.2).insertAll r := rfl
    rw [hstep, ih, List.reverse_cons, lookup_concat, get?_insert]
    by_cases h : x.1 = n <;> simp [h]

theorem lookup_reverse {n : String} {es : List (String × β)}
    (h : (es.map (·.1)).Nodup) : lookup n es.reverse = lookup n es := by
  induction es with
  | nil => rfl
  | cons x r ih =>
    have hn := List.nodup_cons.1 (by simpa using h : (x.1 :: r.map (·.1)).Nodup)
    rw [List.reverse_cons, lookup_concat, ih hn.2]
    simp only [lookup]
    by_cases hk : x.1 = n
    · have hnone : lookup n r = none := by
        have hm : n ∉ r.map (·.1) := hk ▸ hn.1
        clear ih h hn
        induction r with
        | nil => rfl
        | cons y l ih =>
          simp only [List.map_cons, List.mem_cons, not_or] at hm
          simp only [lookup, if_neg (Ne.symm hm.1)]
          exact ih hm.2
      simp [hk, hnone]
    · simp [hk]

theorem nodup_keys (m : SortedMap β) : (m.entries.map (·.1)).Nodup := by
  have h := m.sorted
  rw [List.Nodup, List.pairwise_map]
  exact h.imp fun {a b} (hab : a.1 < b.1) (e : a.1 = b.1) => String.lt_irrefl b.1 (e ▸ hab)

@[simp] theorem get?_overwrite (m other : SortedMap β) (n : String) :
    (m.overwrite other).get? n = (other.get? n).or (m.get? n) := by
  show (m.insertAll other.entries).get? n = _
  rw [get?_insertAll, lookup_reverse other.nodup_keys]
  rfl

theorem get?_ofList (es : List (String × β)) (n : String) :
    (ofList es).get? n = lookup n es.reverse := by
  simp [ofList, get?_insertAll]

/-- Two maps in which every name finds the same value are equal. -/
theorem ext_get? {a b : SortedMap β} (h : ∀ k, a.get? k = b.get? k) : a = b := by
  obtain ⟨as, ha⟩ := a
  obtain ⟨bs, hb⟩ := b
  have h' : ∀ k, lookup k as = lookup k bs := h
  suffices as = bs by subst this; rfl
  clear h
  induction as generalizing bs with
  | nil =>
    cases bs with
    | nil => rfl
    | cons y s => simpa [lookup] using h' y.1
  | cons x r ih =>
    cases bs with
    | nil => simpa [lookup] using (h' x.1)
    | cons y s =>
      obtain ⟨k, v⟩ := x
      obtain ⟨l, w⟩ := y
      have hr := List.pairwise_cons.1 ha
      have hs := List.pairwise_cons.1 hb
      have hkl : k = l := by
        have h1 := h' k
        have h2 := h' l
        by_cases hlt : k < l
        · have hn : lookup k ((l, w) :: s) = none := lookup_eq_none_of_lt (by
            intro e he
            rcases List.mem_cons.1 he with rfl | he
            · exact hlt
            · exact String.lt_trans hlt (hs.1 e he))
          rw [hn] at h1
          simp [lookup] at h1
        · by_cases hgt : l < k
          · have hn : lookup l ((k, v) :: r) = none := lookup_eq_none_of_lt (by
              intro e he
              rcases List.mem_cons.1 he with rfl | he
              · exact hgt
              · exact String.lt_trans hgt (hr.1 e he))
            rw [hn] at h2
            simp [lookup] at h2
          · exact String.le_antisymm (String.not_lt.1 hgt) (String.not_lt.1 hlt)
      subst hkl
      have hvw : v = w := by simpa [lookup] using h' k
      subst hvw
      have hrs : r = s := by
        refine ih hr.2 s hs.2 fun n => ?_
        by_cases hn : k = n
        · subst hn
          rw [lookup_eq_none_of_lt hr.1, lookup_eq_none_of_lt hs.1]
        · simpa [lookup, hn] using h' n
      rw [hrs]

end SortedMap

end Converge
