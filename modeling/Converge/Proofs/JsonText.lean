import Converge.Field.Codec
import Converge.Proofs.Wire

/-!
# JSON that is printed and read again

What the printer writes, the reader takes back. Each reader is followed on the text of its shape with
more text behind it: it gives back what was written and leaves the rest, provided that the rest does not
go on with the value (`Json.Closes`). Strings come back whatever characters they have
(`Json.readString_escaped`), whole numbers if they fit 64 bits (`Json.readNumber_intText`), and a value of
any shape if it is not nested too deep (`Json.readValue_renderChars`). Main theorem:
`FieldMap.parse_toText`.
-/

namespace Converge

namespace Json

/-! ## Strings -/

theorem hexValue_hexDigit : ∀ d < 16, hexValue (hexDigit d) = some d := by decide

/-- A control character is written as its number in base 16. -/
theorem readString_control {c : Char} (hc : c.toNat < 32) (cs : List Char) :
    readString ('\\' :: 'u' :: '0' :: '0' :: hexDigit (c.toNat / 16) :: hexDigit (c.toNat % 16) :: cs) =
      push c (readString cs) := by
  have hzero : hexValue '0' = some 0 := by decide
  have hhigh := hexValue_hexDigit (c.toNat / 16) (by omega)
  have hlow := hexValue_hexDigit (c.toNat % 16) (by omega)
  have hnumber : hexNumber '0' '0' (hexDigit (c.toNat / 16)) (hexDigit (c.toNat % 16)) = some c.toNat := by
    simp only [hexNumber, hzero, hhigh, hlow, Option.some.injEq]
    omega
  have hplain : isLowSurrogate c.toNat = false ∧ isHighSurrogate c.toNat = false := by
    simp only [isLowSurrogate, isHighSurrogate, decide_eq_false_iff_not]
    omega
  have hbytes : hasFourBytes ('0' :: '0' :: hexDigit (c.toNat / 16) :: hexDigit (c.toNat % 16) :: cs) = true := by
    have := Char.utf8Size_pos (hexDigit (c.toNat / 16))
    have := Char.utf8Size_pos (hexDigit (c.toNat % 16))
    have hsize : Char.utf8Size '0' = 1 := by decide
    simp only [hasFourBytes, List.take_succ_cons, List.take_zero, List.foldl_cons, List.foldl_nil, hsize,
      decide_eq_true_eq]
    omega
  rw [readString.eq_def]
  simp [hbytes, hnumber, hplain, Char.ofNat_toNat]

theorem readString_simple {e d : Char} (h : simpleEscape e = some d) (cs : List Char) :
    readString ('\\' :: e :: cs) = push d (readString cs) := by
  have hne : e ≠ 'u' := by
    rintro rfl
    simp [simpleEscape] at h
  rw [readString.eq_def]
  simp [h]

theorem readString_plain {c : Char} (hquote : c ≠ '"') (hback : c ≠ '\\') (hcontrol : ¬ c < ' ') (cs : List Char) :
    readString (c :: cs) = push c (readString cs) := by
  rw [readString.eq_def]
  simp only [hquote, hback, hcontrol, if_false]

/-- The reader takes a character as it was written. -/
theorem readString_escapeChar (c : Char) (cs : List Char) :
    readString (escapeChar c ++ cs) = push c (readString cs) := by
  by_cases hsimple : c ∈ ['"', '\\', '\x08', '\x0c', '\n', '\r', '\t']
  · simp only [List.mem_cons, List.not_mem_nil, or_false] at hsimple
    rcases hsimple with rfl | rfl | rfl | rfl | rfl | rfl | rfl <;> exact readString_simple (by decide) cs
  simp only [List.mem_cons, List.not_mem_nil, or_false, not_or] at hsimple
  obtain ⟨hquote, hback, hbackspace, hfeed, hline, hreturn, htab⟩ := hsimple
  rw [escapeChar, if_neg hquote, if_neg hback, if_neg hbackspace, if_neg hfeed, if_neg hline, if_neg hreturn,
    if_neg htab]
  by_cases hcontrol : c < ' '
  · rw [if_pos hcontrol]
    exact readString_control hcontrol cs
  · rw [if_neg hcontrol]
    exact readString_plain hquote hback hcontrol cs

/-- **A string is read as it was written**, whatever its characters. -/
theorem readString_escaped (cs rest : List Char) :
    readString (cs.flatMap escapeChar ++ '"' :: rest) = .ok (cs, rest) := by
  induction cs with
  | nil =>
    rw [List.flatMap_nil, List.nil_append, readString.eq_def]
    rfl
  | cons c cs ih =>
    rw [List.flatMap_cons, List.append_assoc, readString_escapeChar, ih]
    rfl

/-! ## Numbers -/

/-- A rest of a text that does not go on with a value: there is none, or it starts with what stands after
an item or a member. -/
def Closes (rest : List Char) : Prop := ∀ c ∈ rest.head?, c = ',' ∨ c = ']' ∨ c = '\x7d'

theorem closes_cons {c : Char} (h : c = ',' ∨ c = ']' ∨ c = '\x7d') (cs : List Char) : Closes (c :: cs) := by
  intro d hd
  cases hd
  exact h

theorem Closes.not_isDigit {rest : List Char} (h : Closes rest) : ∀ c ∈ rest.head?, isDigit c = false := by
  intro c hc
  rcases h c hc with rfl | rfl | rfl <;> decide

/-- Digits are taken up to the end of a number. -/
theorem takeDigits_append {ds rest : List Char} (hds : ∀ c ∈ ds, isDigit c = true) (hrest : Closes rest) :
    takeDigits (ds ++ rest) = (ds.map digitValue, rest) := by
  have hstop : rest.takeWhile isDigit = [] ∧ rest.dropWhile isDigit = rest := by
    cases rest with
    | nil => exact ⟨rfl, rfl⟩
    | cons c cs =>
      have hc : isDigit c = false := hrest.not_isDigit c rfl
      simp [hc]
  rw [takeDigits, List.takeWhile_append_of_pos hds, List.dropWhile_append_of_pos hds, hstop.1, hstop.2,
    List.append_nil]

/-- The digits of a number other than zero start with another digit than zero. -/
theorem decimalDigits_ne_zero_cons {n : Nat} (hn : n ≠ 0) (ds : List Char) :
    Decimal.decimalDigits n ≠ '0' :: ds := by
  induction n using Nat.strongRecOn generalizing ds with
  | ind n ih =>
    unfold Decimal.decimalDigits at ih ⊢
    by_cases hlt : n < 10
    · have hdigit : ∀ k < 10, k ≠ 0 → Nat.digitChar k ≠ '0' := by decide
      rw [Nat.toDigits_of_lt_base hlt]
      intro h
      exact hdigit n hlt hn (List.cons.inj h).1
    · rw [Nat.toDigits_of_base_le (by omega) (by omega)]
      have hne := ih (n / 10) (by omega) (by omega)
      cases hds : Nat.toDigits 10 (n / 10) with
      | nil => exact absurd hds Nat.toDigits_ne_nil
      | cons d es =>
        rw [List.cons_append]
        intro h
        obtain ⟨rfl, _⟩ := List.cons.inj h
        exact hne es hds

theorem readWhole_decimalDigits (n : Nat) {rest : List Char} (hrest : Closes rest) (ended : Fault) :
    readWhole ended (Decimal.decimalDigits n ++ rest) = .ok ((Decimal.decimalDigits n).map digitValue, rest) := by
  by_cases hn : n = 0
  · subst hn
    have hzero : Decimal.decimalDigits 0 = ['0'] := by decide
    rw [hzero, List.cons_append, List.nil_append]
    cases rest with
    | nil => rfl
    | cons c cs =>
      have hc : isDigit c = false := hrest.not_isDigit c rfl
      simp only [readWhole, hc]
      rfl
  · obtain ⟨d, ds, hds, hd, hall⟩ := Duration.exists_decimalDigits n
    have hdigit : isDigit d = true := hd
    have hne : d ≠ '0' := by
      rintro rfl
      exact decimalDigits_ne_zero_cons hn ds hds
    have htake := takeDigits_append (List.forall_mem_cons.2 ⟨hdigit, hall⟩) hrest
    rw [List.cons_append] at htake
    rw [hds, List.cons_append, readWhole.eq_def]
    simp only [hdigit, if_true, htake]

/-- The significand takes up every digit of a number that fits 64 bits. -/
theorem takeDigits_fits (sig : Nat) {ds : List Nat} (h : ds.foldl (fun n d => n * 10 + d) sig < Number.wordBound) :
    Number.takeDigits sig ds = (ds.foldl (fun n d => n * 10 + d) sig, []) := by
  have hgrows : ∀ (ds : List Nat) (n : Nat), n ≤ ds.foldl (fun n d => n * 10 + d) n := by
    intro ds
    induction ds with
    | nil => simp
    | cons d ds ih =>
      intro n
      have := ih (n * 10 + d)
      simp only [List.foldl_cons]
      omega
  induction ds generalizing sig with
  | nil => rfl
  | cons d ds ih =>
    rw [List.foldl_cons] at h ⊢
    have hfits : sig * 10 + d < Number.wordBound := lt_of_le_of_lt (hgrows ds _) h
    rw [Number.takeDigits, if_pos hfits, ih _ h]

/-- A number that is written without a point and an exponent has none. -/
theorem readFraction_closes {rest : List Char} (hrest : Closes rest) (ended : Fault) :
    readFraction ended rest = .ok (none, rest) := by
  cases rest with
  | nil => rfl
  | cons c cs => rcases hrest c rfl with rfl | rfl | rfl <;> rfl

theorem readExponent_closes {rest : List Char} (hrest : Closes rest) (ended : Fault) :
    readExponent ended rest = .ok (none, rest) := by
  cases rest with
  | nil => rfl
  | cons c cs => rcases hrest c rfl with rfl | rfl | rfl <;> rfl

def wholeLiteral (i : Int) : Number.Literal :=
  ⟨decide (i < 0), (Decimal.decimalDigits i.natAbs).map digitValue, none, none⟩

theorem readLiteral_intText (i : Int) {rest : List Char} (hrest : Closes rest) (ended : Fault) :
    readLiteral ended ((Number.intText i).toList ++ rest) = .ok (wholeLiteral i, rest) := by
  have hwhole := readWhole_decimalDigits i.natAbs hrest ended
  have hfraction := readFraction_closes hrest ended
  have hexponent := readExponent_closes hrest ended
  unfold Number.intText readLiteral wholeLiteral
  by_cases hi : i < 0
  · simp only [hi, if_true, String.toList_ofList, List.cons_append, decide_true, hwhole, bind, Except.bind, hfraction,
      hexponent, pure, Except.pure]
  · obtain ⟨d, ds, hds, hd, _⟩ := Duration.exists_decimalDigits i.natAbs
    have hne : d ≠ '-' := by
      rintro rfl
      revert hd
      decide
    rw [if_neg hi, String.toList_ofList]
    rw [hds, List.cons_append] at hwhole ⊢
    split
    rename_i negative cs hsign
    split at hsign
    · rename_i hminus
      exact absurd (List.cons.inj hminus).1 hne
    · cases hsign
      simp only [hi, decide_false, hwhole, bind, Except.bind, hfraction, hexponent, pure, Except.pure]

/-- A literal that fits 64 bits, signed or unsigned, is the number it writes. -/
theorem ofLiteral_wholeLiteral {i : Int} (hlow : -9223372036854775808 ≤ i) (hhigh : i < 18446744073709551616) :
    Number.ofLiteral (wholeLiteral i) = some (.int i) := by
  have hfold : ((Decimal.decimalDigits i.natAbs).map digitValue).foldl (fun n d => n * 10 + d) 0 = i.natAbs := by
    rw [List.foldl_map]
    exact Duration.foldl_decimalDigits i.natAbs
  have hfits :
      ((Decimal.decimalDigits i.natAbs).map digitValue).foldl (fun n d => n * 10 + d) 0 < Number.wordBound := by
    rw [hfold, Number.wordBound]
    omega
  have htake := takeDigits_fits 0 hfits
  rw [hfold] at htake
  simp only [Number.ofLiteral, wholeLiteral, htake, List.isEmpty_nil, if_true]
  by_cases hi : i < 0
  · have hsig : ¬ (i.natAbs = 0 ∨ 9223372036854775808 < i.natAbs) := by omega
    have hvalue : -(i.natAbs : Int) = i := by omega
    simp only [hi, decide_true, Bool.not_true, Bool.false_eq_true, if_false, hsig, hvalue]
  · have hvalue : (i.natAbs : Int) = i := by omega
    simp only [hi, decide_false, Bool.not_false, if_true, hvalue]

/-- **A whole number is read as it was written**, if it fits 64 bits, signed or unsigned. -/
theorem readNumber_intText {i : Int} (hlow : -9223372036854775808 ≤ i) (hhigh : i < 18446744073709551616)
    {rest : List Char} (hrest : Closes rest) :
    readNumber ((Number.intText i).toList ++ rest) = .ok (.int i, rest) := by
  rw [readNumber, readLiteral_intText i hrest]
  simp only [bind, Except.bind, ofLiteral_wholeLiteral hlow hhigh]
  rfl

/-! ## Lists and objects -/

/-- The parts of a list or an object after the first one, each after a comma, and the closing bracket. -/
def tailChars (close : Char) (parts : List (List Char)) : List Char := parts.flatMap (',' :: ·) ++ [close]

/-- The parts of a list or an object, and the closing bracket. -/
def innerChars (close : Char) : List (List Char) → List Char
  | [] => [close]
  | part :: parts => part ++ tailChars close parts

theorem tailChars_cons (close : Char) (part : List Char) (parts : List (List Char)) (rest : List Char) :
    tailChars close (part :: parts) ++ rest = ',' :: (part ++ (tailChars close parts ++ rest)) := by
  simp [tailChars]

theorem closes_tailChars {close : Char} (hclose : close = ']' ∨ close = '\x7d') (parts : List (List Char))
    (rest : List Char) : Closes (tailChars close parts ++ rest) := by
  cases parts with
  | nil => exact closes_cons (.inr hclose) rest
  | cons part parts =>
    rw [tailChars_cons]
    exact closes_cons (.inl rfl) _

/-- A text that starts with a character of a value. -/
def Opens (cs : List Char) : Prop := ∃ c rest, cs = c :: rest ∧ isBlank c = false ∧ c ≠ ']' ∧ c ≠ '\x7d'

theorem Opens.append {cs : List Char} (h : Opens cs) (rest : List Char) : Opens (cs ++ rest) := by
  obtain ⟨c, cs, rfl, hblank, hlist, hobject⟩ := h
  exact ⟨c, cs ++ rest, rfl, hblank, hlist, hobject⟩

theorem Opens.length_pos {cs : List Char} (h : Opens cs) : 0 < cs.length := by
  obtain ⟨c, cs, rfl, _⟩ := h
  exact Nat.succ_pos _

theorem skipBlank_cons {c : Char} (h : isBlank c = false) (cs : List Char) : skipBlank (c :: cs) = c :: cs := by
  simp [skipBlank, h]

section
variable {α β : Type} {item : Reader α} {text : β → List Char} {value : β → α} {limit bound : Nat} {vs : List β}
  {rest : List Char}

/-- After a comma a list goes on as it starts. -/
theorem readList_comma {cs : List Char} (h : Opens cs) :
    readList item (bound + 1) false (',' :: cs) = readList item (bound + 1) true cs := by
  obtain ⟨c, cs, rfl, hblank, hlist, _⟩ := h
  have hcomma : isBlank ',' = false ∧ ',' ≠ ']' := by decide
  simp only [readList, skipBlank_cons hcomma.1, skipBlank_cons hblank, hcomma.2, hlist, if_false, if_true,
    Bool.false_eq_true]

theorem readList_first {cs rest' : List Char} {a : α} {as : List α} (h : Opens cs) (hitem : item cs = .ok (a, rest))
    (hrest : readList item bound false rest = .ok (as, rest')) :
    readList item (bound + 1) true cs = .ok (a :: as, rest') := by
  obtain ⟨c, cs, rfl, hblank, hlist, _⟩ := h
  simp only [readList, skipBlank_cons hblank, hlist, if_false, if_true, hitem, bind, Except.bind, hrest, pure,
    Except.pure]

variable (hopens : ∀ v ∈ vs, Opens (text v))
  (hitem : ∀ v ∈ vs, ∀ rest, Closes rest → (text v ++ rest).length < limit →
    item (text v ++ rest) = .ok (value v, rest))
include hopens hitem

/-- The items of a list are read one after the other, where the reader of an item gives back what was written. -/
theorem readList_tail (hbound : (tailChars ']' (vs.map text) ++ rest).length < bound)
    (hlimit : (tailChars ']' (vs.map text) ++ rest).length < limit) :
    readList item bound false (tailChars ']' (vs.map text) ++ rest) = .ok (vs.map value, rest) := by
  obtain ⟨bound, rfl⟩ : ∃ b, bound = b + 1 := ⟨bound - 1, by omega⟩
  induction vs generalizing bound with
  | nil => rfl
  | cons v vs ih =>
    obtain ⟨hv, hopens⟩ := List.forall_mem_cons.1 hopens
    obtain ⟨hread, hitem⟩ := List.forall_mem_cons.1 hitem
    rw [List.map_cons, tailChars_cons, List.length_cons, List.length_append] at hbound hlimit
    obtain ⟨bound, rfl⟩ : ∃ b, bound = b + 1 := ⟨bound - 1, by omega⟩
    have hfirst := hread _ (closes_tailChars (.inl rfl) (vs.map text) rest) (by rw [List.length_append]; omega)
    rw [List.map_cons, tailChars_cons, readList_comma (hv.append _)]
    exact readList_first (hv.append _) hfirst (ih hopens hitem (by omega) bound (by omega))

/-- **A list is read item by item**, where the reader of an item gives back what was written. -/
theorem readList_inner (hbound : (innerChars ']' (vs.map text) ++ rest).length < bound)
    (hlimit : (innerChars ']' (vs.map text) ++ rest).length < limit) :
    readList item bound true (innerChars ']' (vs.map text) ++ rest) = .ok (vs.map value, rest) := by
  obtain ⟨bound, rfl⟩ : ∃ b, bound = b + 1 := ⟨bound - 1, by omega⟩
  cases vs with
  | nil => rfl
  | cons v vs =>
    obtain ⟨hv, hopens⟩ := List.forall_mem_cons.1 hopens
    obtain ⟨hread, hitem⟩ := List.forall_mem_cons.1 hitem
    rw [List.map_cons, innerChars, List.append_assoc] at hbound hlimit ⊢
    have hfirst := hread _ (closes_tailChars (.inl rfl) (vs.map text) rest) hlimit
    have hpos := hv.length_pos
    rw [List.length_append] at hbound hlimit
    exact readList_first (hv.append _) hfirst (readList_tail hopens hitem (by omega) (by omega))

end

section
variable {σ β : Type} {member : σ → List Char → Reader σ} {name : β → String} {text : β → List Char}
  {add : σ → β → σ} {limit bound : Nat} {ms : List β} {rest : List Char}

def memberChars (name : β → String) (text : β → List Char) (m : β) : List Char :=
  renderString (name m) ++ ':' :: text m

theorem memberChars_append (m : β) (rest : List Char) : memberChars name text m ++ rest =
    '"' :: ((name m).toList.flatMap escapeChar ++ '"' :: ':' :: (text m ++ rest)) := by
  simp [memberChars, renderString]

theorem length_memberChars (name : β → String) (text : β → List Char) (m : β) :
    (text m).length < (memberChars name text m).length := by
  simp only [memberChars, List.length_append, List.length_cons]
  omega

/-- After a comma an object goes on as it starts. -/
theorem readObject_comma (acc : σ) (cs : List Char) :
    readObject member (bound + 1) false acc (',' :: '"' :: cs) =
      readObject member (bound + 1) true acc ('"' :: cs) := by
  have hmarks : isBlank ',' = false ∧ isBlank '"' = false ∧ ',' ≠ '\x7d' ∧ '"' ≠ '\x7d' := by decide
  obtain ⟨hcomma, hquote, hcommane, hquotene⟩ := hmarks
  simp only [readObject, skipBlank_cons hcomma, skipBlank_cons hquote, hcommane, hquotene, if_false, if_true,
    Bool.false_eq_true]

theorem readObject_first {m : β} {acc acc' : σ}
    (hmember : member acc (name m).toList (':' :: (text m ++ rest)) = .ok (acc', rest)) :
    readObject member (bound + 1) true acc (memberChars name text m ++ rest) =
      readObject member bound false acc' rest := by
  have hmarks : isBlank '"' = false ∧ '"' ≠ '\x7d' := by decide
  obtain ⟨hquote, hquotene⟩ := hmarks
  rw [memberChars_append, readObject]
  simp only [skipBlank_cons hquote, hquotene, if_false, if_true, readString_escaped, hmember, bind, Except.bind]

/-- The next member of an object is read, and then the ones after it. -/
theorem readObject_next {m : β} {acc acc' : σ} {parts : List (List Char)}
    (hmember : member acc (name m).toList (':' :: (text m ++ (tailChars '\x7d' parts ++ rest))) =
      .ok (acc', tailChars '\x7d' parts ++ rest)) :
    readObject member (bound + 1) false acc (tailChars '\x7d' (memberChars name text m :: parts) ++ rest) =
      readObject member bound false acc' (tailChars '\x7d' parts ++ rest) := by
  rw [tailChars_cons, memberChars_append, readObject_comma, ← memberChars_append, readObject_first hmember]

variable (hmember : ∀ m ∈ ms, ∀ acc rest, Closes rest → (text m ++ rest).length < limit →
    member acc (name m).toList (':' :: (text m ++ rest)) = .ok (add acc m, rest))
include hmember

/-- The members of an object are read one after the other, where the reader of a member gives back what was
written after its name. -/
theorem readObject_tail (hbound : (tailChars '\x7d' (ms.map (memberChars name text)) ++ rest).length < bound)
    (hlimit : (tailChars '\x7d' (ms.map (memberChars name text)) ++ rest).length < limit) (acc : σ) :
    readObject member bound false acc (tailChars '\x7d' (ms.map (memberChars name text)) ++ rest) =
      .ok (ms.foldl add acc, rest) := by
  obtain ⟨bound, rfl⟩ : ∃ b, bound = b + 1 := ⟨bound - 1, by omega⟩
  induction ms generalizing bound acc with
  | nil => rfl
  | cons m ms ih =>
    obtain ⟨hread, hmember⟩ := List.forall_mem_cons.1 hmember
    have hlength := length_memberChars name text m
    rw [List.map_cons, tailChars_cons, List.length_cons, List.length_append] at hbound hlimit
    obtain ⟨bound, rfl⟩ : ∃ b, bound = b + 1 := ⟨bound - 1, by omega⟩
    have hfirst := hread acc _ (closes_tailChars (.inr rfl) (ms.map (memberChars name text)) rest)
      (by rw [List.length_append]; omega)
    rw [List.map_cons, readObject_next hfirst]
    exact ih hmember (by omega) (add acc m) bound (by omega)

/-- **An object is read member by member**, where the reader of a member gives back what was written after its
name. -/
theorem readObject_inner (hbound : (innerChars '\x7d' (ms.map (memberChars name text)) ++ rest).length < bound)
    (hlimit : (innerChars '\x7d' (ms.map (memberChars name text)) ++ rest).length < limit) (acc : σ) :
    readObject member bound true acc (innerChars '\x7d' (ms.map (memberChars name text)) ++ rest) =
      .ok (ms.foldl add acc, rest) := by
  obtain ⟨bound, rfl⟩ : ∃ b, bound = b + 1 := ⟨bound - 1, by omega⟩
  cases ms with
  | nil => rfl
  | cons m ms =>
    obtain ⟨hread, hmember⟩ := List.forall_mem_cons.1 hmember
    have hlength := length_memberChars name text m
    rw [List.map_cons, innerChars, List.append_assoc, List.length_append] at hbound hlimit
    have hfirst := hread acc _ (closes_tailChars (.inr rfl) (ms.map (memberChars name text)) rest)
      (by rw [List.length_append]; omega)
    rw [List.map_cons, innerChars, List.append_assoc, readObject_first hfirst]
    exact readObject_tail hmember (by omega) (by omega) (add acc m)

end

/-! ## Values -/

/-- A value whose numbers are whole and fit 64 bits, and whose brackets a reader of this depth can open. -/
inductive Plain : Nat → Json → Prop
  | null (depth : Nat) : Plain (depth + 1) .null
  | bool (depth : Nat) (b : Bool) : Plain (depth + 1) (.bool b)
  | int (depth : Nat) {i : Int} (low : -9223372036854775808 ≤ i) (high : i < 18446744073709551616) :
    Plain (depth + 1) (.number (.int i))
  | string (depth : Nat) (s : String) : Plain (depth + 1) (.string s)
  | array {depth : Nat} {items : List Json} (plain : ∀ v ∈ items, Plain (depth + 1) v) :
    Plain (depth + 2) (.array items)
  | object {depth : Nat} {members : List (String × Json)} (plain : ∀ m ∈ members, Plain (depth + 1) m.2) :
    Plain (depth + 2) (.object members)

theorem renderItems_eq (vs : List Json) : renderItems vs = tailChars ']' (vs.map renderChars) := by
  induction vs with
  | nil => rfl
  | cons v vs ih =>
    rw [renderItems, ih]
    simp [tailChars]

theorem renderMembers_eq (ms : List (String × Json)) :
    renderMembers ms = tailChars '\x7d' (ms.map (memberChars (·.1) fun m => renderChars m.2)) := by
  induction ms with
  | nil => rfl
  | cons m ms ih =>
    rw [renderMembers, ih]
    simp [tailChars, memberChars]

theorem renderChars_array (vs : List Json) :
    renderChars (.array vs) = '[' :: innerChars ']' (vs.map renderChars) := by
  cases vs with
  | nil => rfl
  | cons v vs => rw [renderChars, renderItems_eq, List.map_cons, innerChars]

theorem renderChars_object (ms : List (String × Json)) :
    renderChars (.object ms) = '\x7b' :: innerChars '\x7d' (ms.map (memberChars (·.1) fun m => renderChars m.2)) := by
  cases ms with
  | nil => rfl
  | cons m ms =>
    rw [renderChars, renderMembers_eq, List.map_cons, innerChars]
    simp [memberChars]

/-- The text of a whole number starts with its sign or with a digit, and with nothing that another value starts
with. -/
theorem exists_intText (i : Int) : ∃ c cs, (Number.intText i).toList = c :: cs ∧ (c = '-' ∨ isDigit c = true) ∧
    isBlank c = false ∧ c ∉ ['n', 't', 'f', '"', '[', ']', '\x7b', '\x7d'] := by
  unfold Number.intText
  by_cases hi : i < 0
  · rw [if_pos hi, String.toList_ofList]
    exact ⟨'-', _, rfl, .inl rfl, by decide⟩
  · obtain ⟨d, ds, hds, hd, _⟩ := Duration.exists_decimalDigits i.natAbs
    rw [if_neg hi, String.toList_ofList]
    have hdigit : isDigit d = true := hd
    have hother : [' ', '\t', '\n', '\r', 'n', 't', 'f', '"', '[', ']', '\x7b', '\x7d'].all
        (fun c => !isDigit c) = true := by
      decide
    have hmem : d ∉ [' ', '\t', '\n', '\r', 'n', 't', 'f', '"', '[', ']', '\x7b', '\x7d'] := by
      intro hm
      have hd := List.all_eq_true.1 hother d hm
      rw [hdigit] at hd
      cases hd
    simp only [List.mem_cons, List.not_mem_nil, or_false, not_or] at hmem
    obtain ⟨hspace, htab, hline, hreturn, hrest⟩ := hmem
    exact ⟨d, ds, hds, .inr hdigit, by simp [isBlank, hspace, htab, hline, hreturn], by simp [hrest]⟩

theorem Plain.opens {depth : Nat} {v : Json} (h : Plain depth v) : Opens (renderChars v) := by
  cases h with
  | null => exact ⟨'n', _, rfl, by decide⟩
  | bool _ b => cases b with
    | true => exact ⟨'t', _, rfl, by decide⟩
    | false => exact ⟨'f', _, rfl, by decide⟩
  | @int _ i =>
    obtain ⟨c, cs, hcs, _, hblank, hne⟩ := exists_intText i
    simp only [List.mem_cons, List.not_mem_nil, or_false, not_or] at hne
    exact ⟨c, cs, hcs, hblank, by simp [hne], by simp [hne]⟩
  | string _ s => exact ⟨'"', _, rfl, by decide⟩
  | array => rw [renderChars_array]; exact ⟨'[', _, rfl, by decide⟩
  | object => rw [renderChars_object]; exact ⟨'\x7b', _, rfl, by decide⟩

theorem readValue_bracket (bound depth : Nat) (cs : List Char) : readValue bound (depth + 2) ('[' :: cs) =
    (readList (readValue bound (depth + 1)) bound true cs).map fun (vs, r) => (.array vs, r) := by
  rw [readValue, skipBlank_cons (by decide)]
  rfl

/-- The reader of a member that is a value. -/
def readMember (bound depth : Nat) (acc : List (String × Json)) (name : List Char) : Reader (List (String × Json)) :=
  fun cs => do
    let (_, cs) ← readColon cs
    let (v, cs) ← readValue bound depth cs
    return ((String.ofList name, v) :: acc, cs)

theorem readValue_brace (bound depth : Nat) (cs : List Char) : readValue bound (depth + 2) ('\x7b' :: cs) =
    (readObject (readMember bound (depth + 1)) bound true [] cs).map fun (ms, r) => (.object ms.reverse, r) := by
  rw [readValue, skipBlank_cons (by decide)]
  rfl

/-- **A value is read as it was written.** -/
theorem readValue_renderChars {depth : Nat} {v : Json} (h : Plain depth v) {bound : Nat} {rest : List Char}
    (hrest : Closes rest) (hbound : (renderChars v ++ rest).length < bound) :
    readValue bound depth (renderChars v ++ rest) = .ok (v, rest) := by
  induction h generalizing rest with
  | null => rfl
  | bool _ b => cases b <;> rfl
  | @int _ i hlow hhigh =>
    have hread := readNumber_intText hlow hhigh hrest
    obtain ⟨c, cs, hcs, hstart, hblank, hne⟩ := exists_intText i
    simp only [List.mem_cons, List.not_mem_nil, or_false, not_or] at hne
    obtain ⟨hn, ht, hf, hq, _⟩ := hne
    have htext : renderChars (.number (.int i)) = c :: cs := hcs
    rw [hcs, List.cons_append] at hread
    rw [htext, List.cons_append]
    simp only [readValue, skipBlank_cons hblank, hn, ht, hf, hq, hstart, if_false, if_true, hread, Except.map]
  | string _ s =>
    have htext : renderChars (.string s) ++ rest = '"' :: (s.toList.flatMap escapeChar ++ '"' :: rest) := by
      simp [renderChars, renderString]
    have hquote : isBlank '"' = false := by decide
    rw [htext]
    simp [readValue, skipBlank_cons hquote, readString_escaped, Except.map]
  | @array depth items hplain ih =>
    rw [renderChars_array, List.cons_append] at hbound ⊢
    have hinner : (innerChars ']' (items.map renderChars) ++ rest).length < bound := by
      rw [List.length_cons] at hbound
      omega
    have hread : readList (readValue bound (depth + 1)) bound true (innerChars ']' (items.map renderChars) ++ rest) =
        .ok (items.map id, rest) :=
      readList_inner (fun v hv => (hplain v hv).opens) (fun v hv rest hr hl => ih v hv hr hl) hinner hinner
    rw [List.map_id] at hread
    rw [readValue_bracket, hread]
    rfl
  | @object depth members hplain ih =>
    rw [renderChars_object, List.cons_append] at hbound ⊢
    have hinner :
        (innerChars '\x7d' (members.map (memberChars (·.1) fun m => renderChars m.2)) ++ rest).length < bound := by
      rw [List.length_cons] at hbound
      omega
    have hmember : ∀ m ∈ members, ∀ (acc : List (String × Json)) rest, Closes rest →
        (renderChars m.2 ++ rest).length < bound →
          readMember bound (depth + 1) acc m.1.toList (':' :: (renderChars m.2 ++ rest)) = .ok (m :: acc, rest) := by
      intro m hm acc rest hr hl
      have hcolon : isBlank ':' = false := by decide
      simp only [readMember, readColon, skipBlank_cons hcolon, if_true, bind, Except.bind, ih m hm hr hl, pure,
        Except.pure, String.ofList_toList]
    have hread : readObject (readMember bound (depth + 1)) bound true []
        (innerChars '\x7d' (members.map (memberChars (·.1) fun m => renderChars m.2)) ++ rest) =
          .ok (members.foldl (fun acc m => m :: acc) [], rest) :=
      readObject_inner hmember hinner hinner []
    rw [readValue_brace, hread]
    simp [Except.map]

end Json

/-! ## Field maps -/

open Json (Plain Closes isBlank skipBlank_cons readColon memberChars innerChars renderChars readObject_inner
  readValue_renderChars)

theorem FieldValue.plain_toJson (v : FieldValue) (depth : Nat) : Plain (depth + 2) v.toJson := by
  cases v with
  | bool b => exact .bool _ b
  | int i =>
    have hlow := i.le_toInt
    have hhigh := i.toInt_lt
    exact .int _ (by omega) (by omega)
  | string s => exact .string _ s
  | list xs =>
    refine .array fun v hv => ?_
    obtain ⟨s, _, rfl⟩ := List.mem_map.1 hv
    exact .string _ s
  | map m =>
    refine .object fun e he => ?_
    obtain ⟨p, _, rfl⟩ := List.mem_map.1 he
    exact .string _ p.2

namespace FieldMap

/-- The characters of the text of a map: its members between braces. -/
theorem toList_toText (m : FieldMap) : m.toText.toList =
    '\x7b' :: innerChars '\x7d' (m.entries.map (memberChars (·.1) fun e => renderChars e.2.toJson)) := by
  have hchars := Json.renderChars_object (m.mapValues FieldValue.toJson).entries
  rw [toText, Json.render, String.toList_ofList, toJson, Json.ofMap, hchars]
  simp only [SortedMap.mapValues, List.map_map]
  rfl

/-- The reader of an entry of a field map. -/
def readEntry (bound depth : Nat) (acc : FieldMap) (name : List Char) : Json.Reader FieldMap := fun cs => do
  let (_, cs) ← Json.readColon cs
  let (v, cs) ← Json.readValue bound depth cs
  match FieldValue.ofJson? v with
  | some x => return (acc.insert (String.ofList name) x, cs)
  | none => Json.mismatch notFieldValue

theorem read_brace (bound depth : Nat) (cs : List Char) : read bound (depth + 2) ('\x7b' :: cs) =
    Json.readObject (readEntry bound (depth + 1)) bound true SortedMap.empty cs := by
  rw [read, Json.skipBlank_cons (by decide)]
  rfl

/-- A field map is read as it was written, with more text behind it. -/
theorem read_toText (m : FieldMap) (depth : Nat) {bound : Nat} {rest : List Char}
    (hbound : (m.toText.toList ++ rest).length < bound) :
    read bound (depth + 3) (m.toText.toList ++ rest) = .ok (m, rest) := by
  rw [toList_toText, List.cons_append] at hbound ⊢
  have hinner : (innerChars '\x7d' (m.entries.map (memberChars (·.1) fun e => renderChars e.2.toJson)) ++ rest).length <
      bound := by
    rw [List.length_cons] at hbound
    omega
  have hentry : ∀ e ∈ m.entries, ∀ (acc : FieldMap) rest, Closes rest → (renderChars e.2.toJson ++ rest).length < bound →
      readEntry bound (depth + 2) acc e.1.toList (':' :: (renderChars e.2.toJson ++ rest)) =
        .ok (acc.insert e.1 e.2, rest) := by
    intro e _ acc rest hr hl
    have hcolon : isBlank ':' = false := by decide
    have hvalue := readValue_renderChars (e.2.plain_toJson depth) hr hl
    simp only [readEntry, readColon, skipBlank_cons hcolon, if_true, bind, Except.bind, hvalue,
      FieldValue.ofJson?_toJson, pure, Except.pure, String.ofList_toList]
  rw [read_brace, readObject_inner hentry hinner hinner]
  exact congrArg (fun m => Except.ok (m, rest)) (SortedMap.ofList_entries m)

/-- **A field map is read as it was written**, whatever its names and its values. -/
theorem parse_toText (m : FieldMap) : FieldMap.parse m.toText = .ok m := by
  have hread : read (m.toText.toList.length + 1) Json.depthLimit (m.toText.toList ++ []) = .ok (m, []) :=
    read_toText m 125 (by simp)
  rw [List.append_nil] at hread
  simp only [FieldMap.parse, Json.readWhollyWith, hread, bind, Except.bind]
  rfl

end FieldMap

end Converge
