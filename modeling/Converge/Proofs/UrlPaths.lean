import Mathlib.Data.List.DropRight
import Converge.Http.Url.Reader

/-!
# What becomes of a text behind the address of a server

A path is put behind the address of a server and the result is read as a URL. If the address itself brings a query or a
fragment, the path is lost in it. Otherwise the address comes to a trail of segments, and the path goes on from there
(`Url.exists_trail`): its end is trimmed, tabs and line breaks are dropped, it ends at the first mark, a backslash is a
slash, segments of points are resolved, and what must not stand in a URL is encoded (`Trail.along`). Two paths come to
one URL path exactly if they leave the same trail (`Trail.text_inj`), and a path of which none of this is true comes to
itself (`Plain.text_along`). Main theorem: `Url.exists_trail`.
-/

namespace Converge

/-! ## Texts -/

namespace Text

variable {p : Char → Bool}

theorem splitOn_ne_nil (p : Char → Bool) (cs : List Char) : splitOn p cs ≠ [] := by
  cases cs with
  | nil => simp [splitOn]
  | cons c cs =>
    rw [splitOn]
    split
    · simp
    · split <;> simp

/-- The parts of two texts with a separator between them. -/
theorem splitOn_append {c : Char} (hc : p c = true) (as bs : List Char) :
    splitOn p (as ++ c :: bs) = splitOn p as ++ splitOn p bs := by
  induction as with
  | nil => simp [splitOn, hc]
  | cons a as ih =>
    rw [List.cons_append, splitOn, splitOn]
    by_cases ha : p a = true
    · rw [if_pos ha, if_pos ha, ih, List.cons_append]
    · obtain ⟨part, parts, hparts⟩ := List.exists_cons_of_ne_nil (splitOn_ne_nil p as)
      rw [if_neg ha, if_neg ha, ih, hparts]
      rfl

/-- A part has no separator in it, and only characters of the text. -/
theorem of_mem_splitOn {cs part : List Char} (h : part ∈ splitOn p cs) {c : Char} (hc : c ∈ part) :
    p c = false ∧ c ∈ cs := by
  induction cs generalizing part with
  | nil =>
    rw [splitOn, List.mem_singleton] at h
    simp [h] at hc
  | cons a as ih =>
    rw [splitOn] at h
    by_cases ha : p a = true
    · rw [if_pos ha, List.mem_cons] at h
      rcases h with rfl | h
      · cases hc
      · exact ⟨(ih h hc).1, List.mem_cons_of_mem _ (ih h hc).2⟩
    · obtain ⟨first, parts, hparts⟩ := List.exists_cons_of_ne_nil (splitOn_ne_nil p as)
      rw [if_neg ha, hparts, List.mem_cons] at h
      rcases h with rfl | h
      · rcases List.mem_cons.1 hc with rfl | hc
        · exact ⟨by simpa using ha, List.mem_cons_self⟩
        · have := ih (by rw [hparts]; exact List.mem_cons_self) hc
          exact ⟨this.1, List.mem_cons_of_mem _ this.2⟩
      · have := ih (by rw [hparts]; exact List.mem_cons_of_mem _ h) hc
        exact ⟨this.1, List.mem_cons_of_mem _ this.2⟩

theorem dropWhile_append_cons {c : Char} (hc : p c = false) (as bs : List Char) :
    (as ++ c :: bs).dropWhile p = as.dropWhile p ++ c :: bs := by
  induction as with
  | nil => simp [hc]
  | cons a as ih => by_cases ha : p a = true <;> simp [ha, ih]

theorem takeWhile_append_cons {c : Char} (hc : p c = false) (as bs : List Char) :
    (as ++ c :: bs).takeWhile p = as.takeWhile p := by
  induction as with
  | nil => simp [hc]
  | cons a as ih => by_cases ha : p a = true <;> simp [ha, ih]

theorem rdropWhile_append_cons {c : Char} (hc : p c = false) (as bs : List Char) :
    (as ++ c :: bs).rdropWhile p = as ++ c :: bs.rdropWhile p := by
  simp [List.rdropWhile, dropWhile_append_cons hc]

theorem mem_dropWhile {c : Char} {cs : List Char} (hc : p c = false) (h : c ∈ cs) : c ∈ cs.dropWhile p := by
  rw [← List.takeWhile_append_dropWhile (p := p) (l := cs), List.mem_append] at h
  rcases h with h | h
  · rw [List.mem_takeWhile_imp h] at hc
    cases hc
  · exact h

/-- All of a text and more is left of it and what follows if one of its characters stays. -/
theorem dropWhile_append_of_exists {as : List Char} (h : ∃ a ∈ as, p a = false) (bs : List Char) :
    (as ++ bs).dropWhile p = as.dropWhile p ++ bs := by
  obtain ⟨a, ha, hp⟩ := h
  obtain ⟨l, r, rfl⟩ := List.append_of_mem ha
  rw [List.append_assoc, List.cons_append, dropWhile_append_cons hp, dropWhile_append_cons hp, List.append_assoc,
    List.cons_append]

theorem takeWhile_append_of_exists {as : List Char} (h : ∃ a ∈ as, p a = false) (bs : List Char) :
    (as ++ bs).takeWhile p = as.takeWhile p := by
  obtain ⟨a, ha, hp⟩ := h
  obtain ⟨l, r, rfl⟩ := List.append_of_mem ha
  rw [List.append_assoc, List.cons_append, takeWhile_append_cons hp, takeWhile_append_cons hp]

end Text

namespace Http

theorem encode_eq_self {p : Char → Bool} {cs : List Char} (h : ∀ c ∈ cs, p c = false) : encode p cs = cs := by
  induction cs with
  | nil => rfl
  | cons c cs ih =>
    obtain ⟨hc, hcs⟩ := List.forall_mem_cons.1 h
    have hrest : encode p (c :: cs) = [c] ++ encode p cs := by
      rw [encode, List.flatMap_cons, if_neg (by simp [hc])]
      rfl
    rw [hrest, ih hcs, List.singleton_append]

/-- Encoding brings no slashes in. -/
theorem slash_not_mem_encode {p : Char → Bool} {cs : List Char} (h : '/' ∉ cs) : '/' ∉ encode p cs := by
  have hdigit : ∀ d < 16, upperHexDigit d ≠ '/' := by decide
  intro hmem
  obtain ⟨c, hc, hslash⟩ := List.mem_flatMap.1 hmem
  split at hslash
  · obtain ⟨b, _, hb⟩ := List.mem_flatMap.1 hslash
    have hsize := b.toNat_lt
    simp only [encodeByte, List.mem_cons, List.not_mem_nil, or_false] at hb
    rcases hb with hb | hb | hb
    · cases hb
    · exact hdigit _ (by omega) hb.symm
    · exact hdigit _ (by omega) hb.symm
  · rw [List.mem_singleton] at hslash
    exact h (hslash ▸ hc)

namespace Url

open Text (splitOn breakAt)

/-! ## Trails -/

/-- A space or a control character, which does not count at the ends of a URL. -/
def isEdge (c : Char) : Bool := c ≤ ' '

/-- A question mark or a hash, at which the path of a URL ends. -/
def isMark (c : Char) : Bool := c = '?' || c = '#'

/-- What stands before the first mark. -/
def beforeMark (cs : List Char) : List Char := cs.takeWhile fun c => !isMark c

/-- What counts of a path that ends a URL. -/
def visible (cs : List Char) : List Char := beforeMark (withoutBreaks (cs.rdropWhile isEdge))

namespace Trail

/-- No segment has a slash in it. -/
def Clean (t : Trail) : Prop := ∀ s ∈ t.segments, '/' ∉ s

/-- The trail after the segments of a path that go on. -/
def past (t : Trail) (parts : List (List Char)) : Trail := parts.foldl (fun t s => t.add s false) t

/-- The trail after a path that ends a URL. -/
def along (t : Trail) (cs : List Char) : Trail := follow add t (splitOn (isSeparator true) (visible cs))

theorem follow_append {t : Trail} {parts rest : List (List Char)} (hrest : rest ≠ []) :
    follow add t (parts ++ rest) = follow add (t.past parts) rest := by
  induction parts generalizing t with
  | nil => rfl
  | cons s parts ih =>
    obtain ⟨r, rs, hr⟩ := List.exists_cons_of_ne_nil (show parts ++ rest ≠ [] by simp [hrest])
    have hstep : follow add t (s :: (parts ++ rest)) = follow add (t.add s false) (parts ++ rest) := by
      rw [hr]
      rfl
    rw [List.cons_append, hstep, ih]
    rfl

/-- Segments that are not resolved are put behind the path. -/
theorem text_follow {t : Trail} {parts : List (List Char)}
    (h : ∀ s ∈ parts, ∀ (t : Trail) (last : Bool), t.add s last = t.push s) :
    (follow add t parts).text = t.text ++ parts.flatMap fun s => '/' :: s := by
  induction parts generalizing t with
  | nil => rw [List.flatMap_nil, List.append_nil, follow]
  | cons s parts ih =>
    obtain ⟨hs, hparts⟩ := List.forall_mem_cons.1 h
    have hpush : (t.push s).text = t.text ++ '/' :: s := by simp [text, push]
    cases parts with
    | nil => rw [follow, hs, hpush, List.flatMap_cons, List.flatMap_nil, List.append_nil]
    | cons r rs =>
      rw [follow, hs, ih hparts, hpush, List.flatMap_cons (x := s), List.append_assoc]
      simp

theorem clean_empty : Clean empty := nofun

theorem Clean.push {t : Trail} (h : t.Clean) {s : List Char} (hs : '/' ∉ s) : (t.push s).Clean :=
  List.forall_mem_cons.2 ⟨hs, h⟩

theorem Clean.pop {t : Trail} (h : t.Clean) : t.pop.Clean := by
  unfold Trail.pop
  split
  · exact h
  · rename_i s rest hsegments
    split
    · exact h
    · exact fun r hr => h r (by simp [hsegments, hr])

theorem Clean.add {t : Trail} (h : t.Clean) {s : List Char} (hs : '/' ∉ s) (last : Bool) : (t.add s last).Clean := by
  have hclose : ∀ {t : Trail}, t.Clean → (if last then t.push [] else t).Clean := by
    intro t ht
    split
    · exact ht.push (by simp)
    · exact ht
  simp only [Trail.add]
  split
  · exact hclose h.pop
  · exact hclose h
  · exact h.push (slash_not_mem_encode hs)

theorem Clean.past {t : Trail} (h : t.Clean) {parts : List (List Char)} (hparts : ∀ s ∈ parts, '/' ∉ s) :
    (t.past parts).Clean := by
  induction parts generalizing t with
  | nil => exact h
  | cons s parts ih =>
    obtain ⟨hs, hparts⟩ := List.forall_mem_cons.1 hparts
    exact ih (h.add hs false) hparts

theorem Clean.follow {t : Trail} (h : t.Clean) {parts : List (List Char)} (hparts : ∀ s ∈ parts, '/' ∉ s) :
    (follow Trail.add t parts).Clean := by
  induction parts generalizing t with
  | nil => exact h
  | cons s parts ih =>
    obtain ⟨hs, hparts⟩ := List.forall_mem_cons.1 hparts
    cases parts with
    | nil => exact h.add hs true
    | cons r rs => exact ih (h.add hs false) hparts

theorem slash_not_mem_splitOn {special : Bool} {cs s : List Char} (hs : s ∈ splitOn (isSeparator special) cs) :
    '/' ∉ s := fun h => by
  have := (Text.of_mem_splitOn hs h).1
  simp [isSeparator] at this

theorem Clean.along {t : Trail} (h : t.Clean) (cs : List Char) : (t.along cs).Clean :=
  h.follow fun _ => slash_not_mem_splitOn

/-- Segments can be told from the path that they make. -/
theorem flatMap_slash_inj {ss rs : List (List Char)} (hs : ∀ s ∈ ss, '/' ∉ s) (hr : ∀ r ∈ rs, '/' ∉ r)
    (h : ss.flatMap (fun s => '/' :: s) = rs.flatMap fun s => '/' :: s) : ss = rs := by
  have hfirst : ∀ (s : List Char) (ss : List (List Char)), '/' ∉ s →
      (s ++ ss.flatMap fun s => '/' :: s).takeWhile (fun c => decide (c ≠ '/')) = s := by
    intro s ss hs
    have hall : s.takeWhile (fun c => decide (c ≠ '/')) = s :=
      List.takeWhile_eq_self_iff.2 fun c hc => by
        simp only [decide_eq_true_eq]
        rintro rfl
        exact hs hc
    cases ss with
    | nil => rw [List.flatMap_nil, List.append_nil, hall]
    | cons r rs => rw [List.flatMap_cons, List.cons_append, Text.takeWhile_append_cons (by simp), hall]
  induction ss generalizing rs with
  | nil =>
    cases rs with
    | nil => rfl
    | cons r rs => simp at h
  | cons s ss ih =>
    cases rs with
    | nil => simp at h
    | cons r rs =>
      obtain ⟨hs₁, hss⟩ := List.forall_mem_cons.1 hs
      obtain ⟨hr₁, hrs⟩ := List.forall_mem_cons.1 hr
      simp only [List.flatMap_cons, List.cons_append, List.cons.injEq, true_and] at h
      have hhead : s = r := by rw [← hfirst s ss hs₁, h, hfirst r rs hr₁]
      subst hhead
      rw [ih hss hrs (List.append_cancel_left h)]

/-- **A path is known by its segments.** -/
theorem text_inj {t t' : Trail} (h : t.Clean) (h' : t'.Clean) : t.text = t'.text ↔ t.segments = t'.segments := by
  constructor
  · intro htext
    refine List.reverse_injective (flatMap_slash_inj ?_ ?_ htext)
    · exact fun s hs => h s (List.mem_reverse.1 hs)
    · exact fun s hs => h' s (List.mem_reverse.1 hs)
  · intro hsegments
    rw [Trail.text, hsegments]
    rfl

end Trail

/-! ## Reading -/

/-- What follows the host in what is between the slashes after the scheme and the first mark. -/
def behindHost (body : List Char) : List Char :=
  let (authority, path) := breakAt (isSeparator true) body
  (splitNumber (splitUser authority).2).2.2 ++ path

theorem splitEnd_fst (special : Bool) (cs : List Char) : (splitEnd special cs).1 = beforeMark cs := by
  simp only [splitEnd, breakAt, beforeMark, List.takeWhile_takeWhile]
  congr 1
  funext c
  by_cases hquery : c = '?' <;> by_cases hfragment : c = '#' <;> simp [isMark, hquery, hfragment]

theorem parseAuthority?_eq_some {scheme cs : List Char} {u : Url} (h : parseAuthority? scheme cs = some u) :
    u.scheme = scheme ∧ (isSpecial scheme = true → u.path = pathAfterHost true (behindHost (beforeMark cs))) := by
  simp only [parseAuthority?] at h
  split at h
  · cases h
  · obtain ⟨number, _, h⟩ := Option.bind_eq_some_iff.1 h
    split at h <;>
    · obtain ⟨host, _, h⟩ := Option.bind_eq_some_iff.1 h
      cases h
      refine ⟨rfl, fun hs => ?_⟩
      simp only [hs, splitEnd_fst, behindHost]

theorem parseFile?_scheme {scheme cs : List Char} {u : Url} (h : parseFile? scheme cs = some u) :
    u.scheme = scheme := by
  obtain ⟨p, _, h⟩ := Option.bind_eq_some_iff.1 h
  cases h
  rfl

theorem parseHostless_scheme (scheme cs : List Char) : (parseHostless scheme cs).scheme = scheme := by
  unfold parseHostless
  split
  split <;> rfl

theorem isSpecial_of_isWeb {u : Url} (h : u.isWeb = true) : isSpecial u.scheme = true ∧ isFile u.scheme = false := by
  simp only [isWeb, Bool.or_eq_true, decide_eq_true_eq] at h
  rcases h with h | h <;> rw [h] <;> decide

theorem parse?_eq_some_of_isWeb {text : String} {u : Url} (h : parse? text = some u) (hweb : u.isWeb = true) :
    ∃ scheme rest, splitScheme? (withoutBreaks (trimmed text.toList)) = some (scheme, rest) ∧
      isSpecial scheme = true ∧ parseAuthority? scheme (rest.dropWhile (isSeparator true)) = some u := by
  obtain ⟨⟨scheme, rest⟩, hscheme, h⟩ := Option.bind_eq_some_iff.1 h
  obtain ⟨hspecial, hfile⟩ := isSpecial_of_isWeb hweb
  refine ⟨scheme, rest, hscheme, ?_⟩
  simp only at h
  split at h
  · rename_i hf
    rw [parseFile?_scheme h, hf] at hfile
    cases hfile
  · split at h
    · rename_i hs
      exact ⟨hs, h⟩
    · rename_i hs
      have hscheme : u.scheme = scheme := by
        split at h
        · exact (parseAuthority?_eq_some h).1
        · cases h
          exact parseHostless_scheme _ _
      rw [hscheme] at hspecial
      exact absurd hspecial hs

theorem trimmed_append_cons {c : Char} (hc : isEdge c = false) (front cs : List Char) :
    trimmed (front ++ c :: cs) = front.dropWhile isEdge ++ c :: cs.rdropWhile isEdge := by
  have htrimmed : ∀ cs, trimmed cs = (cs.dropWhile isEdge).rdropWhile isEdge := fun _ => rfl
  rw [htrimmed, Text.dropWhile_append_cons hc, Text.rdropWhile_append_cons hc]

/-- A space at the end of a URL counts for nothing. -/
theorem trimmed_concat {c : Char} (hc : isEdge c = true) (cs : List Char) : trimmed (cs ++ [c]) = trimmed cs := by
  have htrimmed : ∀ cs, trimmed cs = (cs.dropWhile isEdge).rdropWhile isEdge := fun _ => rfl
  by_cases hall : ∃ a ∈ cs, isEdge a = false
  · rw [htrimmed, htrimmed, Text.dropWhile_append_of_exists hall, List.rdropWhile_concat_pos _ _ _ hc]
  · have hnone : ∀ a ∈ cs, isEdge a = true := fun a ha => by
      by_contra hne
      exact hall ⟨a, ha, by simpa using hne⟩
    have hall' : ∀ a ∈ cs ++ [c], isEdge a = true := by
      intro a ha
      rcases List.mem_append.1 ha with ha | ha
      · exact hnone a ha
      · rw [List.mem_singleton.1 ha, hc]
    rw [htrimmed, htrimmed, List.dropWhile_eq_nil_iff.2 hall', List.dropWhile_eq_nil_iff.2 hnone]

theorem parse?_concat {c : Char} (hc : isEdge c = true) (text : String) :
    parse? (text ++ String.singleton c) = parse? text := by
  have htext : (text ++ String.singleton c).toList = text.toList ++ [c] := by simp
  simp only [parse?, htext, trimmed_concat hc]

/-- A scheme is cut off in front of the first slash or not at all. -/
theorem splitScheme?_append_slash (front cs : List Char) :
    splitScheme? (front ++ '/' :: cs) = (splitScheme? front).map fun p => (p.1, p.2 ++ '/' :: cs) := by
  have hslash : isSchemeChar '/' = false := by decide
  cases front with
  | nil => rfl
  | cons c front =>
    have hdrop := Text.dropWhile_append_cons hslash (c :: front) cs
    have htake := Text.takeWhile_append_cons hslash (c :: front) cs
    rw [List.cons_append] at hdrop htake
    simp only [splitScheme?, List.cons_append, hdrop, htake]
    split
    · cases hrest : (c :: front).dropWhile isSchemeChar with
      | nil => rfl
      | cons d rest =>
        by_cases hd : d = ':'
        · subst hd
          rfl
        · simp [hd]
    · rfl

/-- What is before a scheme's colon and behind it. -/
theorem exists_of_splitScheme? {cs scheme rest : List Char} (h : splitScheme? cs = some (scheme, rest)) :
    ∃ name, cs = name ++ ':' :: rest ∧ ∀ c ∈ name, isSchemeChar c = true := by
  unfold splitScheme? at h
  split at h
  · cases h
  · split at h
    · split at h
      · rename_i c cs _ _ _ hdrop
        cases h
        refine ⟨(c :: cs).takeWhile isSchemeChar, ?_, fun c hc => List.mem_takeWhile_imp hc⟩
        rw [← hdrop, List.takeWhile_append_dropWhile]
      · cases h
    · cases h

section
variable {front : List Char} (hfront : ∃ c ∈ front, isSeparator true c = true)
include hfront

theorem behindHost_append (cs : List Char) : behindHost (front ++ cs) = behindHost front ++ cs := by
  have hstop : ∃ c ∈ front, (!isSeparator true c) = false := by simpa using hfront
  simp only [behindHost, breakAt, Text.takeWhile_append_of_exists hstop, Text.dropWhile_append_of_exists hstop,
    List.append_assoc]

theorem behindHost_ne_nil : behindHost front ≠ [] := by
  obtain ⟨c, hc, hsep⟩ := hfront
  have hmem : c ∈ front.dropWhile fun c => !isSeparator true c := Text.mem_dropWhile (by simp [hsep]) hc
  simp only [behindHost, breakAt]
  exact List.append_ne_nil_of_right_ne_nil _ (List.ne_nil_of_mem hmem)

end

/-- A path goes on behind the segments that stand before it. -/
theorem exists_pathAfterHost {front : List Char} (hfront : front ≠ []) : ∃ t : Trail, t.Clean ∧ ∀ cs,
    pathAfterHost true (front ++ '/' :: cs) = (Trail.follow Trail.add t (splitOn (isSeparator true) cs)).text := by
  obtain ⟨c, rest, rfl⟩ := List.exists_cons_of_ne_nil hfront
  let before := if isSeparator true c then rest else c :: rest
  refine ⟨Trail.empty.past (splitOn (isSeparator true) before),
    Trail.clean_empty.past fun _ => Trail.slash_not_mem_splitOn, fun cs => ?_⟩
  have hbefore : (if isSeparator true c then rest ++ '/' :: cs else c :: (rest ++ '/' :: cs)) = before ++ '/' :: cs := by
    simp only [before]
    split <;> rfl
  rw [List.cons_append, pathAfterHost, hbefore, pathOf, Text.splitOn_append (by decide),
    Trail.follow_append (Text.splitOn_ne_nil _ _)]

/-- The address of a server has its host in front of a slash. -/
def Rooted (front : List Char) : Prop :=
  ∀ scheme rest, splitScheme? (withoutBreaks (front.dropWhile isEdge)) = some (scheme, rest) →
    ∃ c ∈ rest.dropWhile (isSeparator true), isSeparator true c = true

/-- A mark before a scheme's colon or in the slashes behind it would be no mark. -/
theorem mark_iff {front scheme rest : List Char}
    (h : splitScheme? (withoutBreaks (front.dropWhile isEdge)) = some (scheme, rest)) :
    (∃ c ∈ front, isMark c = true) ↔ ∃ c ∈ rest.dropWhile (isSeparator true), isMark c = true := by
  obtain ⟨name, hname, hscheme⟩ := exists_of_splitScheme? h
  have hmark : ∀ c, isMark c = true → isEdge c = false ∧ isBreak c = false ∧ isSchemeChar c = false ∧ c ≠ ':' ∧
      isSeparator true c = false := by
    intro c hc
    simp only [isMark, Bool.or_eq_true, decide_eq_true_eq] at hc
    rcases hc with rfl | rfl <;> decide
  constructor
  · rintro ⟨c, hc, hm⟩
    obtain ⟨hedge, hbreak, hnot, hcolon, hsep⟩ := hmark c hm
    have hmem : c ∈ name ++ ':' :: rest := by
      rw [← hname]
      exact List.mem_filter.2 ⟨Text.mem_dropWhile hedge hc, by simp [hbreak]⟩
    simp only [List.mem_append, List.mem_cons] at hmem
    rcases hmem with hmem | hmem | hmem
    · rw [hscheme c hmem] at hnot
      cases hnot
    · exact absurd hmem hcolon
    · exact ⟨c, Text.mem_dropWhile hsep hmem, hm⟩
  · rintro ⟨c, hc, hm⟩
    have hmem : c ∈ withoutBreaks (front.dropWhile isEdge) := by
      rw [hname]
      simp [(List.dropWhile_sublist _).subset hc]
    exact ⟨c, (List.dropWhile_sublist _).subset (List.mem_filter.1 hmem).1, hm⟩

/-- What is read of an address with a path behind it does not depend on the path, up to the slash in front of it. -/
theorem exists_path_of_parse? {front : List Char} (hroot : Rooted front) (cs : List Char) (u : Url)
    (hu : parse? (String.ofList (front ++ '/' :: cs)) = some u) (hweb : u.isWeb = true) :
    ∃ scheme rest, splitScheme? (withoutBreaks (front.dropWhile isEdge)) = some (scheme, rest) ∧
      u.path = pathAfterHost true (behindHost (beforeMark
        (rest.dropWhile (isSeparator true) ++ '/' :: withoutBreaks (cs.rdropWhile isEdge)))) := by
  obtain ⟨scheme, rest, hscheme, hspecial, hauthority⟩ := parse?_eq_some_of_isWeb hu hweb
  have hbreaks : withoutBreaks (trimmed (front ++ '/' :: cs)) =
      withoutBreaks (front.dropWhile isEdge) ++ '/' :: withoutBreaks (cs.rdropWhile isEdge) := by
    rw [trimmed_append_cons (by decide), withoutBreaks, List.filter_append, List.filter_cons_of_pos (by decide)]
    rfl
  rw [String.toList_ofList, hbreaks, splitScheme?_append_slash] at hscheme
  obtain ⟨⟨_, rest⟩, hsplit, hpair⟩ := Option.map_eq_some_iff.1 hscheme
  cases hpair
  obtain ⟨c, hc, _⟩ := hroot _ _ hsplit
  have hstays : ∃ c ∈ rest, isSeparator true c = false := by
    by_contra hnone
    have hall : ∀ c ∈ rest, isSeparator true c = true := by simpa using hnone
    rw [List.dropWhile_eq_nil_iff.2 hall] at hc
    cases hc
  rw [Text.dropWhile_append_of_exists hstays] at hauthority
  exact ⟨_, rest, hsplit, (parseAuthority?_eq_some hauthority).2 hspecial⟩

/-- **What becomes of a path behind an address**: it is lost if the address has a mark, and otherwise it goes on from
the trail of the address. -/
theorem exists_trail {front : List Char} (hroot : Rooted front) :
    ((∃ c ∈ front, isMark c = true) → ∃ path, ∀ cs u, parse? (String.ofList (front ++ '/' :: cs)) = some u →
      u.isWeb = true → u.path = path) ∧
    ((¬ ∃ c ∈ front, isMark c = true) → ∃ t : Trail, t.Clean ∧ ∀ cs u,
      parse? (String.ofList (front ++ '/' :: cs)) = some u → u.isWeb = true → u.path = (t.along cs).text) := by
  have hread := exists_path_of_parse? hroot
  cases hsplit : splitScheme? (withoutBreaks (front.dropWhile isEdge)) with
  | none =>
    rw [hsplit] at hread
    have hnever : ∀ cs u, parse? (String.ofList (front ++ '/' :: cs)) = some u → ¬ u.isWeb = true := by
      intro cs u hu hweb
      obtain ⟨_, _, hsome, _⟩ := hread cs u hu hweb
      cases hsome
    exact ⟨fun _ => ⟨[], fun cs u hu hweb => absurd hweb (hnever cs u hu)⟩,
      fun _ => ⟨Trail.empty, Trail.clean_empty, fun cs u hu hweb => absurd hweb (hnever cs u hu)⟩⟩
  | some p =>
    obtain ⟨scheme, rest⟩ := p
    have hseparated := hroot scheme rest hsplit
    rw [mark_iff hsplit]
    rw [hsplit] at hread
    constructor
    · intro hmarked
      refine ⟨pathAfterHost true (behindHost (beforeMark (rest.dropWhile (isSeparator true)))), fun cs u hu hweb => ?_⟩
      obtain ⟨_, _, hsome, hpath⟩ := hread cs u hu hweb
      cases hsome
      rw [hpath, beforeMark, Text.takeWhile_append_of_exists (by simpa using hmarked)]
      rfl
    · intro hplain
      obtain ⟨t, ht, hafter⟩ := exists_pathAfterHost (behindHost_ne_nil hseparated)
      refine ⟨t, ht, fun cs u hu hweb => ?_⟩
      obtain ⟨_, _, hsome, hpath⟩ := hread cs u hu hweb
      cases hsome
      have hbefore : ∀ w, beforeMark (rest.dropWhile (isSeparator true) ++ '/' :: w) =
          rest.dropWhile (isSeparator true) ++ '/' :: beforeMark w := by
        intro w
        rw [beforeMark, List.takeWhile_append_of_pos (by simpa using hplain), List.takeWhile_cons_of_pos (by decide)]
        rfl
      rw [hpath, hbefore, behindHost_append hseparated, hafter]
      rfl

/-! ## Plain paths -/

/-- A path that stands for itself: nothing in it is encoded or a backslash, and no segment is resolved. -/
structure Plain (cs : List Char) : Prop where
  chars : ∀ c ∈ cs, inPath c = false ∧ c ≠ '\\'
  segments : ∀ s ∈ splitOn (isSeparator true) cs, dots s ≠ ['.'] ∧ dots s ≠ ['.', '.']

instance (cs : List Char) : Decidable (Plain cs) :=
  decidable_of_iff ((cs.all fun c => !inPath c && c != '\\') = true ∧
    ((splitOn (isSeparator true) cs).all fun s => dots s != ['.'] && dots s != ['.', '.']) = true)
    (by
      simp only [List.all_eq_true, Bool.and_eq_true, Bool.not_eq_true', bne_iff_ne]
      exact ⟨fun h => ⟨h.1, h.2⟩, fun h => ⟨h.chars, h.segments⟩⟩)

/-- A character that is not encoded counts wherever it stands. -/
theorem not_of_inPath {c : Char} (h : inPath c = false) : isEdge c = false ∧ isBreak c = false ∧ isMark c = false := by
  have hspecial : ∀ d, c = d → inPath d = false := fun d hd => hd ▸ h
  refine ⟨?_, ?_, ?_⟩
  · have hfront : ¬ c < ' ' ∧ c ≠ ' ' := by
      simp only [inPath, inFragment, isControlOrBeyond, Bool.or_eq_false_iff, decide_eq_false_iff_not] at h
      exact ⟨h.1.1.1.1.1.1.1.1.1.1, h.1.1.1.1.1.1.1.1.2⟩
    rw [isEdge, decide_eq_false_iff_not]
    intro hle
    exact hfront.2 (Char.le_antisymm hle (Char.not_lt.1 hfront.1))
  · simp only [isBreak, Bool.or_eq_false_iff, decide_eq_false_iff_not]
    refine ⟨⟨fun hc => ?_, fun hc => ?_⟩, fun hc => ?_⟩ <;> exact absurd (hspecial _ hc) (by decide)
  · simp only [isMark, Bool.or_eq_false_iff, decide_eq_false_iff_not]
    refine ⟨fun hc => ?_, fun hc => ?_⟩ <;> exact absurd (hspecial _ hc) (by decide)

/-- The parts of a path with a slash before each are the path with a slash before it. -/
theorem flatMap_splitOn {cs : List Char} (h : ∀ c ∈ cs, c ≠ '\\') :
    (splitOn (isSeparator true) cs).flatMap (fun s => '/' :: s) = '/' :: cs := by
  induction cs with
  | nil => rfl
  | cons c cs ih =>
    obtain ⟨hc, hcs⟩ := List.forall_mem_cons.1 h
    have hrest := ih hcs
    rw [splitOn]
    by_cases hslash : c = '/'
    · subst hslash
      rw [if_pos (by decide), List.flatMap_cons, hrest, List.singleton_append]
    · obtain ⟨part, parts, hparts⟩ := List.exists_cons_of_ne_nil (Text.splitOn_ne_nil (isSeparator true) cs)
      rw [hparts, List.flatMap_cons, List.cons_append, List.cons.injEq] at hrest
      rw [if_neg (by simp [isSeparator, hslash, hc]), hparts]
      simp only [List.flatMap_cons, List.cons_append, hrest.2]

namespace Plain

variable {cs : List Char} (h : Plain cs)
include h

theorem visible : visible cs = cs := by
  have hfree : ∀ c ∈ cs, isEdge c = false ∧ isBreak c = false ∧ isMark c = false := fun c hc =>
    not_of_inPath (h.chars c hc).1
  have hends : cs.rdropWhile isEdge = cs := by
    rw [List.rdropWhile_eq_self_iff]
    intro hne
    simp [(hfree _ (List.getLast_mem hne)).1]
  have hbreaks : withoutBreaks cs = cs := List.filter_eq_self.2 fun c hc => by simp [(hfree c hc).2.1]
  rw [Url.visible, hends, hbreaks, beforeMark, List.takeWhile_eq_self_iff]
  exact fun c hc => by simp [(hfree c hc).2.2]

/-- **A plain path comes to itself** behind what comes before it. -/
theorem text_along (t : Trail) : (t.along cs).text = t.text ++ '/' :: cs := by
  have hadd : ∀ s ∈ splitOn (isSeparator true) cs, ∀ (t : Trail) (last : Bool), t.add s last = t.push s := by
    intro s hs t last
    obtain ⟨hone, htwo⟩ := h.segments s hs
    have hencode : encode inPath s = s :=
      encode_eq_self fun c hc => (h.chars c (Text.of_mem_splitOn hs hc).2).1
    simp only [Trail.add, hencode]
  rw [Trail.along, h.visible, Trail.text_follow hadd, flatMap_splitOn fun c hc => (h.chars c hc).2]

theorem append_slash {ds : List Char} (hd : Plain ds) : Plain (cs ++ '/' :: ds) where
  chars := by
    intro c hc
    rcases List.mem_append.1 hc with hc | hc
    · exact h.chars c hc
    · rcases List.mem_cons.1 hc with rfl | hc
      · decide
      · exact hd.chars c hc
  segments := by
    rw [Text.splitOn_append (by decide)]
    intro s hs
    rcases List.mem_append.1 hs with hs | hs
    · exact h.segments s hs
    · exact hd.segments s hs

end Plain

end Url
end Http
end Converge
