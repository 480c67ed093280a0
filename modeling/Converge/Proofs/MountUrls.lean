import Converge.Proofs.BuiltIn
import Converge.Proofs.KeyIds
import Converge.Proofs.UrlPaths
import Converge.Vault.Mount.Transport

/-!
# The endpoints of mounts

The path of a mount is put behind the address of a server as it is, and what is then read as a URL need not lead to the
mount. Two mounts can be one endpoint, so that what is meant for one of them reaches the other: every mount has another
whose requests are its own, to the last character (`Mount.url?_concat`). Which paths meet is known from the trails that
they leave behind the address, and those that are plain do not. Main theorem: `Mount.endpoints_meet`.
-/

namespace Converge.Vault

open Http (Url)
open Http.Url (isMark isSeparator Trail)

/-- A URL that is asked for is one that was read, up to its user. -/
theorem Client.exists_of_url? {c : Client} {path : String} {u : Url} (h : c.url? path = .ok u) :
    ∃ r, Url.parse? (c.addr ++ path) = some r ∧ r.isWeb = true ∧ u.path = r.path := by
  unfold Client.url? at h
  cases hr : Url.parse? (c.addr ++ path) with
  | none =>
    rw [hr] at h
    cases h
  | some r =>
    have hkept : r.withoutUser.path = r.path ∧ r.withoutUser.isWeb = r.isWeb := by
      unfold Url.withoutUser
      simp only
      split <;> exact ⟨rfl, rfl⟩
    rw [hr, Option.map_some] at h
    simp only at h
    split at h
    · cases h
    split at h
    · cases h
    split at h
    · cases h
    · rename_i hweb
      cases h
      rw [Bool.or_eq_true, not_or, Bool.not_eq_true', Bool.not_eq_false] at hweb
      exact ⟨r, rfl, hkept.2 ▸ hweb.1, hkept.1⟩

namespace Mount

/-! ## Accepted paths -/

/-- The path can be that of a mount that is declared. -/
def Admits (path : String) : Prop :=
  ∃ desired resolved, schema.resolveDesired desired = .ok resolved ∧ resolved.string? "path" = some path

theorem exists_path : ∃ f ∈ fields, f.name = "path" ∧ f.type = .string ∧
    f.normalizer = some Normalizer.trimSlashes ∧ f.validator = some Validator.nonEmpty ∧ f.default = none := by
  simp [fields]

/-- **The paths that are accepted** are those that are not empty and have no slashes at their ends. -/
theorem admits_iff {path : String} : Admits path ↔ Normalizer.withoutSlashes path = path ∧ path ≠ "" := by
  obtain ⟨f, hf, hname, htype, hnorm, hvalid, hdefault⟩ := exists_path
  constructor
  · rintro ⟨desired, resolved, hr, hpath⟩
    obtain ⟨_, m, hm, rfl⟩ := Schema.resolveDesired_eq_ok.1 hr
    have hget : m.get? "path" = some (.string path) := by
      rw [← get?_foldVersionTwo_of_ne (by decide) (by decide)]
      exact FieldMap.string?_eq_some.1 hpath
    rw [← hname] at hget
    exact hm.trimmed hf htype hnorm hvalid hdefault hget
  · rintro ⟨htrim, hne⟩
    let desired : FieldMap := .ofList [("path", .string path)]
    have hdesired : ∀ n, desired.get? n = if n = "path" then some (.string path) else none := by
      intro n
      simp [desired, SortedMap.get?_ofList, SortedMap.lookup, eq_comm]
    have hplain : ∀ g ∈ fields, g.defaultOverflows = false := by decide +kernel
    have hnames : desired.keys.findSome? schema.nameError = none := by
      rw [List.findSome?_eq_none_iff]
      intro n hkey
      have hn : n = "path" := by
        rw [SortedMap.mem_keys, hdesired] at hkey
        by_contra hn
        simp [hn] at hkey
      subst hn
      decide +kernel
    have hpath : f.desiredEntry desired = .ok (some (.string path)) :=
      FieldSpec.desiredEntry_eq_ok.2 (.inl ⟨_, _, by rw [hdesired, if_pos hname],
        (FieldSpec.checkDesired_of_trimmed htype hnorm hvalid).2 ⟨path, rfl, htrim.symm ▸ hne, rfl⟩, by rw [htrim]⟩)
    have hentries : ∀ g ∈ fields, ∃ o, g.desiredEntry desired = .ok o := by
      intro g hg
      by_cases hn : g.name = "path"
      · have hsame : g = f := Schema.eq_of_name_eq (s := schema) hg hf (hn.trans hname.symm)
        exact ⟨_, hsame ▸ hpath⟩
      · exact ⟨_, FieldSpec.desiredEntry_eq_ok.2 (.inr ⟨by rw [hdesired, if_neg hn], hplain g hg, rfl⟩)⟩
    obtain ⟨m, hm⟩ := Schema.exists_collected (s := schema) hentries
    refine ⟨desired, _, Schema.resolveDesired_eq_ok.2 ⟨hnames, m, hm, rfl⟩, FieldMap.string?_eq_some.2 ?_⟩
    have hget := hm.entries f hf
    rw [hpath, Except.ok.injEq, hname] at hget
    exact (get?_foldVersionTwo_of_ne (by decide) (by decide)).trans hget.symm

/-- An accepted path is accepted with a space behind it. -/
theorem admits_concat {path : String} (h : Admits path) : Admits (path ++ " ") := by
  obtain ⟨htrim, hne⟩ := admits_iff.1 h
  refine admits_iff.2 ⟨?_, fun hnil => hne (String.append_eq_empty_iff.1 hnil).1⟩
  have htext : Text.trimBoth (fun c => decide (c = '/')) path.toList = path.toList := by
    have htoList := congrArg String.toList htrim
    rwa [Normalizer.withoutSlashes, String.toList_ofList] at htoList
  have hconcat := Text.trimBoth_concat htext (mt String.toList_eq_nil_iff.1 hne) (c := ' ') (by decide)
  rw [← String.toList_inj, Normalizer.withoutSlashes, String.toList_ofList, String.toList_append]
  exact hconcat

/-! ## Requests -/

/-- A space behind a path does not count. -/
theorem url?_concat (c : Client) (path : String) : c.url? (path ++ " ") = c.url? path := by
  have hparse : Url.parse? (c.addr ++ (path ++ " ")) = Url.parse? (c.addr ++ path) := by
    rw [← String.append_assoc]
    exact Url.parse?_concat (c := ' ') (by decide) _
  simp only [Client.url?, hparse]

/-- What stands in front of the path of a mount and the slash before it. -/
def front (c : Client) : List Char := c.addr.toList ++ "/v1/sys/mounts".toList

theorem rooted_front (c : Client) : Url.Rooted (front c) := by
  intro scheme rest hsplit
  have hfront : Url.withoutBreaks ((front c).dropWhile Url.isEdge) =
      Url.withoutBreaks (c.addr.toList.dropWhile Url.isEdge) ++ '/' :: "v1/sys/mounts".toList := by
    have hstem : front c = c.addr.toList ++ '/' :: "v1/sys/mounts".toList := by simp [front]
    rw [hstem, Text.dropWhile_append_cons (by decide), Url.withoutBreaks, List.filter_append]
    rfl
  rw [hfront, Url.splitScheme?_append_slash] at hsplit
  obtain ⟨⟨_, rest⟩, _, hpair⟩ := Option.map_eq_some_iff.1 hsplit
  cases hpair
  have hrest : rest ++ '/' :: "v1/sys/mounts".toList = (rest ++ ['/']) ++ 'v' :: "1/sys/mounts".toList := by simp
  rw [hrest, Text.dropWhile_append_cons (by decide)]
  exact ⟨'/', by simp, by decide⟩

/-- Does the address of the server have a mark, which ends the path of every URL behind it? -/
def EndsEarly (c : Client) : Prop := ∃ ch ∈ c.addr.toList, isMark ch = true

instance (c : Client) : Decidable (EndsEarly c) :=
  decidable_of_iff (c.addr.toList.any isMark = true) List.any_eq_true

theorem endsEarly_iff (c : Client) : EndsEarly c ↔ ∃ ch ∈ front c, isMark ch = true := by
  have hstem : ∀ ch ∈ "/v1/sys/mounts".toList, isMark ch = false := by simp [isMark]
  constructor
  · rintro ⟨ch, hch, hm⟩
    exact ⟨ch, List.mem_append_left _ hch, hm⟩
  · rintro ⟨ch, hch, hm⟩
    rcases List.mem_append.1 hch with hch | hch
    · exact ⟨ch, hch, hm⟩
    · rw [hstem ch hch] at hm
      cases hm

/-- The text of a request about an accepted path. -/
theorem text_of_admits (c : Client) {path : String} (h : Admits path) (tail : String) :
    c.addr ++ (url path ++ tail) = String.ofList (front c ++ '/' :: (path ++ tail).toList) := by
  rw [url, (admits_iff.1 h).1, ← String.toList_inj]
  simp [front]

/-- What a request adds to the endpoint of a mount: nothing to read, to create and to delete it, and the last to tune
it. -/
def tails : List String := ["", "/tune"]

theorem plain_append {path tail : String} (h : Url.Plain path.toList) (ht : tail ∈ tails) :
    Url.Plain (path ++ tail).toList := by
  have htune : Url.Plain "tune".toList := by decide
  simp only [tails, List.mem_cons, List.not_mem_nil, or_false] at ht
  rcases ht with rfl | rfl
  · simpa using h
  · have happend : (path ++ "/tune").toList = path.toList ++ '/' :: "tune".toList := by simp
    rw [happend]
    exact h.append_slash htune

/-- **Which mounts share an endpoint.** Every accepted path has another that is accepted and has the same URL, so that
what deletes the mount of one deletes that of the other. Behind an address with a mark all URLs have one path.
Otherwise what is asked about two mounts has one path exactly if both paths leave the same trail behind the address; for
plain ones, exactly if what is behind the address is the same. -/
theorem endpoints_meet (c : Client) :
    (∀ p, Admits p → Admits (p ++ " ") ∧ c.url? (url (p ++ " ")) = c.url? (url p) ∧
      delete c (p ++ " ") = delete c p) ∧
    (EndsEarly c → ∀ p q, Admits p → Admits q → ∀ a ∈ tails, ∀ b ∈ tails, ∀ u v,
      c.url? (url p ++ a) = .ok u → c.url? (url q ++ b) = .ok v → u.path = v.path) ∧
    (¬ EndsEarly c → ∃ t : Trail, ∀ p q, Admits p → Admits q → ∀ a ∈ tails, ∀ b ∈ tails, ∀ u v,
      c.url? (url p ++ a) = .ok u → c.url? (url q ++ b) = .ok v →
      (u.path = v.path ↔ (t.along (p ++ a).toList).segments = (t.along (q ++ b).toList).segments) ∧
      (Url.Plain p.toList → Url.Plain q.toList → (u.path = v.path ↔ p ++ a = q ++ b))) := by
  obtain ⟨hmarked, hplain⟩ := Url.exists_trail (rooted_front c)
  -- what is asked about an accepted path is read as a URL
  have hread : ∀ {p a u}, Admits p → c.url? (url p ++ a) = .ok u → ∃ r, r.path = u.path ∧ r.isWeb = true ∧
      Url.parse? (String.ofList (front c ++ '/' :: (p ++ a).toList)) = some r := by
    intro p a u hp hu
    obtain ⟨r, hr, hweb, hpath⟩ := Client.exists_of_url? hu
    exact ⟨r, hpath.symm, hweb, text_of_admits c hp a ▸ hr⟩
  refine ⟨fun p hp => ?_, fun hearly p q hp hq a _ b _ u v hu hv => ?_, fun hearly => ?_⟩
  · have hurl : url (p ++ " ") = url p ++ " " := by
      rw [url, (admits_iff.1 (admits_concat hp)).1, url, (admits_iff.1 hp).1, String.append_assoc]
    have hsame : c.url? (url (p ++ " ")) = c.url? (url p) := by rw [hurl, url?_concat]
    have hdelete : c.delete (url (p ++ " ")) = c.delete (url p) := by
      simp only [Client.delete, Client.request, hsame]
    refine ⟨admits_concat hp, hsame, funext fun w => ?_⟩
    simp only [delete, Client.deleteIfPresent, hdelete]
  · obtain ⟨path, hpath⟩ := hmarked ((endsEarly_iff c).1 hearly)
    obtain ⟨r, hr, hweb, hparse⟩ := hread hp hu
    obtain ⟨s, hs, hweb', hparse'⟩ := hread hq hv
    rw [← hr, ← hs, hpath _ r hparse hweb, hpath _ s hparse' hweb']
  · obtain ⟨t, ht, hpath⟩ := hplain (mt (endsEarly_iff c).2 hearly)
    refine ⟨t, fun p q hp hq a ha b hb u v hu hv => ?_⟩
    obtain ⟨r, hr, hweb, hparse⟩ := hread hp hu
    obtain ⟨s, hs, hweb', hparse'⟩ := hread hq hv
    have hu' : u.path = (t.along (p ++ a).toList).text := by rw [← hr, hpath _ r hparse hweb]
    have hv' : v.path = (t.along (q ++ b).toList).text := by rw [← hs, hpath _ s hparse' hweb']
    rw [hu', hv']
    refine ⟨Trail.text_inj (ht.along _) (ht.along _), fun hplainp hplainq => ?_⟩
    rw [(plain_append hplainp ha).text_along, (plain_append hplainq hb).text_along, List.append_cancel_left_eq,
      List.cons.injEq, eq_self, true_and, String.toList_inj]

/-- The client of a server on the same machine. -/
def nearby : Client := ⟨"http://127.0.0.1:1", "t", []⟩

/-- The URL of a path of that server. -/
def nearbyUrl (path : String) : Url where
  scheme := "http".toList
  host := some "127.0.0.1".toList
  portNumber := some 1
  path := path.toList
  query := none
  fragment := none

theorem endpoints_meet_apart : nearby.url? (url "kv") = .ok (nearbyUrl "/v1/sys/mounts/kv") ∧
    nearby.url? (url "team/kv" ++ "/tune") = .ok (nearbyUrl "/v1/sys/mounts/team/kv/tune") ∧
    (nearbyUrl "/v1/sys/mounts/kv").path ≠ (nearbyUrl "/v1/sys/mounts/team/kv/tune").path := by
  obtain ⟨t, ht⟩ := (endpoints_meet nearby).2.2 (by decide)
  have hkv : nearby.url? (url "kv" ++ "") = .ok (nearbyUrl "/v1/sys/mounts/kv") := by decide +kernel
  have htune : nearby.url? (url "team/kv" ++ "/tune") = .ok (nearbyUrl "/v1/sys/mounts/team/kv/tune") := by
    decide +kernel
  have hmeet := (ht "kv" "team/kv" (admits_iff.2 (by decide)) (admits_iff.2 (by decide)) "" (by decide) "/tune"
    (by decide) _ _ hkv htune).2 (by decide) (by decide)
  exact ⟨by simpa using hkv, htune, fun h => absurd (hmeet.1 h) (by decide)⟩

/-- A blank in the path of a mount is encoded, and a path in which it is encoded already stays as it is. -/
theorem endpoints_meet_old_team : "old team" ≠ "old%20team" ∧ Admits "old team" ∧ Admits "old%20team" ∧
    nearby.url? (url "old team") = .ok (nearbyUrl "/v1/sys/mounts/old%20team") ∧
    nearby.url? (url "old%20team") = .ok (nearbyUrl "/v1/sys/mounts/old%20team") :=
  ⟨by decide, admits_iff.2 (by decide), admits_iff.2 (by decide), by decide +kernel, by decide +kernel⟩

end Mount

end Converge.Vault
