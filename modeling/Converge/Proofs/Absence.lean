import Converge.Proofs.KeyIds
import Converge.Proofs.MountUrls
import Converge.Proofs.Sites
import Converge.Proofs.WriteProtocol
import Converge.Vault.Kinds

/-!
# What is absent

A read that finds nothing and a delete of what is gone tell from the reply that there is nothing, each in its own way. A
delete that does not see it leaves a record that can never be destroyed. Both see it in the status 404. A read of a
mount also sees it in the message of a status of 400 (`SaysNoMount`), and a delete does not. What the delete answers the
first time decides about the record (`Workspace.destroyResource_of_first`). Main theorem: `Vault.delete_of_absent`.
-/

namespace Converge

variable {σ ε : Type}

/-! ## First answers -/

/-- What succeeds has succeeded so far. -/
theorem exists_of_bind {α β : Type} {x : ExceptT ε (StateM σ) α} {g : α → ExceptT ε (StateM σ) β} {s : σ} {b : β}
    (h : ((x >>= g) s).1 = .ok b) : ∃ a s', (g a s').1 = .ok b := by
  rcases hx : x s with ⟨e | a, s'⟩
  · rw [bind_of_error hx] at h
    cases h
  · rw [bind_of_ok hx] at h
    exact ⟨a, s', h⟩

/-- A call that is over with its first answer is made once. -/
theorem Tries.eq_of_first {α : Type} {retryable : ε → Bool} {bound : Nat} {first last : Except ε α}
    {rest : List (Except ε α)} (h : Tries retryable bound (first :: rest) last)
    (hover : ∀ e, first = .error e → retryable e = false) : rest = [] ∧ last = first := by
  obtain ⟨failed, hanswers, hretried⟩ := h.earlier
  cases failed with
  | nil =>
    obtain ⟨rfl, rfl⟩ := List.cons.inj hanswers
    exact ⟨rfl, rfl⟩
  | cons e failed =>
    obtain ⟨rfl, _⟩ := List.cons.inj hanswers
    have hagain := hretried e List.mem_cons_self
    rw [hover e rfl] at hagain
    cases hagain

/-- The id can be that of a resource that was created as declared, or moved. -/
def Transport.Issues (t : Transport σ ε) (s : Schema) (id : String) : Prop :=
  (∃ desired resolved w, s.resolveDesired desired = .ok resolved ∧ (t.create resolved w).1 = .ok id) ∨
    ∃ old payload w, (t.write old payload w).1 = .ok (some id)

/-- **The first answer to a delete decides** what becomes of the record, unless the delete may be made again. -/
theorem Workspace.destroyResource_of_first [ToString ε] {w : Workspace} {record : ResourceRecord} {t : Transport σ ε}
    {s : Site σ} (hk : (w.registry.get? record.kind).isSome = true) {answer : Except ε Unit}
    (hfirst : (t.delete record.remoteId ⟨s.world.remote, []⟩).1 = answer)
    (hover : ∀ e, answer = .error e → t.retryable e = false) :
    ∃ world, w.destroyResource record t s =
      (answer.mapError fun e => .reconcile record.address (.apply .delete 1 e),
        ⟨world, s.store.without record.address answer⟩) := by
  obtain ⟨schema, hschema⟩ := Option.isSome_iff_exists.1 hk
  obtain ⟨answers, last, world, htries, hcourse, hrun⟩ := Workspace.destroyResource_of_run (t := t) (s := s) hschema
  obtain ⟨first, rest, hanswers⟩ := List.exists_cons_of_ne_nil (List.ne_nil_of_length_pos htries.length_pos)
  subst hanswers
  have hremote := hcourse.remote
  have hsame : first = answer := (Transport.replay_cons_iff.1 hremote).1.symm.trans hfirst
  subst hsame
  obtain ⟨rfl, rfl⟩ := htries.eq_of_first hover
  exact ⟨world, hrun⟩

def Http.Server.next (s : Http.Server) : Http.Reply := s.replies.headD s.otherwise

namespace Vault

open Http (Reply Server Url)

/-! ## Replies -/

/-- The reply has the status that says that there is no such thing. -/
inductive Denies : Reply → Prop
  | answer {body} : Denies (.answer 404 body)
  | truncated : Denies (.truncated 404)

/-- The reply has a status of 400 and this message, which says that there is no mount. -/
def SaysNoMount (reply : Reply) (message : String) : Prop :=
  ∃ body, reply = .answer 400 body ∧ errorMessage (Client.withoutMark body) = message ∧
    Mount.saysNoMount message = true

namespace Client

variable {u : Url} {code : Nat} {message body : String}

theorem decodeReply_answer (h : ¬ (200 ≤ code ∧ code < 300)) :
    decodeReply u (.answer code body) = .error (.status code (errorMessage (withoutMark body))) := by
  have hcontent : code ≠ 204 := by omega
  simp [decodeReply, hcontent, isSuccess, h, statusError]

theorem decodeReply_truncated (h : ¬ (200 ≤ code ∧ code < 300)) :
    decodeReply u (.truncated code) = .error (.status code (errorMessage "Unknown error")) := by
  have hcontent : code ≠ 204 := by omega
  simp [decodeReply, hcontent, isSuccess, h, statusError]

/-- A reply that is a success does not fail with a status. -/
theorem decodeReply_ne_status {status : Nat} (h : 200 ≤ status ∧ status < 300) {reply : Reply}
    (hreply : (∃ body, reply = .answer status body) ∨ reply = .truncated status) :
    decodeReply u reply ≠ .error (.status code message) := by
  have hsuccess : isSuccess status = true := isSuccess_iff.2 h
  by_cases hcontent : status = 204
  · rcases hreply with ⟨body, rfl⟩ | rfl <;> simp [decodeReply, hcontent]
  · rcases hreply with ⟨body, rfl⟩ | rfl
    · intro hbody
      simp only [decodeReply, hcontent, hsuccess, if_true, if_false] at hbody
      obtain ⟨_, he⟩ := exists_parse_of_decodeBody hbody
      cases he
    · simp [decodeReply, hcontent, hsuccess]

/-- Which replies fail with a status, and with what message. -/
theorem decodeReply_eq_status_iff {reply : Reply} :
    decodeReply u reply = .error (.status code message) ↔ ¬ (200 ≤ code ∧ code < 300) ∧
      ((∃ body, reply = .answer code body ∧ errorMessage (withoutMark body) = message) ∨
        reply = .truncated code ∧ errorMessage "Unknown error" = message) := by
  constructor
  · intro h
    cases reply with
    | refused | closed | timedOut => cases h
    | truncated status =>
      by_cases hs : 200 ≤ status ∧ status < 300
      · exact absurd h (decodeReply_ne_status hs (.inr rfl))
      · rw [decodeReply_truncated hs] at h
        cases h
        exact ⟨hs, .inr ⟨rfl, rfl⟩⟩
    | answer status body =>
      by_cases hs : 200 ≤ status ∧ status < 300
      · exact absurd h (decodeReply_ne_status hs (.inl ⟨body, rfl⟩))
      · rw [decodeReply_answer hs] at h
        cases h
        exact ⟨hs, .inl ⟨body, rfl, rfl⟩⟩
  · rintro ⟨hs, ⟨body, rfl, rfl⟩ | ⟨rfl, rfl⟩⟩
    · exact decodeReply_answer hs
    · exact decodeReply_truncated hs

theorem isNotFound_iff {e : VaultError} : e.isNotFound = true ↔ ∃ message, e = .status 404 message := by
  unfold VaultError.isNotFound
  split
  · simp
  · rename_i hother
    exact ⟨nofun, fun ⟨message, he⟩ => absurd he (hother message)⟩

/-- What is not found was denied. -/
theorem denies_iff {reply : Reply} :
    Denies reply ↔ ∃ message, decodeReply u reply = .error (.status 404 message) := by
  simp only [decodeReply_eq_status_iff]
  constructor
  · rintro (_ | _)
    · exact ⟨_, by decide, .inl ⟨_, rfl, rfl⟩⟩
    · exact ⟨_, by decide, .inr ⟨rfl, rfl⟩⟩
  · rintro ⟨_, _, ⟨_, rfl, _⟩ | ⟨rfl, _⟩⟩
    · exact .answer
    · exact .truncated

/-- The message that there is no mount is no message of a body that is cut off. -/
theorem saysNoMount_iff {reply : Reply} : SaysNoMount reply message ↔
    decodeReply u reply = .error (.status 400 message) ∧ Mount.saysNoMount message = true := by
  have hunknown : Mount.saysNoMount (errorMessage "Unknown error") = false := by decide +kernel
  rw [decodeReply_eq_status_iff]
  constructor
  · rintro ⟨body, rfl, rfl, hmessage⟩
    exact ⟨⟨by decide, .inl ⟨body, rfl, rfl⟩⟩, hmessage⟩
  · rintro ⟨⟨_, ⟨body, rfl, rfl⟩ | ⟨_, rfl⟩⟩, hmessage⟩
    · exact ⟨body, rfl, rfl, hmessage⟩
    · rw [hunknown] at hmessage
      cases hmessage

/-! ## Calls -/

variable {c : Client} {path : String} {w : Wire Server}

theorem request_fst (c : Client) (m : Http.Method) (path : String) (body : Option Json) (w : Wire Server) :
    (c.request m path body w).1 =
      match c.url? path with
      | .error failure => .error (.send failure)
      | .ok u => decodeReply u w.remote.next := by
  unfold request
  cases c.url? path <;> rfl

/-- A reply that nothing is found for is one that denies it. -/
theorem request_eq_notFound_iff {m : Http.Method} {b : Option Json} :
    (∃ e, (c.request m path b w).1 = .error e ∧ e.isNotFound = true) ↔
      (∃ u, c.url? path = .ok u) ∧ Denies w.remote.next := by
  rw [request_fst]
  cases c.url? path with
  | error failure =>
    refine iff_of_false ?_ fun ⟨⟨_, hu⟩, _⟩ => by cases hu
    rintro ⟨_, he, hn⟩
    cases he
    cases hn
  | ok u =>
    simp only [isNotFound_iff, denies_iff (u := u)]
    constructor
    · rintro ⟨_, he, message, rfl⟩
      exact ⟨⟨u, rfl⟩, message, he⟩
    · rintro ⟨_, message, he⟩
      exact ⟨_, he, message, rfl⟩

theorem get?_eq_none_iff : (c.get? path w).1 = .ok none ↔ (∃ u, c.url? path = .ok u) ∧ Denies w.remote.next := by
  rw [← request_eq_notFound_iff (m := .get) (b := none)]
  unfold get? get
  rcases c.request .get path none w with ⟨e | v, w'⟩
  · by_cases hn : e.isNotFound = true <;> simp [hn]
  · simp

theorem get?_eq_error_iff {e : VaultError} :
    (c.get? path w).1 = .error e ↔ (c.request .get path none w).1 = .error e ∧ e.isNotFound = false := by
  unfold get? get
  rcases c.request .get path none w with ⟨e' | v, w'⟩
  · by_cases hn : e'.isNotFound = true
    · simp only [hn, if_true, reduceCtorEq, false_iff, not_and, Except.error.injEq]
      rintro rfl
      simp [hn]
    · simp only [hn, if_false, Bool.false_eq_true, Except.error.injEq]
      constructor
      · rintro rfl
        exact ⟨rfl, by simpa using hn⟩
      · exact fun h => h.1
  · simp

theorem request_eq_saysNoMount_iff {m : Http.Method} {b : Option Json} {message : String} :
    (c.request m path b w).1 = .error (.status 400 message) ∧ Mount.saysNoMount message = true ↔
      (∃ u, c.url? path = .ok u) ∧ SaysNoMount w.remote.next message := by
  rw [request_fst]
  cases c.url? path with
  | error failure =>
    refine iff_of_false ?_ fun ⟨⟨_, hu⟩, _⟩ => by cases hu
    rintro ⟨he, _⟩
    cases he
  | ok u => simp [saysNoMount_iff (u := u)]

/-- A reply that says that there is no mount fails a request for its path. -/
theorem get?_saysNoMount_iff :
    (∃ message, (c.get? path w).1 = .error (.status 400 message) ∧ Mount.saysNoMount message = true) ↔
      (∃ u, c.url? path = .ok u) ∧ ∃ message, SaysNoMount w.remote.next message := by
  have hfound : ∀ message, (VaultError.status 400 message).isNotFound = false := fun _ => rfl
  simp only [get?_eq_error_iff, hfound, and_true, request_eq_saysNoMount_iff, exists_and_left]

theorem deleteIfPresent_eq_ok (hu : ∃ u, c.url? path = .ok u) (hd : Denies w.remote.next) :
    (c.deleteIfPresent path w).1 = .ok () := by
  obtain ⟨e, he, hn⟩ := (request_eq_notFound_iff (m := .delete) (b := none)).2 ⟨hu, hd⟩
  unfold deleteIfPresent delete
  rcases hr : c.request .delete path none w with ⟨r, w'⟩
  rw [hr] at he
  cases he
  simp [hn]

theorem deleteIfPresent_eq_error {message : String} (hu : ∃ u, c.url? path = .ok u)
    (hs : SaysNoMount w.remote.next message) : (c.deleteIfPresent path w).1 = .error (.status 400 message) := by
  obtain ⟨he, _⟩ := (request_eq_saysNoMount_iff (m := .delete) (b := none)).2 ⟨hu, hs⟩
  unfold deleteIfPresent delete
  rcases hr : c.request .delete path none w with ⟨r, w'⟩
  rw [hr] at he
  cases he
  rfl

end Client

namespace Mount

variable {c : Client} {id : String} {w : Wire Server}

theorem read_eq_none_iff_of_get? : (read c id w).1 = .ok none ↔ (c.get? (url id) w).1 = .ok none ∨
    ∃ message, (c.get? (url id) w).1 = .error (.status 400 message) ∧ saysNoMount message = true := by
  unfold read
  rcases c.get? (url id) w with ⟨e | _ | response, w'⟩
  · by_cases he : ∃ message, e = .status 400 message
    · obtain ⟨message, rfl⟩ := he
      by_cases hs : saysNoMount message = true <;> simp [hs]
    · have hother : ∀ message, e ≠ .status 400 message := fun message heq => he ⟨message, heq⟩
      simp [hother]
  · simp
  · simp

/-- **Which replies a read of a mount takes for the absence of the mount.** -/
theorem read_eq_none_iff : (read c id w).1 = .ok none ↔
    (∃ u, c.url? (url id) = .ok u) ∧ (Denies w.remote.next ∨ ∃ message, SaysNoMount w.remote.next message) := by
  rw [read_eq_none_iff_of_get?, Client.get?_eq_none_iff, Client.get?_saysNoMount_iff, and_or_left]

end Mount

namespace TransitKey

variable {c : Client} {id : String} {w : Wire Server}

/-- **Which replies a read of a key takes for the absence of the key.** -/
theorem read_eq_none_iff : (read c id w).1 = .ok none ↔ (∃ u, c.url? (url id) = .ok u) ∧ Denies w.remote.next := by
  have hnone : (c.get? (url id) w).1 = .ok none ↔ _ := Client.get?_eq_none_iff
  rcases hr : c.get? (url id) w with ⟨e | _ | response, w'⟩
  · rw [← hnone, hr, read, bind_of_error hr]
    simp
  · rw [← hnone, hr, read, bind_of_ok hr]
    exact iff_of_true rfl rfl
  · rw [← hnone, hr, read, bind_of_ok hr]
    simp only [Except.ok.injEq, reduceCtorEq, iff_false]
    cases fieldsOfResponse id response <;> nofun

/-- A key is created under the id of its backend and its name. -/
theorem keyId_of_create {desired : FieldMap} (h : (create c desired w).1 = .ok id) :
    ∃ backend name, desired.get? "backend" = some (.string backend) ∧ desired.get? "name" = some (.string name) ∧
      id = keyId backend name := by
  unfold create at h
  cases hb : desired.string? "backend" with
  | none =>
    rw [hb] at h
    cases h
  | some backend =>
    cases hn : desired.string? "name" with
    | none =>
      rw [hb] at h
      simp only [hn] at h
      cases h
    | some name =>
      rw [hb] at h
      simp only [hn] at h
      obtain ⟨_, _, h⟩ := exists_of_bind h
      obtain ⟨_, _, h⟩ := exists_of_bind h
      cases h
      exact ⟨backend, name, FieldMap.string?_eq_some.1 hb, FieldMap.string?_eq_some.1 hn, rfl⟩

/-- A key is not moved. -/
theorem write_ne_moved {payload : FieldMap} {new : String} : (write c id payload w).1 ≠ .ok (some new) := by
  intro h
  obtain ⟨_, _, h⟩ := exists_of_bind h
  obtain ⟨_, _, h⟩ := exists_of_bind h
  cases h

/-- The id of a key that was created as declared can be read. -/
theorem exists_parse_of_issues (h : (transport c).Issues schema id) : ∃ key, parseKeyId id = .ok key := by
  rcases h with ⟨desired, resolved, w, hr, hcreate⟩ | ⟨_, _, _, hmoved⟩
  · obtain ⟨backend, name, hb, hn, rfl⟩ := keyId_of_create hcreate
    obtain ⟨_, m, hm, rfl⟩ := Schema.resolveDesired_eq_ok.1 hr
    rw [Schema.canonicalize_eq_self rfl] at hb hn
    have htrimmed : ∀ n s, n = "backend" ∨ n = "name" → m.get? n = some (.string s) →
        Normalizer.withoutSlashes s = s ∧ s ≠ "" := by
      intro n s hid hs
      obtain ⟨f, hf, rfl⟩ := exists_field_of_id hid
      obtain ⟨htype, hnorm, hvalid⟩ := rules_of_id f hf hid
      have hdefault : ∀ f ∈ fields, f.name = "backend" ∨ f.name = "name" → f.default = none := by simp [fields]
      exact hm.trimmed hf htype hnorm hvalid (hdefault f hf hid) hs
    obtain ⟨hbtrim, hbne⟩ := htrimmed "backend" backend (.inl rfl) hb
    obtain ⟨hntrim, hnne⟩ := htrimmed "name" name (.inr rfl) hn
    obtain ⟨b, n, hparse, _⟩ := exists_parseKeyId (accepts_iff.2 ⟨hbtrim.symm ▸ hbne, hntrim.symm ▸ hnne⟩)
    exact ⟨_, hparse⟩
  · exact absurd hmoved write_ne_moved

/-- A delete of a key asks for the key if its id can be read. -/
theorem delete_eq (h : ∃ key, parseKeyId id = .ok key) : delete c id w = c.deleteIfPresent (url id) w := by
  obtain ⟨key, hkey⟩ := h
  have hcheck : checkId id w = (.ok (), w) := by
    unfold checkId
    rw [hkey]
    rfl
  rw [delete, bind_of_ok hcheck]

end TransitKey

/-! ## Both kinds -/

theorem get?_registry (kind : String) : registry.get? kind =
    if TransitKey.kind = kind then some TransitKey.schema
    else if Mount.kind = kind then some Mount.schema else none := by
  simp only [registry, Registry.ofSchemas, schemas, List.foldl_cons, List.foldl_nil, Registry.register,
    SortedMap.get?_insert, SortedMap.get?_empty]
  rfl

/-- What is absent for a read is denied, or is a mount that is said not to be there, and a delete asks at the same
path. -/
theorem path_of_absent {c : Client} {kind : String} {t : Transport Server VaultError} {s : Schema}
    (ht : transport? c kind = some t) (hs : registry.get? kind = some s) {id : String} (hid : t.Issues s id)
    {w : Wire Server} (hread : (t.read id w).1 = .ok none) :
    ∃ path, (∃ u, c.url? path = .ok u) ∧ (∀ w', t.delete id w' = c.deleteIfPresent path w') ∧
      (Denies w.remote.next ∨ kind = Mount.kind ∧ ∃ message, SaysNoMount w.remote.next message) := by
  unfold transport? at ht
  split at ht
  · rename_i hkind
    cases ht
    obtain ⟨hu, hreply⟩ := Mount.read_eq_none_iff.1 hread
    exact ⟨Mount.url id, hu, fun _ => rfl, hreply.imp_right fun hmessage => ⟨hkind, hmessage⟩⟩
  · split at ht
    · rename_i hkind
      cases ht
      rw [get?_registry, if_pos hkind.symm] at hs
      cases hs
      obtain ⟨hu, hdenies⟩ := TransitKey.read_eq_none_iff.1 hread
      exact ⟨TransitKey.url id, hu, fun _ => TransitKey.delete_eq (TransitKey.exists_parse_of_issues hid), .inl hdenies⟩
    · cases ht

/-- **Read and delete agree on what is absent, but for one reply.** For an id of a resource that was created or moved,
the reply that a read takes for its absence has a status of 404, or it has a status of 400 and says that there is no
mount. A delete that gets the first succeeds, and the record of the resource goes. A delete that gets the second fails
at once, and the record stays, whatever may be retried. -/
theorem delete_of_absent (c : Client) {kind : String} {t : Transport Server VaultError} {s : Schema}
    (ht : transport? c kind = some t) (hs : registry.get? kind = some s) {id : String} (hid : t.Issues s id)
    {w : Wire Server} (hread : (t.read id w).1 = .ok none) :
    (Denies w.remote.next ∨ kind = Mount.kind ∧ ∃ message, SaysNoMount w.remote.next message) ∧
    (∀ w' : Wire Server, w'.remote.next = w.remote.next →
      (Denies w.remote.next → (t.delete id w').1 = .ok ()) ∧
      ∀ message, SaysNoMount w.remote.next message → (t.delete id w').1 = .error (.status 400 message)) ∧
    ∀ (workspace : Workspace) (record : ResourceRecord) (site : Site Server),
      (workspace.registry.get? record.kind).isSome = true → record.remoteId = id →
      site.world.remote.next = w.remote.next →
      (Denies w.remote.next → ∃ world, workspace.destroyResource record t site =
        (.ok (), ⟨world, site.store.remove record.address⟩)) ∧
      ∀ message, SaysNoMount w.remote.next message → ∃ world, workspace.destroyResource record t site =
        (.error (.reconcile record.address (.apply .delete 1 (.status 400 message))), ⟨world, site.store⟩) := by
  obtain ⟨path, hu, hdelete, hreply⟩ := path_of_absent ht hs hid hread
  have hanswers : ∀ w' : Wire Server, w'.remote.next = w.remote.next →
      (Denies w.remote.next → (t.delete id w').1 = .ok ()) ∧
      ∀ message, SaysNoMount w.remote.next message → (t.delete id w').1 = .error (.status 400 message) := by
    intro w' hnext
    rw [← hnext, hdelete]
    exact ⟨Client.deleteIfPresent_eq_ok hu, fun message => Client.deleteIfPresent_eq_error hu⟩
  refine ⟨hreply, hanswers, fun workspace record site hkind hrecord hnext => ?_⟩
  subst hrecord
  obtain ⟨hok, herror⟩ := hanswers ⟨site.world.remote, []⟩ hnext
  have hretryable : t.retryable = VaultError.isRetryable := by
    unfold transport? at ht
    split at ht
    · cases ht
      rfl
    · split at ht <;> cases ht
      rfl
  refine ⟨fun hd => ?_, fun message hmessage => ?_⟩
  · exact Workspace.destroyResource_of_first hkind (hok hd) nofun
  · refine Workspace.destroyResource_of_first hkind (herror message hmessage) fun e he => ?_
    cases he
    rw [hretryable]
    rfl

/-- A server that gives the same reply whatever it is asked. -/
def answering (reply : Reply) : Wire Server := ⟨⟨[], reply, []⟩, []⟩

theorem issues_team : (Mount.transport Mount.nearby).Issues Mount.schema "team" :=
  .inr ⟨"kv", .ofList [("path", .string "team")], answering (.answer 204 ""), by decide +kernel⟩

theorem exists_url_team : ∃ u, Mount.nearby.url? (Mount.url "team") = .ok u :=
  ⟨Mount.nearbyUrl "/v1/sys/mounts/team", by decide +kernel⟩

theorem delete_of_absent_gone : (Mount.read Mount.nearby "team" (answering (.answer 404 ""))).1 = .ok none ∧
    (Mount.delete Mount.nearby "team" (answering (.answer 404 ""))).1 = .ok () := by
  have hdenies : Denies (answering (.answer 404 "")).remote.next := .answer
  have hread : (Mount.read Mount.nearby "team" (answering (.answer 404 ""))).1 = .ok none :=
    (Mount.read_eq_none_iff (w := answering (.answer 404 ""))).2 ⟨exists_url_team, .inl hdenies⟩
  have htransport : transport? Mount.nearby Mount.kind = some (Mount.transport Mount.nearby) := if_pos rfl
  have hschema : registry.get? Mount.kind = some Mount.schema := by
    rw [get?_registry, if_neg (by decide), if_pos rfl]
  have habsent := delete_of_absent Mount.nearby htransport hschema issues_team (w := answering (.answer 404 "")) hread
  exact ⟨hread, (habsent.2.1 _ rfl).1 hdenies⟩

/-- The reply of an older server that has no such mount. -/
def legacy : Reply := .answer 400 "\x7b\"errors\":[\"No secret engine mount at team/\"]\x7d"

/-- Of such a reply a read takes that the mount is absent, and a delete fails. -/
theorem delete_of_absent_legacy : (Mount.transport Mount.nearby).Issues Mount.schema "team" ∧
    (Mount.read Mount.nearby "team" (answering legacy)).1 = .ok none ∧
    (Mount.delete Mount.nearby "team" (answering legacy)).1 =
      .error (.status 400 "No secret engine mount at team/") := by
  have hmessage : SaysNoMount (answering legacy).remote.next "No secret engine mount at team/" :=
    ⟨_, rfl, by decide +kernel, by decide +kernel⟩
  exact ⟨issues_team, Mount.read_eq_none_iff.2 ⟨exists_url_team, .inr ⟨_, hmessage⟩⟩,
    Client.deleteIfPresent_eq_error exists_url_team hmessage⟩

end Vault
end Converge
