import Converge.Vault.Mount.Transport
import Converge.Vault.TransitKey.Transport
import Converge.Proofs.Dialogues

/-!
# Conversations with a Vault server

Which requests the calls of the two Vault transports send, and that none but a create fails for want of
an attribute. `Speaks` says so of any part of a conversation and is put together along the sequence of
its steps.
-/

namespace Converge.Vault

open Http (Method Reply Request Server)

variable {α β : Type}

/-- Every request that is sent is of one of the methods. -/
def Sends (methods : List Method) (x : Conversation α) : Prop := ∀ w, ∃ sent,
  (x w).2.remote.requests = w.remote.requests ++ sent ∧ ∀ q ∈ sent, q.method ∈ methods

/-- Every request that is sent is of one of the methods, and no attribute is found missing. -/
structure Speaks (methods : List Method) (x : Conversation α) : Prop where
  sends : Sends methods x
  complete : ∀ w name, (x w).1 ≠ .error (.missingField name)

theorem Sends.mono {methods methods' : List Method} {x : Conversation α} (hx : Sends methods x)
    (h : methods ⊆ methods') : Sends methods' x := by
  intro w
  obtain ⟨sent, hs, hm⟩ := hx w
  exact ⟨sent, hs, fun q hq => h (hm q hq)⟩

namespace Speaks

variable {methods methods' : List Method} {x : Conversation α}

theorem mono (hx : Speaks methods x) (h : methods ⊆ methods') : Speaks methods' x :=
  ⟨hx.sends.mono h, hx.complete⟩

/-- A step that asks nothing. -/
theorem silent (h : ∀ w, (x w).2.remote = w.remote) (he : ∀ w name, (x w).1 ≠ .error (.missingField name)) :
    Speaks methods x :=
  ⟨fun w => ⟨[], by simp [h w], nofun⟩, he⟩

theorem pure (a : α) : Speaks methods (Pure.pure a : Conversation α) := silent (fun _ => rfl) nofun

theorem throw {e : VaultError} (he : ∀ name, e ≠ .missingField name) :
    Speaks methods (MonadExcept.throw e : Conversation α) :=
  silent (fun _ => rfl) fun _ name h => he name (Except.error.inj h)

theorem note (n : Note) : Speaks methods (Interaction.note n : Conversation Unit) := silent (fun _ => rfl) nofun

theorem bind {g : α → Conversation β} (hx : Speaks methods x) (hg : ∀ a, Speaks methods (g a)) :
    Speaks methods (x >>= g) := by
  constructor
  · intro w
    obtain ⟨sent, hs, hm⟩ := hx.sends w
    cases hr : x w with
    | mk result w' =>
      rw [hr] at hs
      cases result with
      | error e =>
        rw [bind_of_error hr]
        exact ⟨sent, hs, hm⟩
      | ok a =>
        obtain ⟨more, hs', hm'⟩ := (hg a).sends w'
        rw [bind_of_ok hr]
        refine ⟨sent ++ more, by rw [hs', hs, List.append_assoc], fun q hq => ?_⟩
        exact (List.mem_append.1 hq).elim (hm q) (hm' q)
  · intro w name
    cases hr : x w with
    | mk result w' =>
      cases result with
      | error e =>
        rw [bind_of_error hr]
        rintro ⟨⟩
        exact hx.complete w name (by rw [hr])
      | ok a =>
        rw [bind_of_ok hr]
        exact (hg a).complete w' name

/-- A step that asks what another does and fails only with its error. -/
theorem of_milder {y : Conversation β} (hx : Speaks methods x)
    (h : ∀ w r w', x w = (r, w') → (∃ v, y w = (.ok v, w')) ∨ ∃ e, r = .error e ∧ y w = (.error e, w')) :
    Speaks methods y := by
  constructor
  · intro w
    have hs := hx.sends w
    rcases h w _ _ rfl with ⟨v, hv⟩ | ⟨e, _, he⟩
    · rwa [hv]
    · rwa [he]
  · intro w name
    rcases h w _ _ rfl with ⟨v, hv⟩ | ⟨e, hr, he⟩
    · rw [hv]
      nofun
    · rw [he]
      rintro ⟨⟩
      exact hx.complete w name hr

end Speaks

/-! ## Requests -/

theorem decodeReply_ne {u : Http.Url} {reply : Reply} {name : String} :
    Client.decodeReply u reply ≠ .error (.missingField name) := by
  unfold Client.decodeReply Client.statusError
  cases reply with
  | refused | closed | timedOut => nofun
  | truncated status =>
    simp only
    split
    · nofun
    · split <;> nofun
  | answer status body =>
    simp only
    split
    · nofun
    · split
      · intro h
        obtain ⟨_, he⟩ := Client.exists_parse_of_decodeBody h
        cases he
      · nofun

theorem request_speaks (c : Client) (m : Method) (path : String) (body : Option Json) :
    Speaks [m] (c.request m path body) := by
  unfold Client.request
  cases c.url? path with
  | error failure => exact Speaks.throw fun name h => by cases h
  | ok u =>
    refine ⟨fun w => ?_, fun w name => decodeReply_ne⟩
    simp only [Interaction.ask, Server.send]
    split
    · exact ⟨_, rfl, by simp [Client.requestFor]⟩
    · exact ⟨[], by simp, by simp⟩

theorem isDelivered_of_ne {x : Asked} (h : ∀ failure, x.answer ≠ .error (.send failure)) : x.isDelivered = true := by
  unfold Asked.isDelivered
  split
  · exact absurd ‹_› (h _)
  · exact absurd ‹_› (h _)
  · exact absurd ‹_› (h _)
  · rfl

/-- A request reaches the server unless sending it fails. -/
theorem request_delivered {c : Client} {m : Method} {path : String} {body : Option Json} {w : Wire Server}
    (h : ∀ failure, (c.request m path body w).1 ≠ .error (.send failure)) :
    ∃ u, c.url? path = .ok u ∧
      (c.request m path body w).2.remote.requests = w.remote.requests ++ [c.requestFor m u body] := by
  obtain ⟨sent, hrequests, hsent⟩ := c.ask_delivers ⟨m, path, body⟩ w
  rw [delivered_singleton, if_pos (isDelivered_of_ne h)] at hsent
  obtain ⟨_, _, ⟨u, hu, rfl⟩, ⟨⟩, rfl⟩ := List.forall₂_cons_left_iff.1 hsent
  exact ⟨u, hu, hrequests⟩

theorem get?_speaks (c : Client) (path : String) : Speaks [.get] (c.get? path) := by
  refine (request_speaks c .get path none).of_milder fun w r w' h => ?_
  unfold Client.get? Client.get
  rw [h]
  cases r with
  | ok v => exact .inl ⟨_, rfl⟩
  | error e =>
    by_cases hn : e.isNotFound = true
    · exact .inl ⟨none, by simp [hn]⟩
    · exact .inr ⟨e, rfl, by simp [hn]⟩

theorem deleteIfPresent_speaks (c : Client) (path : String) : Speaks [.delete] (c.deleteIfPresent path) := by
  refine (request_speaks c .delete path none).of_milder fun w r w' h => ?_
  unfold Client.deleteIfPresent Client.delete
  rw [h]
  cases r with
  | ok v => exact .inl ⟨_, rfl⟩
  | error e =>
    by_cases hn : e.isNotFound = true
    · exact .inl ⟨(), by simp [hn]⟩
    · exact .inr ⟨e, rfl, by simp [hn]⟩

/-- A deletion that succeeds, also because there is nothing any more, was asked for. -/
theorem deleteIfPresent_delivered {c : Client} {path : String} {w : Wire Server}
    (h : (c.deleteIfPresent path w).1 = .ok ()) :
    ∃ q, (c.deleteIfPresent path w).2.remote.requests = w.remote.requests ++ [q] ∧ q.method = .delete := by
  obtain ⟨r, w', hr⟩ : ∃ r w', c.request .delete path none w = (r, w') := ⟨_, _, rfl⟩
  have hsent : ∀ failure, (c.request .delete path none w).1 ≠ .error (.send failure) := by
    intro failure hf
    rw [hr] at hf
    simp only at hf
    subst hf
    unfold Client.deleteIfPresent Client.delete at h
    rw [hr] at h
    exact absurd h nofun
  have hwire : (c.deleteIfPresent path w).2 = w' := by
    unfold Client.deleteIfPresent Client.delete
    rw [hr]
    cases r with
    | ok v => rfl
    | error e => simp only; split <;> rfl
  obtain ⟨u, _, hrequests⟩ := request_delivered hsent
  rw [hr, ← hwire] at hrequests
  exact ⟨c.requestFor .delete u none, hrequests, rfl⟩

/-! ## Mounts -/

namespace Mount

variable (c : Client)

theorem read_speaks (id : String) : Speaks [.get] (read c id) := by
  refine (get?_speaks c (url id)).of_milder fun w r w' h => ?_
  unfold read
  split <;> (rename_i hget; rw [h] at hget; cases hget)
  · exact .inl ⟨_, rfl⟩
  · exact .inl ⟨none, rfl⟩
  · split
    · exact .inl ⟨none, rfl⟩
    · exact .inr ⟨_, rfl, rfl⟩
  · exact .inr ⟨_, rfl, rfl⟩

theorem tune_speaks (id : String) (payload : FieldMap) : Speaks [.post] (tune c id payload) := by
  unfold tune
  split
  · exact Speaks.pure ()
  · exact (request_speaks c .post _ _).bind fun _ => Speaks.pure ()

theorem awaitMove_speaks (source target migration : String) (left : Nat) :
    Speaks [.get] (awaitMove c source target migration left) := by
  induction left with
  | zero => exact Speaks.throw nofun
  | succ left ih =>
    refine (request_speaks c .get _ none).bind fun status => ?_
    split
    · exact Speaks.pure ()
    · exact Speaks.throw nofun
    · exact (Speaks.note _).bind fun _ => ih

theorem move_speaks (source target : String) : Speaks [.get, .post] (move c source target) := by
  refine (Speaks.note _).bind fun _ => ?_
  refine ((request_speaks c .post _ _).mono (by simp)).bind fun response => ?_
  split
  · exact Speaks.pure ()
  · exact (awaitMove_speaks c source target _ pollLimit).mono (by simp)

theorem write_speaks (id : String) (payload : FieldMap) : Speaks [.get, .post] (write c id payload) := by
  refine ((tune_speaks c id payload).mono (by simp)).bind fun _ => ?_
  split
  · exact (move_speaks c _ _).bind fun _ => Speaks.pure _
  · exact Speaks.pure none

theorem delete_speaks (id : String) : Speaks [.delete] (delete c id) := deleteIfPresent_speaks c (url id)

theorem create_speaks {desired : FieldMap} {path : String} (h : desired.string? "path" = some path) :
    Speaks [.post] (create c desired) := by
  unfold create
  rw [h]
  exact (request_speaks c .post _ _).bind fun _ => Speaks.pure path

theorem create_of_missing {desired : FieldMap} (h : desired.string? "path" = none) :
    create c desired = throw (.missingField "path") := by
  unfold create
  rw [h]

end Mount

/-! ## Transit keys -/

namespace TransitKey

variable (c : Client)

theorem parseKeyId_ne {id name : String} : parseKeyId id ≠ .error (.missingField name) := by
  unfold parseKeyId
  split
  · split <;> nofun
  · nofun

theorem checkId_speaks (id : String) : Speaks [] (checkId id) := by
  refine Speaks.silent (fun _ => rfl) fun w name h => ?_
  unfold checkId at h
  cases hp : parseKeyId id with
  | ok p => simp [hp, Except.map] at h
  | error e =>
    simp only [hp, Except.map, Except.error.injEq] at h
    exact parseKeyId_ne (h ▸ hp)

theorem fieldsOfResponse_ne {id name : String} {response : Json} :
    fieldsOfResponse id response ≠ .error (.missingField name) := by
  unfold fieldsOfResponse
  cases hp : parseKeyId id with
  | ok p => nofun
  | error e =>
    rintro ⟨⟩
    exact parseKeyId_ne hp

theorem read_speaks (id : String) : Speaks [.get] (read c id) := by
  refine (get?_speaks c (url id)).bind fun response => ?_
  split
  · split
    · exact Speaks.pure _
    · rename_i he
      exact Speaks.throw fun name h => fieldsOfResponse_ne (h ▸ he)
  · exact (Speaks.note _).bind fun _ => Speaks.pure none

theorem write_speaks (id : String) (payload : FieldMap) : Speaks [.post] (write c id payload) := by
  refine ((checkId_speaks id).mono (by simp)).bind fun _ => ?_
  exact (request_speaks c .post _ _).bind fun _ => Speaks.pure none

theorem delete_speaks (id : String) : Speaks [.delete] (delete c id) :=
  ((checkId_speaks id).mono (by simp)).bind fun _ => deleteIfPresent_speaks c (url id)

theorem delete_delivered {id : String} {w : Wire Server} (h : (delete c id w).1 = .ok ()) :
    ∃ q, (delete c id w).2.remote.requests = w.remote.requests ++ [q] ∧ q.method = .delete := by
  have hcheck : ∃ r, checkId id w = (r, w) := ⟨_, rfl⟩
  obtain ⟨r, hcheck⟩ := hcheck
  unfold delete at h ⊢
  cases r with
  | error e =>
    rw [bind_of_error hcheck] at h
    cases h
  | ok _ =>
    rw [bind_of_ok hcheck] at h ⊢
    exact deleteIfPresent_delivered h

theorem create_speaks {desired : FieldMap} {backend name : String}
    (hb : desired.string? "backend" = some backend) (hn : desired.string? "name" = some name) :
    Speaks [.post] (create c desired) := by
  unfold create
  simp only [hb, hn]
  refine (request_speaks c .post _ _).bind fun _ => (request_speaks c .post _ _).bind fun _ => ?_
  exact (Speaks.note _).bind fun _ => Speaks.pure _

theorem create_of_missing {desired : FieldMap}
    (h : desired.string? "backend" = none ∨ desired.string? "name" = none) :
    ∃ name ∈ ["backend", "name"], desired.string? name = none ∧ create c desired = throw (.missingField name) := by
  unfold create
  cases hb : desired.string? "backend" with
  | none => exact ⟨"backend", by simp, hb, rfl⟩
  | some backend =>
    have hn : desired.string? "name" = none := by simpa [hb] using h
    refine ⟨"name", by simp, hn, ?_⟩
    simp only [hn]

end TransitKey

/-! ## Histories -/

/-- The requests of a history: those of its calls, and what each call sent is among them. -/
theorem replay_sends {t : Transport Server VaultError} {methods : List Method} {history : History VaultError}
    {s s' : Server} (h : t.replay (history.map (·.call)) s = (history, s'))
    (hm : ∀ x ∈ history, Sends methods (t.operation x.call)) :
    ∃ sent, s'.requests = s.requests ++ sent ∧ (∀ q ∈ sent, q.method ∈ methods) ∧
      ∀ x ∈ history, ∃ w part, (t.operation x.call w).1 = x.answer ∧
        (t.operation x.call w).2.remote.requests = w.remote.requests ++ part ∧ part ⊆ sent := by
  induction history generalizing s with
  | nil =>
    obtain ⟨_, rfl⟩ := Prod.mk.inj h
    exact ⟨[], by simp, nofun, nofun⟩
  | cons x xs ih =>
    obtain ⟨hanswer, hxs⟩ := Transport.replay_cons_iff.1 h
    obtain ⟨part, hpart, hmethods⟩ := hm x List.mem_cons_self ⟨s, []⟩
    obtain ⟨rest, hrest, hmethods', hall⟩ := ih hxs fun y hy => hm y (List.mem_cons_of_mem _ hy)
    refine ⟨part ++ rest, ?_, ?_, ?_⟩
    · rw [hrest, hpart, List.append_assoc]
    · exact fun q hq => (List.mem_append.1 hq).elim (hmethods q) (hmethods' q)
    · refine List.forall_mem_cons.2 ⟨⟨⟨s, []⟩, part, hanswer, hpart, List.subset_append_left _ _⟩, ?_⟩
      intro y hy
      obtain ⟨w, p, ha, hp, hsub⟩ := hall y hy
      exact ⟨w, p, ha, hp, List.subset_append_of_subset_right _ hsub⟩

end Converge.Vault
