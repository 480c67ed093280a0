import Converge.Proofs.BuiltIn
import Converge.Proofs.Conversations
import Converge.Proofs.Reconciliation

/-!
# Incomplete declarations

A declaration may leave out an attribute that the id of a resource is made of. The schemas let it pass, and
it is only the create of the transport that finds the attribute missing: too late for a resource that is
replaced, which is deleted by then. Main theorem: `reconcile_missingField`.
-/

namespace Converge.Vault

open Http (Method Request Server)

/-- A transport whose create may find an attribute missing that the schema lets pass; nothing else does, and
it sends nothing then. -/
structure Needs (s : Schema) (t : Transport Server VaultError) : Prop where
  read : ∀ id, Speaks [.get] (t.read id)
  write : ∀ id payload, Speaks [.get, .post] (t.write id payload)
  delete : ∀ id, Speaks [.delete] (t.delete id)
  delivered : ∀ id w, (t.delete id w).1 = .ok () →
    ∃ q, (t.delete id w).2.remote.requests = w.remote.requests ++ [q] ∧ q.method = .delete
  create : ∀ desired d, s.resolveDesired desired = .ok d → Speaks [.post] (t.create d) ∨
    ∃ name, desired.get? name = none ∧ t.create d = throw (.missingField name)
  final : ∀ name, t.retryable (.missingField name) = false

theorem Mount.needs (c : Client) : Needs Mount.schema (Mount.transport c) where
  read := Mount.read_speaks c
  write := Mount.write_speaks c
  delete := Mount.delete_speaks c
  delivered _ _ h := deleteIfPresent_delivered h
  create := by
    intro desired d hd
    obtain ⟨_, m, hm, rfl⟩ := Schema.resolveDesired_eq_ok.1 hd
    cases hp : (Mount.foldVersionTwo m).string? "path" with
    | some path => exact .inl (Mount.create_speaks c hp)
    | none =>
      refine .inr ⟨"path", ?_, Mount.create_of_missing c hp⟩
      obtain ⟨f, hf, hname, ht⟩ : ∃ f ∈ Mount.fields, f.name = "path" ∧ f.type = .string := by
        simp [Mount.fields]
      rw [← hname] at hp ⊢
      refine hm.get?_eq_none hf ht ?_
      rwa [FieldMap.string?, Mount.get?_foldVersionTwo_of_ne (by simp [hname]) (by simp [hname])] at hp
  final _ := rfl

theorem TransitKey.needs (c : Client) : Needs TransitKey.schema (TransitKey.transport c) where
  read := TransitKey.read_speaks c
  write id payload := (TransitKey.write_speaks c id payload).mono (by simp)
  delete := TransitKey.delete_speaks c
  delivered _ _ h := TransitKey.delete_delivered c h
  create := by
    intro desired d hd
    obtain ⟨_, m, hm, rfl⟩ := Schema.resolveDesired_eq_ok.1 hd
    rw [Schema.canonicalize_eq_self rfl]
    by_cases hmissing : m.string? "backend" = none ∨ m.string? "name" = none
    · obtain ⟨name, hmem, hnone, hcreate⟩ := TransitKey.create_of_missing c hmissing
      refine .inr ⟨name, ?_, hcreate⟩
      obtain ⟨f, hf, rfl, ht⟩ : ∃ f ∈ TransitKey.fields, f.name = name ∧ f.type = .string := by
        rcases List.mem_pair.1 hmem with rfl | rfl <;> simp [TransitKey.fields]
      exact hm.get?_eq_none hf ht hnone
    · simp only [not_or, Option.ne_none_iff_exists'] at hmissing
      obtain ⟨⟨backend, hb⟩, name, hname⟩ := hmissing
      exact .inl (TransitKey.create_speaks c hb hname)
  final _ := rfl

namespace Needs

variable {s : Schema} {t : Transport Server VaultError} (hn : Needs s t)
include hn

theorem sends_of_reading {r : Reconciler} {id : Option String} {reads : History VaultError}
    {found : Except (ReconcileError VaultError) (Option FieldMap)} (h : r.Reading t id reads found) :
    ∀ x ∈ reads, Sends [.get] (t.operation x.call) := by
  cases h with
  | skipped => nofun
  | made =>
    intro x hx
    rw [Call.eq_of_mem_answered hx]
    exact (hn.read _).sends

/-- A create that finds an attribute missing finds it missing at once, and sends nothing. -/
theorem create_missing {desired d : FieldMap} (hd : s.resolveDesired desired = .ok d) {bound : Nat}
    {answers : List (Except VaultError String)} {name : String}
    (tries : Tries t.retryable bound answers (.error (.missingField name)))
    (hall : ∀ a ∈ answers, ∃ w, (t.create d w).1 = a) :
    desired.get? name = none ∧ answers = [.error (.missingField name)] ∧ Sends [] (t.create d) := by
  rcases hn.create desired d hd with hspeaks | ⟨name', hnone, hcreate⟩
  · obtain ⟨w, hw⟩ := hall _ tries.mem
    exact absurd hw (hspeaks.complete w name)
  · have hsame : ∀ a ∈ answers, a = .error (.missingField name') := by
      intro a ha
      obtain ⟨w, hw⟩ := hall a ha
      rw [hcreate] at hw
      exact hw.symm
    obtain ⟨hanswers, hlast⟩ := tries.eq_single hsame (hn.final name')
    cases hlast
    refine ⟨hnone, hanswers, fun w => ⟨[], ?_, nofun⟩⟩
    rw [hcreate]
    exact (List.append_nil _).symm

/-- Only a create finds an attribute missing. -/
theorem create_of_missing {c : Call} {w : Wire Server} {name : String}
    (h : (t.operation c w).1 = .error (.missingField name)) : ∃ d, c = .create d := by
  cases c with
  | read id => exact absurd h ((hn.read id).complete w name)
  | write id payload => exact absurd h ((hn.write id payload).complete w name)
  | delete id => exact absurd h ((hn.delete id).complete w name)
  | create d => exact ⟨d, rfl⟩

/-- The changes that end with a missing attribute: a create, or a deletion and then a create. -/
theorem changing_missing {r : Reconciler} {id : Option String} {a : Action} {changes : History VaultError}
    {e : ReconcileError VaultError} {name : String} (h : r.Changing t id a changes (.error e))
    (hm : e.source? = some (.missingField name))
    (hanswer : ∀ x ∈ changes, ∃ w, (t.operation x.call w).1 = x.answer) :
    (∃ d answers, a = .create d ∧ r.Tried t answers (.error (.missingField name)) ∧
        changes = (Call.create d).answered answers ∧ e = .apply .create answers.length (.missingField name)) ∨
      ∃ i reason d deletes creates, a = .replace reason d ∧ r.Tried t deletes (.ok ()) ∧
        r.Tried t creates (.error (.missingField name)) ∧
        changes = (Call.delete i).answered deletes ++ (Call.create d).answered creates ∧
        e = .replacement .create creates.length (.missingField name) := by
  generalize hr : Except.error e = result at h
  cases h with
  | noop => cases hr
  | updateUnknown | replaceUnknown =>
    cases hr
    cases hm
  | @create _ d answers _ tries =>
    obtain ⟨_, rfl, rfl⟩ := Reconciler.map_mapError_eq_error.1 hr.symm
    cases hm
    exact .inl ⟨d, answers, rfl, tries, rfl, rfl⟩
  | @update i _ _ _ _ tries =>
    obtain ⟨_, rfl, rfl⟩ := Reconciler.map_mapError_eq_error.1 hr.symm
    cases hm
    obtain ⟨w, hw⟩ := hanswer ⟨.write i _, _⟩ (List.mem_map_of_mem tries.mem)
    obtain ⟨_, hc⟩ := hn.create_of_missing hw
    cases hc
  | @keep i _ _ _ _ tries =>
    cases hr
    cases hm
    obtain ⟨w, hw⟩ := hanswer ⟨.delete i, _⟩ (List.mem_map_of_mem tries.mem)
    obtain ⟨_, hc⟩ := hn.create_of_missing hw
    cases hc
  | @replace i reason d deletes creates _ deleted tries =>
    obtain ⟨_, rfl, rfl⟩ := Reconciler.map_mapError_eq_error.1 hr.symm
    cases hm
    exact .inr ⟨i, reason, d, deletes, creates, rfl, deleted, tries, rfl, rfl⟩

section
variable {r : Reconciler} {id : Option String} {reads : History VaultError}
  {found : Except (ReconcileError VaultError) (Option FieldMap)} {d : FieldMap}
  {creates : List (Except VaultError String)} {s₁ s₂ : Server}

/-- Reads are all that is sent before a create that sends nothing. -/
theorem requests_of_create (hreading : r.Reading t id reads found) (hsilent : Sends [] (t.create d))
    (h : t.replay ((reads ++ (Call.create d).answered creates).map (·.call)) s₁ =
      (reads ++ (Call.create d).answered creates, s₂)) :
    ∃ sent, s₂.requests = s₁.requests ++ sent ∧ ∀ q ∈ sent, q.method ∈ [.get] := by
  have hsends : ∀ x ∈ reads ++ (Call.create d).answered creates, Sends [.get] (t.operation x.call) := by
    intro x hx
    rcases List.mem_append.1 hx with hx | hx
    · exact hn.sends_of_reading hreading x hx
    · rw [Call.eq_of_mem_answered hx]
      exact hsilent.mono (by simp)
  obtain ⟨sent, hsent, hmethods, _⟩ := replay_sends h hsends
  exact ⟨sent, hsent, hmethods⟩

/-- A replacement whose create sends nothing sends its deletion. -/
theorem requests_of_replace (hreading : r.Reading t id reads found) (hsilent : Sends [] (t.create d))
    {i : String} {deletes : List (Except VaultError Unit)} (hdeleted : .ok () ∈ deletes)
    (h : t.replay ((reads ++ ((Call.delete i).answered deletes ++ (Call.create d).answered creates)).map
      (·.call)) s₁ = (reads ++ ((Call.delete i).answered deletes ++ (Call.create d).answered creates), s₂)) :
    ∃ sent, s₂.requests = s₁.requests ++ sent ∧ (∀ q ∈ sent, q.method ∈ [.get, .delete]) ∧
      ∃ q ∈ sent, q.method = .delete := by
  have hsends : ∀ x ∈ reads ++ ((Call.delete i).answered deletes ++ (Call.create d).answered creates),
      Sends [.get, .delete] (t.operation x.call) := by
    intro x hx
    rcases List.mem_append.1 hx with hx | hx
    · exact (hn.sends_of_reading hreading x hx).mono (by simp)
    · rcases List.mem_append.1 hx with hx | hx
      · rw [Call.eq_of_mem_answered hx]
        exact (hn.delete i).sends.mono (by simp)
      · rw [Call.eq_of_mem_answered hx]
        exact hsilent.mono (by simp)
  obtain ⟨sent, hsent, hmethods, hall⟩ := replay_sends h hsends
  -- what the deletion that succeeded sent is among the requests
  obtain ⟨w, part, hok, hpart, hsub⟩ := hall ⟨.delete i, .ok ()⟩ (by simp [Call.answered, hdeleted])
  obtain ⟨q, hq, hdelete⟩ := hn.delivered i w hok
  obtain rfl : part = [q] := List.append_cancel_left (hpart.symm.trans hq)
  exact ⟨sent, hsent, hmethods, q, hsub List.mem_cons_self, hdelete⟩

end

/-- What a run sent that found an attribute missing: it read, and it deleted what it found. -/
theorem missing_requests {retry : RetryPolicy} {id : Option String} {desired : FieldMap} {w : World Server}
    {e : ReconcileError VaultError} {name : String}
    (he : (Reconciler.reconcile ⟨s, retry⟩ t id desired w).1 = .error e)
    (hm : e.source? = some (.missingField name)) :
    desired.get? name = none ∧
      ∃ sent, (Reconciler.reconcile ⟨s, retry⟩ t id desired w).2.remote.requests = w.remote.requests ++ sent ∧
        (((Reconciler.readKnown ⟨s, retry⟩ t id w).1 = .ok none ∧ (∀ q ∈ sent, q.method ∈ [.get]) ∧
            e = .apply .create 1 (.missingField name)) ∨
          ((Reconciler.readKnown ⟨s, retry⟩ t id w).1 ≠ .ok none ∧ (∀ q ∈ sent, q.method ∈ [.get, .delete]) ∧
            (∃ q ∈ sent, q.method = .delete) ∧ e = .replacement .create 1 (.missingField name))) := by
  obtain ⟨history, result, w', hmakes, hran⟩ :=
    Reconciler.reconcile_ran (r := ⟨s, retry⟩) (t := t) id desired w
  rw [hmakes.run] at he ⊢
  obtain rfl : result = .error e := he
  have hreplay := hmakes.course.remote
  have hanswer : ∀ x ∈ history, ∃ w, (t.operation x.call w).1 = x.answer := fun x hx =>
    let ⟨s₁, h⟩ := Transport.answer_of_mem_replay hreplay hx
    ⟨_, h⟩
  generalize (Reconciler.readKnown ⟨s, retry⟩ t id w).1 = found at hran ⊢
  cases hran with
  | invalid => cases hm
  | unplanned => cases hm
  | unread hd reading =>
    obtain ⟨i, answers, _, tries, rfl, rfl⟩ := reading.of_error
    cases hm
    obtain ⟨w, hw⟩ := hanswer ⟨.read i, _⟩ (List.mem_map_of_mem tries.mem)
    obtain ⟨_, hc⟩ := hn.create_of_missing hw
    cases hc
  | @applied d reads remote a changes _ hd reading plan changing =>
    have hcases := Plan.compute_single_cases plan hd
    rcases hn.changing_missing changing hm fun x hx => hanswer x (List.mem_append_right _ hx) with
      ⟨d', answers, rfl, tries, rfl, rfl⟩ | ⟨i, reason, d', deletes, creates, rfl, deleted, tries, rfl, rfl⟩
    · obtain ⟨rfl, rfl⟩ : remote = none ∧ d' = d := by simpa using hcases
      obtain ⟨hnone, rfl, hsilent⟩ := hn.create_missing hd tries fun a ha =>
        hanswer ⟨.create d', a⟩ (List.mem_append_right _ (List.mem_map_of_mem ha))
      obtain ⟨sent, hsent, hmethods⟩ := hn.requests_of_create reading hsilent hreplay
      exact ⟨hnone, sent, hsent, .inl ⟨rfl, hmethods, rfl⟩⟩
    · rcases hcases with ⟨_, ha⟩ | ⟨reported, _, rfl, _, ha | ⟨_, ha⟩ | ⟨_, _, ha⟩⟩ <;> cases ha
      obtain ⟨hnone, rfl, hsilent⟩ := hn.create_missing hd tries fun a ha =>
        hanswer ⟨.create d, a⟩ (by simp [Call.answered, ha])
      obtain ⟨sent, hsent, hmethods, hdelete⟩ :=
        hn.requests_of_replace reading hsilent deleted.mem hreplay
      exact ⟨hnone, sent, hsent, .inr ⟨by simp, hmethods, hdelete, rfl⟩⟩

end Needs

/-- **What is sent for an incomplete declaration.** If a reconciliation of a mount or a transit key fails
because an attribute is missing, the attribute was not declared and nothing was posted; and nothing was
deleted exactly if no resource was found. A resource that was found was to be replaced and is deleted, which
the error tells. -/
theorem reconcile_missingField (c : Client) {s : Schema} {t : Transport Server VaultError}
    (hkind : (s = Mount.schema ∧ t = Mount.transport c) ∨ (s = TransitKey.schema ∧ t = TransitKey.transport c))
    {retry : RetryPolicy} {id : Option String} {desired : FieldMap} {w : World Server}
    {e : ReconcileError VaultError} {name : String}
    (he : (Reconciler.reconcile ⟨s, retry⟩ t id desired w).1 = .error e)
    (hm : e.source? = some (.missingField name)) :
    desired.get? name = none ∧
      ∃ sent, (Reconciler.reconcile ⟨s, retry⟩ t id desired w).2.remote.requests = w.remote.requests ++ sent ∧
        (∀ q ∈ sent, q.method ≠ .post) ∧
        ((∀ q ∈ sent, q.method ≠ .delete) ↔ (Reconciler.readKnown ⟨s, retry⟩ t id w).1 = .ok none) ∧
        ((∃ q ∈ sent, q.method = .delete) ↔ e.isPartialReplacement = true) := by
  have hn : Needs s t := by
    rcases hkind with ⟨rfl, rfl⟩ | ⟨rfl, rfl⟩
    · exact Mount.needs c
    · exact TransitKey.needs c
  obtain ⟨hnone, sent, hsent, ⟨hfound, hmethods, rfl⟩ | ⟨hfound, hmethods, ⟨q, hq, hdelete⟩, rfl⟩⟩ :=
    hn.missing_requests he hm
  · have hget : ∀ q ∈ sent, q.method = .get := by simpa using hmethods
    refine ⟨hnone, sent, hsent, fun q hq => by simp [hget q hq], ?_, ?_⟩
    · exact ⟨fun _ => hfound, fun _ q hq => by simp [hget q hq]⟩
    · simp only [ReconcileError.isPartialReplacement, Bool.false_eq_true, iff_false, not_exists, not_and]
      exact fun q hq => by simp [hget q hq]
  · refine ⟨hnone, sent, hsent, fun q hq hpost => ?_, ?_, ?_⟩
    · have := hmethods q hq
      simp [hpost] at this
    · exact ⟨fun hno => absurd hdelete (hno q hq), fun h => absurd h hfound⟩
    · exact ⟨fun _ => rfl, fun _ => ⟨q, hq, hdelete⟩⟩

/-- A transit key without a name that is to be created. -/
theorem reconcile_missingField_key : ∃ sent,
    (Reconciler.reconcile ⟨TransitKey.schema, .once⟩ (TransitKey.transport ⟨"http://v:1", "", []⟩) none
      (.ofList [("backend", .string "t")]) ⟨.unreachable, []⟩).2.remote.requests = [] ++ sent ∧
        (∀ q ∈ sent, q.method ≠ .post) ∧ ∀ q ∈ sent, q.method ≠ .delete := by
  have he : (Reconciler.reconcile ⟨TransitKey.schema, .once⟩ (TransitKey.transport ⟨"http://v:1", "", []⟩) none
      (.ofList [("backend", .string "t")]) ⟨.unreachable, []⟩).1 =
        .error (.apply .create 1 (.missingField "name")) := by
    decide +kernel
  obtain ⟨_, sent, hsent, hpost, hdelete, _⟩ :=
    reconcile_missingField ⟨"http://v:1", "", []⟩ (.inr ⟨rfl, rfl⟩) he rfl
  exact ⟨sent, hsent, hpost, hdelete.2 rfl⟩

/-- A mount of type `kv` whose declaration names another type and no path is deleted, and then nothing can
be created in its place. -/
theorem reconcile_missingField_deletes : ∃ out,
    Reconciler.reconcile ⟨Mount.schema, .once⟩ (Mount.transport ⟨"http://v:1", "", []⟩) (some "team")
      (.ofList [("type", .string "pki")])
      ⟨.scripted [.answer 200 "\x7b\"data\":\x7b\"type\":\"kv\"\x7d\x7d", .answer 204 ""], []⟩ = out ∧
    out.1 = .error (.replacement .create 1 (.missingField "path")) ∧
    out.2.remote.requests.map (·.method) = [.get, .delete] :=
  ⟨_, rfl, by decide +kernel, by decide +kernel⟩

end Converge.Vault
