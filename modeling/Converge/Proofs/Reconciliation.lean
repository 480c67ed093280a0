import Converge.Reconcile.Reconciler
import Converge.Proofs.History
import Converge.Proofs.Planning

/-!
# Reconciliation

What a reconciliation does, as a relation between what it is given, its history and its result: it reads
(`Reconciler.Reading`), and then makes the changes of one action (`Reconciler.Changing`).
`Reconciler.reconcile_ran` says that every run is of this form, whatever the transport does. Main theorem:
`Reconciler.reconcile_calls`.
-/

namespace Converge

variable {σ ε ε' α β : Type}

/-! ## Computations and their histories -/

/-- A computation that starts in `w` makes the calls of the history, gives the result and ends in `w'`. -/
structure Makes (t : Transport σ ε) (x : Run σ ε' α) (w : World σ) (history : History ε)
    (result : Except ε' α) (w' : World σ) : Prop where
  run : x w = (result, w')
  course : Course t w history w'

namespace Makes

variable {t : Transport σ ε} {w w' w'' : World σ} {history history' : History ε}

theorem ofExcept {x result : Except ε' α} (h : x = result) : Makes t (Run.ofExcept x) w [] result w :=
  ⟨by rw [Run.ofExcept, h], Course.refl w⟩

theorem pure (a : α) : Makes t (pure a : Run σ ε' α) w [] (.ok a) w := ⟨rfl, Course.refl w⟩

theorem throw (e : ε') : Makes t (throw e : Run σ ε' α) w [] (.error e) w := ⟨rfl, Course.refl w⟩

theorem log (level : Level) (text : String) :
    ∃ w', Makes t (Run.log level text : Run σ ε' Unit) w [] (.ok ()) w' :=
  ⟨_, rfl, Course.notes w [.line level text]⟩

theorem bind {x : Run σ ε' α} {g : α → Run σ ε' β} {a : α} {result : Except ε' β}
    (hx : Makes t x w history (.ok a) w') (hg : Makes t (g a) w' history' result w'') :
    Makes t (x >>= g) w (history ++ history') result w'' :=
  ⟨by rw [bind_of_ok hx.run, hg.run], hx.course.trans hg.course⟩

theorem bind_error {x : Run σ ε' α} {g : α → Run σ ε' β} {e : ε'} (hx : Makes t x w history (.error e) w') :
    Makes t (x >>= g) w history (.error e) w' :=
  ⟨bind_of_error hx.run, hx.course⟩

theorem mapError {ε'' : Type} {x : Run σ ε' α} {result : Except ε' α} (f : ε' → ε'')
    (hx : Makes t x w history result w') : Makes t (x.mapError f) w history (result.mapError f) w' :=
  ⟨by rw [Run.mapError, hx.run], hx.course⟩

/-- A line is logged and a value given. -/
theorem log_pure (level : Level) (text : String) (a : α) (w : World σ) :
    ∃ w', Makes t (do Run.log level text; Pure.pure a : Run σ ε' α) w [] (.ok a) w' := by
  obtain ⟨w', hlog⟩ := log (t := t) (w := w) level text
  exact ⟨w', hlog.bind (Makes.pure a)⟩

/-- The rule of sequence for what can be said of a whole history and its result. -/
theorem bind_exists {x : Run σ ε' α} {g : α → Run σ ε' β} {a : α} {P : History ε → Except ε' β → Prop}
    (hx : Makes t x w history (.ok a) w')
    (hg : ∃ rest result w'', Makes t (g a) w' rest result w'' ∧ P (history ++ rest) result) :
    ∃ whole result w'', Makes t (x >>= g) w whole result w'' ∧ P whole result := by
  obtain ⟨rest, result, w'', hm, hp⟩ := hg
  exact ⟨_, result, w'', hx.bind hm, hp⟩

/-- A logged line changes neither the history nor the result. -/
theorem log_bind (level : Level) (text : String) {g : Unit → Run σ ε' α}
    {P : History ε → Except ε' α → Prop}
    (hg : ∀ w, ∃ history result w', Makes t (g ()) w history result w' ∧ P history result) (w : World σ) :
    ∃ history result w', Makes t (Run.log level text >>= g) w history result w' ∧ P history result := by
  obtain ⟨w1, hlog⟩ := log (t := t) (w := w) level text
  exact hlog.bind_exists (hg w1)

/-- What comes after a computation only puts its result into other terms. -/
theorem bind_map {x : Run σ ε' α} {g : α → Run σ ε' β} {f : α → β} {result : Except ε' α}
    (hx : Makes t x w history result w') (hg : ∀ a w, ∃ w', Makes t (g a) w [] (.ok (f a)) w') :
    ∃ w', Makes t (x >>= g) w history (result.map f) w' := by
  cases result with
  | error e => exact ⟨w', hx.bind_error⟩
  | ok a =>
    obtain ⟨w'', ha⟩ := hg a w'
    have := hx.bind ha
    rw [List.append_nil] at this
    exact ⟨w'', this⟩

end Makes

namespace Reconciler

variable {r : Reconciler} {t : Transport σ ε}

/-! ## What a run may be -/

/-- The answers to a call that is retried as the reconciler retries. -/
abbrev Tried (r : Reconciler) (t : Transport σ ε) (answers : List (Except ε α)) (last : Except ε α) :
    Prop :=
  Tries t.retryable r.retry.maxAttempts.toNat answers last

/-- How a reconciliation learns about the resource of an id: without an id there is nothing to read. -/
inductive Reading (r : Reconciler) (t : Transport σ ε) :
    Option String → History ε → Except (ReconcileError ε) (Option FieldMap) → Prop
  | skipped : Reading r t none [] (.ok none)
  | made {id answers last} (tries : r.Tried t answers last) :
    Reading r t (some id) ((Call.read id).answered answers) (last.mapError (.read answers.length))

/-- How an action is carried out for the resource of an id. -/
inductive Changing (r : Reconciler) (t : Transport σ ε) :
    Option String → Action → History ε → Except (ReconcileError ε) Outcome → Prop
  | noop {id} : Changing r t id .noop [] (.ok .unchanged)
  | create {id desired answers last} (tries : r.Tried t answers last) :
    Changing r t id (.create desired) ((Call.create desired).answered answers)
      ((last.mapError (.apply .create answers.length)).map .created)
  | update {id changed accompanying answers last} (tries : r.Tried t answers last) :
    Changing r t (some id) (.update changed accompanying)
      ((Call.write id (updatePayload changed accompanying)).answered answers)
      ((last.mapError (.apply .update answers.length)).map (.updated changed.keys))
  | keep {id reason desired answers e} (tries : r.Tried t answers (.error e)) :
    Changing r t (some id) (.replace reason desired) ((Call.delete id).answered answers)
      (.error (.replacement .delete answers.length e))
  | replace {id reason desired deletes creates last} (deleted : r.Tried t deletes (.ok ()))
      (tries : r.Tried t creates last) :
    Changing r t (some id) (.replace reason desired)
      ((Call.delete id).answered deletes ++ (Call.create desired).answered creates)
      ((last.mapError (.replacement .create creates.length)).map (.replaced id))
  | updateUnknown {changed accompanying} :
    Changing r t none (.update changed accompanying) [] (.error (.missingId .update))
  | replaceUnknown {reason desired} :
    Changing r t none (.replace reason desired) [] (.error (.missingId .delete))

/-- What a reconciliation is, given what a read finds: it stops at an invalid declaration, at a failed read
or where no plan can be made, and otherwise carries out the one action of the plan. -/
inductive Ran (r : Reconciler) (t : Transport σ ε) (id : Option String) (desired : FieldMap) :
    Except (ReconcileError ε) (Option FieldMap) → History ε → Except (ReconcileError ε) Outcome → Prop
  | invalid {found e} (h : r.schema.resolveDesired desired = .error e) :
    Ran r t id desired found [] (.error (.field e))
  | unread {d reads e} (h : r.schema.resolveDesired desired = .ok d) (reading : r.Reading t id reads (.error e)) :
    Ran r t id desired (.error e) reads (.error e)
  | unplanned {d reads remote e} (h : r.schema.resolveDesired desired = .ok d)
      (reading : r.Reading t id reads (.ok remote)) (plan : Plan.compute r.schema desired remote = .error e) :
    Ran r t id desired (.ok remote) reads (.error (.field e))
  | applied {d reads remote a changes result} (h : r.schema.resolveDesired desired = .ok d)
      (reading : r.Reading t id reads (.ok remote))
      (plan : Plan.compute r.schema desired remote = .ok (.single a))
      (changing : r.Changing t id a changes result) :
    Ran r t id desired (.ok remote) (reads ++ changes) result

/-! ## The calls of a run -/

/-- The calls that may follow the reads, for a resolved declaration `d`. -/
inductive Follows (r : Reconciler) (t : Transport σ ε) (d : FieldMap) : Option String → History ε → Prop
  | nothing {id} : Follows r t d id []
  | create {id answers last} (tries : r.Tried t answers last) :
    Follows r t d id ((Call.create d).answered answers)
  | write {id payload answers last} (tries : r.Tried t answers last) :
    Follows r t d (some id) ((Call.write id payload).answered answers)
  | keep {id answers e} (tries : r.Tried t answers (.error e)) :
    Follows r t d (some id) ((Call.delete id).answered answers)
  | replace {id deletes creates last} (deleted : r.Tried t deletes (.ok ())) (tries : r.Tried t creates last) :
    Follows r t d (some id) ((Call.delete id).answered deletes ++ (Call.create d).answered creates)

section
variable {id : Option String} {desired d : FieldMap} {a : Action} {reads changes history : History ε}
  {found : Except (ReconcileError ε) (Option FieldMap)} {result : Except (ReconcileError ε) Outcome}

theorem Follows.calls_of_none (h : r.Follows t d none changes) : ∀ x ∈ changes, x.call = .create d := by
  cases h with
  | nothing => nofun
  | create => exact fun _ hx => Call.eq_of_mem_answered hx

theorem Changing.follows (h : r.Changing t id a changes result)
    (hd : ∀ m, (a = .create m ∨ ∃ reason, a = .replace reason m) → m = d) : r.Follows t d id changes := by
  cases h with
  | noop => exact .nothing
  | create tries => exact hd _ (.inl rfl) ▸ .create tries
  | update tries => exact .write tries
  | keep tries => exact .keep tries
  | replace deleted tries => exact hd _ (.inr ⟨_, rfl⟩) ▸ .replace deleted tries
  | updateUnknown => exact .nothing
  | replaceUnknown => exact .nothing

theorem map_mapError_eq_error {last : Except ε α} {f : ε → ε'} {g : α → β} {x : ε'} :
    (last.mapError f).map g = .error x ↔ ∃ e, last = .error e ∧ f e = x := by
  cases last with
  | error e => simp [Except.mapError, Except.map]
  | ok v => simp [Except.mapError, Except.map]

theorem map_mapError_ne {last : Except ε α} {f : ε → ε'} {g : α → β} {x : ε'} (hf : ∀ e, f e ≠ x) :
    (last.mapError f).map g ≠ .error x := fun h =>
  let ⟨e, _, he⟩ := map_mapError_eq_error.1 h
  hf e he

theorem Changing.ne_missingId (h : r.Changing t id a changes result)
    (hid : id = none → ∃ m, a = .create m) (change : ChangeKind) : result ≠ .error (.missingId change) := by
  cases h with
  | noop => nofun
  | create => exact map_mapError_ne nofun
  | update => exact map_mapError_ne nofun
  | keep => nofun
  | replace => exact map_mapError_ne nofun
  | updateUnknown => simpa using hid rfl
  | replaceUnknown => simpa using hid rfl

theorem Reading.of_none (h : r.Reading t none reads found) : reads = [] ∧ found = .ok none := by
  cases h
  exact ⟨rfl, rfl⟩

/-- A reading that fails is reported with its tries. -/
theorem Reading.of_error {e : ReconcileError ε} (h : r.Reading t id reads (.error e)) :
    ∃ i answers source, r.Tried t answers (.error source) ∧ reads = (Call.read i).answered answers ∧
      e = .read answers.length source := by
  generalize hf : Except.error e = found at h
  cases h with
  | skipped => cases hf
  | @made i answers last tries =>
    cases last with
    | ok _ => cases hf
    | error source =>
      cases hf
      exact ⟨i, answers, source, tries, rfl, rfl⟩

/-- The plan for a resource without an id is to create it. -/
theorem create_of_reading {remote : Option FieldMap} (h : r.Reading t id reads (.ok remote))
    (hd : r.schema.resolveDesired desired = .ok d)
    (hp : Plan.compute r.schema desired remote = .ok (.single a)) (hid : id = none) : a = .create d := by
  subst hid
  obtain ⟨_, hfound⟩ := h.of_none
  cases hfound
  rcases Plan.compute_single_cases hp hd with ⟨_, rfl⟩ | ⟨_, _, hrem, _⟩
  · rfl
  · cases hrem

theorem Ran.ne_missingId (h : r.Ran t id desired found history result) (change : ChangeKind) :
    result ≠ .error (.missingId change) := by
  cases h with
  | invalid => nofun
  | unread _ reading =>
    obtain ⟨_, _, _, _, _, rfl⟩ := reading.of_error
    nofun
  | unplanned => nofun
  | applied hd reading plan changing =>
    exact changing.ne_missingId (fun hid => ⟨_, create_of_reading reading hd plan hid⟩) change

theorem Ran.of_invalid (h : r.Ran t id desired found history result) {e : FieldError}
    (he : r.schema.resolveDesired desired = .error e) : history = [] := by
  cases h with
  | invalid => rfl
  | unread hd | unplanned hd | applied hd =>
    rw [he] at hd
    cases hd

/-- A run for a valid declaration: reads, and then such calls as what was found allows. -/
theorem Ran.calls (h : r.Ran t id desired found history result) (hd : r.schema.resolveDesired desired = .ok d) :
    ∃ reads changes, history = reads ++ changes ∧ r.Reading t id reads found ∧
      r.Follows t d id changes ∧ (∀ e, found = .error e → changes = []) ∧
      (∀ reported e, found = .ok (some reported) → r.schema.resolveRemote reported = .error e →
        changes = []) ∧
      ∀ x ∈ changes, x.call = .create d ∨ ∃ reported, found = .ok (some reported) := by
  cases h with
  | invalid hi =>
    rw [hd] at hi
    cases hi
  | unread _ reading =>
    exact ⟨_, [], (List.append_nil _).symm, reading, .nothing, fun _ _ => rfl, fun _ _ _ _ => rfl, nofun⟩
  | unplanned _ reading _ =>
    exact ⟨_, [], (List.append_nil _).symm, reading, .nothing, fun _ _ => rfl, fun _ _ _ _ => rfl, nofun⟩
  | @applied d' reads remote a changes _ _ reading plan changing =>
    rcases Plan.compute_single_cases plan hd with ⟨rfl, rfl⟩ | ⟨reported, m, rfl, hm, ha⟩
    · have hfollows := changing.follows (d := d) (by simp)
      refine ⟨_, changes, rfl, reading, hfollows, nofun, nofun, fun x hx => .inl ?_⟩
      cases changing
      exact Call.eq_of_mem_answered hx
    · refine ⟨_, changes, rfl, reading, changing.follows ?_, nofun, ?_, fun _ _ => .inr ⟨reported, rfl⟩⟩
      · rcases ha with rfl | ⟨_, rfl⟩ | ⟨_, _, rfl⟩ <;> simp
      · rintro _ e ⟨⟩ he
        rw [hm] at he
        cases he

/-- A run ends with the tries of one write of the known resource, or has no write at all. -/
theorem Ran.writes (h : r.Ran t known desired found history result) : ∃ front writes, history = front ++ writes ∧
    (∀ x ∈ front, ∀ id payload, x.call ≠ .write id payload) ∧
    (writes = [] ∨ ∃ id payload answers last, known = some id ∧ r.Tried t answers last ∧
      writes = (Call.write id payload).answered answers) := by
  have hreads : ∀ {reads : History ε} {found}, r.Reading t known reads found →
      ∀ x ∈ reads, ∀ id payload, x.call ≠ .write id payload := by
    rintro _ _ (_ | _) x hx
    · cases hx
    · rw [Call.eq_of_mem_answered hx]
      nofun
  cases hd : r.schema.resolveDesired desired with
  | error e =>
    obtain rfl := h.of_invalid hd
    exact ⟨[], [], rfl, nofun, .inl rfl⟩
  | ok d =>
    obtain ⟨reads, changes, rfl, hreading, hfollows, -⟩ := h.calls hd
    have hfront : (∀ x ∈ changes, ∀ id payload, x.call ≠ .write id payload) →
        ∀ x ∈ reads ++ changes, ∀ id payload, x.call ≠ .write id payload := fun hchanges =>
      List.forall_mem_append.2 ⟨hreads hreading, hchanges⟩
    cases hfollows with
    | write tries => exact ⟨reads, _, rfl, hreads hreading, .inr ⟨_, _, _, _, rfl, tries, rfl⟩⟩
    | nothing => exact ⟨_, [], (List.append_nil _).symm, hfront nofun, .inl rfl⟩
    | create | keep =>
      refine ⟨_, [], (List.append_nil _).symm, hfront fun x hx => ?_, .inl rfl⟩
      rw [Call.eq_of_mem_answered hx]
      nofun
    | replace =>
      refine ⟨_, [], (List.append_nil _).symm, hfront fun x hx => ?_, .inl rfl⟩
      rcases List.mem_append.1 hx with hx | hx <;>
      · rw [Call.eq_of_mem_answered hx]
        nofun

end

theorem mapError_resolveDesired {desired d : FieldMap} (hd : r.schema.resolveDesired desired = .ok d) :
    (r.schema.resolveDesired desired).mapError .field = (.ok d : Except (ReconcileError ε) FieldMap) := by
  rw [hd]
  rfl

/-! ## One call -/

variable [ToString ε]

theorem makes_retried (r : Reconciler) (t : Transport σ ε) {c : Call} (what : String)
    {op : Interaction σ ε c.Result} (hop : op = t.operation c) (wrap : Exhausted ε → ReconcileError ε)
    (w : World σ) :
    ∃ answers last w', r.Tried t answers last ∧
      Makes t ((r.retried t what c op).mapError wrap) w (c.answered answers)
        (last.mapError fun e => wrap ⟨answers.length, e⟩) w' := by
  obtain ⟨answers, last, htries, hcourse, hres⟩ := Retried.run_tries (t := t) (c := c)
    (r := ⟨r.retry, r.schema.kind, what, c, op, t.retryable⟩) rfl hop w
  have hm : Makes t (r.retried t what c op) w (c.answered answers)
      (last.mapError (Exhausted.mk answers.length)) _ := ⟨Prod.ext hres rfl, hcourse⟩
  cases last with
  | ok v => exact ⟨answers, _, _, htries, hm.mapError wrap⟩
  | error e => exact ⟨answers, _, _, htries, hm.mapError wrap⟩

theorem makes_readKnown (id : Option String) (w : World σ) :
    ∃ reads result w', Makes t (r.readKnown t id) w reads result w' ∧ r.Reading t id reads result := by
  cases id with
  | none => exact ⟨[], .ok none, w, Makes.pure none, .skipped⟩
  | some id =>
    obtain ⟨answers, last, w', htries, hm⟩ := r.makes_retried t (c := .read id) "read" rfl
      (fun e => .read e.attempts e.error) w
    exact ⟨_, _, w', hm, .made htries⟩

/-! ## One action -/

theorem makes_applyAction (id : Option String) (a : Action) (w : World σ) :
    ∃ changes result w', Makes t (r.applyAction t id a) w changes result w' ∧
      r.Changing t id a changes result := by
  cases a with
  | noop => exact ⟨[], _, w, Makes.pure _, .noop⟩
  | create desired =>
    obtain ⟨answers, last, w1, htries, hm⟩ := r.makes_retried t (c := .create desired) "create" rfl
      (fun e => .apply .create e.attempts e.error) w
    obtain ⟨w2, hrun⟩ := hm.bind_map fun newId w =>
      Makes.log_pure .info ("Created " ++ r.schema.kind ++ " " ++ named newId) (Outcome.created newId) w
    exact ⟨_, _, w2, hrun, .create htries⟩
  | update changed accompanying =>
    cases id with
    | none => exact ⟨[], _, w, Makes.throw _, .updateUnknown⟩
    | some id =>
      obtain ⟨answers, last, w1, htries, hm⟩ := r.makes_retried t
        (c := .write id (updatePayload changed accompanying)) "update" rfl
        (fun e => .apply .update e.attempts e.error) w
      have hrun : ∃ w2, Makes t (r.applyAction t (some id) (.update changed accompanying)) w _
          (Except.map (Outcome.updated changed.keys) _) w2 :=
        hm.bind_map fun movedTo w => by
          cases movedTo with
          | none => exact Makes.log_pure _ _ _ w
          | some newId => exact Makes.log_pure _ _ _ w
      obtain ⟨w2, hrun⟩ := hrun
      exact ⟨_, _, w2, hrun, .update htries⟩
  | replace reason desired =>
    cases id with
    | none => exact ⟨[], _, w, Makes.throw _, .replaceUnknown⟩
    | some id =>
      refine Makes.log_bind _ _ (fun w => ?_) w
      obtain ⟨deletes, last, w1, hdeletes, hd⟩ := r.makes_retried t (c := .delete id) "delete" rfl
        (fun e => .replacement .delete e.attempts e.error) w
      cases last with
      | error e => exact ⟨_, _, w1, hd.bind_error, .keep hdeletes⟩
      | ok _ =>
        obtain ⟨creates, last, w2, hcreates, hc⟩ := r.makes_retried t (c := .create desired) "create" rfl
          (fun e => .replacement .create e.attempts e.error) w1
        obtain ⟨w3, hrun⟩ := hc.bind_map fun newId w =>
          Makes.log_pure .info ("Replaced " ++ r.schema.kind ++ " " ++ named id ++ " with " ++ named newId)
            (Outcome.replaced id newId) w
        exact ⟨_, _, w3, hd.bind hrun, .replace hdeletes hcreates⟩

theorem makes_destroy (id : String) (w : World σ) :
    ∃ answers last w', r.Tried t answers last ∧ Makes t (r.destroy t id) w ((Call.delete id).answered answers)
      (last.mapError (.apply .delete answers.length)) w' := by
  obtain ⟨answers, last, w1, htries, hm⟩ := r.makes_retried t (c := .delete id) "delete" rfl
    (fun e => .apply .delete e.attempts e.error) w
  cases last with
  | error e => exact ⟨answers, _, w1, htries, hm.bind_error⟩
  | ok _ =>
    obtain ⟨w2, hlog⟩ := Makes.log (t := t) (w := w1) .info ("Destroyed " ++ r.schema.kind ++ " " ++ named id)
    have hall : Makes t (r.destroy t id) w ((Call.delete id).answered answers ++ []) (.ok ()) w2 := hm.bind hlog
    rw [List.append_nil] at hall
    exact ⟨answers, .ok (), w2, htries, hall⟩

/-! ## A whole run -/

theorem makes_apply_single (id : Option String) (a : Action) (w : World σ) :
    ∃ changes result w', Makes t (r.apply t (.single a) id) w changes result w' ∧
      r.Changing t id a changes result := by
  obtain ⟨changes, result, w', hm, hc⟩ := makes_applyAction (r := r) (t := t) id a w
  refine ⟨changes, result, w', ?_, hc⟩
  cases result with
  | error e => exact hm.bind_error
  | ok outcome =>
    have hpure : Makes t (pure outcome : Run σ (ReconcileError ε) Outcome) w' [] (.ok outcome) w' :=
      Makes.pure outcome
    have hall := hm.bind hpure
    rwa [List.append_nil] at hall

/-- What follows the reads where no plan can be made. -/
theorem makes_unplanned {id : Option String} {desired : FieldMap} {remote : Option FieldMap} {e : FieldError}
    (hp : Plan.compute r.schema desired remote = .error e) (text : Plan → String) (w : World σ) :
    Makes t (do
        let plan ← Run.ofExcept (r.plan desired remote)
        Run.log .info (text plan)
        r.apply t plan id) w [] (.error (.field e)) w := by
  have hplan : r.plan desired remote = (.error (.field e) : Except (ReconcileError ε) Plan) := by
    rw [Reconciler.plan, hp]
    rfl
  exact (Makes.ofExcept hplan).bind_error

/-- What follows the reads: the plan is made and its one action carried out. -/
theorem makes_planned {id : Option String} {desired : FieldMap} {remote : Option FieldMap} {a : Action}
    (hp : Plan.compute r.schema desired remote = .ok (.single a)) (text : Plan → String) (w : World σ) :
    ∃ changes result w', Makes t (do
        let plan ← Run.ofExcept (r.plan desired remote)
        Run.log .info (text plan)
        r.apply t plan id) w changes result w' ∧ r.Changing t id a changes result := by
  have hplan : r.plan desired remote = (.ok (.single a) : Except (ReconcileError ε) Plan) := by
    rw [Reconciler.plan, hp]
    rfl
  obtain ⟨changes, result, w', hm, hc⟩ := Makes.log_bind .info (text (.single a))
    (g := fun _ => r.apply t (.single a) id) (fun w => makes_apply_single id a w) w
  exact ⟨changes, result, w', (Makes.ofExcept hplan).bind hm, hc⟩

section
variable {id : Option String} {desired d : FieldMap} {w w₁ : World σ} {reads : History ε}

theorem makes_reconcile_of_invalid {e : FieldError} (hd : r.schema.resolveDesired desired = .error e) :
    Makes t (r.reconcile t id desired) w [] (.error (.field e)) w := by
  have hstart : (r.schema.resolveDesired desired).mapError .field =
      (.error (.field e) : Except (ReconcileError ε) FieldMap) := by
    rw [hd]
    rfl
  exact (Makes.ofExcept hstart).bind_error

variable (hd : r.schema.resolveDesired desired = .ok d)
include hd

theorem makes_reconcile_of_unread {e : ReconcileError ε}
    (hread : Makes t (r.readKnown t id) w reads (.error e) w₁) : Makes t (r.reconcile t id desired) w reads (.error e) w₁ :=
  (Makes.ofExcept (mapError_resolveDesired hd)).bind hread.bind_error

/-- A run goes on from what was read: a resource that is gone is only logged before the plan is made. -/
theorem makes_reconcile_of_read {remote : Option FieldMap}
    {P : History ε → Except (ReconcileError ε) Outcome → Prop}
    (hread : Makes t (r.readKnown t id) w reads (.ok remote) w₁)
    (htail : ∀ text : Plan → String, ∀ w, ∃ changes result w', Makes t (do
        let plan ← Run.ofExcept (r.plan desired remote)
        Run.log .info (text plan)
        r.apply t plan id) w changes result w' ∧ P (reads ++ changes) result) :
    ∃ history result w', Makes t (r.reconcile t id desired) w history result w' ∧ P history result := by
  have htext := htail fun plan => r.schema.kind ++ " " ++ id.getD "<new>" ++ ": " ++ plan.summary
  refine (Makes.ofExcept (mapError_resolveDesired hd)).bind_exists (hread.bind_exists ?_)
  cases id with
  | none => exact htext w₁
  | some id =>
    cases remote with
    | none => exact Makes.log_bind _ _ htext w₁
    | some reported => exact htext w₁

end

/-- **Every run is of the form that `Ran` lists**, whatever the transport does. -/
theorem reconcile_ran (id : Option String) (desired : FieldMap) (w : World σ) :
    ∃ history result w', Makes t (r.reconcile t id desired) w history result w' ∧
      r.Ran t id desired (r.readKnown t id w).1 history result := by
  obtain ⟨reads, found, w1, hread, hreading⟩ := makes_readKnown (r := r) (t := t) id w
  rw [hread.run]
  cases hd : r.schema.resolveDesired desired with
  | error e => exact ⟨[], _, w, makes_reconcile_of_invalid hd, .invalid hd⟩
  | ok d =>
    cases found with
    | error e => exact ⟨reads, _, w1, makes_reconcile_of_unread hd hread, .unread hd hreading⟩
    | ok remote =>
      refine makes_reconcile_of_read hd hread fun text w => ?_
      cases hp : Plan.compute r.schema desired remote with
      | error e =>
        refine ⟨[], _, w, makes_unplanned hp text w, ?_⟩
        rw [List.append_nil]
        exact .unplanned hd hreading hp
      | ok p =>
        obtain ⟨a, rfl⟩ := Plan.exists_single hp
        obtain ⟨changes, result, w', hm, hc⟩ := makes_planned (t := t) hp text w
        exact ⟨changes, result, w', hm, .applied hd hreading hp hc⟩

/-- **The calls of a reconciliation**, whatever the transport does. An invalid declaration makes none. For
a valid one the resource is read if it has an id, as often as the policy allows; what was found last
decides whether more calls follow, and these are tries of one create, of one write, or of one delete and,
if that succeeds, one create. A write or a delete follows only a resource that was found, and no run
misses an id. -/
theorem reconcile_calls (r : Reconciler) (t : Transport σ ε) (id : Option String) (desired : FieldMap)
    (w : World σ) :
    ∃ history, Course t w history (r.reconcile t id desired w).2 ∧
      (∀ change, (r.reconcile t id desired w).1 ≠ .error (.missingId change)) ∧
      (∀ e, r.schema.resolveDesired desired = .error e → history = []) ∧
      ∀ d, r.schema.resolveDesired desired = .ok d →
        (id = none → ∀ x ∈ history, x.call = .create d) ∧
        ∃ reads found changes, history = reads ++ changes ∧ r.Reading t id reads found ∧
          r.Follows t d id changes ∧ (∀ e, found = .error e → changes = []) ∧
          (∀ reported e, found = .ok (some reported) → r.schema.resolveRemote reported = .error e →
            changes = []) ∧
          ∀ x ∈ changes, x.call = .create d ∨ ∃ reported, found = .ok (some reported) := by
  obtain ⟨history, result, w', hm, hran⟩ := reconcile_ran (r := r) (t := t) id desired w
  rw [hm.run]
  refine ⟨history, hm.course, hran.ne_missingId, fun e he => hran.of_invalid he, fun d hd => ?_⟩
  obtain ⟨reads, changes, rfl, hreading, hfollows, hrest⟩ := hran.calls hd
  refine ⟨?_, reads, _, changes, rfl, hreading, hfollows, hrest⟩
  rintro rfl
  obtain ⟨rfl, _⟩ := hreading.of_none
  exact hfollows.calls_of_none

end Reconciler

end Converge
