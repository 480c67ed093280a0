import Mathlib.Data.List.Chain
import Converge.Proofs.Dialogues
import Converge.Proofs.Reconciliation
import Converge.Vault.Mount.Transport

/-!
# Moving a mount

Which dialogues a write of a mount can have (`Mount.Written`): it tunes the mount, moves it if its path is to
change, and then asks for the status of the move. All of this is one call, and it is made again as a whole if it
fails with an error that may pass. So a status check that fails for a while makes the call tune and move a mount
that the server has taken on to move already. The step lemmas are `Mount.Written.accepts_iff` for a try that
failed and `Mount.Written.starts` for the one after it; the run lemmas are `Mount.tries_iff` and
`Mount.tries_chain`. Main theorem: `Mount.reconcile_moves`.
-/

namespace Converge.Vault

open Http (Method Server)

namespace Mount

/-! ## The dialogues of a write -/

def tuneQuery (id : String) (payload : FieldMap) : Query := ⟨.post, url id ++ "/tune", some (tuneBody payload)⟩

def moveQuery (source target : String) : Query := ⟨.post, "/v1/sys/remount", some (moveBody source target)⟩

def checkQuery (migration : String) : Query := ⟨.get, "/v1/sys/remount/status/" ++ migration, none⟩

/-- The move that a server has taken on, if it did not finish it at once. -/
def migration? (response : Json) : Option String := ((responseData response).get? "migration_id").bind Json.string?

/-- Asking for the status of a move, up to a number of times: until it is decided or an answer fails, with a pause
after every answer that leaves it undecided. -/
inductive Awaited (source target migration : String) : Nat → List Turn → Except VaultError Unit → Prop
  | exhausted : Awaited source target migration 0 [] (.error (.api ("remount of " ++ source ++ " to " ++ target ++
      " still running after " ++ Number.intText pollLimit ++ " checks (migration " ++ migration ++ ")")))
  | unanswered {left e} : Awaited source target migration (left + 1) [.asked ⟨checkQuery migration, .error e⟩]
      (.error e)
  | done {left status} (h : moveStatus status = .done) :
    Awaited source target migration (left + 1) [.asked ⟨checkQuery migration, .ok status⟩] (.ok ())
  | failed {left status} (h : moveStatus status = .failed) :
    Awaited source target migration (left + 1) [.asked ⟨checkQuery migration, .ok status⟩] (.error (.api
      ("remount of " ++ source ++ " to " ++ target ++ " failed (migration " ++ migration ++ ")")))
  | undecided {left status turns result} (h : moveStatus status = .undecided)
      (rest : Awaited source target migration left turns result) :
    Awaited source target migration (left + 1)
      (.asked ⟨checkQuery migration, .ok status⟩ :: .noted (.pause pollInterval) :: turns) result

/-- Moving a mount: the server refuses, moves it at once, or takes its time. -/
inductive Moved (source target : String) : List Turn → Except VaultError Unit → Prop
  | refused {n e} : Moved source target [.noted n, .asked ⟨moveQuery source target, .error e⟩] (.error e)
  | done {n response} (h : migration? response = none) :
    Moved source target [.noted n, .asked ⟨moveQuery source target, .ok response⟩] (.ok ())
  | awaited {n response migration turns result} (h : migration? response = some migration)
      (rest : Awaited source target migration pollLimit turns result) :
    Moved source target (.noted n :: .asked ⟨moveQuery source target, .ok response⟩ :: turns) result

/-- Tuning a mount, where there is something to tune. -/
inductive Tuned (id : String) (payload : FieldMap) : List Turn → Except VaultError Unit → Prop
  | nothing (h : (tuneMembers payload).isEmpty = true) : Tuned id payload [] (.ok ())
  | sent {answer} (h : (tuneMembers payload).isEmpty = false) :
    Tuned id payload [.asked ⟨tuneQuery id payload, answer⟩] (answer.map fun _ => ())

/-- Writing a mount: it is tuned, and then moved if the payload has a new path for it. -/
inductive Written (id : String) (payload : FieldMap) : List Turn → Except VaultError (Option String) → Prop
  | untuned {turns e} (tune : Tuned id payload turns (.error e)) : Written id payload turns (.error e)
  | kept {turns} (tune : Tuned id payload turns (.ok ())) (h : newPath? id payload = none) :
    Written id payload turns (.ok none)
  | moved {turns turns' path result} (tune : Tuned id payload turns (.ok ())) (h : newPath? id payload = some path)
      (move : Moved (Normalizer.withoutSlashes id) path turns' result) :
    Written id payload (turns ++ turns') (result.map fun _ => some path)

variable (c : Client)

theorem awaitMove_talks (source target migration : String) (left : Nat) :
    Talks c (awaitMove c source target migration left) (Awaited source target migration left) := by
  induction left with
  | zero => exact Talks.throw .exhausted
  | succ left ih =>
    refine Talks.request_bind (fun e => .unanswered) fun status => ?_
    cases hs : moveStatus status with
    | done => exact Talks.pure (.done hs)
    | failed => exact Talks.throw (.failed hs)
    | undecided => exact Talks.note_bind _ (ih.mono fun _ _ h => .undecided hs h)

theorem move_talks (source target : String) : Talks c (move c source target) (Moved source target) := by
  refine Talks.note_bind _ (Talks.request_bind (fun e => .refused) fun response => ?_)
  have hmigration : ((responseData response).get? "migration_id").bind Json.string? = migration? response := rfl
  rw [hmigration]
  cases hm : migration? response with
  | none => exact Talks.pure (.done hm)
  | some migration => exact (awaitMove_talks c source target migration pollLimit).mono fun _ _ h => .awaited hm h

theorem tune_talks (id : String) (payload : FieldMap) : Talks c (tune c id payload) (Tuned id payload) := by
  unfold tune
  split
  next h => exact Talks.pure (.nothing h)
  next h =>
    rw [Bool.not_eq_true] at h
    exact Talks.request_bind (fun e => .sent h) fun v => Talks.pure (.sent h)

theorem write_talks (id : String) (payload : FieldMap) : Talks c (write c id payload) (Written id payload) := by
  refine (tune_talks c id payload).bind (fun _ _ h => .untuned h) fun turns _ htune => ?_
  split
  next path h =>
    refine (move_talks c _ path).bind (fun _ e hmove => .moved htune h hmove) fun turns' _ hmove => Talks.pure ?_
    rw [List.append_nil]
    exact .moved htune h hmove
  next h =>
    refine Talks.pure ?_
    rw [List.append_nil]
    exact .kept htune h

/-! ## The dialogues of the other calls -/

/-- The query is about what is at a path of a mount. -/
def AtMount (q : Query) : Prop := ∃ rest, q.path = "/v1/sys/mounts/" ++ rest

theorem request_atMount (m : Method) (path : String) (body : Option Json) :
    Talks c (c.request m (url path) body) fun turns _ => ∀ x ∈ asked turns, AtMount x.query :=
  Talks.request fun answer => by
    rintro _ (_ | ⟨_, ⟨⟩⟩)
    exact ⟨Normalizer.withoutSlashes path, rfl⟩

theorem read_talks (id : String) : Talks c (read c id) fun turns _ => ∀ x ∈ asked turns, AtMount x.query := by
  refine (request_atMount c .get id none).of_same fun w => ?_
  have hget : (c.get? (url id) w).2 = (c.request .get (url id) none w).2 := by
    unfold Client.get? Client.get
    rcases c.request .get (url id) none w with ⟨e | v, w'⟩
    · dsimp only
      split <;> rfl
    · rfl
  rw [← hget]
  unfold read
  split
  next h => rw [h]
  next h => rw [h]
  next h =>
    rw [h]
    split <;> rfl
  next h => rw [h]

theorem delete_talks (id : String) : Talks c (delete c id) fun turns _ => ∀ x ∈ asked turns, AtMount x.query := by
  refine (request_atMount c .delete id none).of_same fun w => ?_
  unfold delete Client.deleteIfPresent Client.delete
  rcases c.request .delete (url id) none w with ⟨e | v, w'⟩
  · dsimp only
    split <;> rfl
  · rfl

theorem create_talks (desired : FieldMap) :
    Talks c (create c desired) fun turns _ => ∀ x ∈ asked turns, AtMount x.query := by
  unfold create
  split
  · exact Talks.throw nofun
  next path h =>
    refine (request_atMount c .post path _).bind (fun _ _ h => h) fun _ _ h => Talks.pure ?_
    rwa [List.append_nil]

/-- What is said in a call of the transport. -/
def Said : (call : Call) → List Turn → Except VaultError call.Result → Prop
  | .write id payload, turns, answer => Written id payload turns answer
  | _, turns, _ => ∀ x ∈ asked turns, AtMount x.query

theorem operation_talks (call : Call) : Talks c ((transport c).operation call) (Said call) := by
  cases call with
  | read id => exact read_talks c id
  | write id payload => exact write_talks c id payload
  | delete id => exact delete_talks c id
  | create desired => exact create_talks c desired

/-! ## Queries that matter for a move -/

def IsTune (id : String) (q : Query) : Prop := q.method = .post ∧ q.path = url id ++ "/tune"

def IsMove (q : Query) : Prop := q.method = .post ∧ q.path = "/v1/sys/remount"

def IsCheck (q : Query) : Prop := q.method = .get ∧ ∃ migration, q.path = "/v1/sys/remount/status/" ++ migration

/-- The server takes on to move a mount. -/
def Accepts (x : Asked) : Prop :=
  IsMove x.query ∧ ∃ response migration, x.answer = .ok response ∧ migration? response = some migration

/-- A status check fails with an error that may pass. -/
def FailsForNow (x : Asked) : Prop := IsCheck x.query ∧ ∃ e, x.answer = .error e ∧ e.isRetryable = true

/-- The known mount is tuned or a mount is moved. -/
def Changes (known : Option String) (x : Asked) : Prop := IsMove x.query ∨ ∃ id, known = some id ∧ IsTune id x.query

/-- After what has the one property comes nothing that has the other. -/
def NoneAfter (p q : Asked → Prop) (xs : List Asked) : Prop := xs.Pairwise fun x y => p x → ¬ q y

section
variable {c} {p q : Asked → Prop} {xs ys : List Asked} {x : Asked}

theorem noneAfter_append :
    NoneAfter p q (xs ++ ys) ↔ NoneAfter p q xs ∧ NoneAfter p q ys ∧ ∀ x ∈ xs, ∀ y ∈ ys, p x → ¬ q y :=
  List.pairwise_append

theorem noneAfter_of_not (h : ∀ x ∈ xs, ¬ p x) : NoneAfter p q xs :=
  List.Pairwise.imp_of_mem (fun hx _ _ hp => absurd hp (h _ hx)) (List.pairwise_of_forall fun _ _ => trivial)

/-- What has not the first property plays no part at the front. -/
theorem noneAfter_append_of_not (h : ∀ x ∈ xs, ¬ p x) : NoneAfter p q (xs ++ ys) ↔ NoneAfter p q ys := by
  rw [noneAfter_append]
  exact ⟨fun h => h.2.1, fun hys => ⟨noneAfter_of_not h, hys, fun x hx _ _ hp => absurd hp (h x hx)⟩⟩

theorem isChain_append_of_not (h : ∀ x ∈ xs, ¬ p x) (hys : ys.IsChain fun x y => p x → q y) :
    (xs ++ ys).IsChain fun x y => p x → q y := by
  refine List.isChain_append.2 ⟨?_, hys, fun x hx _ _ hp => absurd hp (h x (List.mem_of_mem_getLast? hx))⟩
  exact List.Pairwise.isChain (List.Pairwise.imp_of_mem (fun hx _ _ hp => absurd hp (h _ hx))
    (List.pairwise_of_forall fun _ _ => trivial))

theorem neither_of_atMount (h : AtMount x.query) : ¬ Accepts x ∧ ¬ FailsForNow x := by
  obtain ⟨rest, hrest⟩ := h
  constructor
  · rintro ⟨⟨_, hpath⟩, _⟩
    rw [hpath] at hrest
    have := congrArg (fun s => s.toList.take 9) hrest
    simp at this
  · rintro ⟨⟨_, migration, hpath⟩, _⟩
    rw [hpath] at hrest
    have := congrArg (fun s => s.toList.take 9) hrest
    simp at this

theorem not_accepts_of_check {migration : String} (h : x.query = checkQuery migration) : ¬ Accepts x := by
  rintro ⟨⟨hmethod, _⟩, _⟩
  rw [h] at hmethod
  cases hmethod

theorem not_failsForNow_of_move {source target : String} (h : x.query = moveQuery source target) :
    ¬ FailsForNow x := by
  rintro ⟨⟨hmethod, _⟩, _⟩
  rw [h] at hmethod
  cases hmethod

end

/-! ## One write -/

section
variable {id : String} {payload : FieldMap} {source target migration : String} {left : Nat} {turns : List Turn}

namespace Awaited

variable {result : Except VaultError Unit}

theorem checks (h : Awaited source target migration left turns result) :
    ∀ x ∈ asked turns, x.query = checkQuery migration := by
  induction h with
  | exhausted => nofun
  | unanswered | done | failed =>
    rintro _ (_ | ⟨_, ⟨⟩⟩)
    rfl
  | undecided _ _ ih => exact List.forall_mem_cons.2 ⟨rfl, ih⟩

/-- A status check that fails is the last one. -/
theorem noneAfter (h : Awaited source target migration left turns result) :
    NoneAfter FailsForNow (fun _ => True) (asked turns) := by
  induction h with
  | exhausted => exact List.Pairwise.nil
  | unanswered | done | failed => exact List.pairwise_singleton _ _
  | undecided _ _ ih =>
    refine List.pairwise_cons.2 ⟨fun _ _ hfails => ?_, ih⟩
    obtain ⟨_, e, he, _⟩ := hfails
    cases he

/-- It is a status check that fails with an error that may pass. -/
theorem exists_failsForNow {e : VaultError} (h : Awaited source target migration left turns (.error e))
    (he : e.isRetryable = true) : ∃ x ∈ asked turns, FailsForNow x := by
  generalize hresult : Except.error e = result at h
  induction h with
  | exhausted | failed =>
    cases hresult
    cases he
  | done => cases hresult
  | unanswered =>
    cases hresult
    exact ⟨_, List.mem_singleton_self _, ⟨rfl, migration, rfl⟩, e, rfl, he⟩
  | undecided _ _ ih =>
    obtain ⟨x, hx, hfails⟩ := ih hresult
    exact ⟨x, List.mem_cons_of_mem _ hx, hfails⟩

end Awaited

namespace Moved

variable {result : Except VaultError Unit}

/-- A mount is moved first, and then there are only status checks. -/
theorem asked_eq (h : Moved source target turns result) : ∃ answer checks,
    asked turns = ⟨moveQuery source target, answer⟩ :: checks ∧
      (∀ x ∈ checks, ∃ migration, x.query = checkQuery migration) ∧ NoneAfter FailsForNow (fun _ => True) checks := by
  cases h with
  | refused | done => exact ⟨_, [], rfl, nofun, List.Pairwise.nil⟩
  | awaited _ rest => exact ⟨_, _, rfl, fun x hx => ⟨_, rest.checks x hx⟩, rest.noneAfter⟩

theorem accepts_iff {e : VaultError} (h : Moved source target turns (.error e)) (he : e.isRetryable = true) :
    (∃ x ∈ asked turns, Accepts x) ↔ ∃ x ∈ asked turns, FailsForNow x := by
  cases h with
  | refused =>
    simp only [asked_cons_noted, asked_cons_asked, asked_nil, List.mem_singleton, exists_eq_left]
    refine iff_of_false ?_ (not_failsForNow_of_move rfl)
    rintro ⟨_, _, _, hanswer, _⟩
    cases hanswer
  | @awaited _ response _ turns _ hm rest =>
    refine iff_of_true ⟨_, List.mem_cons_self, ⟨rfl, rfl⟩, response, _, rfl, hm⟩ ?_
    obtain ⟨x, hx, hfails⟩ := rest.exists_failsForNow he
    exact ⟨x, List.mem_cons_of_mem _ hx, hfails⟩

end Moved

theorem Tuned.neither {result : Except VaultError Unit} (h : Tuned id payload turns result) :
    ∀ x ∈ asked turns, ¬ Accepts x ∧ ¬ FailsForNow x := by
  cases h with
  | nothing => nofun
  | sent =>
    rintro _ (_ | ⟨_, ⟨⟩⟩)
    exact neither_of_atMount ⟨Normalizer.withoutSlashes id ++ "/tune", String.append_assoc ..⟩

namespace Written

variable {result : Except VaultError (Option String)}

/-- One write moves a mount at most once and changes nothing after that; a status check that fails ends it. -/
theorem noneAfter (h : Written id payload turns result) (known : Option String) :
    NoneAfter Accepts (Changes known) (asked turns) ∧ NoneAfter FailsForNow (fun _ => True) (asked turns) := by
  cases h with
  | untuned tune | kept tune =>
    exact ⟨noneAfter_of_not fun x hx => (tune.neither x hx).1, noneAfter_of_not fun x hx => (tune.neither x hx).2⟩
  | moved tune _ move =>
    obtain ⟨answer, checks, hmoves, hchecks, hnone⟩ := move.asked_eq
    rw [asked_append, hmoves]
    constructor
    · refine (noneAfter_append_of_not fun x hx => (tune.neither x hx).1).2 ?_
      refine List.pairwise_cons.2 ⟨fun y hy _ hchanges => ?_, noneAfter_of_not fun x hx => ?_⟩
      · obtain ⟨migration, hquery⟩ := hchecks y hy
        rcases hchanges with ⟨hmethod, _⟩ | ⟨_, _, hmethod, _⟩ <;>
        · rw [hquery] at hmethod
          cases hmethod
      · obtain ⟨_, hquery⟩ := hchecks x hx
        exact not_accepts_of_check hquery
    · refine (noneAfter_append_of_not fun x hx => (tune.neither x hx).2).2 ?_
      exact List.pairwise_cons.2 ⟨fun _ _ hfails => absurd hfails (not_failsForNow_of_move rfl), hnone⟩

/-- A write that moves the mount starts with a change. -/
theorem starts (h : Written id payload turns result) {path : String} (hpath : newPath? id payload = some path) :
    ∃ x rest, asked turns = x :: rest ∧ Changes (some id) x := by
  have htuned : ∀ answer, Changes (some id) ⟨tuneQuery id payload, answer⟩ := fun _ => .inr ⟨id, rfl, rfl, rfl⟩
  cases h with
  | untuned tune =>
    generalize hresult : Except.error _ = result at tune
    cases tune with
    | nothing => cases hresult
    | sent => exact ⟨_, [], rfl, htuned _⟩
  | kept _ hnone =>
    rw [hpath] at hnone
    cases hnone
  | moved tune _ move =>
    rw [asked_append]
    generalize hresult : Except.ok () = result at tune
    cases tune with
    | nothing =>
      obtain ⟨answer, checks, hmoves, _⟩ := move.asked_eq
      exact ⟨_, checks, hmoves, .inl ⟨rfl, rfl⟩⟩
    | sent => exact ⟨_, _, rfl, htuned _⟩

/-- Only a write that moves the mount is answered by taking on the move. -/
theorem newPath_of_accepts (h : Written id payload turns result) (ha : ∃ x ∈ asked turns, Accepts x) :
    ∃ path, newPath? id payload = some path := by
  obtain ⟨x, hx, ha⟩ := ha
  cases h with
  | untuned tune | kept tune => exact absurd ha (tune.neither x hx).1
  | moved _ hpath _ => exact ⟨_, hpath⟩

/-- **A write that may be made again** had its move taken on exactly if a status check failed for now. -/
theorem accepts_iff {e : VaultError} (h : Written id payload turns (.error e)) (he : e.isRetryable = true) :
    (∃ x ∈ asked turns, Accepts x) ↔ ∃ x ∈ asked turns, FailsForNow x := by
  generalize hresult : Except.error e = result at h
  cases h with
  | untuned tune =>
    exact iff_of_false (fun ⟨x, hx, ha⟩ => (tune.neither x hx).1 ha) fun ⟨x, hx, hf⟩ => (tune.neither x hx).2 hf
  | kept => cases hresult
  | @moved tunes moves path result tune hpath move =>
    cases result with
    | ok _ => cases hresult
    | error e' =>
      cases hresult
      rw [asked_append]
      simp only [List.mem_append, or_and_right, exists_or]
      rw [or_iff_right fun ⟨x, hx, ha⟩ => (tune.neither x hx).1 ha,
        or_iff_right fun ⟨x, hx, hf⟩ => (tune.neither x hx).2 hf]
      exact move.accepts_iff he

end Written

end

/-! ## A write that is made again -/

/-- The tries of a write that moves the mount start with a change. -/
theorem exists_changes {id path : String} {payload : FieldMap} {answers : List (Except VaultError (Option String))}
    {dialogues : List (List Turn)} (hpath : newPath? id payload = some path) (hsome : answers ≠ [])
    (h : List.Forall₂ (fun answer turns => Written id payload turns answer) answers dialogues) :
    ∃ x rest, dialogues.flatMap asked = x :: rest ∧ Changes (some id) x := by
  cases h with
  | nil => exact absurd rfl hsome
  | cons hwritten _ =>
    obtain ⟨x, rest, hasked, hchanges⟩ := hwritten.starts hpath
    exact ⟨x, _, by rw [List.flatMap_cons, hasked, List.cons_append], hchanges⟩

section
variable {id : String} {payload : FieldMap} {failed : List VaultError} {last : Except VaultError (Option String)}
  {dialogues : List (List Turn)} (hfailed : ∀ e ∈ failed, e.isRetryable = true)
  (h : List.Forall₂ (fun answer turns => Written id payload turns answer) (failed.map .error ++ [last]) dialogues)
include hfailed h

/-- **A moved mount is left alone through all tries** exactly if no status check fails for now, but for the last
query of all. -/
theorem tries_iff :
    NoneAfter Accepts (Changes (some id)) (dialogues.flatMap asked) ↔
      NoneAfter FailsForNow (fun _ => True) (dialogues.flatMap asked) := by
  induction failed generalizing dialogues with
  | nil =>
    obtain ⟨turns, rest, hwritten, hrest, rfl⟩ := List.forall₂_cons_left_iff.1 h
    cases hrest
    have := hwritten.noneAfter (some id)
    simp only [List.flatMap_cons, List.flatMap_nil, List.append_nil]
    exact iff_of_true this.1 this.2
  | cons e failed ih =>
    obtain ⟨turns, rest, hwritten, hrest, rfl⟩ := List.forall₂_cons_left_iff.1 h
    obtain ⟨he, hfailed⟩ := List.forall_mem_cons.1 hfailed
    obtain ⟨haccepts, hfails⟩ := hwritten.noneAfter (some id)
    rw [List.flatMap_cons, noneAfter_append, noneAfter_append, ih hfailed hrest]
    simp only [haccepts, hfails, true_and]
    refine and_congr_right fun _ => ?_
    by_cases hmoved : ∃ x ∈ asked turns, Accepts x
    · -- the next try changes something again
      obtain ⟨path, hpath⟩ := hwritten.newPath_of_accepts hmoved
      obtain ⟨y, _, hagain, hchanges⟩ := exists_changes hpath (by simp) hrest
      have hy : y ∈ rest.flatMap asked := hagain ▸ List.mem_cons_self
      obtain ⟨z, hz, hfails⟩ := (hwritten.accepts_iff he).1 hmoved
      obtain ⟨x, hx, ha⟩ := hmoved
      exact iff_of_false (fun hall => hall x hx y hy ha hchanges) fun hall => hall z hz y hy hfails trivial
    · have hnone := mt (hwritten.accepts_iff he).2 hmoved
      exact iff_of_true (fun x hx _ _ ha => absurd ⟨x, hx, ha⟩ hmoved) fun x hx _ _ hf => absurd ⟨x, hx, hf⟩ hnone

/-- A status check that fails for now is followed by no other: what comes next, if anything, is a change. -/
theorem tries_chain :
    (dialogues.flatMap asked).IsChain fun x y => FailsForNow x → Changes (some id) y := by
  have hchain : ∀ {turns result}, Written id payload turns result →
      (asked turns).IsChain fun x y => FailsForNow x → Changes (some id) y := fun hwritten =>
    (hwritten.noneAfter (some id)).2.isChain.imp fun _ _ hnone hfails => absurd trivial (hnone hfails)
  induction failed generalizing dialogues with
  | nil =>
    obtain ⟨turns, rest, hwritten, hrest, rfl⟩ := List.forall₂_cons_left_iff.1 h
    cases hrest
    rw [List.flatMap_cons, List.flatMap_nil, List.append_nil]
    exact hchain hwritten
  | cons e failed ih =>
    obtain ⟨turns, rest, hwritten, hrest, rfl⟩ := List.forall₂_cons_left_iff.1 h
    obtain ⟨he, hfailed⟩ := List.forall_mem_cons.1 hfailed
    rw [List.flatMap_cons]
    refine List.isChain_append.2 ⟨hchain hwritten, ih hfailed hrest, fun x hx y hy hfails => ?_⟩
    have hmoved := (hwritten.accepts_iff he).2 ⟨x, List.mem_of_mem_getLast? hx, hfails⟩
    obtain ⟨path, hpath⟩ := hwritten.newPath_of_accepts hmoved
    obtain ⟨y', _, hagain, hchanges⟩ := exists_changes hpath (by simp) hrest
    rw [hagain] at hy
    cases hy
    exact hchanges

end

/-! ## A whole run -/

/-- Calls other than writes have nothing to do with moves. -/
theorem neither_of_said {history : History VaultError} {dialogues : List (List Turn)}
    (h : List.Forall₂ (fun x turns => Said x.call turns x.answer) history dialogues)
    (hother : ∀ x ∈ history, ∀ id payload, x.call ≠ .write id payload) :
    ∀ y ∈ dialogues.flatMap asked, ¬ Accepts y ∧ ¬ FailsForNow y := by
  induction h with
  | nil => nofun
  | @cons x turns history dialogues hsaid _ ih =>
    obtain ⟨hx, hrest⟩ := List.forall_mem_cons.1 hother
    rw [List.flatMap_cons]
    refine List.forall_mem_append.2 ⟨fun y hy => ?_, ih hrest⟩
    obtain ⟨call, answer⟩ := x
    cases call with
    | write id payload => exact absurd rfl (hx id payload)
    | read | delete | create => exact neither_of_atMount (hsaid y hy)

/-- The tries of a write, as the server hears them. -/
theorem hears_of_tries {id : String} {payload : FieldMap} {answers : List (Except VaultError (Option String))}
    {last : Except VaultError (Option String)} {bound : Nat} {s s' : Server}
    (tries : Tries VaultError.isRetryable bound answers last)
    (hreplay : (transport c).replay (((Call.write id payload).answered answers).map (·.call)) s =
      ((Call.write id payload).answered answers, s')) :
    ∃ dialogue, c.Hears dialogue s s' ∧
      (NoneAfter Accepts (Changes (some id)) dialogue ↔ NoneAfter FailsForNow (fun _ => True) dialogue) ∧
      (dialogue.IsChain fun x y => FailsForNow x → Changes (some id) y) ∧
      (bound = 1 → NoneAfter Accepts (Changes (some id)) dialogue) := by
  obtain ⟨dialogues, hsaid, hhears⟩ := replay_hears hreplay (operation_talks c)
  have hwritten := List.forall₂_map_left_iff.1 hsaid
  obtain ⟨failed, rfl, hfailed⟩ := tries.earlier
  refine ⟨dialogues.flatMap asked, hhears, tries_iff hfailed hwritten, tries_chain hfailed hwritten, fun hbound => ?_⟩
  -- a single try
  have hlength := tries.within
  obtain rfl : failed = [] := by
    simp only [List.length_append, List.length_map, List.length_singleton, hbound] at hlength
    exact List.eq_nil_of_length_eq_zero (by omega)
  obtain ⟨turns, rest, hone, hrest, rfl⟩ := List.forall₂_cons_left_iff.1 hwritten
  cases hrest
  rw [List.flatMap_cons, List.flatMap_nil, List.append_nil]
  exact (hone.noneAfter (some id)).1

/-- **What becomes of a mount that is being moved.** In every reconciliation the known mount is tuned or a mount
moved again after the server has taken on a move exactly if a status check fails with an error that may pass and is
not the last query of all; what comes next after such a check, if anything, is that the mount is tuned or moved
again. With a single attempt this does not happen. -/
theorem reconcile_moves (c : Client) (r : Reconciler) (known : Option String) (desired : FieldMap)
    (w : World Server) :
    ∃ dialogue, c.Hears dialogue w.remote (r.reconcile (transport c) known desired w).2.remote ∧
      (NoneAfter Accepts (Changes known) dialogue ↔ NoneAfter FailsForNow (fun _ => True) dialogue) ∧
      (dialogue.IsChain fun x y => FailsForNow x → Changes known y) ∧
      (r.retry.maxAttempts = 1 → NoneAfter Accepts (Changes known) dialogue) := by
  obtain ⟨history, result, w', hmakes, hran⟩ := Reconciler.reconcile_ran (r := r) (t := transport c) known desired w
  rw [hmakes.run]
  obtain ⟨front, writes, rfl, hfront, hwrites⟩ := hran.writes
  obtain ⟨s₁, hreplay, hreplay'⟩ := Transport.replay_append_iff.1 hmakes.course.remote
  obtain ⟨dialogues, hsaid, hhears⟩ := replay_hears hreplay (operation_talks c)
  have hneither := neither_of_said hsaid hfront
  have haccepts : ∀ x ∈ dialogues.flatMap asked, ¬ Accepts x := fun x hx => (hneither x hx).1
  have hfails : ∀ x ∈ dialogues.flatMap asked, ¬ FailsForNow x := fun x hx => (hneither x hx).2
  -- what is asked after the front, which has nothing to do with moves
  obtain ⟨rest, hrest, hiff, hchain, hone⟩ : ∃ rest, c.Hears rest s₁ w'.remote ∧
      (NoneAfter Accepts (Changes known) rest ↔ NoneAfter FailsForNow (fun _ => True) rest) ∧
      (rest.IsChain fun x y => FailsForNow x → Changes known y) ∧
      (r.retry.maxAttempts = 1 → NoneAfter Accepts (Changes known) rest) := by
    rcases hwrites with rfl | ⟨id, payload, answers, last, rfl, tries, rfl⟩
    · obtain ⟨_, rfl⟩ := Prod.mk.inj hreplay'
      exact ⟨[], rfl, iff_of_true .nil .nil, .nil, fun _ => .nil⟩
    · obtain ⟨rest, hrest, hiff, hchain, hone⟩ := hears_of_tries c tries hreplay'
      exact ⟨rest, hrest, hiff, hchain, fun hattempts => hone (by rw [hattempts]; rfl)⟩
  refine ⟨dialogues.flatMap asked ++ rest, hhears.append hrest, ?_, isChain_append_of_not hfails hchain,
    fun hattempts => (noneAfter_append_of_not haccepts).2 (hone hattempts)⟩
  rw [noneAfter_append_of_not haccepts, noneAfter_append_of_not hfails]
  exact hiff

/-- A mount that the server has taken on to move is tuned under its old path and moved again after a status check
failed for now, and that the move is refused then is the error of the whole run. -/
theorem reconcile_moves_again : ∃ out,
    Reconciler.reconcile ⟨schema, .ofAttempts 2 .zero⟩ (transport ⟨"http://v:1", "", []⟩) (some "team")
      (.ofList [("path", .string "platform"), ("type", .string "kv")])
      ⟨.scripted [.answer 200 "\x7b\"data\":\x7b\"type\":\"kv\"\x7d\x7d", .answer 204 "",
        .answer 200 "\x7b\"data\":\x7b\"migration_id\":\"m\"\x7d\x7d", .answer 503 "", .answer 204 "",
        .answer 400 "moved"], []⟩ = out ∧
    out.1 = .error (.apply .update 2 (.status 400 "moved")) ∧
    out.2.remote.requests.map (fun q => (q.method, q.target)) =
      [(.get, "/v1/sys/mounts/team"), (.post, "/v1/sys/mounts/team/tune"), (.post, "/v1/sys/remount"),
        (.get, "/v1/sys/remount/status/m"), (.post, "/v1/sys/mounts/team/tune"), (.post, "/v1/sys/remount")] :=
  ⟨_, rfl, by decide +kernel, by decide +kernel⟩

end Mount

end Converge.Vault
