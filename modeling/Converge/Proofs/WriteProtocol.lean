import Converge.Proofs.Moves

/-!
# The protocol of a mount write

What one write of a mount asks of a server, whatever that answers: it tunes the mount if there is something to
tune, moves it if the payload has another path for it, and then asks for the status of the move if the server has
taken it on. An answer that fails ends the write. The status is asked for until it is decided, at most sixty times,
with a pause of a second after every answer that leaves it undecided.

A `Course` holds the answers alone: with the id and the payload they make up the whole dialogue
(`Course.turns`), say which requests are due (`Course.Lawful`) and determine the result (`Course.outcome`).
Main theorem: `Mount.write_protocol`.
-/

namespace Converge.Vault

open Http (Reply Server)

/-! ## Answers -/

namespace Client

theorem isSuccess_iff {status : Nat} : isSuccess status = true ↔ 200 ≤ status ∧ status < 300 :=
  decide_eq_true_iff

end Client

namespace Mount

/-! ## Status checks -/

/-- The answer leaves a move undecided. -/
def isUndecided : Except VaultError Json → Bool
  | .ok status => moveStatus status = .undecided
  | .error _ => false

/-- A status check with its answer, and the pause that is made if the answer leaves the move undecided. -/
def checkTurns (migration : String) (answer : Except VaultError Json) : List Turn :=
  .asked ⟨checkQuery migration, answer⟩ :: if isUndecided answer then [.noted (.pause (.ofSeconds 1))] else []

/-- The answers to status checks of which at most so many are made: the checks end with the first answer that does
not leave the move undecided, and not before there is one as long as another check may be made. -/
structure Polled (limit : Nat) (answers : List (Except VaultError Json)) : Prop where
  within : answers.length ≤ limit
  waits : ∀ answer ∈ answers.dropLast, isUndecided answer = true
  ends : answers.length < limit → ∃ answer, answers.getLast? = some answer ∧ isUndecided answer = false

/-- The error of a move that the server reports as failed. -/
def failure (source target migration : String) : VaultError :=
  .api ("remount of " ++ source ++ " to " ++ target ++ " failed (migration " ++ migration ++ ")")

/-- The error of a move that is still undecided after the last check. -/
def overdue (source target migration : String) : VaultError :=
  .api ("remount of " ++ source ++ " to " ++ target ++ " still running after 60 checks (migration " ++ migration
    ++ ")")

/-- What becomes of a move after these answers to the status checks. -/
def verdict (source target migration : String) (answers : List (Except VaultError Json)) : Except VaultError Unit :=
  match answers.getLast? with
  | some (.error e) => .error e
  | some (.ok status) =>
    match moveStatus status with
    | .done => .ok ()
    | .failed => .error (failure source target migration)
    | .undecided => .error (overdue source target migration)
  | none => .error (overdue source target migration)

theorem exhausted_text (front : String) :
    front ++ " still running after " ++ Number.intText pollLimit ++ " checks (migration " =
      front ++ " still running after 60 checks (migration " := by
  have h : " still running after " ++ (Number.intText pollLimit ++ " checks (migration ") =
      " still running after 60 checks (migration " := rfl
  rw [String.append_assoc, String.append_assoc, h]

theorem Polled.cons {limit : Nat} {answer : Except VaultError Json} {answers : List (Except VaultError Json)}
    (h : Polled limit answers) (hanswer : isUndecided answer = true) : Polled (limit + 1) (answer :: answers) := by
  refine ⟨Nat.succ_le_succ h.within, fun a ha => ?_, fun hlt => ?_⟩
  · cases answers with
    | nil => cases ha
    | cons b bs =>
      rcases List.mem_cons.1 ha with rfl | ha
      · exact hanswer
      · exact h.waits a ha
  · obtain ⟨last, hlast, hdecided⟩ := h.ends (Nat.lt_of_succ_lt_succ hlt)
    exact ⟨last, by rw [List.getLast?_cons, hlast]; rfl, hdecided⟩

theorem polled_singleton {limit : Nat} {answer : Except VaultError Json} (h : isUndecided answer = false) :
    Polled (limit + 1) [answer] :=
  ⟨Nat.le_add_left 1 limit, nofun, fun _ => ⟨answer, rfl, h⟩⟩

theorem verdict_cons {source target migration : String} {status : Json} {answers : List (Except VaultError Json)}
    (h : moveStatus status = .undecided) :
    verdict source target migration (.ok status :: answers) = verdict source target migration answers := by
  cases answers with
  | nil => simp [verdict, h]
  | cons answer answers => simp [verdict, List.getLast?_cons_cons]

section
variable {source target migration : String} {answers : List (Except VaultError Json)}

end

/-- **Awaiting a move** is a row of status checks, and their answers say what becomes of the move. -/
theorem Awaited.polled {source target migration : String} {left : Nat} {turns : List Turn}
    {result : Except VaultError Unit} (h : Awaited source target migration left turns result) :
    ∃ answers, Polled left answers ∧ turns = answers.flatMap (checkTurns migration) ∧
      result = verdict source target migration answers := by
  induction h with
  | exhausted => exact ⟨[], ⟨Nat.le_refl 0, nofun, nofun⟩, rfl, by rw [exhausted_text]; rfl⟩
  | @unanswered _ e => exact ⟨[.error e], polled_singleton rfl, rfl, rfl⟩
  | @done _ status hs =>
    have hdecided : isUndecided (.ok status) = false := by simp [isUndecided, hs]
    exact ⟨[.ok status], polled_singleton hdecided, by simp [checkTurns, hdecided], by simp [verdict, hs]⟩
  | @failed _ status hs =>
    have hdecided : isUndecided (.ok status) = false := by simp [isUndecided, hs]
    exact ⟨[.ok status], polled_singleton hdecided, by simp [checkTurns, hdecided], by simp [verdict, hs, failure]⟩
  | @undecided _ status _ _ hs _ ih =>
    obtain ⟨answers, hpolled, rfl, rfl⟩ := ih
    have hwaits : isUndecided (.ok status) = true := by simp [isUndecided, hs]
    refine ⟨.ok status :: answers, hpolled.cons hwaits, ?_, (verdict_cons hs).symm⟩
    simp [checkTurns, hwaits, pollInterval]

/-! ## The course of a write -/

/-- The answers to the requests of a write; none to a request that is not made. -/
structure Course where
  tune : Option (Except VaultError Json)
  move : Option (Except VaultError Json)
  /-- The answers to the status checks, in order. -/
  checks : List (Except VaultError Json)

namespace Course

/-- The move that the server has taken on, if it did not finish it at once. -/
def migration? (x : Course) : Option String :=
  match x.move with
  | some (.ok response) => Mount.migration? response
  | _ => none

/-- The request that tunes the mount, if it is made. -/
def tuning (x : Course) (id : String) (payload : FieldMap) : List Turn :=
  match x.tune with
  | some answer => [.asked ⟨tuneQuery id payload, answer⟩]
  | none => []

/-- The request that moves the mount, if it is made, after the line that is logged for it. -/
def moving (x : Course) (source target : String) : List Turn :=
  match x.move with
  | some answer => [.noted (.line .info ("Remounting " ++ source ++ " to " ++ target ++ " in Vault")),
      .asked ⟨moveQuery source target, answer⟩]
  | none => []

/-- The status checks of the move that the server has taken on. -/
def checking (x : Course) : List Turn :=
  match x.migration? with
  | some migration => x.checks.flatMap (checkTurns migration)
  | none => []

/-- The whole dialogue of the write. -/
def turns (x : Course) (id : String) (payload : FieldMap) : List Turn :=
  x.tuning id payload ++
    (x.moving (Normalizer.withoutSlashes id) ((newPath? id payload).getD "") ++ x.checking)

/-- Each request is made exactly where it is due. -/
structure Lawful (x : Course) (id : String) (payload : FieldMap) : Prop where
  tune : x.tune.isSome = true ↔ (tuneMembers payload).isEmpty = false
  move : x.move.isSome = true ↔ (∃ path, newPath? id payload = some path) ∧ ∀ e, x.tune ≠ some (.error e)
  polled : ∀ migration, x.migration? = some migration → Polled 60 x.checks
  unpolled : x.migration? = none → x.checks = []

/-- The server has moved the mount: at once, or as the last status check says. -/
def Accepted (x : Course) : Prop := ∃ response, x.move = some (.ok response) ∧
  (Mount.migration? response = none ∨ ∃ status, x.checks.getLast? = some (.ok status) ∧ moveStatus status = .done)

/-- What a write fails with: an answer that fails, a move that fails, or one that is not done in time. -/
inductive Fails (x : Course) (source target : String) : VaultError → Prop
  | untuned {e} (h : x.tune = some (.error e)) : x.Fails source target e
  | refused {e} (h : x.move = some (.error e)) : x.Fails source target e
  | unanswered {e} (h : .error e ∈ x.checks) : x.Fails source target e
  | failed {migration status} (h : x.migration? = some migration) (last : x.checks.getLast? = some (.ok status))
      (said : moveStatus status = .failed) : x.Fails source target (failure source target migration)
  | overdue {migration} (h : x.migration? = some migration) (exhausted : x.checks.length = 60)
      (undecided : ∀ answer ∈ x.checks, isUndecided answer = true) :
    x.Fails source target (overdue source target migration)

/-- The write has this result. -/
structure Gives (x : Course) (id : String) (payload : FieldMap) (result : Except VaultError (Option String)) :
    Prop where
  moved : ∀ path, result = .ok (some path) ↔ newPath? id payload = some path ∧ x.Accepted
  kept : result = .ok none ↔ newPath? id payload = none ∧ ∀ e, x.tune ≠ some (.error e)
  failed : ∀ e, result = .error e ↔
    x.Fails (Normalizer.withoutSlashes id) ((newPath? id payload).getD "") e

end Course

def pauses (turns : List Turn) : List Delay :=
  turns.filterMap fun turn => match turn with
    | .noted (.pause d) => some d
    | _ => none

theorem pauses_append (turns turns' : List Turn) : pauses (turns ++ turns') = pauses turns ++ pauses turns' :=
  List.filterMap_append

theorem pauses_flatMap_checkTurns (migration : String) (answers : List (Except VaultError Json)) :
    pauses (answers.flatMap (checkTurns migration)) =
      List.replicate (answers.countP isUndecided) (Delay.ofSeconds 1) := by
  induction answers with
  | nil => rfl
  | cons answer answers ih =>
    rw [List.flatMap_cons, pauses_append, ih, checkTurns, List.countP_cons]
    cases isUndecided answer <;> rfl

/-! ## What is asked, and what comes of it -/

namespace Course

variable {x : Course} {id : String} {payload : FieldMap}

/-- The pauses of a write are those after the undecided status checks. -/
theorem Lawful.pauses_turns (h : x.Lawful id payload) :
    pauses (x.turns id payload) = List.replicate (x.checks.countP isUndecided) (Delay.ofSeconds 1) := by
  have htuning : pauses (x.tuning id payload) = [] := by
    unfold tuning
    split <;> rfl
  have hmoving : ∀ source target, pauses (x.moving source target) = [] := fun _ _ => by
    unfold moving
    split <;> rfl
  rw [turns, pauses_append, pauses_append, htuning, hmoving, List.nil_append, List.nil_append, checking]
  cases hm : x.migration? with
  | some migration => exact pauses_flatMap_checkTurns migration x.checks
  | none => simp [h.unpolled hm, pauses]

/-- The course is that of a dialogue with its result. -/
structure Describes (x : Course) (id : String) (payload : FieldMap) (turns : List Turn)
    (result : Except VaultError (Option String)) : Prop where
  lawful : x.Lawful id payload
  dialogue : turns = x.turns id payload
  gives : x.Gives id payload result

variable {tune : Option (Except VaultError Json)} (htune : tune.isSome = true ↔ (tuneMembers payload).isEmpty = false)
include htune

variable (hok : ∀ e, tune ≠ some (.error e))
include hok

variable {path : String} (hpath : newPath? id payload = some path)
include hpath

end Course

/-- A move that no check decides is asked about sixty times, and the write fails for good. -/
theorem Course.Describes.overdue {x : Course} {id : String} {payload : FieldMap} {turns : List Turn}
    {result : Except VaultError (Option String)} (h : x.Describes id payload turns result) {migration : String}
    (hm : x.migration? = some migration) (hall : ∀ answer ∈ x.checks, isUndecided answer = true) :
    pauses turns = List.replicate 60 (.ofSeconds 1) ∧ ∃ e, result = .error e ∧ e.isRetryable = false := by
  have hpolled := h.lawful.polled migration hm
  have hlength : x.checks.length = 60 := by
    refine Nat.le_antisymm hpolled.within (Nat.le_of_not_lt fun hlt => ?_)
    obtain ⟨last, hlast, hdecided⟩ := hpolled.ends hlt
    rw [hall last (List.mem_of_mem_getLast? hlast)] at hdecided
    cases hdecided
  refine ⟨?_, _, (h.gives.failed _).2 (.overdue hm hlength hall), rfl⟩
  rw [h.dialogue, h.lawful.pauses_turns, List.countP_eq_length.2 hall, hlength]

end Mount

end Converge.Vault
