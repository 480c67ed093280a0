import Mathlib.Data.List.Forall2
import Converge.Proofs.History
import Converge.Vault.Client

/-!
# Dialogues

A dialogue lists in order what a conversation with a Vault server asks, with the answers that it gets, and what
it notes. `Client.Plays` ties a dialogue to the conversation: the client asks these queries, and the server
gives these answers to them and is as they left it. `Talks` says which dialogues and results a conversation can
have and is put together along the sequence of its steps. The dialogues of the calls of a history make up what
the whole run asks: `replay_hears`.

What the server holds after a dialogue is one request for each query that went out, in order (`Client.Delivers`):
nothing else is sent. `Reaches` says so of a conversation along with its dialogues, and follows from `Talks`.
-/

namespace Converge.Vault

open Http (Method Request Server)

variable {α β : Type}

structure Query where
  method : Method
  path : String
  body : Option Json

/-- A query and what came of it. -/
structure Asked where
  query : Query
  answer : Except VaultError Json

/-- Did the query go out? Not if no request could be built for it, or no connection was made. -/
def Asked.isDelivered (x : Asked) : Bool :=
  match x.answer with
  | .error (.send .build) | .error (.send (.buildFor _)) | .error (.send (.refused _)) => false
  | _ => true

inductive Turn where
  | asked (x : Asked)
  | noted (n : Note)

def asked (turns : List Turn) : List Asked :=
  turns.filterMap fun turn => match turn with
    | .asked x => some x
    | .noted _ => none

@[simp] theorem asked_nil : asked [] = [] := rfl

@[simp] theorem asked_cons_asked (x : Asked) (turns : List Turn) :
    asked (.asked x :: turns) = x :: asked turns := rfl

@[simp] theorem asked_cons_noted (n : Note) (turns : List Turn) : asked (.noted n :: turns) = asked turns := rfl

@[simp] theorem asked_append (turns turns' : List Turn) : asked (turns ++ turns') = asked turns ++ asked turns' :=
  List.filterMap_append

/-- The queries of a dialogue that went out. -/
def delivered (turns : List Turn) : List Query := ((asked turns).filter Asked.isDelivered).map (·.query)

theorem delivered_singleton (x : Asked) : delivered [.asked x] = if x.isDelivered then [x.query] else [] := by
  rw [delivered, asked_cons_asked, List.filter_cons]
  split <;> rfl

theorem delivered_append (turns turns' : List Turn) :
    delivered (turns ++ turns') = delivered turns ++ delivered turns' := by
  rw [delivered, asked_append, List.filter_append, List.map_append]
  rfl

namespace Client

variable {c : Client}

def ask (c : Client) (q : Query) : Conversation Json := c.request q.method q.path q.body

/-- Notes made before play no part in what is asked, and asking makes none. -/
theorem ask_eq (c : Client) (q : Query) (w : Wire Server) :
    c.ask q w = ((c.ask q ⟨w.remote, []⟩).1, ⟨(c.ask q ⟨w.remote, []⟩).2.remote, w.notes⟩) := by
  unfold ask request
  cases c.url? q.path <;> rfl

/-- From the one state of a conversation to the other, the dialogue takes place and nothing else. -/
def Plays (c : Client) : List Turn → Wire Server → Wire Server → Prop
  | [], w, w' => w = w'
  | .asked x :: turns, w, w' => (c.ask x.query w).1 = x.answer ∧ c.Plays turns (c.ask x.query w).2 w'
  | .noted n :: turns, w, w' => c.Plays turns { w with notes := w.notes ++ [n] } w'

/-- From the one state of a server to the other, these queries get these answers and nothing else is asked. -/
def Hears (c : Client) : List Asked → Server → Server → Prop
  | [], s, s' => s = s'
  | x :: xs, s, s' => (c.ask x.query ⟨s, []⟩).1 = x.answer ∧ c.Hears xs (c.ask x.query ⟨s, []⟩).2.remote s'

theorem Plays.append {turns turns' : List Turn} {w w₁ w' : Wire Server} (h : c.Plays turns w w₁)
    (h' : c.Plays turns' w₁ w') : c.Plays (turns ++ turns') w w' := by
  induction turns generalizing w with
  | nil =>
    cases h
    exact h'
  | cons turn turns ih =>
    cases turn with
    | asked x => exact ⟨h.1, ih h.2⟩
    | noted n => exact ih h

theorem Hears.append {xs ys : List Asked} {s s₁ s' : Server} (h : c.Hears xs s s₁) (h' : c.Hears ys s₁ s') :
    c.Hears (xs ++ ys) s s' := by
  induction xs generalizing s with
  | nil =>
    cases h
    exact h'
  | cons x xs ih => exact ⟨h.1, ih h.2⟩

/-- The server hears what is asked in a dialogue. -/
theorem Plays.hears {turns : List Turn} {w w' : Wire Server} (h : c.Plays turns w w') :
    c.Hears (asked turns) w.remote w'.remote := by
  induction turns generalizing w with
  | nil =>
    cases h
    rfl
  | cons turn turns ih =>
    cases turn with
    | asked x =>
      obtain ⟨hanswer, hplays⟩ := h
      rw [ask_eq] at hanswer hplays
      have hrest := ih hplays
      exact ⟨hanswer, hrest⟩
    | noted n => exact ih (w := { w with notes := w.notes ++ [n] }) h

/-! ### Requests -/

/-- The query as a request: for the URL of its path, with the token and the headers. -/
def IsRequestFor (c : Client) (q : Query) (r : Request) : Prop :=
  ∃ u, c.url? q.path = .ok u ∧ r = c.requestFor q.method u q.body

/-- Between the one state of a server and the other it got one request for each query of the dialogue that went out,
in order, and nothing else. -/
def Delivers (c : Client) (turns : List Turn) (s s' : Server) : Prop :=
  ∃ sent, s'.requests = s.requests ++ sent ∧ List.Forall₂ c.IsRequestFor (delivered turns) sent

theorem url?_eq_error {path : String} {failure : SendFailure} (h : c.url? path = .error failure) :
    failure = .build ∨ ∃ url, failure = .buildFor url := by
  unfold url? at h
  split at h
  next =>
    cases h
    exact .inl rfl
  next =>
    split_ifs at h
    · cases h
      exact .inr ⟨_, rfl⟩
    · cases h
      exact .inl rfl
    · cases h
      exact .inr ⟨_, rfl⟩

/-- A body that cannot be read is a parse error. -/
theorem exists_parse_of_decodeBody {body : String} {e : VaultError} (h : decodeBody body = .error e) :
    ∃ message, e = .parse message := by
  unfold decodeBody at h
  split at h
  · cases h
  · split at h
    · cases h
    · cases h
      exact ⟨_, rfl⟩

/-- The answer to a query tells whether its request came through. -/
theorem isDelivered_decodeReply (q : Query) (u : Http.Url) (reply : Http.Reply) :
    Asked.isDelivered ⟨q, decodeReply u reply⟩ = reply.isDelivered := by
  cases reply with
  | refused | closed | timedOut => rfl
  | truncated status =>
    simp only [decodeReply]
    split_ifs <;> rfl
  | answer status body =>
    simp only [decodeReply]
    split_ifs
    · rfl
    · cases hbody : decodeBody (withoutMark body) with
      | ok v => rfl
      | error e =>
        obtain ⟨message, rfl⟩ := exists_parse_of_decodeBody hbody
        rfl
    · rfl

/-- **A query leaves its request** with the server if it goes out, and nothing otherwise. -/
theorem ask_delivers (c : Client) (q : Query) (w : Wire Server) :
    c.Delivers [.asked ⟨q, (c.ask q w).1⟩] w.remote (c.ask q w).2.remote := by
  unfold Delivers
  rw [delivered_singleton]
  unfold ask request
  cases hu : c.url? q.path with
  | error failure =>
    refine ⟨[], (List.append_nil _).symm, ?_⟩
    rcases url?_eq_error hu with rfl | ⟨url, rfl⟩ <;> exact .nil
  | ok u =>
    simp only [Interaction.ask, Server.send, isDelivered_decodeReply]
    split
    · exact ⟨[c.requestFor q.method u q.body], rfl, .cons ⟨u, hu, rfl⟩ .nil⟩
    · exact ⟨[], (List.append_nil _).symm, .nil⟩

theorem Delivers.append {turns turns' : List Turn} {s s₁ s' : Server} (h : c.Delivers turns s s₁)
    (h' : c.Delivers turns' s₁ s') : c.Delivers (turns ++ turns') s s' := by
  obtain ⟨sent, hrequests, hsent⟩ := h
  obtain ⟨sent', hrequests', hsent'⟩ := h'
  refine ⟨sent ++ sent', by rw [hrequests', hrequests, List.append_assoc], ?_⟩
  rw [delivered_append]
  exact List.rel_append hsent hsent'

end Client

/-! ## What a conversation can be -/

/-- Whatever the server answers, the conversation is one of the dialogues with their results. -/
def Talks (c : Client) (x : Conversation α) (D : List Turn → Except VaultError α → Prop) : Prop :=
  ∀ w, ∃ turns, c.Plays turns w (x w).2 ∧ D turns (x w).1

namespace Talks

variable {c : Client} {D : List Turn → Except VaultError α → Prop} {E : List Turn → Except VaultError β → Prop}

theorem mono {D' : List Turn → Except VaultError α → Prop} {x : Conversation α} (hx : Talks c x D)
    (h : ∀ turns result, D turns result → D' turns result) : Talks c x D' := fun w =>
  let ⟨turns, hplays, hd⟩ := hx w
  ⟨turns, hplays, h _ _ hd⟩

theorem pure {a : α} (h : D [] (.ok a)) : Talks c (Pure.pure a) D := fun _ => ⟨[], rfl, h⟩

theorem throw {e : VaultError} (h : D [] (.error e)) : Talks c (MonadExcept.throw e) D := fun _ => ⟨[], rfl, h⟩

/-- What is asked first, and then what comes after the answer. -/
theorem bind {x : Conversation α} {g : α → Conversation β} (hx : Talks c x D)
    (herror : ∀ turns e, D turns (.error e) → E turns (.error e))
    (hok : ∀ turns a, D turns (.ok a) → Talks c (g a) fun turns' result => E (turns ++ turns') result) :
    Talks c (x >>= g) E := by
  intro w
  obtain ⟨turns, hplays, hd⟩ := hx w
  rcases hr : x w with ⟨result, w₁⟩
  rw [hr] at hplays hd
  cases result with
  | error e =>
    rw [bind_of_error hr]
    exact ⟨turns, hplays, herror turns e hd⟩
  | ok a =>
    obtain ⟨turns', hplays', he⟩ := hok turns a hd w₁
    rw [bind_of_ok hr]
    exact ⟨turns ++ turns', hplays.append hplays', he⟩

theorem note_bind (n : Note) {g : Unit → Conversation β}
    (hg : Talks c (g ()) fun turns result => E (.noted n :: turns) result) :
    Talks c (Interaction.note n >>= g) E := by
  have hnote : Talks c (Interaction.note n) fun turns result => turns = [.noted n] ∧ result = .ok () :=
    fun _ => ⟨[.noted n], rfl, rfl, rfl⟩
  refine hnote.bind (fun _ _ h => nomatch h.2) ?_
  rintro _ _ ⟨rfl, _⟩
  exact hg

theorem request {m : Method} {path : String} {body : Option Json} {D : List Turn → Except VaultError Json → Prop}
    (h : ∀ answer, D [.asked ⟨⟨m, path, body⟩, answer⟩] answer) : Talks c (c.request m path body) D :=
  fun _ => ⟨[.asked ⟨⟨m, path, body⟩, _⟩], ⟨rfl, rfl⟩, h _⟩

theorem request_bind {m : Method} {path : String} {body : Option Json} {g : Json → Conversation β}
    (herror : ∀ e, E [.asked ⟨⟨m, path, body⟩, .error e⟩] (.error e))
    (hok : ∀ v, Talks c (g v) fun turns result => E (.asked ⟨⟨m, path, body⟩, .ok v⟩ :: turns) result) :
    Talks c (c.request m path body >>= g) E := by
  have hrequest : Talks c (c.request m path body) fun turns answer => turns = [.asked ⟨⟨m, path, body⟩, answer⟩] :=
    request fun _ => rfl
  refine hrequest.bind ?_ ?_
  · rintro _ e rfl
    exact herror e
  · rintro _ v rfl
    exact hok v

/-- A step that asks what another does. -/
theorem of_same {x : Conversation α} {y : Conversation β} {D : List Turn → Prop}
    (hx : Talks c x fun turns _ => D turns) (h : ∀ w, (y w).2 = (x w).2) : Talks c y fun turns _ => D turns := by
  intro w
  rw [h w]
  exact hx w

end Talks

/-! ## Histories -/

/-- **What is asked in a history** is asked in the dialogues of its calls, one after the other. -/
theorem replay_hears {c : Client} {t : Transport Server VaultError}
    {D : (call : Call) → List Turn → Except VaultError call.Result → Prop} {history : History VaultError}
    {s s' : Server} (h : t.replay (history.map (·.call)) s = (history, s'))
    (ht : ∀ call, Talks c (t.operation call) (D call)) :
    ∃ dialogues : List (List Turn), List.Forall₂ (fun x turns => D x.call turns x.answer) history dialogues ∧
      c.Hears (dialogues.flatMap asked) s s' := by
  induction history generalizing s with
  | nil =>
    obtain ⟨_, rfl⟩ := Prod.mk.inj h
    exact ⟨[], .nil, rfl⟩
  | cons x xs ih =>
    obtain ⟨hanswer, hxs⟩ := Transport.replay_cons_iff.1 h
    obtain ⟨turns, hplays, hd⟩ := ht x.call ⟨s, []⟩
    obtain ⟨dialogues, hall, hhears⟩ := ih hxs
    rw [hanswer] at hd
    exact ⟨turns :: dialogues, .cons hd hall, hplays.hears.append hhears⟩

end Converge.Vault
