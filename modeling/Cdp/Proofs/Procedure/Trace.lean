import Cdp.Chain.Interface
import Cdp.Proofs.Attempt
import Mathlib.Data.List.Forall2

/-!
# Traces of procedures

A trace lists the requests that a procedure asked and the answers that it got. `Yields` says that a
procedure ends with a result along a trace, whoever answered: a node, tables, or a chain that moves
on between two requests. `Follows` says that the answers of a trace are those of a handler with a
state of its own, and running a procedure against a handler is following one of its traces
(`run_eq_iff`).

The trace of a sequence is cut where its first part ends (`yields_bind_iff`), and nowhere else
(`Yields.unique`). `Succeeds` says that every trace whose exchanges are allowed ends with a value of
a certain kind, `Ensures` that the value is of that kind if there is one, `Asks` that its requests
are of a certain kind, and `Unbroken` that no trace ends with a fault. `Ends` names a condition
under which a trace may end with a fault, and a kind that a value is of. Each has a rule for every
way to build a procedure.
-/

set_option autoImplicit false

namespace Cdp

/-- A request and the answer that it got. -/
structure Exchange (I : Interface) where
  request : I.Request
  answer : Except ChainError (I.Answer request)

namespace Procedure

variable {I : Interface} {ε α β : Type}

/-- Asked along a trace, the procedure ends with a result. -/
inductive Yields : Procedure I ε α → List (Exchange I) → Except ε α → Prop where
  | done (result : Except ε α) : Yields (.done result) [] result
  | ask {r : I.Request} {next : Except ChainError (I.Answer r) → Procedure I ε α}
      {x : Except ChainError (I.Answer r)} {trace : List (Exchange I)} {result : Except ε α} :
      Yields (next x) trace result → Yields (.ask r next) (⟨r, x⟩ :: trace) result

variable {trace : List (Exchange I)}

theorem yields_done_iff {result other : Except ε α} :
    (done result : Procedure I ε α).Yields trace other ↔ trace = [] ∧ result = other := by
  constructor
  · intro h
    cases h
    exact ⟨rfl, rfl⟩
  · rintro ⟨rfl, rfl⟩
    exact .done result

theorem yields_ask_iff {r : I.Request} {next : Except ChainError (I.Answer r) → Procedure I ε α}
    {result : Except ε α} :
    (ask r next).Yields trace result ↔
      ∃ x rest, trace = ⟨r, x⟩ :: rest ∧ (next x).Yields rest result := by
  constructor
  · intro h
    cases h with
    | ask h => exact ⟨_, _, rfl, h⟩
  · rintro ⟨x, rest, rfl, h⟩
    exact .ask h

/-- A procedure ends where it ends: what it was asked along the start of a trace, and with which
result, is settled by the trace. -/
theorem Yields.unique {p : Procedure I ε α} {front front' rest rest' : List (Exchange I)}
    {result result' : Except ε α} (h : p.Yields front result) (h' : p.Yields front' result')
    (htrace : front ++ rest = front' ++ rest') : front = front' ∧ result = result' := by
  induction h generalizing front' with
  | done result =>
    obtain ⟨rfl, rfl⟩ := yields_done_iff.1 h'
    exact ⟨rfl, rfl⟩
  | ask _ ih =>
    obtain ⟨x, tail, rfl, hnext⟩ := yields_ask_iff.1 h'
    -- the first answers of both are the same, so both go on in the same way
    simp only [List.cons_append, List.cons.injEq, Exchange.mk.injEq, heq_eq_eq, true_and] at htrace
    obtain ⟨rfl, htail⟩ := htrace
    obtain ⟨rfl, hresult⟩ := ih hnext htail
    exact ⟨rfl, hresult⟩

/-- The trace of a sequence is cut where its first part ends, with a value to go on from or with an
error that ends the whole. -/
theorem yields_bind_iff {p : Procedure I ε α} {f : α → Procedure I ε β} {result : Except ε β} :
    (p >>= f).Yields trace result ↔
      (∃ front rest a, trace = front ++ rest ∧ p.Yields front (.ok a) ∧ (f a).Yields rest result) ∨
        ∃ e, p.Yields trace (.error e) ∧ result = .error e := by
  induction p generalizing trace with
  | done x =>
    cases x with
    | error e =>
      refine yields_done_iff.trans ⟨?_, ?_⟩
      · rintro ⟨rfl, rfl⟩
        exact Or.inr ⟨e, .done _, rfl⟩
      · rintro (⟨front, rest, a, -, h, -⟩ | ⟨d, h, rfl⟩)
        · exact absurd (yields_done_iff.1 h).2 nofun
        · obtain ⟨rfl, hd⟩ := yields_done_iff.1 h
          cases hd
          exact ⟨rfl, rfl⟩
    | ok a =>
      constructor
      · intro h
        exact Or.inl ⟨[], trace, a, rfl, .done _, h⟩
      · rintro (⟨front, rest, b, rfl, h, hf⟩ | ⟨e, h, -⟩)
        · obtain ⟨rfl, hb⟩ := yields_done_iff.1 h
          cases hb
          exact hf
        · exact absurd (yields_done_iff.1 h).2 nofun
  | ask r next ih =>
    refine yields_ask_iff.trans ⟨?_, ?_⟩
    · rintro ⟨x, tail, rfl, h⟩
      rcases (ih x).1 h with ⟨front, rest, a, rfl, hp, hf⟩ | ⟨e, hp, rfl⟩
      · exact Or.inl ⟨⟨r, x⟩ :: front, rest, a, rfl, .ask hp, hf⟩
      · exact Or.inr ⟨e, .ask hp, rfl⟩
    · rintro (⟨front, rest, a, rfl, hp, hf⟩ | ⟨e, hp, rfl⟩)
      · obtain ⟨x, tail, rfl, hnext⟩ := yields_ask_iff.1 hp
        exact ⟨x, tail ++ rest, rfl, (ih x).2 (Or.inl ⟨tail, rest, a, rfl, hnext, hf⟩)⟩
      · obtain ⟨x, tail, rfl, hnext⟩ := yields_ask_iff.1 hp
        exact ⟨x, tail, rfl, (ih x).2 (Or.inr ⟨e, hnext, rfl⟩)⟩

theorem yields_bind_ok_iff {p : Procedure I ε α} {f : α → Procedure I ε β} {b : β} :
    (p >>= f).Yields trace (.ok b) ↔
      ∃ front rest a, trace = front ++ rest ∧ p.Yields front (.ok a) ∧
        (f a).Yields rest (.ok b) := by
  rw [yields_bind_iff]
  exact ⟨fun h => h.resolve_right fun ⟨_, _, he⟩ => absurd he nofun, Or.inl⟩

/-- Two ways to the same continuation. -/
theorem yields_branch_ok {c : Prop} [Decidable c] {p q : Procedure I ε α}
    {f : α → Procedure I ε β} {b : β}
    (h : (if c then p >>= f else q >>= f).Yields trace (.ok b)) :
    ∃ front rest a, trace = front ++ rest ∧ (f a).Yields rest (.ok b) := by
  split at h
  · obtain ⟨front, rest, a, rfl, -, hrest⟩ := yields_bind_ok_iff.1 h
    exact ⟨front, rest, a, rfl, hrest⟩
  · obtain ⟨front, rest, a, rfl, -, hrest⟩ := yields_bind_ok_iff.1 h
    exact ⟨front, rest, a, rfl, hrest⟩

/-- A trace ends in one way only. -/
theorem Yields.result_unique {p : Procedure I ε α} {result result' : Except ε α}
    (h : p.Yields trace result) (h' : p.Yields trace result') : result = result' := by
  have hsame : trace ++ [] = trace ++ ([] : List (Exchange I)) := rfl
  exact (h.unique h' hsame).2

/-- Where the first part of a sequence has ended with a value, the rest goes on from there. -/
theorem Yields.bind_iff {p : Procedure I ε α} {f : α → Procedure I ε β} {a : α}
    {front rest : List (Exchange I)} {result : Except ε β} (h : p.Yields front (.ok a)) :
    (p >>= f).Yields (front ++ rest) result ↔ (f a).Yields rest result := by
  constructor
  · intro hboth
    rcases yields_bind_iff.1 hboth with ⟨front', rest', b, htrace, hp, hf⟩ | ⟨e, he, -⟩
    · obtain ⟨rfl, hb⟩ := h.unique hp htrace
      cases hb
      rw [List.append_cancel_left htrace]
      exact hf
    · have hsame : front ++ rest ++ [] = front ++ rest := List.append_nil _
      exact absurd (he.unique h hsame).2 nofun
  · intro hf
    exact yields_bind_iff.2 (Or.inl ⟨front, rest, a, rfl, h, hf⟩)

theorem yields_map_iff {p : Procedure I ε α} {f : α → β} {result : Except ε β} :
    (f <$> p).Yields trace result ↔ ∃ x, p.Yields trace x ∧ result = x.map f := by
  rw [map_eq_bind]
  refine yields_bind_iff.trans ⟨?_, ?_⟩
  · rintro (⟨front, rest, a, rfl, hp, hf⟩ | ⟨e, he, rfl⟩)
    · obtain ⟨rfl, rfl⟩ := yields_done_iff.1 hf
      rw [List.append_nil]
      exact ⟨.ok a, hp, rfl⟩
    · exact ⟨.error e, he, rfl⟩
  · rintro ⟨x, hx, rfl⟩
    cases x with
    | ok a => exact Or.inl ⟨trace, [], a, (List.append_nil _).symm, hx, .done _⟩
    | error e => exact Or.inr ⟨e, hx, rfl⟩

theorem yields_pure_ok_iff {a b : α} :
    (pure a : Procedure I ε α).Yields trace (.ok b) ↔ trace = [] ∧ a = b := by
  rw [pure_eq, yields_done_iff, Except.ok.injEq]

/-- Changing the result of a procedure leaves its traces as they are. -/
theorem yields_onResult_iff {δ : Type} {p : Procedure I ε α} {f : Except ε α → Procedure I δ β}
    {result : Except δ β} (change : Except ε α → Except δ β) (hf : ∀ x, f x = done (change x)) :
    (p.onResult f).Yields trace result ↔ ∃ x, p.Yields trace x ∧ change x = result := by
  induction p generalizing trace with
  | done x =>
    rw [onResult, hf, yields_done_iff]
    constructor
    · rintro ⟨rfl, hx⟩
      exact ⟨x, .done _, hx⟩
    · rintro ⟨y, h, hy⟩
      obtain ⟨rfl, rfl⟩ := yields_done_iff.1 h
      exact ⟨rfl, hy⟩
  | ask r next ih =>
    refine yields_ask_iff.trans ⟨?_, ?_⟩
    · rintro ⟨x, rest, rfl, h⟩
      obtain ⟨y, hp, hy⟩ := (ih x).1 h
      exact ⟨y, .ask hp, hy⟩
    · rintro ⟨y, hp, hy⟩
      obtain ⟨x, rest, rfl, hnext⟩ := yields_ask_iff.1 hp
      exact ⟨x, rest, rfl, (ih x).2 ⟨y, hnext, hy⟩⟩

theorem yields_attempt_iff {δ : Type} {p : Procedure I ε α} {result : Except ε α} :
    (p.attempt : Procedure I δ (Except ε α)).Yields trace (.ok result) ↔ p.Yields trace result := by
  rw [attempt, yields_onResult_iff Except.ok fun _ => rfl]
  simp

theorem yields_request_iff {wrap : ChainError → ε} {r : I.Request}
    {result : Except ε (I.Answer r)} :
    (request wrap r).Yields trace result ↔
      ∃ x, trace = [⟨r, x⟩] ∧ result = x.mapError wrap := by
  constructor
  · intro h
    obtain ⟨x, rest, rfl, hrest⟩ := yields_ask_iff.1 h
    cases x with
    | error e =>
      obtain ⟨rfl, rfl⟩ := yields_done_iff.1 hrest
      exact ⟨.error e, rfl, rfl⟩
    | ok a =>
      obtain ⟨rfl, rfl⟩ := yields_done_iff.1 hrest
      exact ⟨.ok a, rfl, rfl⟩
  · rintro ⟨x, rfl, rfl⟩
    cases x with
    | error e => exact .ask (.done _)
    | ok a => exact .ask (.done _)

theorem yields_request_ok_iff {wrap : ChainError → ε} {r : I.Request} {a : I.Answer r} :
    (request wrap r).Yields trace (.ok a) ↔ trace = [⟨r, .ok a⟩] := by
  rw [yields_request_iff]
  constructor
  · rintro ⟨x, rfl, hx⟩
    cases x with
    | error e => cases hx
    | ok b =>
      cases hx
      rfl
  · rintro rfl
    exact ⟨.ok a, rfl, rfl⟩

/-! ## Handlers -/

section Handler

variable {σ : Type} (handle : (r : I.Request) → StateM σ (Except ChainError (I.Answer r)))

/-- The answers of a trace are those of a handler that goes from one state to another. -/
inductive Follows : σ → List (Exchange I) → σ → Prop where
  | nil (w : σ) : Follows w [] w
  | cons {w w' : σ} {r : I.Request} {trace : List (Exchange I)} :
      Follows (handle r w).2 trace w' → Follows w (⟨r, (handle r w).1⟩ :: trace) w'

variable {handle}

/-- Running a procedure against a handler is following one of its traces. -/
theorem run_eq_iff {p : Procedure I ε α} {w w' : σ} {result : Except ε α} :
    p.run handle w = (result, w') ↔ ∃ trace, p.Yields trace result ∧ Follows handle w trace w' := by
  induction p generalizing w with
  | done x =>
    constructor
    · intro h
      cases h
      exact ⟨[], .done _, .nil _⟩
    · rintro ⟨trace, hp, hw⟩
      obtain ⟨rfl, rfl⟩ := yields_done_iff.1 hp
      cases hw
      rfl
  | ask r next ih =>
    constructor
    · intro h
      obtain ⟨trace, hp, hw⟩ := (ih (handle r w).1).1 h
      exact ⟨⟨r, (handle r w).1⟩ :: trace, .ask hp, .cons hw⟩
    · rintro ⟨trace, hp, hw⟩
      obtain ⟨x, rest, rfl, hnext⟩ := yields_ask_iff.1 hp
      cases hw with
      | cons hw => exact (ih _).2 ⟨rest, hnext, hw⟩

variable (handle) in
/-- The exchanges that a handler has part in, whatever its state. -/
def Answers (e : Exchange I) : Prop := ∃ w, e.answer = (handle e.request w).1

theorem Follows.answers {w w' : σ} (hw : Follows handle w trace w') :
    ∀ e ∈ trace, Answers handle e := by
  induction hw with
  | nil w => exact nofun
  | @cons w w' r trace _ ih => exact List.forall_mem_cons.2 ⟨⟨w, rfl⟩, ih⟩

end Handler

/-! ## Fixed answers -/

section Walk

/-- The trace and the result of a procedure, where each request has one answer. -/
def walk (answer : (r : I.Request) → Except ChainError (I.Answer r)) :
    Procedure I ε α → List (Exchange I) × Except ε α
  | done result => ([], result)
  | ask r next =>
    let rest := (next (answer r)).walk answer
    (⟨r, answer r⟩ :: rest.1, rest.2)

variable (answer : (r : I.Request) → Except ChainError (I.Answer r))

theorem yields_walk (p : Procedure I ε α) : p.Yields (p.walk answer).1 (p.walk answer).2 := by
  induction p with
  | done result => exact .done result
  | ask r next ih => exact .ask (ih (answer r))

theorem answer_of_mem_walk (p : Procedure I ε α) :
    ∀ e ∈ (p.walk answer).1, e.answer = answer e.request := by
  induction p with
  | done result => exact nofun
  | ask r next ih => exact List.forall_mem_cons.2 ⟨rfl, ih (answer r)⟩

/-- The result of a procedure, where each request has one answer. -/
def resultOn (p : Procedure I ε α) : Except ε α := (p.walk answer).2

@[simp] theorem resultOn_done (result : Except ε α) :
    resultOn answer (done result : Procedure I ε α) = result := rfl

theorem resultOn_bind (p : Procedure I ε α) (f : α → Procedure I ε β) :
    resultOn answer (p >>= f) = resultOn answer p >>= fun a => resultOn answer (f a) := by
  induction p with
  | done result => cases result <;> rfl
  | ask r next ih => exact ih (answer r)

theorem resultOn_request (wrap : ChainError → ε) (r : I.Request) :
    resultOn answer (request wrap r) = (answer r).mapError wrap := by
  rw [request, resultOn, walk]
  cases answer r <;> rfl

variable {answer}

/-- The walk is the only trace with these answers. -/
theorem Yields.eq_walk {p : Procedure I ε α} {result : Except ε α} (h : p.Yields trace result)
    (hall : ∀ e ∈ trace, e.answer = answer e.request) : p.walk answer = (trace, result) := by
  induction h with
  | done result => rfl
  | ask _ ih =>
    obtain ⟨hfirst, hrest⟩ := List.forall_mem_cons.1 hall
    dsimp only at hfirst
    rw [walk, ← hfirst, ih hrest]

end Walk

/-! ## Success -/

/-- Every trace of allowed exchanges ends with a value of the kind `Q`. -/
def Succeeds (allowed : Exchange I → Prop) (p : Procedure I ε α) (Q : α → Prop) : Prop :=
  ∀ trace result, p.Yields trace result → (∀ e ∈ trace, allowed e) → ∃ a, result = .ok a ∧ Q a

section Success

variable {allowed : Exchange I → Prop} {Q : α → Prop} {R : β → Prop}

theorem succeeds_pure {a : α} (h : Q a) : Succeeds allowed (pure a : Procedure I ε α) Q := by
  intro trace result hp _
  obtain ⟨-, rfl⟩ := yields_done_iff.1 hp
  exact ⟨a, rfl, h⟩

theorem succeeds_bind {p : Procedure I ε α} {f : α → Procedure I ε β} (hp : Succeeds allowed p Q)
    (hf : ∀ a, Q a → Succeeds allowed (f a) R) : Succeeds allowed (p >>= f) R := by
  intro trace result h hall
  rcases yields_bind_iff.1 h with ⟨front, rest, a, rfl, hfront, hrest⟩ | ⟨e, he, -⟩
  · rw [List.forall_mem_append] at hall
    obtain ⟨b, hb, hQ⟩ := hp _ _ hfront hall.1
    cases hb
    exact hf a hQ _ _ hrest hall.2
  · obtain ⟨b, hb, -⟩ := hp _ _ he hall
    cases hb

theorem succeeds_request {wrap : ChainError → ε} {r : I.Request} {Q : I.Answer r → Prop}
    (h : ∀ x, allowed ⟨r, x⟩ → ∃ a, x = .ok a ∧ Q a) : Succeeds allowed (request wrap r) Q := by
  intro trace result hp hall
  obtain ⟨x, rfl, rfl⟩ := yields_request_iff.1 hp
  obtain ⟨a, rfl, ha⟩ := h x (hall _ List.mem_cons_self)
  exact ⟨a, rfl, ha⟩

/-- A walk along a list succeeds if every step keeps what it needs to start from. -/
theorem succeeds_foldlM {f : β → α → Procedure I ε β} {as : List α} {b : β} (hb : R b)
    (h : ∀ b a, R b → Succeeds allowed (f b a) R) : Succeeds allowed (as.foldlM f b) R := by
  induction as generalizing b with
  | nil => exact succeeds_pure hb
  | cons a rest ih =>
    rw [List.foldlM_cons]
    exact succeeds_bind (h b a hb) fun c hc => ih hc

theorem succeeds_mapM {f : α → Procedure I ε β} {as : List α}
    (h : ∀ a, Succeeds allowed (f a) R) :
    Succeeds allowed (as.mapM f) fun bs => ∀ b ∈ bs, R b := by
  induction as with
  | nil =>
    rw [List.mapM_nil]
    exact succeeds_pure nofun
  | cons a rest ih =>
    rw [List.mapM_cons]
    refine succeeds_bind (h a) fun b hb => succeeds_bind ih fun bs hbs => succeeds_pure ?_
    exact List.forall_mem_cons.2 ⟨hb, hbs⟩

/-- Against a handler, a procedure that succeeds on the handler's exchanges returns a value of its
kind. -/
theorem Succeeds.run {σ : Type}
    {handle : (r : I.Request) → StateM σ (Except ChainError (I.Answer r))}
    {p : Procedure I ε α} (hp : Succeeds (Answers handle) p Q) (w : σ) :
    ∃ a, (p.run handle w).1 = .ok a ∧ Q a := by
  have hrun : p.run handle w = ((p.run handle w).1, (p.run handle w).2) := rfl
  obtain ⟨trace, htrace, hw⟩ := run_eq_iff.1 hrun
  exact hp _ _ htrace hw.answers

end Success

/-! ## Values -/

/-- A value at the end of a trace of allowed exchanges is of the kind `Q`; the procedure may also
end with an error. -/
def Ensures (allowed : Exchange I → Prop) (p : Procedure I ε α) (Q : α → Prop) : Prop :=
  ∀ trace a, p.Yields trace (.ok a) → (∀ e ∈ trace, allowed e) → Q a

section Values

variable {allowed : Exchange I → Prop} {Q : α → Prop} {R : β → Prop}

theorem ensures_true {p : Procedure I ε α} : Ensures allowed p fun _ => True :=
  fun _ _ _ _ => trivial

theorem ensures_pure {a : α} (h : Q a) : Ensures allowed (pure a : Procedure I ε α) Q := by
  intro trace b hp _
  obtain ⟨-, rfl⟩ := yields_pure_ok_iff.1 hp
  exact h

theorem ensures_done {x : Except ε α} (h : ∀ a, x = .ok a → Q a) :
    Ensures allowed (done x : Procedure I ε α) Q := by
  intro trace a hp _
  exact h a (yields_done_iff.1 hp).2

theorem ensures_bind {p : Procedure I ε α} {f : α → Procedure I ε β} (hp : Ensures allowed p Q)
    (hf : ∀ a, Q a → Ensures allowed (f a) R) : Ensures allowed (p >>= f) R := by
  intro trace b h hall
  obtain ⟨front, rest, a, rfl, hfront, hrest⟩ := yields_bind_ok_iff.1 h
  rw [List.forall_mem_append] at hall
  exact hf a (hp _ _ hfront hall.1) _ _ hrest hall.2

theorem ensures_request {wrap : ChainError → ε} {r : I.Request} {Q : I.Answer r → Prop}
    (h : ∀ a, allowed ⟨r, .ok a⟩ → Q a) : Ensures allowed (request wrap r) Q := by
  intro trace a hp hall
  obtain rfl := yields_request_ok_iff.1 hp
  exact h a (hall _ List.mem_cons_self)

/-- A walk along a list ensures of each value what its step ensures. -/
theorem ensures_mapM {f : α → Procedure I ε β} {as : List α} {Q : α → β → Prop}
    (h : ∀ a, Ensures allowed (f a) (Q a)) : Ensures allowed (as.mapM f) (List.Forall₂ Q as) := by
  induction as with
  | nil =>
    rw [List.mapM_nil]
    exact ensures_pure .nil
  | cons a rest ih =>
    rw [List.mapM_cons]
    exact ensures_bind (h a) fun b hb => ensures_bind ih fun bs hbs => ensures_pure (.cons hb hbs)

end Values

/-! ## Requests -/

/-- Every request that the procedure may ask, whatever it is answered, is of the kind `P`. -/
inductive Asks (P : I.Request → Prop) : Procedure I ε α → Prop where
  | done (result : Except ε α) : Asks P (.done result)
  | ask {r : I.Request} {next : Except ChainError (I.Answer r) → Procedure I ε α} (hr : P r)
      (hnext : ∀ x, Asks P (next x)) : Asks P (.ask r next)

section Requests

variable {P : I.Request → Prop}

theorem Asks.mono {Q : I.Request → Prop} {p : Procedure I ε α} (hp : Asks P p)
    (h : ∀ r, P r → Q r) : Asks Q p := by
  induction hp with
  | done result => exact .done result
  | ask hr _ ih => exact .ask (h _ hr) ih

theorem asks_bind {p : Procedure I ε α} {f : α → Procedure I ε β} (hp : Asks P p)
    (hf : ∀ a, Asks P (f a)) : Asks P (p >>= f) := by
  induction hp with
  | done result =>
    cases result with
    | ok a => exact hf a
    | error e => exact .done _
  | ask hr _ ih => exact .ask hr ih

/-- Two ways to the same continuation. -/
theorem asks_branch {c : Prop} [Decidable c] {p q : Procedure I ε α} {f : α → Procedure I ε β}
    (hp : Asks P p) (hq : Asks P q) (hf : ∀ a, Asks P (f a)) :
    Asks P (if c then p >>= f else q >>= f) := by
  split
  · exact asks_bind hp hf
  · exact asks_bind hq hf

theorem asks_onResult {δ : Type} {p : Procedure I ε α} {f : Except ε α → Procedure I δ β}
    (hp : Asks P p) (hf : ∀ x, Asks P (f x)) : Asks P (p.onResult f) := by
  induction hp with
  | done result => exact hf result
  | ask hr _ ih => exact .ask hr ih

/-- What a trace shows of the requests of a procedure. -/
theorem Asks.forall_mem {p : Procedure I ε α} {result : Except ε α} (hp : Asks P p)
    (h : p.Yields trace result) : ∀ e ∈ trace, P e.request := by
  induction h with
  | done result => exact nofun
  | ask _ ih =>
    cases hp with
    | ask hr hnext => exact List.forall_mem_cons.2 ⟨hr, ih (hnext _)⟩

/-- Where a handler answers all requests of a kind without regard to its state, a procedure that
asks for nothing else has one result. -/
theorem Asks.run_eq_resultOn {σ : Type}
    {handle : (r : I.Request) → StateM σ (Except ChainError (I.Answer r))}
    {answer : (r : I.Request) → Except ChainError (I.Answer r)} {p : Procedure I ε α}
    (hp : Asks P p) (hfixed : ∀ r, P r → ∀ w, (handle r w).1 = answer r) (w : σ) :
    (p.run handle w).1 = resultOn answer p := by
  induction hp generalizing w with
  | done result => rfl
  | @ask r next hr _ ih =>
    have hrun : ((Procedure.ask r next).run handle w).1 =
        ((next (handle r w).1).run handle (handle r w).2).1 := rfl
    rw [hrun, ih, hfixed r hr w]
    rfl

theorem asks_request {wrap : ChainError → ε} {r : I.Request} (hr : P r) :
    Asks P (request wrap r) := by
  refine .ask hr fun x => ?_
  cases x <;> exact .done _

theorem asks_mapM {f : α → Procedure I ε β} (h : ∀ a, Asks P (f a)) (as : List α) :
    Asks P (as.mapM f) := by
  induction as with
  | nil =>
    rw [List.mapM_nil]
    exact .done _
  | cons a rest ih =>
    rw [List.mapM_cons]
    exact asks_bind (h a) fun b => asks_bind ih fun bs => .done _

theorem asks_forM {f : α → Procedure I ε PUnit} (h : ∀ a, Asks P (f a)) (as : List α) :
    Asks P (as.forM f) := by
  induction as with
  | nil => exact .done _
  | cons a rest ih => exact asks_bind (h a) fun _ => ih

end Requests

/-! ## Faults -/

/-- No trace ends with a fault. -/
def Unbroken (p : Procedure I (Failure ε) α) : Prop :=
  ∀ trace fault, ¬p.Yields trace (.error (.broken fault))

section Faults

theorem unbroken_done {x : Attempt ε α} (h : ∀ fault, x ≠ .error (.broken fault)) :
    Unbroken (done x : Procedure I (Failure ε) α) := by
  intro trace fault hx
  exact h fault (yields_done_iff.1 hx).2

theorem unbroken_bind {p : Procedure I (Failure ε) α} {f : α → Procedure I (Failure ε) β}
    (hp : Unbroken p) (hf : ∀ a, Unbroken (f a)) : Unbroken (p >>= f) := by
  intro trace fault h
  rcases yields_bind_iff.1 h with ⟨front, rest, a, -, -, hrest⟩ | ⟨e, he, heq⟩
  · exact hf a rest fault hrest
  · cases heq
    exact hp trace fault he

theorem unbroken_request {wrap : ChainError → ε} {r : I.Request} :
    Unbroken (request (fun e => Failure.refused (wrap e)) r : Procedure I (Failure ε) _) := by
  intro trace fault h
  obtain ⟨x, -, hx⟩ := yields_request_iff.1 h
  cases x <;> cases hx

theorem unbroken_mapM {f : α → Procedure I (Failure ε) β} (h : ∀ a, Unbroken (f a))
    (as : List α) : Unbroken (as.mapM f) := by
  induction as with
  | nil =>
    rw [List.mapM_nil]
    exact unbroken_done nofun
  | cons a rest ih =>
    rw [List.mapM_cons]
    exact unbroken_bind (h a) fun b => unbroken_bind ih fun bs => unbroken_done nofun

/-- The procedure breaks off only where `P` holds, and a value of it is of the kind `Q`. -/
def Ends (P : Prop) (Q : α → Prop) (p : Procedure I (Failure ε) α) : Prop :=
  ∀ trace result, p.Yields trace result → Attempt.Ends P Q result

section Ends

variable {P : Prop} {Q : α → Prop} {R : β → Prop}

theorem ends_done {x : Attempt ε α} (hx : Attempt.Ends P Q x) :
    Ends P Q (done x : Procedure I (Failure ε) α) := by
  intro trace result h
  obtain ⟨-, rfl⟩ := yields_done_iff.1 h
  exact hx

theorem Ends.imp {P' : Prop} {p : Procedure I (Failure ε) α} (hp : Ends P Q p) (h : P → P') :
    Ends P' Q p :=
  fun trace result hyields => (hp trace result hyields).imp h

theorem Unbroken.ends {p : Procedure I (Failure ε) α} (hp : Unbroken p) :
    Ends P (fun _ => True) p := by
  intro trace result h
  constructor
  case broken =>
    rintro fault rfl
    exact absurd h (hp trace fault)
  case ok => exact fun _ _ => trivial

theorem ends_bind {p : Procedure I (Failure ε) α} {f : α → Procedure I (Failure ε) β}
    (hp : Ends P Q p) (hf : ∀ a, Q a → Ends P R (f a)) : Ends P R (p >>= f) := by
  intro trace result h
  rcases yields_bind_iff.1 h with ⟨front, rest, a, rfl, hfront, hrest⟩ | ⟨failure, he, rfl⟩
  · exact hf a ((hp _ _ hfront).ok a rfl) rest result hrest
  · constructor
    case broken =>
      intro fault hbroken
      cases hbroken
      exact (hp _ _ he).broken fault rfl
    case ok => exact nofun

/-- Two ways to the same continuation. -/
theorem ends_branch {c : Prop} [Decidable c] {p q : Procedure I (Failure ε) α}
    {f : α → Procedure I (Failure ε) β} (hp : Ends P Q p) (hq : Ends P Q q)
    (hf : ∀ a, Q a → Ends P R (f a)) : Ends P R (if c then p >>= f else q >>= f) := by
  split
  · exact ends_bind hp hf
  · exact ends_bind hq hf

/-- A computation comes first, and the trace is that of what goes on from its value. -/
theorem ends_compute {x : Attempt ε α} {f : α → Procedure I (Failure ε) β}
    {trace : List (Exchange I)} {result : Except (Failure ε) β}
    (h : ((done x : Procedure I (Failure ε) α) >>= f).Yields trace result)
    (hx : Attempt.Ends P Q x)
    (hf : ∀ a, Q a → (f a).Yields trace result → Attempt.Ends P R result) :
    Attempt.Ends P R result := by
  rcases x with failure | a
  · obtain ⟨-, rfl⟩ := yields_done_iff.1 h
    constructor
    case broken =>
      intro fault hbroken
      cases hbroken
      exact hx.broken fault rfl
    case ok => exact nofun
  · exact hf a (hx.ok a rfl) h

/-- Where a trace starts with one of a procedure with this value, and goes on with `rest`. -/
def After (p : Procedure I (Failure ε) α) (trace : List (Exchange I)) (a : α)
    (rest : List (Exchange I)) : Prop :=
  ∃ front, trace = front ++ rest ∧ p.Yields front (.ok a)

theorem After.unique {p : Procedure I (Failure ε) α} {trace rest rest' : List (Exchange I)}
    {a a' : α} (h : After p trace a rest) (h' : After p trace a' rest') :
    a = a' ∧ rest = rest' := by
  obtain ⟨front, rfl, hfront⟩ := h
  obtain ⟨front', htrace, hfront'⟩ := h'
  obtain ⟨rfl, ha⟩ := hfront.unique hfront' htrace
  exact ⟨Except.ok.inj ha, List.append_cancel_left htrace⟩

theorem After.not_yields_error {p : Procedure I (Failure ε) α} {trace rest : List (Exchange I)}
    {a : α} {failure : Failure ε} (h : After p trace a rest) :
    ¬p.Yields trace (.error failure) := by
  obtain ⟨front, rfl, hfront⟩ := h
  intro herror
  exact absurd (hfront.unique herror (List.append_nil _).symm).2 nofun

/-- The first part breaks off on its own, or it gives a value, from which the second part goes
on. -/
theorem ends_after {p : Procedure I (Failure ε) α} {f : α → Procedure I (Failure ε) β}
    {P : α → List (Exchange I) → Prop} {Q : α → List (Exchange I) → β → Prop}
    {trace : List (Exchange I)} {result : Except (Failure ε) β}
    (h : (p >>= f).Yields trace result)
    (hf : ∀ a rest, (f a).Yields rest result → Attempt.Ends (P a rest) (Q a rest) result) :
    Attempt.Ends
      ((∃ fault, p.Yields trace (.error (.broken fault))) ∨
        ∃ a rest, After p trace a rest ∧ P a rest)
      (fun b => ∃ a rest, After p trace a rest ∧ Q a rest b) result := by
  rcases yields_bind_iff.1 h with ⟨front, rest, a, rfl, hfront, hrest⟩ | ⟨failure, he, rfl⟩
  · have hafter : After p (front ++ rest) a rest := ⟨front, rfl, hfront⟩
    refine (hf a rest hrest).mono ?_ ?_
    · exact fun hP => Or.inr ⟨a, rest, hafter, hP⟩
    · exact fun b _ hQ => ⟨a, rest, hafter, hQ⟩
  · constructor
    case broken =>
      intro fault hbroken
      cases hbroken
      exact Or.inl ⟨fault, he⟩
    case ok => exact nofun

end Ends

end Faults

end Procedure

/-! ## Lifted computations -/

section Lift

variable {α : Type} {trace : List (Exchange Chain)} {a : α}

theorem yields_liftM_ok_iff {x : Attempt Error α} :
    (liftM x : ChainProcedure α).Yields trace (.ok a) ↔ trace = [] ∧ x = .ok a :=
  Procedure.yields_done_iff

theorem yields_liftM_trove_ok_iff {x : Attempt TroveError α} :
    (liftM x : ChainProcedure α).Yields trace (.ok a) ↔ trace = [] ∧ x = .ok a :=
  Procedure.yields_done_iff.trans (and_congr_right' Attempt.mapCause_eq_ok_iff)

theorem yields_liftM_faulty_ok_iff {x : Except Fault α} :
    (liftM x : ChainProcedure α).Yields trace (.ok a) ↔ trace = [] ∧ x = .ok a :=
  Procedure.yields_done_iff.trans (and_congr_right'
    (Attempt.mapCause_eq_ok_iff.trans Attempt.ofFaulty_eq_ok_iff))

theorem yields_readAt_ok_iff {query : Query} {tag : BlockTag} {answer : query.Answer} :
    (readAt query tag).Yields trace (.ok answer) ↔ trace = [⟨.read query tag, .ok answer⟩] :=
  Procedure.yields_request_ok_iff

end Lift

end Cdp
