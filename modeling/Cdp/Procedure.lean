import Cdp.Attempt
import Cdp.Chain.Error

/-!
# Procedures

A procedure is a computation that asks requests one after another and goes on with the answers. It
is a value: a tree whose nodes are requests and whose branches are their possible answers, failures
included. What a procedure asks and what it makes of any answers can therefore be stated without
a chain, and the same procedure runs against a node, against tables or through a cache.

`run` walks a procedure along the answers of a handler. `redirect` replaces every request by a
procedure over other requests. The monad laws hold.
-/

set_option autoImplicit false

namespace Cdp

/-- The requests of an interface, and the type of the answer to each. -/
structure Interface where
  Request : Type
  Answer : Request → Type

/-- A computation over an interface that ends with a value or an error. -/
inductive Procedure (I : Interface) (ε α : Type) where
  | done (result : Except ε α)
  | ask (request : I.Request) (next : Except ChainError (I.Answer request) → Procedure I ε α)

namespace Procedure

variable {I J : Interface} {ε δ α β γ : Type}

/-- Goes on with the value of a procedure; an error ends the whole. -/
def bind : Procedure I ε α → (α → Procedure I ε β) → Procedure I ε β
  | done (.ok a), f => f a
  | done (.error e), _ => done (.error e)
  | ask r next, f => ask r fun x => (next x).bind f

instance : Monad (Procedure I ε) where
  pure a := done (.ok a)
  bind := bind

/-- Ends with an error. -/
def fail (e : ε) : Procedure I ε α := done (.error e)

instance : MonadLift (Except ε) (Procedure I ε) := ⟨done⟩

/-- Goes on with the result of a procedure, whichever it is. -/
def onResult : Procedure I ε α → (Except ε α → Procedure I δ β) → Procedure I δ β
  | done result, f => f result
  | ask r next, f => ask r fun x => (next x).onResult f

/-- Makes the result of a procedure its value. -/
def attempt (p : Procedure I ε α) : Procedure I δ (Except ε α) :=
  p.onResult fun result => done (.ok result)

/-- Asks one request and ends with its failure, in the caller's words, if it fails. -/
def request (wrap : ChainError → ε) (r : I.Request) : Procedure I ε (I.Answer r) :=
  ask r fun
    | .ok a => done (.ok a)
    | .error e => done (.error (wrap e))

/-- Runs a procedure against a handler of its requests. -/
def run {m : Type → Type} [Monad m]
    (handle : (r : I.Request) → m (Except ChainError (I.Answer r))) :
    Procedure I ε α → m (Except ε α)
  | done result => pure result
  | ask r next => handle r >>= fun x => (next x).run handle

/-- Replaces every request by a procedure over another interface. -/
def redirect (handle : (r : I.Request) → Procedure J ChainError (I.Answer r)) :
    Procedure I ε α → Procedure J ε α
  | done result => done result
  | ask r next => (handle r).onResult fun x => (next x).redirect handle

/-! ## Laws -/

@[simp] theorem pure_eq (a : α) : (pure a : Procedure I ε α) = done (.ok a) := rfl

@[simp] theorem bind_eq (p : Procedure I ε α) (f : α → Procedure I ε β) : p >>= f = p.bind f := rfl

@[simp] theorem bind_done_ok (a : α) (f : α → Procedure I ε β) : (done (.ok a)).bind f = f a := rfl

@[simp] theorem bind_done_error (e : ε) (f : α → Procedure I ε β) :
    (done (.error e) : Procedure I ε α).bind f = done (.error e) := rfl

theorem bind_pure_right (p : Procedure I ε α) : p.bind (fun a => done (.ok a)) = p := by
  induction p with
  | done result => cases result <;> rfl
  | ask r next ih => exact congrArg (ask r) (funext ih)

theorem bind_assoc (p : Procedure I ε α) (f : α → Procedure I ε β) (g : β → Procedure I ε γ) :
    (p.bind f).bind g = p.bind fun a => (f a).bind g := by
  induction p with
  | done result => cases result <;> rfl
  | ask r next ih => exact congrArg (ask r) (funext ih)

theorem map_eq_bind (f : α → β) (p : Procedure I ε α) :
    f <$> p = p.bind fun a => done (.ok (f a)) := rfl

instance : LawfulMonad (Procedure I ε) :=
  LawfulMonad.mk' (Procedure I ε) bind_pure_right (fun _ _ => rfl) bind_assoc

end Procedure

end Cdp
