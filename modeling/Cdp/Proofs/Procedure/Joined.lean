import Cdp.Proofs.Procedure.Trace

/-!
# Joined procedures

A procedure asks its requests one after another. Where a computation joins several parts, they are
on their way side by side, and their exchanges come in any order that keeps the order within each
part. `Joined` is a computation with joined parts, and `Runs` says along which traces it goes; the
procedure that does one part after the other is `sequential`.

The order makes no difference to what is asked or to the value: a run that succeeds has the
exchanges of a sequential one, which has the same value (`Runs.exists_order`), and the sequential
order is one of those that a run may take (`runs_of_yields`). A join ends with the first failure and
drops what the other parts have not asked yet, so runs that fail may ask different requests and
report different failures. Where each request has one answer, though, either all runs fail or all
have the same value (`Runs.toOption_eq`).
-/

set_option autoImplicit false

namespace Cdp

open Procedure

/-! ## Interleaving -/

/-- A list has the elements of two others, each in its order. -/
inductive Interleaves {α : Type} : List α → List α → List α → Prop where
  | nil : Interleaves [] [] []
  | left (a : α) {as bs cs : List α} (h : Interleaves as bs cs) :
      Interleaves (a :: as) bs (a :: cs)
  | right (b : α) {as bs cs : List α} (h : Interleaves as bs cs) :
      Interleaves as (b :: bs) (b :: cs)

namespace Interleaves

variable {α : Type} {as bs cs : List α}

theorem append (as bs : List α) : Interleaves as bs (as ++ bs) := by
  induction as with
  | cons a as ih => exact .left a ih
  | nil =>
    induction bs with
    | nil => exact .nil
    | cons b bs ih => exact .right b ih

theorem perm (h : Interleaves as bs cs) : (as ++ bs).Perm cs := by
  induction h with
  | nil => exact .nil
  | left a _ ih => exact ih.cons a
  | right b _ ih => exact List.perm_middle.trans (ih.cons b)

theorem forall_mem {P : α → Prop} (h : Interleaves as bs cs) (hcs : ∀ c ∈ cs, P c) :
    (∀ a ∈ as, P a) ∧ ∀ b ∈ bs, P b := by
  rw [← List.forall_mem_append]
  exact fun x hx => hcs x (h.perm.mem_iff.1 hx)

end Interleaves

/-! ## Computations with joined parts -/

/-- A computation that may join parts. -/
inductive Joined (I : Interface) (ε : Type) : Type → Type 1 where
  | procedure {α : Type} (p : Procedure I ε α) : Joined I ε α
  | andThen {α β : Type} (m : Joined I ε α) (f : α → Joined I ε β) : Joined I ε β
  | both {α β : Type} (m : Joined I ε α) (n : Joined I ε β) : Joined I ε (α × β)

namespace Joined

variable {I : Interface} {ε α β : Type}

/-- A value that needs no request. -/
def value (a : α) : Joined I ε α := procedure (pure a)

/-- Joins a list of parts. -/
def all : List (Joined I ε α) → Joined I ε (List α)
  | [] => value []
  | m :: rest => (both m (all rest)).andThen fun (a, others) => value (a :: others)

/-- The procedure that does one part after the other. -/
def sequential {α : Type} : Joined I ε α → Procedure I ε α
  | procedure p => p
  | andThen m f => m.sequential >>= fun a => (f a).sequential
  | both m n => do
    let a ← m.sequential
    let b ← n.sequential
    return (a, b)

/-- What becomes of two parts that are joined; nothing is known of a part that is dropped. -/
inductive Meets : Option (Except ε α) → Option (Except ε β) → Option (Except ε (α × β)) → Prop where
  | values (a : α) (b : β) : Meets (some (.ok a)) (some (.ok b)) (some (.ok (a, b)))
  | first (e : ε) (y : Option (Except ε β)) : Meets (some (.error e)) y (some (.error e))
  | second (x : Option (Except ε α)) (e : ε) : Meets x (some (.error e)) (some (.error e))
  | dropped (x : Option (Except ε α)) (y : Option (Except ε β)) : Meets x y none

/-- What may become of a computation along a trace: it ends with a result, or it is dropped on the
way. -/
def Runs {α : Type} : Joined I ε α → List (Exchange I) → Option (Except ε α) → Prop
  | procedure p, trace, some result => p.Yields trace result
  | procedure p, trace, none => ∃ rest result, p.Yields (trace ++ rest) result
  | andThen m f, trace, x =>
    (∃ front rest a, trace = front ++ rest ∧ m.Runs front (some (.ok a)) ∧ (f a).Runs rest x) ∨
      (∃ e, m.Runs trace (some (.error e)) ∧ x = some (.error e)) ∨
      m.Runs trace none ∧ x = none
  | both m n, trace, z =>
    ∃ left right x y, Interleaves left right trace ∧ m.Runs left x ∧ n.Runs right y ∧ Meets x y z

variable {m : Joined I ε α} {trace : List (Exchange I)}

@[simp] theorem sequential_procedure (p : Procedure I ε α) : (procedure p).sequential = p := rfl

@[simp] theorem sequential_value (a : α) : (value a : Joined I ε α).sequential = pure a := rfl

@[simp] theorem sequential_andThen (m : Joined I ε α) (f : α → Joined I ε β) :
    (m.andThen f).sequential = m.sequential >>= fun a => (f a).sequential := rfl

@[simp] theorem sequential_both (m : Joined I ε α) (n : Joined I ε β) :
    (both m n).sequential = m.sequential >>= fun a => n.sequential >>= fun b => pure (a, b) := rfl

@[simp] theorem sequential_all (parts : List β) (f : β → Joined I ε α) :
    (all (parts.map f)).sequential = parts.mapM fun b => (f b).sequential := by
  induction parts with
  | nil => rfl
  | cons b rest ih => simp [all, ih, Procedure.bind_assoc]

/-! ## The order of the exchanges -/

/-- A run that succeeds has the exchanges of a sequential one with the same value. -/
theorem Runs.exists_order {a : α} (h : m.Runs trace (some (.ok a))) :
    ∃ order, order.Perm trace ∧ m.sequential.Yields order (.ok a) := by
  induction m generalizing trace with
  | procedure p => exact ⟨trace, .refl _, h⟩
  | andThen m f ihm ihf =>
    rcases h with ⟨front, rest, b, rfl, hm, hf⟩ | ⟨e, -, heq⟩ | ⟨-, heq⟩
    · obtain ⟨first, hfirst, hm⟩ := ihm hm
      obtain ⟨second, hsecond, hf⟩ := ihf b hf
      exact ⟨_, hfirst.append hsecond, yields_bind_ok_iff.2 ⟨_, _, b, rfl, hm, hf⟩⟩
    · cases heq
    · cases heq
  | both m n ihm ihn =>
    obtain ⟨left, right, x, y, hsides, hm, hn, hmeets⟩ := h
    cases hmeets with
    | values a b =>
      obtain ⟨first, hfirst, hm⟩ := ihm hm
      obtain ⟨second, hsecond, hn⟩ := ihn hn
      refine ⟨_, (hfirst.append hsecond).trans hsides.perm, ?_⟩
      refine yields_bind_ok_iff.2 ⟨_, _, a, rfl, hm, ?_⟩
      exact yields_bind_ok_iff.2 ⟨_, [], b, (List.append_nil _).symm, hn, .done _⟩

/-- A computation may be dropped before it has asked anything. -/
theorem runs_nil_none (m : Joined I ε α) : m.Runs [] none := by
  induction m with
  | procedure p => exact ⟨_, _, yields_walk (fun _ => .error (.transport "")) p⟩
  | andThen m f ihm _ => exact Or.inr (Or.inr ⟨ihm, rfl⟩)
  | both m n ihm ihn => exact ⟨[], [], none, none, .nil, ihm, ihn, .dropped _ _⟩

/-- A sequential run is a run. -/
theorem runs_of_yields {result : Except ε α} (h : m.sequential.Yields trace result) :
    m.Runs trace (some result) := by
  induction m generalizing trace with
  | procedure p => exact h
  | andThen m f ihm ihf =>
    rcases yields_bind_iff.1 h with ⟨front, rest, a, rfl, hm, hf⟩ | ⟨e, he, rfl⟩
    · exact Or.inl ⟨front, rest, a, rfl, ihm hm, ihf a hf⟩
    · exact Or.inr (Or.inl ⟨e, ihm he, rfl⟩)
  | both m n ihm ihn =>
    rcases yields_bind_iff.1 h with ⟨left, rest, a, rfl, hm, h⟩ | ⟨e, he, rfl⟩
    · rcases yields_bind_iff.1 h with ⟨right, _, b, rfl, hn, hdone⟩ | ⟨e, he, rfl⟩
      · obtain ⟨rfl, rfl⟩ := yields_done_iff.1 hdone
        rw [List.append_nil]
        exact ⟨left, right, _, _, .append _ _, ihm hm, ihn hn, .values a b⟩
      · exact ⟨left, rest, _, _, .append _ _, ihm hm, ihn he, .second _ e⟩
    · -- the second part is dropped before it has asked anything
      have hsides := Interleaves.append trace []
      rw [List.append_nil] at hsides
      exact ⟨trace, [], _, none, hsides, ihm he, runs_nil_none n, .first e none⟩

/-! ## Where each request has one answer -/

theorem toOption_bind (x : Except ε α) {β : Type} (f : α → Except ε β) :
    (x >>= f).toOption = x.toOption.bind fun a => (f a).toOption := by
  cases x <;> rfl

theorem toOption_resultOn_both (answer : (r : I.Request) → Except ChainError (I.Answer r))
    (m : Joined I ε α) (n : Joined I ε β) :
    (resultOn answer (both m n).sequential).toOption =
      (resultOn answer m.sequential).toOption.bind fun a =>
        (resultOn answer n.sequential).toOption.map fun b => (a, b) := by
  rw [sequential_both, resultOn_bind, toOption_bind]
  refine congrArg (Option.bind _) (funext fun a => ?_)
  rw [resultOn_bind, toOption_bind]
  exact Option.map_eq_bind.symm

/-- Where each request has one answer, a run fails exactly if the sequential one does, and otherwise
they have the same value. -/
theorem Runs.toOption_eq {answer : (r : I.Request) → Except ChainError (I.Answer r)}
    {result : Except ε α} (h : m.Runs trace (some result))
    (hanswers : ∀ e ∈ trace, e.answer = answer e.request) :
    result.toOption = (resultOn answer m.sequential).toOption := by
  induction m generalizing trace with
  | procedure p => rw [sequential_procedure, resultOn, Yields.eq_walk h hanswers]
  | andThen m f ihm ihf =>
    rw [sequential_andThen, resultOn_bind, toOption_bind]
    rcases h with ⟨front, rest, a, rfl, hm, hf⟩ | ⟨e, hm, heq⟩ | ⟨-, heq⟩
    · obtain ⟨hfront, hrest⟩ := List.forall_mem_append.1 hanswers
      rw [← ihm hm hfront]
      exact ihf a hf hrest
    · cases heq
      rw [← ihm hm hanswers]
      rfl
    · cases heq
  | both m n ihm ihn =>
    rw [toOption_resultOn_both]
    obtain ⟨left, right, x, y, hsides, hm, hn, hmeets⟩ := h
    obtain ⟨hleft, hright⟩ := hsides.forall_mem hanswers
    cases hmeets with
    | values a b =>
      rw [← ihm hm hleft, ← ihn hn hright]
      rfl
    -- a part that has failed fails in the sequential run as well, whatever became of the other
    | first e y =>
      rw [← ihm hm hleft]
      rfl
    | second x e =>
      rw [← ihn hn hright]
      cases (resultOn answer m.sequential).toOption <;> rfl

/-- A computation comes to what a procedure comes to, in whatever order the answers come. -/
structure Orders (m : Joined I ε α) (p : Procedure I ε α) : Prop where
  exists_order : ∀ {trace a}, m.Runs trace (some (.ok a)) →
    ∃ order, order.Perm trace ∧ p.Yields order (.ok a)
  runs_of_yields : ∀ {trace result}, p.Yields trace result → m.Runs trace (some result)
  toOption_eq : ∀ {answer trace result}, m.Runs trace (some result) →
    (∀ e ∈ trace, e.answer = answer e.request) → result.toOption = (resultOn answer p).toOption

theorem orders_of_sequential {p : Procedure I ε α} (h : m.sequential = p) : m.Orders p := by
  subst h
  exact ⟨Runs.exists_order, Joined.runs_of_yields, Runs.toOption_eq⟩

end Joined

end Cdp
