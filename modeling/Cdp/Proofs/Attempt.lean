import Cdp.Error
import Mathlib.Data.List.Forall2

/-!
# Successful attempts

What a successful computation says about its parts: sequencing succeeds where both parts do
(`bind_eq_ok_iff`), and changing the kind of cause or lifting into a computation with more ways to
end keeps the successes and adds none (`Attempt.mapCause_eq_ok_iff`,
`Attempt.ofFaulty_eq_ok_iff`).
-/

set_option autoImplicit false

namespace Cdp

variable {ε δ α β : Type}

theorem bind_eq_ok_iff {x : Except ε α} {f : α → Except ε β} {b : β} :
    x >>= f = .ok b ↔ ∃ a, x = .ok a ∧ f a = .ok b := by
  constructor
  · intro h
    cases x with
    | error e => cases h
    | ok a => exact ⟨a, rfl, h⟩
  · rintro ⟨a, rfl, hf⟩
    exact hf

theorem bind_eq_error_iff {x : Except ε α} {f : α → Except ε β} {e : ε} :
    x >>= f = .error e ↔ x = .error e ∨ ∃ a, x = .ok a ∧ f a = .error e := by
  constructor
  · intro h
    cases x with
    | error d => exact Or.inl (by cases h; rfl)
    | ok a => exact Or.inr ⟨a, rfl, h⟩
  · rintro (rfl | ⟨a, rfl, hf⟩)
    · rfl
    · exact hf

theorem pure_eq_ok_iff {a b : α} : (pure a : Except ε α) = .ok b ↔ a = b :=
  Except.ok.injEq a b ▸ Iff.rfl

theorem exists_eq_ok_of_isOk {x : Except ε α} (h : x.isOk = true) : ∃ a, x = .ok a := by
  cases x with
  | error e => cases h
  | ok a => exact ⟨a, rfl⟩

/-- A walk that succeeds ends with what each of its steps carries on. -/
theorem foldlM_eq_ok_induct {f : β → α → Except ε β} {P : List α → β → Prop} {as : List α}
    {b b' : β} (hstart : P [] b)
    (hstep : ∀ done a b b', a ∈ as → P done b → f b a = .ok b' → P (done ++ [a]) b')
    (h : as.foldlM f b = .ok b') : P as b' := by
  -- the walk is cut into the steps that are done and those that are left
  have hcut : ∀ left done b, as = done ++ left → P done b → left.foldlM f b = .ok b' →
      P as b' := by
    intro left
    induction left with
    | nil =>
      intro done b has hP hfold
      rw [List.append_nil] at has
      cases hfold
      exact has ▸ hP
    | cons a left ih =>
      intro done b has hP hfold
      rw [List.foldlM_cons] at hfold
      obtain ⟨m, hm, hrest⟩ := bind_eq_ok_iff.1 hfold
      have hmem : a ∈ as := by simp [has]
      exact ih (done ++ [a]) m (by simp [has]) (hstep done a b m hmem hP hm) hrest
  exact hcut as [] b rfl hstart h

/-- A walk whose steps all succeed succeeds. -/
theorem exists_foldlM_eq_ok {f : β → α → Except ε β} (hf : ∀ b a, ∃ b', f b a = .ok b')
    (as : List α) (b : β) : ∃ b', as.foldlM f b = .ok b' := by
  induction as generalizing b with
  | nil => exact ⟨b, rfl⟩
  | cons a rest ih =>
    rw [List.foldlM_cons]
    obtain ⟨b', hstep⟩ := hf b a
    obtain ⟨c, hrest⟩ := ih b'
    exact ⟨c, bind_eq_ok_iff.2 ⟨b', hstep, hrest⟩⟩

/-- A walk that ends early has come to the item that ends it. -/
theorem exists_of_foldlM_eq_error {f : β → α → Except ε β} {as : List α} {b : β} {e : ε}
    (h : as.foldlM f b = .error e) :
    ∃ front a back m, as = front ++ a :: back ∧ front.foldlM f b = .ok m ∧ f m a = .error e := by
  induction as generalizing b with
  | nil => cases h
  | cons a rest ih =>
    rw [List.foldlM_cons] at h
    rcases bind_eq_error_iff.1 h with hstep | ⟨c, hstep, hrest⟩
    · exact ⟨[], a, rest, b, rfl, rfl, hstep⟩
    · obtain ⟨front, d, back, m, rfl, hfront, hd⟩ := ih hrest
      refine ⟨a :: front, d, back, m, rfl, ?_, hd⟩
      rw [List.foldlM_cons]
      exact bind_eq_ok_iff.2 ⟨c, hstep, hfront⟩

/-- What is made of a list is made of its items one by one. -/
theorem mapM_eq_ok_iff {f : α → Except ε β} {as : List α} {bs : List β} :
    as.mapM f = .ok bs ↔ List.Forall₂ (fun a b => f a = .ok b) as bs := by
  induction as generalizing bs with
  | nil =>
    rw [List.mapM_nil, pure_eq_ok_iff, List.forall₂_nil_left_iff]
    exact eq_comm
  | cons a rest ih =>
    rw [List.mapM_cons, List.forall₂_cons_left_iff]
    simp only [bind_eq_ok_iff, pure_eq_ok_iff, ih]
    constructor
    · rintro ⟨b, hb, others, hothers, rfl⟩
      exact ⟨b, others, hb, hothers, rfl⟩
    · rintro ⟨b, others, hb, hothers, rfl⟩
      exact ⟨b, hb, others, hothers, rfl⟩

namespace Attempt

theorem refuse_ne_ok (cause : ε) (a : α) : (refuse cause : Attempt ε α) ≠ .ok a := nofun

theorem ofOption_eq_ok_iff {cause : ε} {o : Option α} {a : α} :
    ofOption cause o = .ok a ↔ o = some a := by
  cases o <;> simp [ofOption, refuse]

theorem ofExcept_eq_ok_iff {cause : δ → ε} {x : Except δ α} {a : α} :
    ofExcept cause x = .ok a ↔ x = .ok a := by
  cases x <;> simp [ofExcept, refuse]

theorem ofFaulty_eq_ok_iff {x : Except Fault α} {a : α} :
    (ofFaulty x : Attempt ε α) = .ok a ↔ x = .ok a := by
  cases x <;> simp [ofFaulty]

/-- The computation succeeds or is refused; it does not break off. -/
def Unbroken (x : Attempt ε α) : Prop := ∀ fault, x ≠ .error (.broken fault)

/-- Whether the computation breaks off. -/
def breaks : Attempt ε α → Bool
  | .error (.broken _) => true
  | _ => false

theorem exists_fault_of_breaks {x : Attempt ε α} (h : x.breaks = true) :
    ∃ fault, x = .error (.broken fault) := by
  rcases x with (cause | fault) | a
  · cases h
  · exact ⟨fault, rfl⟩
  · cases h

theorem Unbroken.isOk_or_refused {x : Attempt ε α} (h : Unbroken x) :
    (∃ a, x = .ok a) ∨ ∃ cause, x = refuse cause := by
  rcases x with (cause | fault) | a
  · exact Or.inr ⟨cause, rfl⟩
  · exact absurd rfl (h fault)
  · exact Or.inl ⟨a, rfl⟩

theorem unbroken_ok (a : α) : Unbroken (.ok a : Attempt ε α) := nofun

theorem unbroken_refuse (cause : ε) : Unbroken (refuse cause : Attempt ε α) := nofun

theorem unbroken_ofOption (cause : ε) (o : Option α) : Unbroken (ofOption cause o) := by
  cases o <;> exact nofun

theorem unbroken_ofExcept (cause : δ → ε) (x : Except δ α) : Unbroken (ofExcept cause x) := by
  cases x <;> exact nofun

theorem unbroken_ofFaulty {x : Except Fault α} (h : ∃ a, x = .ok a) :
    Unbroken (ofFaulty x : Attempt ε α) := by
  obtain ⟨a, rfl⟩ := h
  exact unbroken_ok a

theorem unbroken_bind {x : Attempt ε α} {f : α → Attempt ε β} (hx : Unbroken x)
    (hf : ∀ a, Unbroken (f a)) : Unbroken (x >>= f) := by
  intro fault h
  rcases bind_eq_error_iff.1 h with he | ⟨a, -, he⟩
  · exact hx fault he
  · exact hf a fault he

/-- A walk along a list does not break off if its steps do not. -/
theorem unbroken_foldlM {f : β → α → Attempt ε β} (hf : ∀ b a, Unbroken (f b a)) (as : List α)
    (b : β) : Unbroken (as.foldlM f b) := by
  induction as generalizing b with
  | nil => exact nofun
  | cons a rest ih =>
    rw [List.foldlM_cons]
    exact unbroken_bind (hf b a) fun c => ih c

theorem unbroken_mapM {f : α → Attempt ε β} (hf : ∀ a, Unbroken (f a)) (as : List α) :
    Unbroken (as.mapM f) := by
  induction as with
  | nil => exact unbroken_ok _
  | cons a rest ih =>
    rw [List.mapM_cons]
    exact unbroken_bind (hf a) fun b => unbroken_bind ih fun bs => unbroken_ok _

theorem unbroken_forM {f : α → Attempt ε PUnit} (hf : ∀ a, Unbroken (f a)) (as : List α) :
    Unbroken (as.forM f) := by
  induction as with
  | nil => exact unbroken_ok _
  | cons a rest ih => exact unbroken_bind (hf a) fun _ => ih

/-- The computation succeeds or breaks off; it is not refused. -/
def Unrefused (x : Attempt ε α) : Prop := ∀ cause, x ≠ refuse cause

theorem unrefused_ok (a : α) : Unrefused (.ok a : Attempt ε α) := nofun

theorem unrefused_ofOption {cause : ε} {o : Option α} (h : ∃ a, o = some a) :
    Unrefused (ofOption cause o) := by
  obtain ⟨a, rfl⟩ := h
  exact unrefused_ok a

theorem unrefused_ofFaulty (x : Except Fault α) : Unrefused (ofFaulty x : Attempt ε α) := by
  cases x <;> exact nofun

theorem unrefused_bind {x : Attempt ε α} {f : α → Attempt ε β} (hx : Unrefused x)
    (hf : ∀ a, x = .ok a → Unrefused (f a)) : Unrefused (x >>= f) := by
  intro cause h
  rcases bind_eq_error_iff.1 h with he | ⟨a, ha, he⟩
  · exact hx cause he
  · exact hf a ha cause he

/-- A walk along a list is not refused if none of its steps is. -/
theorem unrefused_foldlM {f : β → α → Attempt ε β} {as : List α}
    (hf : ∀ b, ∀ a ∈ as, Unrefused (f b a)) (b : β) : Unrefused (as.foldlM f b) := by
  induction as generalizing b with
  | nil => exact nofun
  | cons a rest ih =>
    rw [List.foldlM_cons]
    exact unrefused_bind (hf b a List.mem_cons_self) fun c _ =>
      ih (fun b d hd => hf b d (List.mem_cons_of_mem a hd)) c

theorem Unbroken.exists_eq_ok {x : Attempt ε α} (h : Unbroken x) (hx : Unrefused x) :
    ∃ a, x = .ok a := by
  rcases h.isOk_or_refused with hok | ⟨cause, hcause⟩
  · exact hok
  · exact absurd hcause (hx cause)

/-- Changing the kind of cause leaves faults as they are. -/
theorem mapCause_eq_broken_iff {f : δ → ε} {x : Attempt δ α} {fault : Fault} :
    mapCause f x = .error (.broken fault) ↔ x = .error (.broken fault) := by
  rcases x with (cause | other) | a
  · exact ⟨nofun, nofun⟩
  · simp [mapCause, Failure.map]
  · exact ⟨nofun, nofun⟩

theorem Unbroken.mapCause {f : δ → ε} {x : Attempt δ α} (hx : Unbroken x) :
    Unbroken (mapCause f x) :=
  fun fault h => hx fault (mapCause_eq_broken_iff.1 h)

theorem ofFaulty_eq_broken_iff {x : Except Fault α} {fault : Fault} :
    (ofFaulty x : Attempt ε α) = .error (.broken fault) ↔ x = .error fault := by
  cases x <;> simp [ofFaulty]

theorem mapCause_eq_ok_iff {f : δ → ε} {x : Attempt δ α} {a : α} :
    mapCause f x = .ok a ↔ x = .ok a := by
  cases x <;> simp [mapCause]

theorem ofFaulty_bind {x : Except Fault α} {f : α → Except Fault β} :
    (ofFaulty (x >>= f) : Attempt ε β) = ofFaulty x >>= fun a => ofFaulty (f a) := by
  cases x <;> rfl

/-- A computation breaks off only where `P` holds, and a value of it is of the kind `Q`. -/
structure Ends (P : Prop) (Q : α → Prop) (x : Attempt ε α) : Prop where
  broken : ∀ fault, x = .error (.broken fault) → P
  ok : ∀ a, x = .ok a → Q a

section Ends

variable {P : Prop} {Q : α → Prop} {R : β → Prop}

theorem ends_ok {a : α} (h : Q a) : Ends P Q (.ok a : Attempt ε α) := by
  constructor
  case broken => exact nofun
  case ok =>
    intro b hb
    cases hb
    exact h

theorem ends_refuse {cause : ε} : Ends P Q (refuse cause) := ⟨nofun, nofun⟩

/-- What is known of a computation without faults is the value that it has. -/
theorem Unbroken.ends {x : Attempt ε α} (h : Unbroken x) : Ends P (fun a => x = .ok a) x :=
  ⟨fun fault hx => absurd hx (h fault), fun _ => id⟩

theorem ends_faulty {x : Except Fault α} (h : ∀ fault, x = .error fault → P) :
    Ends P (fun a => x = .ok a) (ofFaulty x : Attempt ε α) :=
  ⟨fun fault hx => h fault (ofFaulty_eq_broken_iff.1 hx), fun _ => ofFaulty_eq_ok_iff.1⟩

theorem Ends.mono {P' : Prop} {Q' : α → Prop} {x : Attempt ε α} (hx : Ends P Q x) (hP : P → P')
    (hQ : ∀ a, x = .ok a → Q a → Q' a) : Ends P' Q' x :=
  ⟨fun fault h => hP (hx.broken fault h), fun a h => hQ a h (hx.ok a h)⟩

theorem Ends.imp {P' : Prop} {x : Attempt ε α} (hx : Ends P Q x) (hP : P → P') : Ends P' Q x :=
  hx.mono hP fun _ _ => id

theorem Ends.with_eq {x : Attempt ε α} (hx : Ends P Q x) : Ends P (fun a => x = .ok a ∧ Q a) x :=
  hx.mono id fun _ h hQ => ⟨h, hQ⟩

theorem Ends.mapCause {f : δ → ε} {x : Attempt δ α} (hx : Ends P Q x) :
    Ends P Q (mapCause f x) :=
  ⟨fun fault h => hx.broken fault (mapCause_eq_broken_iff.1 h),
    fun a h => hx.ok a (mapCause_eq_ok_iff.1 h)⟩

theorem Ends.bind {x : Attempt ε α} {f : α → Attempt ε β} (hx : Ends P Q x)
    (hf : ∀ a, Q a → Ends P R (f a)) : Ends P R (x >>= f) := by
  constructor
  case broken =>
    intro fault h
    rcases bind_eq_error_iff.1 h with he | ⟨a, ha, he⟩
    · exact hx.broken fault he
    · exact (hf a (hx.ok a ha)).broken fault he
  case ok =>
    intro b h
    obtain ⟨a, ha, hb⟩ := bind_eq_ok_iff.1 h
    exact (hf a (hx.ok a ha)).ok b hb

/-- Where the conditions of faults and of values exclude each other, they say of a computation that
is not refused how it ends. -/
theorem Ends.settles {R : Prop} {x : Attempt ε α} (hx : Ends P (fun _ => R) x) (hR : R → ¬P) :
    (∃ cause, x = refuse cause) ∨
      ((∃ fault, x = .error (.broken fault)) ↔ P) ∧ ((∃ a, x = .ok a) ↔ R) := by
  rcases x with (cause | fault) | a
  · exact Or.inl ⟨cause, rfl⟩
  · have hP := hx.broken fault rfl
    refine Or.inr ⟨⟨fun _ => hP, fun _ => ⟨fault, rfl⟩⟩, ?_, ?_⟩
    · rintro ⟨a, h⟩
      cases h
    · intro h
      exact absurd hP (hR h)
  · have h := hx.ok a rfl
    refine Or.inr ⟨⟨?_, ?_⟩, fun _ => h, fun _ => ⟨a, rfl⟩⟩
    · rintro ⟨fault, hfault⟩
      cases hfault
    · intro hP
      exact absurd hP (hR h)

/-- A walk along a list, with an invariant of the items that are done. -/
theorem ends_foldlM {f : β → α → Attempt ε β} {I : List α → β → Prop} {as : List α} {b : β}
    (hstart : I [] b)
    (hstep : ∀ front a back m, as = front ++ a :: back → I front m →
      Ends P (I (front ++ [a])) (f m a)) : Ends P (I as) (as.foldlM f b) := by
  -- the walk is cut into the items that are done and those that are left
  have hcut : ∀ left front m, as = front ++ left → I front m → Ends P (I as) (left.foldlM f m) := by
    intro left
    induction left with
    | nil =>
      intro front m has hI
      rw [List.append_nil] at has
      exact ends_ok (has ▸ hI)
    | cons a rest ih =>
      intro front m has hI
      rw [List.foldlM_cons]
      refine (hstep front a rest m has hI).bind fun m' hI' => ih (front ++ [a]) m' ?_ hI'
      rw [has, List.append_assoc]
      rfl
  exact hcut as [] b rfl hstart

end Ends

end Attempt

theorem liftM_faulty_eq_ok_iff {x : Except Fault α} {a : α} :
    (liftM x : Attempt ε α) = .ok a ↔ x = .ok a :=
  Attempt.ofFaulty_eq_ok_iff

theorem liftM_faulty_error_eq_ok_iff {x : Except Fault α} {a : α} :
    (liftM x : Attempt Error α) = .ok a ↔ x = .ok a :=
  Attempt.mapCause_eq_ok_iff.trans Attempt.ofFaulty_eq_ok_iff

theorem guard_eq_error_iff {fault other : Fault} {o : Option α} :
    fault.guard o = .error other ↔ o = none ∧ fault = other := by
  cases o <;> simp [Fault.guard]

theorem guard_eq_ok_iff {fault : Fault} {o : Option α} {a : α} :
    fault.guard o = .ok a ↔ o = some a := by
  cases o <;> simp [Fault.guard]

namespace Decimal

variable {a b c : Decimal}

theorem add_eq_ok_iff : a.add b = .ok c ↔ a.checkedAdd b = some c := guard_eq_ok_iff

theorem sub_eq_ok_iff : a.sub b = .ok c ↔ a.checkedSub b = some c := guard_eq_ok_iff

theorem mul_eq_ok_iff : a.mul b = .ok c ↔ a.checkedMul b = some c := guard_eq_ok_iff

theorem div_eq_ok_iff : a.div b = .ok c ↔ a.checkedDiv b = some c := guard_eq_ok_iff

end Decimal

end Cdp
