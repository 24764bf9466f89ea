import Cdp.InsertHint.Basic
import Cdp.TroveList
import Mathlib.Data.List.Nodup

/-!
# Places in the list of Troves

A list of falling ratios is cut by any ratio into a front that reaches it and a back that falls
below (`exists_cut`), and the place that the contracts find for the ratio lies between the two
(`insertPosition_of_cut`). An owner who is taken out leaves a cut list with the same cut, and the
neighbours of the place are then the owner's own neighbours (`prev_of_owner`, `next_of_owner`).

`Brackets` says when a pair of hints frames a ratio. Both hints of a cut do once they are normalized
(`CutAt.brackets`), and inserting at a pair that does keeps the list sorted
(`Brackets.sorted_insertAt`).
-/

set_option autoImplicit false

namespace Cdp

namespace TroveList

variable {l front back : TroveList} {ratio : Word}

/-- The ratios never rise from the head to the tail. -/
abbrev Sorted (l : TroveList) : Prop := l.Pairwise fun a b => b.2 ≤ a.2

/-- A list as the contracts keep it. -/
structure Valid (l : TroveList) : Prop where
  nodup : l.ids.Nodup
  ne_zero : ∀ id ∈ l.ids, id ≠ .zero
  sorted : l.Sorted

/-- The list without one owner. -/
def without (l : TroveList) (owner : Option Address) : TroveList :=
  l.filter fun e => decide (some e.1 ≠ owner)

/-- The owner at the head, the null address where there is none. -/
def headId (l : TroveList) : Address := l.head?.getD .zero

/-- The owner at the tail, the null address where there is none. -/
def tailId (l : TroveList) : Address := l.tail?.getD .zero

@[simp] theorem headId_nil : headId [] = .zero := rfl

@[simp] theorem headId_cons (e : Address × Word) (l : TroveList) : headId (e :: l) = e.1 := rfl

@[simp] theorem tailId_nil : tailId [] = .zero := rfl

@[simp] theorem tailId_concat (l : TroveList) (e : Address × Word) : tailId (l ++ [e]) = e.1 := by
  simp [tailId, tail?, ids]

theorem ids_append (front back : TroveList) : ids (front ++ back) = front.ids ++ back.ids :=
  List.map_append

/-! ## Neighbours -/

theorem predecessor?_append {xs ys : List Address} {y : Address} (h : y ∉ xs) :
    predecessor? y (xs ++ y :: ys) = xs.getLast? := by
  induction xs with
  | nil =>
    cases ys with
    | nil => rfl
    | cons b rest => exact if_pos rfl
  | cons x rest ih =>
    rw [List.mem_cons, not_or] at h
    have hx : ¬x = y := fun e => h.1 e.symm
    cases rest with
    | nil =>
      rw [List.singleton_append, predecessor?, if_neg hx, if_pos rfl]
      rfl
    | cons x' rest =>
      -- the walk compares the first two, and goes on behind the first
      have hx' : ¬x' = y := fun e => h.2 (e ▸ List.mem_cons_self)
      rw [List.cons_append, List.cons_append, predecessor?, if_neg hx, if_neg hx',
        ← List.cons_append, ih h.2, List.getLast?_cons_cons]

theorem successor?_append {xs ys : List Address} {y : Address} (h : y ∉ xs) :
    successor? y (xs ++ y :: ys) = ys.head? := by
  induction xs with
  | nil =>
    cases ys with
    | nil => rfl
    | cons b rest => exact if_pos rfl
  | cons x rest ih =>
    rw [List.mem_cons, not_or] at h
    have hx : ¬x = y := fun e => h.1 e.symm
    cases rest with
    | nil => rw [List.singleton_append, successor?, if_neg hx, ← ih h.2, List.nil_append]
    | cons x' rest =>
      rw [List.cons_append, List.cons_append, successor?, if_neg hx, ← List.cons_append, ih h.2]

theorem predecessor?_eq_none {xs : List Address} {y : Address} (h : y ∉ xs) :
    predecessor? y xs = none := by
  induction xs with
  | nil => rfl
  | cons x rest ih =>
    rw [List.mem_cons, not_or] at h
    cases rest with
    | nil => rfl
    | cons x' rest =>
      have hx' : ¬x' = y := fun e => h.2 (e ▸ List.mem_cons_self)
      rw [predecessor?, if_neg fun e => h.1 e.symm, if_neg hx', ih h.2]

theorem successor?_eq_none {xs : List Address} {y : Address} (h : y ∉ xs) :
    successor? y xs = none := by
  induction xs with
  | nil => rfl
  | cons x rest ih =>
    rw [List.mem_cons, not_or] at h
    cases rest with
    | nil => rfl
    | cons x' rest => rw [successor?, if_neg fun e => h.1 e.symm, ih h.2]

/-! ## The cut -/

/-- The front reaches a ratio, and the back falls below it. -/
structure CutAt (ratio : Word) (front back : TroveList) : Prop where
  front_ge : ∀ e ∈ front, ratio ≤ e.2
  back_lt : ∀ e ∈ back, e.2 < ratio

theorem exists_cut (h : l.Sorted) (ratio : Word) :
    ∃ front back, l = front ++ back ∧ CutAt ratio front back := by
  induction l with
  | nil => exact ⟨[], [], rfl, nofun, nofun⟩
  | cons e rest ih =>
    rw [Sorted, List.pairwise_cons] at h
    by_cases he : ratio ≤ e.2
    · obtain ⟨front, back, rfl, hcut⟩ := ih h.2
      exact ⟨e :: front, back, rfl, List.forall_mem_cons.2 ⟨he, hcut.front_ge⟩, hcut.back_lt⟩
    · -- whatever is behind falls below the ratio as well
      have hlt : e.2 < ratio := Nat.not_le.1 he
      refine ⟨[], e :: rest, rfl, nofun, List.forall_mem_cons.2 ⟨hlt, fun b hb => ?_⟩⟩
      exact Nat.lt_of_le_of_lt (h.1 b hb) hlt

/-- The place for a ratio lies at its cut. -/
theorem insertPosition_of_cut (h : CutAt ratio front back) :
    (front ++ back : TroveList).insertPosition ratio = (front.tailId, back.headId) := by
  have hfront : front.filter (fun e => decide (ratio ≤ e.2)) = front :=
    List.filter_eq_self.2 fun e he => decide_eq_true (h.front_ge e he)
  have hback : back.filter (fun e => decide (ratio ≤ e.2)) = [] :=
    List.filter_eq_nil_iff.2 fun e he hd =>
      Nat.not_le.2 (h.back_lt e he) (of_decide_eq_true hd)
  have hfront' : front.filter (fun e => decide (e.2 < ratio)) = [] :=
    List.filter_eq_nil_iff.2 fun e he hd =>
      Nat.not_lt.2 (h.front_ge e he) (of_decide_eq_true hd)
  have hback' : back.filter (fun e => decide (e.2 < ratio)) = back :=
    List.filter_eq_self.2 fun e he => decide_eq_true (h.back_lt e he)
  rw [insertPosition, lastAtLeast?, firstBelow?, List.filter_append, List.filter_append, hfront,
    hback, hfront', hback', List.append_nil, List.nil_append]
  rfl

theorem CutAt.without (h : CutAt ratio front back) (owner : Option Address) :
    CutAt ratio (front.without owner) (back.without owner) where
  front_ge e he := h.front_ge e (List.mem_of_mem_filter he)
  back_lt e he := h.back_lt e (List.mem_of_mem_filter he)

/-! ## Without an owner -/

theorem without_none (l : TroveList) : l.without none = l :=
  List.filter_eq_self.2 fun _ _ => rfl

theorem without_of_not_mem {owner : Address} (h : owner ∉ l.ids) : l.without (some owner) = l := by
  refine List.filter_eq_self.2 fun e he => decide_eq_true fun heq => h ?_
  obtain rfl := Option.some.inj heq
  exact List.mem_map_of_mem he

theorem without_cons_self (e : Address × Word) (l : TroveList) :
    without (e :: l) (some e.1) = l.without (some e.1) :=
  List.filter_cons_of_neg fun h => of_decide_eq_true h rfl

theorem without_cons_of_ne {e : Address × Word} {owner : Address} (h : ¬e.1 = owner)
    (l : TroveList) : without (e :: l) (some owner) = e :: l.without (some owner) :=
  List.filter_cons_of_pos (decide_eq_true fun heq => h (Option.some.inj heq))

/-- The owner who is taken out is not in the list that is left. -/
theorem not_mem_ids_without (l : TroveList) (owner : Address) :
    owner ∉ (l.without (some owner)).ids := by
  intro hmem
  obtain ⟨e, he, rfl⟩ := List.mem_map.1 hmem
  have hother := (List.mem_filter.1 he).2
  simp at hother

theorem without_append (front back : TroveList) (owner : Option Address) :
    without (front ++ back) owner = front.without owner ++ back.without owner :=
  List.filter_append ..

theorem Valid.without (h : l.Valid) (owner : Option Address) : (l.without owner).Valid where
  nodup := h.nodup.sublist (List.filter_sublist.map _)
  ne_zero id hid := h.ne_zero id ((List.filter_sublist.map _).subset hid)
  sorted := h.sorted.filter _

/-- Before the cut of the list without an owner stands the owner's predecessor, where the owner
stood there. -/
theorem prev_of_owner (h : Valid (front ++ back)) (owner : Address) :
    (if front.tailId = owner then (prev? (front ++ back) front.tailId).getD .zero
      else front.tailId) = (front.without (some owner)).tailId := by
  rcases List.eq_nil_or_concat front with rfl | ⟨rest, e, rfl⟩
  · -- the null address is nobody's, so it has no predecessor even as an owner
    have hnone : prev? ([] ++ back) .zero = none :=
      predecessor?_eq_none fun hmem => h.ne_zero _ hmem rfl
    rw [tailId_nil, hnone]
    exact ite_self _
  · rw [List.concat_eq_append] at h ⊢
    have hids : ids ((rest ++ [e]) ++ back) = ids rest ++ e.1 :: back.ids := by simp [ids]
    have hnodup := h.nodup
    rw [hids, List.nodup_append] at hnodup
    have hmem : e.1 ∉ ids rest := fun hmem => hnodup.2.2 _ hmem _ List.mem_cons_self rfl
    rw [tailId_concat, without_append]
    split
    · -- the owner is the last of the front and goes, the others stay
      rename_i he
      subst he
      have hsole : without [e] (some e.1) = [] := without_cons_self e []
      rw [prev?, hids, predecessor?_append hmem, hsole, List.append_nil, without_of_not_mem hmem]
      rfl
    · -- the last of the front is another, and stays the last
      rename_i he
      have hsole : without [e] (some owner) = [e] := without_cons_of_ne he []
      rw [hsole, tailId_concat]

/-- Behind the cut of the list without an owner stands the owner's successor, where the owner
stood there. -/
theorem next_of_owner (h : Valid (front ++ back)) (owner : Address) :
    (if back.headId = owner then (next? (front ++ back) back.headId).getD .zero
      else back.headId) = (back.without (some owner)).headId := by
  cases back with
  | nil =>
    have hnone : next? (front ++ []) .zero = none :=
      successor?_eq_none fun hmem => h.ne_zero _ hmem rfl
    rw [headId_nil, hnone]
    exact ite_self _
  | cons e rest =>
    have hids : ids (front ++ e :: rest) = front.ids ++ e.1 :: ids rest := ids_append _ _
    have hnodup := h.nodup
    rw [hids, List.nodup_append, List.nodup_cons] at hnodup
    rw [headId_cons]
    split
    · rename_i he
      subst he
      have hmem : e.1 ∉ front.ids := fun hmem => hnodup.2.2 _ hmem _ List.mem_cons_self rfl
      rw [next?, hids, successor?_append hmem, without_cons_self, without_of_not_mem hnodup.2.1.1]
      rfl
    · rename_i he
      rw [without_cons_of_ne he, headId_cons]

/-! ## Framing a ratio -/

/-- A pair of hints frames a ratio: it names two neighbours with the ratio between theirs, or twice
the head below the ratio, or twice the tail that reaches it, or nobody in an empty list. -/
inductive Brackets (ratio : Word) : TroveList → HintPair → Prop where
  | empty : Brackets ratio [] .none
  | between {front back : TroveList} {a b : Address × Word} (hge : ratio ≤ a.2)
      (hlt : b.2 < ratio) :
      Brackets ratio (front ++ a :: b :: back) ⟨a.1, b.1⟩
  | head {back : TroveList} {b : Address × Word} (hlt : b.2 < ratio) :
      Brackets ratio (b :: back) ⟨b.1, b.1⟩
  | tail {front : TroveList} {a : Address × Word} (hge : ratio ≤ a.2) :
      Brackets ratio (front ++ [a]) ⟨a.1, a.1⟩

/-- Hints that frame a ratio name members of the list, or nobody. -/
theorem Brackets.mem_or_zero {p : HintPair} (h : Brackets ratio l p) :
    (p.prev ∈ l.ids ∨ p.prev = .zero) ∧ (p.next ∈ l.ids ∨ p.next = .zero) := by
  cases h with
  | empty => exact ⟨Or.inr rfl, Or.inr rfl⟩
  | between hge hlt => simp [ids]
  | head hlt => simp [ids]
  | tail hge => simp [ids]

/-- The hints on both sides of a cut frame the ratio. -/
theorem CutAt.brackets (h : CutAt ratio front back)
    (hzero : ∀ id ∈ ids (front ++ back), id ≠ .zero) :
    Brackets ratio (front ++ back) (HintPair.normalized ⟨front.tailId, back.headId⟩) := by
  have hback : ∀ b ∈ back, ¬b.1.isZero = true := fun b hb hz =>
    hzero b.1 (List.mem_map_of_mem (List.mem_append_right _ hb)) (Address.isZero_iff.1 hz)
  have hfront : ∀ a ∈ front, ¬a.1.isZero = true := fun a ha hz =>
    hzero a.1 (List.mem_map_of_mem (List.mem_append_left _ ha)) (Address.isZero_iff.1 hz)
  rcases List.eq_nil_or_concat front with rfl | ⟨rest, a, rfl⟩
  · -- nobody reaches the ratio: both hints are the head
    cases back with
    | nil => exact .empty
    | cons b back =>
      have hpair : HintPair.normalized ⟨.zero, b.1⟩ = ⟨b.1, b.1⟩ := if_pos rfl
      rw [tailId_nil, headId_cons, hpair]
      exact .head (h.back_lt b List.mem_cons_self)
  · rw [List.concat_eq_append] at h hfront ⊢
    have ha : a ∈ rest ++ [a] := List.mem_append_right _ List.mem_cons_self
    rw [tailId_concat]
    cases back with
    | nil =>
      -- everybody reaches the ratio: both hints are the tail
      have hpair : HintPair.normalized ⟨a.1, .zero⟩ = ⟨a.1, a.1⟩ :=
        (if_neg (hfront a ha)).trans (if_pos rfl)
      rw [headId_nil, hpair, List.append_nil]
      exact .tail (h.front_ge a ha)
    | cons b back =>
      have hpair : HintPair.normalized ⟨a.1, b.1⟩ = ⟨a.1, b.1⟩ :=
        (if_neg (hfront a ha)).trans (if_neg (hback b List.mem_cons_self))
      rw [headId_cons, hpair, List.append_assoc, List.singleton_append]
      exact .between (h.front_ge a ha) (h.back_lt b List.mem_cons_self)

/-! ## Inserting -/

/-- The list with an entry inserted at a pair of hints: behind the first hint, or before it where
both are one and the same with a smaller ratio. -/
def insertAt (p : HintPair) (entry : Address × Word) : TroveList → TroveList
  | [] => [entry]
  | e :: rest =>
    if e.1 = p.prev then
      if p.prev = p.next ∧ e.2 < entry.2 then entry :: e :: rest else e :: entry :: rest
    else e :: insertAt p entry rest

/-- Inserting adds the entry and nothing else. -/
theorem insertAt_perm (p : HintPair) (entry : Address × Word) (l : TroveList) :
    (l.insertAt p entry).Perm (entry :: l) := by
  induction l with
  | nil => exact .refl _
  | cons e rest ih =>
    rw [insertAt]
    split
    · split
      · exact .refl _
      · exact .swap ..
    · exact (ih.cons e).trans (.swap ..)

theorem insertAt_append {p : HintPair} {entry e : Address × Word} (he : e.1 = p.prev)
    (h : e.1 ∉ front.ids) :
    insertAt p entry (front ++ e :: back) =
      front ++ if p.prev = p.next ∧ e.2 < entry.2 then entry :: e :: back
        else e :: entry :: back := by
  induction front with
  | nil => exact if_pos he
  | cons f rest ih =>
    rw [ids, List.map_cons, List.mem_cons, not_or] at h
    rw [List.cons_append, insertAt, if_neg fun hf => h.1 (he.trans hf.symm), ih h.2,
      List.cons_append]

theorem sorted_insert (front : TroveList) {back : TroveList} {entry : Address × Word}
    (h : Sorted (front ++ back)) (hfront : ∀ e ∈ front, entry.2 ≤ e.2)
    (hback : ∀ e ∈ back, e.2 ≤ entry.2) : Sorted (front ++ entry :: back) := by
  rw [Sorted, List.pairwise_append] at h ⊢
  refine ⟨h.1, List.pairwise_cons.2 ⟨hback, h.2.1⟩, fun a ha => ?_⟩
  exact List.forall_mem_cons.2 ⟨hfront a ha, h.2.2 a ha⟩

/-- Inserting at a pair of hints that frames the ratio keeps the list sorted. -/
theorem Brackets.sorted_insertAt {p : HintPair} (hp : Brackets ratio l p) (h : l.Valid)
    (id : Address) : Sorted (l.insertAt p (id, ratio)) := by
  have hnodup := h.nodup
  have hsorted := h.sorted
  cases hp with
  | empty => exact List.pairwise_singleton _ _
  | @between front back a b hge hlt =>
    -- the two hints differ, so the entry goes behind the first one
    rw [ids_append, List.nodup_append] at hnodup
    have ha : a.1 ∉ front.ids := fun hmem => hnodup.2.2 _ hmem _ List.mem_cons_self rfl
    have hab : ¬a.1 = b.1 := fun hab =>
      (List.nodup_cons.1 hnodup.2.1).1 (List.mem_cons.2 (Or.inl hab))
    have hcut := List.pairwise_append.1 hsorted
    rw [insertAt_append rfl ha, if_neg fun hc => hab hc.1, ← List.singleton_append (x := a),
      ← List.append_assoc]
    refine sorted_insert _ (by simpa using hsorted) ?_ ?_
    · refine List.forall_mem_append.2 ⟨fun e he => ?_, List.forall_mem_singleton.2 hge⟩
      exact Nat.le_trans hge (hcut.2.2 e he a List.mem_cons_self)
    · have hb := List.pairwise_cons.1 (List.pairwise_cons.1 hcut.2.1).2
      refine List.forall_mem_cons.2 ⟨Nat.le_of_lt hlt, fun e he => ?_⟩
      exact Nat.le_trans (hb.1 e he) (Nat.le_of_lt hlt)
  | @head back b hlt =>
    -- one hint with a smaller ratio: the entry goes before it
    rw [insertAt, if_pos rfl, if_pos ⟨rfl, hlt⟩]
    refine sorted_insert [] hsorted nofun ?_
    refine List.forall_mem_cons.2 ⟨Nat.le_of_lt hlt, fun e he => ?_⟩
    exact Nat.le_trans ((List.pairwise_cons.1 hsorted).1 e he) (Nat.le_of_lt hlt)
  | @tail front a hge =>
    -- one hint that reaches the ratio: the entry goes behind it
    rw [ids_append, List.nodup_append] at hnodup
    have ha : a.1 ∉ front.ids := fun hmem => hnodup.2.2 _ hmem _ List.mem_cons_self rfl
    have hcut := List.pairwise_append.1 hsorted
    rw [insertAt_append rfl ha, if_neg fun hc => Nat.not_lt.2 hge hc.2,
      ← List.singleton_append (x := a), ← List.append_assoc]
    refine sorted_insert _ (by simpa using hsorted) ?_ nofun
    refine List.forall_mem_append.2 ⟨fun e he => ?_, List.forall_mem_singleton.2 hge⟩
    exact Nat.le_trans hge (hcut.2.2 e he a List.mem_cons_self)

end TroveList

end Cdp
