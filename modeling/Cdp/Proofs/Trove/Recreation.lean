import Cdp.Proofs.Trove.Faults
import Cdp.Proofs.Trove.History

/-!
# Recreating a new Trove

`create` charges a fee that is cut off, and `recreate` divides by one and the rate and cuts off
again. The remainder of the fee decides what comes back: without one it is the borrow, and with one
it is a raw unit less (`withoutFee_withFee`). So a new Trove is opened again by what `recreate`
gives exactly where its fee was not cut off, and where it was, what is opened owes less or nothing
is opened at all (`Trove.recreate_restores_iff`).

`recreate` adds one and the rate, and a rate that leaves no room for this sum breaks it off,
although opening at that rate succeeds (`Trove.topRate_breaks_recreate`).
-/

set_option autoImplicit false

namespace Cdp

/-- Taking the fee off again gives the borrow where the fee was not cut off, and a raw unit less
where it was. -/
theorem withoutFee_withFee (borrow rate : Decimal) :
    withoutFee (withFee borrow rate) rate =
      if Decimal.scale ∣ borrow.rawNat * rate.rawNat then borrow.rawNat else borrow.rawNat - 1 := by
  have hgrowth : 0 < Decimal.scale + rate.rawNat := Nat.add_pos_left (by decide) _
  rw [withoutFee, withFee, add_fee_eq]
  -- what is cut off from the borrow with its fee is the remainder of the fee
  have hrest : borrow.rawNat * (Decimal.scale + rate.rawNat) % Decimal.scale =
      borrow.rawNat * rate.rawNat % Decimal.scale := by
    rw [Nat.mul_add, Nat.add_comm, Nat.add_mul_mod_self_right]
  have hcut := Nat.div_add_mod' (borrow.rawNat * (Decimal.scale + rate.rawNat)) Decimal.scale
  rw [hrest] at hcut
  generalize borrow.rawNat * (Decimal.scale + rate.rawNat) / Decimal.scale = total at hcut ⊢
  split
  · rename_i hdvd
    rw [Nat.dvd_iff_mod_eq_zero] at hdvd
    rw [hdvd, Nat.add_zero] at hcut
    rw [hcut, Nat.mul_div_cancel _ hgrowth]
  · rename_i hdvd
    rw [Nat.dvd_iff_mod_eq_zero] at hdvd
    have hlt := Nat.mod_lt (borrow.rawNat * rate.rawNat) (by decide : 0 < Decimal.scale)
    generalize borrow.rawNat * rate.rawNat % Decimal.scale = rest at hcut hdvd hlt
    -- something is cut off, so something is borrowed
    cases hborrow : borrow.rawNat with
    | zero =>
      rw [hborrow, Nat.zero_mul] at hcut
      omega
    | succ less =>
      rw [hborrow, Nat.succ_mul] at hcut
      rw [Nat.succ_sub_one]
      apply Nat.div_eq_of_lt_le
      · omega
      · rw [Nat.succ_mul]
        omega

/-- A smaller borrow is less with its fee, too. -/
theorem withFee_lt {borrow more rate : Decimal} (h : borrow.rawNat < more.rawNat) :
    withFee borrow rate < withFee more rate := by
  have hfee : borrow.rawNat * rate.rawNat / Decimal.scale ≤
      more.rawNat * rate.rawNat / Decimal.scale :=
    Nat.div_le_div_right (Nat.mul_le_mul_right _ (Nat.le_of_lt h))
  rw [withFee, withFee]
  omega

namespace Trove

variable {t : Trove} {params again : CreationParams} {rate : Decimal}

/-- Where one and the rate leave the range of decimals, recreating breaks off. -/
theorem recreate_breaks (hrate : rate < .infinity)
    (h : Word.size - 1 ≤ Decimal.scale + rate.rawNat) :
    t.recreate rate = .error (.sum .one rate) := by
  have hnone : Decimal.one.checkedAdd rate = none :=
    Decimal.checkedAdd_eq_none_iff.2 ⟨by decide, hrate, h⟩
  rw [recreate, Decimal.add, hnone]
  rfl

/-- Opening with a smaller borrow is refused or gives less debt. -/
theorem create_less (hrate : rate < .infinity) (h : create params rate = .ok t)
    (hless : again.borrow.rawNat < params.borrow.rawNat) :
    (∃ cause, create again rate = Attempt.refuse cause) ∨
      ∃ t', create again rate = .ok t' ∧ t'.debt < t.debt := by
  rcases (unbroken_create again).isOk_or_refused with ⟨t', h'⟩ | hrefused
  · refine Or.inr ⟨t', h', ?_⟩
    obtain ⟨-, -, -, -, hraw⟩ := opened_of_create hrate h
    obtain ⟨-, -, -, -, hraw'⟩ := opened_of_create hrate h'
    rw [Decimal.lt_def, hraw, hraw']
    exact Nat.add_lt_add_right (withFee_lt hless) _
  · exact Or.inl hrefused

/-- Where a new Trove's net debt can be scaled, recreating it breaks off if one and the rate leave
the range of decimals. Otherwise it gives the deposit, and the borrow up to one raw unit; opening
with it again gives the same Trove exactly where the fee was not cut off, and is refused or gives
less debt where it was. -/
theorem recreate_restores_iff (hrate : rate < .infinity) (h : create params rate = .ok t)
    (hsize : t.netDebt.rawNat * Decimal.scale < Word.size) :
    (Word.size - 1 ≤ Decimal.scale + rate.rawNat →
      t.recreate rate = .error (.sum .one rate)) ∧
    (Decimal.scale + rate.rawNat < Word.size - 1 → ∃ again, t.recreate rate = .ok again ∧
      again.deposit = params.deposit ∧
      again.borrow.rawNat = (if Decimal.scale ∣ params.borrow.rawNat * rate.rawNat
        then params.borrow.rawNat else params.borrow.rawNat - 1) ∧
      (create again rate = .ok t ↔ Decimal.scale ∣ params.borrow.rawNat * rate.rawNat) ∧
      (¬Decimal.scale ∣ params.borrow.rawNat * rate.rawNat →
        (∃ cause, create again rate = Attempt.refuse cause) ∨
          ∃ t', create again rate = .ok t' ∧ t'.debt < t.debt)) := by
  refine ⟨recreate_breaks hrate, fun hfits => ?_⟩
  obtain ⟨hfinite, hnet⟩ := netDebt_create hrate h
  obtain ⟨hdeposit, -⟩ := opened_of_create hrate h
  have hquotient := withoutFee_withFee params.borrow rate
  rw [← hnet] at hquotient
  have hlt : withoutFee t.netDebt.rawNat rate < Word.size :=
    Nat.lt_of_le_of_lt (Nat.div_le_self _ _) hsize
  obtain ⟨again, hagain⟩ : ∃ again, t.recreate rate = .ok again :=
    ⟨⟨t.collaterals, ⟨⟨_, hlt⟩⟩⟩,
      (recreate_eq_ok_iff hfinite hrate).2 ⟨hfits, hsize, rfl, rfl⟩⟩
  obtain ⟨-, -, hkept, hborrow⟩ := (recreate_eq_ok_iff hfinite hrate).1 hagain
  rw [hquotient] at hborrow
  rw [hdeposit] at hkept
  have hcut : ¬Decimal.scale ∣ params.borrow.rawNat * rate.rawNat →
      (∃ cause, create again rate = Attempt.refuse cause) ∨
        ∃ t', create again rate = .ok t' ∧ t'.debt < t.debt := by
    intro hdvd
    obtain ⟨hvalid, -⟩ := create_eq_ok_iff.1 h
    have hpos := (CreationParams.validate_eq_ok_iff.1 hvalid).2.2.1
    rw [if_neg hdvd] at hborrow
    exact create_less hrate h (by omega)
  refine ⟨again, hagain, hkept, hborrow, ⟨fun hsame => ?_, fun hdvd => ?_⟩, hcut⟩
  · by_contra hdvd
    rcases hcut hdvd with ⟨cause, hrefused⟩ | ⟨t', h', hless⟩
    · rw [hsame] at hrefused
      cases hrefused
    · obtain rfl : t = t' := Except.ok.inj (hsame.symm.trans h')
      exact absurd hless (Nat.lt_irrefl _)
  · rw [if_pos hdvd] at hborrow
    obtain rfl : again = params := by
      cases again
      cases params
      congr 1
      exact Decimal.ext hborrow
    exact h

/-- Borrows two thousand and one raw unit; at half a percent the fee of that unit is cut off. -/
def oddOpening : CreationParams :=
  ⟨.ofList [(firstKind, .ofUInt64 10)], ⟨⟨2000000000000000000001, by decide⟩⟩⟩

def oddTrove : Trove :=
  ⟨.ofList [(firstKind, .ofUInt64 10)], ⟨⟨2210000000000000000001, by decide⟩⟩⟩

/-- The raw unit is lost on the way back, and the Trove is not opened again. -/
theorem oddTrove_not_restored :
    Decimal.thousandths 5 < .infinity ∧ create oddOpening (.thousandths 5) = .ok oddTrove ∧
      oddTrove.netDebt.rawNat * Decimal.scale < Word.size ∧
      ∃ again, oddTrove.recreate (.thousandths 5) = .ok again ∧
        again.deposit = oddOpening.deposit ∧ again.borrow.rawNat = 2000000000000000000000 ∧
        create again (.thousandths 5) ≠ .ok oddTrove := by
  have hrate : Decimal.thousandths 5 < .infinity := by decide
  have hcreate : create oddOpening (.thousandths 5) = .ok oddTrove := rfl
  have hsize : oddTrove.netDebt.rawNat * Decimal.scale < Word.size := by decide
  have hcut : ¬Decimal.scale ∣ oddOpening.borrow.rawNat * (Decimal.thousandths 5).rawNat := by
    decide
  obtain ⟨again, hagain, hdeposit, hborrow, hiff, -⟩ :=
    (recreate_restores_iff hrate hcreate hsize).2 (by decide)
  rw [if_neg hcut] at hborrow
  exact ⟨hrate, hcreate, hsize, again, hagain, hdeposit, hborrow, fun h => hcut (hiff.1 h)⟩

/-! ## The largest rates -/

/-- The smallest rate that leaves no room for one and the rate. -/
def topRate : Decimal := ⟨⟨Word.size - 1 - Decimal.scale, by decide⟩⟩

theorem one_lt_size : 1 < Word.size := by decide

/-- Borrows a single raw unit. -/
def unitOpening : CreationParams := ⟨.ofList [(firstKind, .one)], ⟨⟨1, one_lt_size⟩⟩⟩

/-- The fee of the raw unit makes up the whole debt. -/
def unitTrove : Trove :=
  ⟨.ofList [(firstKind, .one)],
    ⟨⟨115792089237316195423570985008687907853469984665640564039457, by decide⟩⟩⟩

/-- At the top rate a Trove can be opened, with a net debt that can be scaled, and it cannot be
recreated. -/
theorem topRate_breaks_recreate :
    topRate < .infinity ∧ create unitOpening topRate = .ok unitTrove ∧
      unitTrove.netDebt.rawNat * Decimal.scale < Word.size ∧
      ¬∃ again, unitTrove.recreate topRate = .ok again := by
  have hrate : topRate < .infinity := by decide
  refine ⟨hrate, rfl, by decide, ?_⟩
  rintro ⟨again, hagain⟩
  rw [recreate_breaks hrate (by decide)] at hagain
  cases hagain

end Trove

end Cdp
