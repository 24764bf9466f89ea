import Cdp.Proofs.InsertHint.Phases
import Cdp.Snapshot.Basic

/-!
# Composite reads that cannot break off

A read fails where a request fails or where an amount of units is no decimal, and both are refusals.
So a whitelist, a pool, a stored Trove and a whole snapshot (`unbroken_readSnapshot`) are read to
their end or refused, and so is an insert position (`unbroken_findWithSeed`). The composite reads
that add amounts up, as `readTotal` and `readTrove` do, are not among them.
-/

set_option autoImplicit false

namespace Cdp

open Procedure

namespace Chain

variable {tag : BlockTag}

theorem unbroken_readAt {q : Query} : Unbroken (readAt q tag) := unbroken_request

theorem unbroken_readWhitelist : Unbroken (readWhitelist tag) := by
  refine unbroken_bind unbroken_readAt fun kinds => unbroken_bind (unbroken_mapM ?_ _) ?_
  · intro kind
    refine unbroken_bind ?_ fun info => unbroken_done nofun
    refine unbroken_bind unbroken_readAt fun price => ?_
    refine unbroken_bind unbroken_readAt fun decimals => ?_
    refine unbroken_bind unbroken_readAt fun safety => ?_
    refine unbroken_bind unbroken_readAt fun recovery => ?_
    exact unbroken_bind unbroken_readAt fun wrapped => unbroken_done nofun
  · exact fun entries => unbroken_done nofun

theorem unbroken_readFeesFactory : Unbroken (readFeesFactory tag) :=
  unbroken_bind unbroken_readAt fun _ => unbroken_bind unbroken_readAt fun _ => unbroken_done nofun

/-- An amount of units that is no decimal is refused. -/
theorem unbroken_collateralsOfUnits (w : Whitelist) (units : List (Address × Word)) :
    Attempt.Unbroken (collateralsOfUnits w units) := by
  apply Attempt.unbroken_foldlM
  intro m e
  refine Attempt.unbroken_bind ?_ fun amount => nofun
  refine Attempt.unbroken_bind (Attempt.unbroken_ofOption _ _) fun decimals => ?_
  exact Attempt.unbroken_ofExcept _ _

theorem unbroken_readPool (pool : Pool) (w : Whitelist) : Unbroken (readPool pool w tag) := by
  refine unbroken_bind unbroken_readAt fun debt => unbroken_bind (unbroken_mapM ?_ _) ?_
  · intro kind
    exact unbroken_bind unbroken_readAt fun raw => unbroken_done nofun
  · intro units
    refine unbroken_bind (unbroken_done ?_) fun collaterals => unbroken_done nofun
    exact unbroken_collateralsOfUnits w units

theorem unbroken_readTotals (kinds : List Address) : Unbroken (readTotals kinds tag) := by
  refine unbroken_bind (unbroken_mapM ?_ _) fun totals => unbroken_done nofun
  intro kind
  exact unbroken_bind unbroken_readAt fun raw => unbroken_done nofun

theorem unbroken_readStoredTrove (owner : Address) (w : Whitelist) :
    Unbroken (readStoredTrove owner w tag) := by
  refine unbroken_bind unbroken_readAt fun code => ?_
  split
  · exact unbroken_done nofun
  · split
    · exact unbroken_done nofun
    · refine unbroken_bind unbroken_readAt fun debt => unbroken_bind unbroken_readAt fun units => ?_
      refine unbroken_bind (unbroken_done (unbroken_collateralsOfUnits w units)) ?_
      intro collaterals
      refine unbroken_bind (unbroken_mapM ?_ _) fun perKind => unbroken_done nofun
      intro e
      refine unbroken_bind unbroken_readAt fun stake => ?_
      exact unbroken_bind unbroken_readAt fun snapshot => unbroken_done nofun

theorem unbroken_readOwnerTrove (owner : Option Address) (w : Whitelist) :
    Unbroken (readOwnerTrove owner w tag) := by
  cases owner with
  | none => exact unbroken_done nofun
  | some owner =>
    exact unbroken_bind (unbroken_readStoredTrove owner w) fun stored => unbroken_done nofun

theorem unbroken_readSnapshot (owner : Option Address) : Unbroken (readSnapshot owner tag) := by
  refine unbroken_bind unbroken_readAt fun block => ?_
  refine unbroken_bind unbroken_readWhitelist fun w => ?_
  refine unbroken_bind unbroken_readFeesFactory fun factory => ?_
  refine unbroken_bind unbroken_readAt fun count => ?_
  refine unbroken_bind (unbroken_readPool .active w) fun active => ?_
  refine unbroken_bind (unbroken_readPool .default w) fun default => ?_
  refine unbroken_bind (unbroken_readTotals w.kinds) fun totals => ?_
  exact unbroken_bind (unbroken_readOwnerTrove owner w) fun ownerTrove => unbroken_done nofun

end Chain

namespace HintFinder

theorem unbroken_findWithSeed {finder : HintFinder} {ratio : Decimal} {owner : Option Address}
    {seed : Word} : Unbroken (finder.findWithSeed ratio owner seed) :=
  phased_findWithSeed.unbroken

end HintFinder

end Cdp
