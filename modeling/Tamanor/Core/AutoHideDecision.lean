import Mathlib.Data.List.Basic

/-! The gate of an automatic hide (`auto-hide-decision.ts`). It only decides; the first
check that fails is the answer. -/

set_option autoImplicit false

namespace Tamanor.Core

inductive AutoHideMode where
  | recommend | manualApproval | automatic
deriving DecidableEq

/-- New syncs and the execution of moderation are allowed (`billing.ts`). -/
def accessAllowsOperations (state : String) : Bool :=
  state == "full_access" || state == "grace_period"

end Tamanor.Core
