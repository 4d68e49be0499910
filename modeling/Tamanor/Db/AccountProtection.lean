import Tamanor.Core.AutoHideDecision

/-! The protection of a connected account (`account-protection.ts`): its own settings if
it overrides those of the tenant, else the defaults of the tenant. -/

set_option autoImplicit false

namespace Tamanor.Db

open Tamanor.Core

inductive RiskThreshold where
  | medium | high | critical

def RiskThreshold.value : RiskThreshold → String
  | .medium => "medium"
  | .high => "high"
  | .critical => "critical"

inductive ProtectionSource where
  | accountOverride | tenantDefault

structure EffectiveProtection where
  monitoringEnabled : Bool
  autoHideEnabled : Bool
  autoHideMode : AutoHideMode
  autoHideRiskThreshold : RiskThreshold
  autoHideCategories : List String
  requireManualApproval : Bool
  source : ProtectionSource

structure AccountProtectionFields where
  monitoringEnabled : Bool
  protectionOverridden : Bool
  autoHideEnabled : Bool
  autoHideMode : String
  autoHideRiskThreshold : String
  autoHideCategories : List String
  requireManualApproval : Bool

structure TenantDefaultFields where
  defaultAutoHideEnabled : Bool
  defaultAutoHideMode : String
  defaultAutoHideRiskThreshold : String
  defaultAutoHideCategories : List String
  defaultRequireManualApproval : Bool

def asMode (value : String) : AutoHideMode :=
  if value = "manual_approval" then .manualApproval
  else if value = "automatic" then .automatic
  else .recommend

def asThreshold (value : String) : RiskThreshold :=
  if value = "medium" then .medium else if value = "critical" then .critical else .high

def resolveAccountProtection (account : AccountProtectionFields) (defaults : TenantDefaultFields) :
    EffectiveProtection :=
  if account.protectionOverridden then
    { monitoringEnabled := account.monitoringEnabled
      autoHideEnabled := account.autoHideEnabled
      autoHideMode := asMode account.autoHideMode
      autoHideRiskThreshold := asThreshold account.autoHideRiskThreshold
      autoHideCategories := account.autoHideCategories
      requireManualApproval := account.requireManualApproval
      source := .accountOverride }
  else
    { monitoringEnabled := account.monitoringEnabled
      autoHideEnabled := defaults.defaultAutoHideEnabled
      autoHideMode := asMode defaults.defaultAutoHideMode
      autoHideRiskThreshold := asThreshold defaults.defaultAutoHideRiskThreshold
      autoHideCategories := defaults.defaultAutoHideCategories
      requireManualApproval := defaults.defaultRequireManualApproval
      source := .tenantDefault }

end Tamanor.Db
