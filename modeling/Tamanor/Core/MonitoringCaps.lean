import Tamanor.Library.OrderedSet
import Tamanor.Library.Ranking
import Tamanor.Library.Text
import Mathlib.Data.Prod.Lex
import Mathlib.Data.List.Lex

/-! Which monitored accounts a plan's caps switch off (`selectMonitoringToDisable`): those of the
brands beyond the oldest ones, and then those beyond the oldest accounts. -/

set_option autoImplicit false

namespace Tamanor.Core

open Library Library.Text

structure MonitoredAccountRef where
  id : Text
  brandId : Option Text
  createdAt : Int

structure BrandRef where
  id : Text
  createdAt : Int

/-- A cap of `none` is no limit. -/
structure MonitoringCaps where
  maxBrands : Option Int
  maxConnectedAccounts : Option Int

class Aged (α : Type) where
  createdAt : α → Int
  id : α → Text

instance : Aged MonitoredAccountRef := ⟨MonitoredAccountRef.createdAt, MonitoredAccountRef.id⟩

instance : Aged BrandRef := ⟨BrandRef.createdAt, BrandRef.id⟩

def byOldest {α : Type} [Aged α] (left right : α) : Int :=
  let age := Aged.createdAt left - Aged.createdAt right
  if age ≠ 0 then age
  else if codeUnits (Aged.id left) < codeUnits (Aged.id right) then -1
  else if codeUnits (Aged.id right) < codeUnits (Aged.id left) then 1
  else 0

def sortByOldest {α : Type} [Aged α] (entries : List α) : List α :=
  entries.insertionSort fun left right => byOldest left right ≤ 0

/-- `a.brandId === null || keep.has(a.brandId)`. -/
def keepsBrand (keep : List Text) (account : MonitoredAccountRef) : Bool :=
  match account.brandId with
  | some brandId => keep.contains brandId
  | none => true

def applyBrandCap (keep : List Text) (accounts : List MonitoredAccountRef) :
    OrderedSet Text × List MonitoredAccountRef :=
  accounts.foldl (fun (disable, survivors) account =>
    if !keepsBrand keep account then (disable.add account.id, survivors)
    else (disable, survivors ++ [account])) (.empty, [])

variable (accounts : List MonitoredAccountRef)

def selectMonitoringToDisable (brands : List BrandRef) (caps : MonitoringCaps) : List Text :=
  let (disable, survivors) :=
    match caps.maxBrands with
    | none => (OrderedSet.empty, accounts)
    | some cap =>
      applyBrandCap (((sortByOldest brands).take (max 0 cap).toNat).map BrandRef.id) accounts
  let disable :=
    match caps.maxConnectedAccounts with
    | none => disable
    | some cap => disable.addAll
        (((sortByOldest survivors).drop (max 0 cap).toNat).map MonitoredAccountRef.id)
  disable.toList

abbrev AgeKey := Int ×ₗ List Nat

def ageKey {α : Type} [Aged α] (entry : α) : AgeKey :=
  toLex (Aged.createdAt entry, codeUnits (Aged.id entry))

theorem byOldest_le_zero_iff {α : Type} [Aged α] (left right : α) :
    byOldest left right ≤ 0 ↔ ageKey left ≤ ageKey right := by
  unfold byOldest ageKey
  rw [Prod.Lex.toLex_le_toLex]
  dsimp only
  split
  next different =>
    constructor
    · intro older
      exact .inl (by omega)
    · rintro (older | ⟨same, _⟩)
      · omega
      · omega
  next same =>
    have equal : Aged.createdAt left = Aged.createdAt right := by omega
    rw [equal]
    simp only [lt_irrefl, true_and, false_or]
    split
    next less => simp [less.le]
    next notLess =>
      split
      next greater => simp [greater]
      next notGreater => simp [le_of_not_gt notGreater]

theorem nodup_ageKey {α : Type} [Aged α] {entries : List α}
    (apart : (entries.map (Aged.id (α := α))).Nodup) : (entries.map ageKey).Nodup := by
  rw [List.Nodup, List.pairwise_map] at apart ⊢
  refine apart.imp ?_
  intro left right different same
  exact different (codeUnits_injective (Prod.ext_iff.mp (toLex.injective same)).2)

section Oldest

variable {α : Type} [Aged α] {entries : List α} {entry : α} {count : Nat}
  (apart : (entries.map (Aged.id (α := α))).Nodup) (member : entry ∈ entries)

include apart member

theorem mem_take_oldest :
    entry ∈ (sortByOldest entries).take count ↔ keyRank ageKey entries (ageKey entry) < count :=
  mem_take_insertionSort byOldest_le_zero_iff (nodup_ageKey apart) member

theorem mem_drop_oldest :
    entry ∈ (sortByOldest entries).drop count ↔ count ≤ keyRank ageKey entries (ageKey entry) :=
  mem_drop_insertionSort byOldest_le_zero_iff (nodup_ageKey apart) member

end Oldest

def survivesBrandCap (brands : List BrandRef) (caps : MonitoringCaps)
    (account : MonitoredAccountRef) : Bool :=
  match caps.maxBrands, account.brandId with
  | some cap, some brandId => brands.any fun brand =>
    brand.id == brandId && decide (keyRank ageKey brands (ageKey brand) < cap.toNat)
  | _, _ => true

def remaining (disabled : List Text) : List MonitoredAccountRef :=
  accounts.filter fun account => !disabled.contains account.id

/-- The oldest brands and accounts are kept, and no more is disabled than the caps ask for. A cap
below zero counts as zero. -/
structure KeepsOldest (accounts : List MonitoredAccountRef) (brands : List BrandRef)
    (caps : MonitoringCaps) (disabled : List Text) : Prop where
  subset : ∀ id ∈ disabled, ∃ account ∈ accounts, account.id = id
  brandCap : ∀ account ∈ remaining accounts disabled, survivesBrandCap brands caps account = true
  accountCap : ∀ cap, caps.maxConnectedAccounts = some cap →
    (remaining accounts disabled).length ≤ cap.toNat
  needed : ∀ account ∈ accounts, account.id ∈ disabled →
    survivesBrandCap brands caps account = true →
      ∃ cap, caps.maxConnectedAccounts = some cap ∧
        cap.toNat ≤ keyRank ageKey (accounts.filter (survivesBrandCap brands caps)) (ageKey account)

def OverCap (brands : List BrandRef) (caps : MonitoringCaps) (account : MonitoredAccountRef) :
    Prop :=
  survivesBrandCap brands caps account = false ∨
    ∃ cap, caps.maxConnectedAccounts = some cap ∧
      cap.toNat ≤ keyRank ageKey (accounts.filter (survivesBrandCap brands caps)) (ageKey account)

section Select

variable {accounts : List MonitoredAccountRef} {brands : List BrandRef} {caps : MonitoringCaps}

theorem applyBrandCap_eq (keep : List Text) (accounts : List MonitoredAccountRef) :
    (∀ id, id ∈ (applyBrandCap keep accounts).1 ↔
      ∃ account ∈ accounts, keepsBrand keep account = false ∧ account.id = id) ∧
    (applyBrandCap keep accounts).2 = accounts.filter (keepsBrand keep) := by
  induction accounts using List.reverseRecOn with
  | nil => exact ⟨by simp [applyBrandCap], rfl⟩
  | append_singleton accounts account ih =>
    obtain ⟨disable, survivors⟩ := ih
    unfold applyBrandCap at disable survivors ⊢
    rw [List.foldl_append, List.foldl_cons, List.foldl_nil, List.filter_append, ← survivors]
    cases kept : keepsBrand keep account with
    | true =>
      refine ⟨?_, by simp [kept]⟩
      intro id
      simp only [Bool.not_true, Bool.false_eq_true, if_false, disable, List.mem_append,
        List.mem_singleton, or_and_right, exists_or, exists_eq_left, kept, Bool.true_eq_false,
        false_and, or_false]
    | false =>
      refine ⟨?_, by simp [kept]⟩
      intro id
      simp only [Bool.not_false, if_true, OrderedSet.mem_add, disable, List.mem_append,
        List.mem_singleton, or_and_right, exists_or, exists_eq_left, kept, true_and,
        eq_comm (a := id)]

variable (caps) in
theorem keepsBrand_eq (distinct : (brands.map BrandRef.id).Nodup) {cap : Int}
    (limited : caps.maxBrands = some cap) (account : MonitoredAccountRef) :
    keepsBrand (((sortByOldest brands).take (max 0 cap).toNat).map BrandRef.id) account =
      survivesBrandCap brands caps account := by
  unfold keepsBrand survivesBrandCap
  rw [limited]
  cases account.brandId with
  | none => rfl
  | some brandId =>
    have cut : (max 0 cap).toNat = cap.toNat := by omega
    rw [Bool.eq_iff_iff, cut, List.contains_iff_mem, List.mem_map]
    simp only [List.any_eq_true, Bool.and_eq_true, beq_iff_eq, decide_eq_true_eq]
    constructor
    · rintro ⟨brand, taken, same⟩
      have member : brand ∈ brands :=
        (List.perm_insertionSort _ _).mem_iff.mp (List.mem_of_mem_take taken)
      exact ⟨brand, member, same, (mem_take_oldest distinct member).mp taken⟩
    · rintro ⟨brand, member, same, few⟩
      exact ⟨brand, (mem_take_oldest distinct member).mpr few, same⟩

theorem remaining_sublist (accounts : List MonitoredAccountRef) (disabled : List Text) :
    (remaining accounts disabled).Sublist accounts := List.filter_sublist

section

variable (distinctAccounts : (accounts.map MonitoredAccountRef.id).Nodup)
  (distinctBrands : (brands.map BrandRef.id).Nodup)
include distinctAccounts distinctBrands

theorem mem_select_iff (id : Text) :
    id ∈ selectMonitoringToDisable accounts brands caps ↔
      ∃ account ∈ accounts, account.id = id ∧ OverCap accounts brands caps account := by
  have brandCap : ∃ disable : OrderedSet Text, (∀ id, id ∈ disable ↔
      ∃ account ∈ accounts, survivesBrandCap brands caps account = false ∧ account.id = id) ∧
      (match caps.maxBrands with
        | none => (OrderedSet.empty, accounts)
        | some cap =>
          applyBrandCap (((sortByOldest brands).take (max 0 cap).toNat).map BrandRef.id) accounts) =
        (disable, accounts.filter (survivesBrandCap brands caps)) := by
    cases limited : caps.maxBrands with
    | none =>
      have all (account : MonitoredAccountRef) : survivesBrandCap brands caps account = true := by
        simp [survivesBrandCap, limited]
      refine ⟨.empty, by simp [all], Prod.ext rfl ?_⟩
      exact (List.filter_eq_self.mpr fun account _ => all account).symm
    | some cap =>
      have same := funext (keepsBrand_eq caps distinctBrands limited)
      obtain ⟨disable, survivors⟩ := applyBrandCap_eq
        (((sortByOldest brands).take (max 0 cap).toNat).map BrandRef.id) accounts
      rw [same] at survivors
      refine ⟨_, ?_, Prod.ext rfl survivors⟩
      intro id
      rw [disable]
      simp only [congrFun same]
  obtain ⟨disable, disabled, cut⟩ := brandCap
  have apart : ((accounts.filter (survivesBrandCap brands caps)).map
      (Aged.id (α := MonitoredAccountRef))).Nodup :=
    distinctAccounts.sublist (List.filter_sublist.map _)
  have drops {cap : Int} (account : MonitoredAccountRef) :
      account ∈ (sortByOldest (accounts.filter (survivesBrandCap brands caps))).drop
          (max 0 cap).toNat ↔
        account ∈ accounts.filter (survivesBrandCap brands caps) ∧ cap.toNat ≤ keyRank ageKey
          (accounts.filter (survivesBrandCap brands caps)) (ageKey account) := by
    have zero : (max 0 cap).toNat = cap.toNat := by omega
    rw [zero]
    constructor
    · intro dropped
      have member := (List.perm_insertionSort _ _).mem_iff.mp (List.mem_of_mem_drop dropped)
      exact ⟨member, (mem_drop_oldest apart member).mp dropped⟩
    · rintro ⟨member, many⟩
      exact (mem_drop_oldest apart member).mpr many
  unfold selectMonitoringToDisable OverCap
  rw [cut]
  dsimp only
  cases caps.maxConnectedAccounts with
  | none =>
    rw [OrderedSet.mem_toList, disabled]
    constructor
    · rintro ⟨account, member, exceeds, same⟩
      exact ⟨account, member, same, .inl exceeds⟩
    · rintro ⟨account, member, same, exceeds | ⟨_, none, _⟩⟩
      · exact ⟨account, member, exceeds, same⟩
      · cases none
  | some cap =>
    rw [OrderedSet.mem_toList, OrderedSet.mem_addAll, disabled, List.mem_map]
    constructor
    · rintro (⟨account, member, exceeds, same⟩ | ⟨account, dropped, same⟩)
      · exact ⟨account, member, same, .inl exceeds⟩
      · obtain ⟨member, many⟩ := (drops account).mp dropped
        exact ⟨account, (List.mem_filter.mp member).1, same, .inr ⟨cap, rfl, many⟩⟩
    · rintro ⟨account, member, same, exceeds | ⟨_, limit, many⟩⟩
      · exact .inl ⟨account, member, exceeds, same⟩
      · cases limit
        cases survives : survivesBrandCap brands caps account with
        | false => exact .inl ⟨account, member, survives, same⟩
        | true =>
          exact .inr ⟨account, (drops account).mpr
            ⟨List.mem_filter.mpr ⟨member, survives⟩, many⟩, same⟩

variable (caps) in
theorem select_iff_overCap {account : MonitoredAccountRef}
    (member : account ∈ accounts) :
    account.id ∈ selectMonitoringToDisable accounts brands caps ↔
      OverCap accounts brands caps account := by
  rw [mem_select_iff distinctAccounts distinctBrands]
  constructor
  · rintro ⟨other, present, same, exceeds⟩
    rwa [← List.inj_on_of_nodup_map distinctAccounts present member same]
  · intro exceeds
    exact ⟨account, member, rfl, exceeds⟩

theorem of_mem_remaining {account : MonitoredAccountRef}
    (kept : account ∈ remaining accounts (selectMonitoringToDisable accounts brands caps)) :
    account ∈ accounts ∧ survivesBrandCap brands caps account = true ∧
      ∀ cap, caps.maxConnectedAccounts = some cap → keyRank ageKey
        (accounts.filter (survivesBrandCap brands caps)) (ageKey account) < cap.toNat := by
  obtain ⟨member, absent⟩ := List.mem_filter.mp kept
  rw [Bool.not_eq_true', ← Bool.not_eq_true, List.contains_iff_mem,
    select_iff_overCap caps distinctAccounts distinctBrands member] at absent
  simp only [OverCap, not_or, Bool.not_eq_false, not_exists, not_and, not_le] at absent
  exact ⟨member, absent⟩

theorem length_remaining_le {cap : Int}
    (limited : caps.maxConnectedAccounts = some cap) :
    (remaining accounts (selectMonitoringToDisable accounts brands caps)).length ≤ cap.toNat := by
  have apart : ((accounts.filter (survivesBrandCap brands caps)).map
      (Aged.id (α := MonitoredAccountRef))).Nodup :=
    distinctAccounts.sublist (List.filter_sublist.map _)
  have inside : remaining accounts (selectMonitoringToDisable accounts brands caps) ⊆
      (sortByOldest (accounts.filter (survivesBrandCap brands caps))).take cap.toNat := by
    intro account kept
    obtain ⟨member, survives, few⟩ := of_mem_remaining distinctAccounts distinctBrands kept
    exact (mem_take_oldest apart (List.mem_filter.mpr ⟨member, survives⟩)).mpr (few cap limited)
  have once := (List.Nodup.of_map _ distinctAccounts).sublist (remaining_sublist accounts
    (selectMonitoringToDisable accounts brands caps))
  exact (once.length_le_of_subset inside).trans (List.length_take_le _ _)

theorem mem_select_perm
    {otherAccounts : List MonitoredAccountRef} {otherBrands : List BrandRef}
    (permAccounts : otherAccounts.Perm accounts) (permBrands : otherBrands.Perm brands)
    (id : Text) :
    id ∈ selectMonitoringToDisable otherAccounts otherBrands caps ↔
      id ∈ selectMonitoringToDisable accounts brands caps := by
  have survive : survivesBrandCap otherBrands caps = survivesBrandCap brands caps := by
    funext account
    unfold survivesBrandCap
    split
    · rw [Bool.eq_iff_iff, List.any_eq_true, List.any_eq_true]
      simp only [keyRank_perm permBrands, permBrands.mem_iff]
    · rfl
  rw [mem_select_iff (((permAccounts.map _).nodup_iff).mpr distinctAccounts)
    (((permBrands.map _).nodup_iff).mpr distinctBrands),
    mem_select_iff distinctAccounts distinctBrands]
  simp only [OverCap, survive, permAccounts.mem_iff, keyRank_perm (permAccounts.filter _)]

theorem select_remaining :
    selectMonitoringToDisable
      (remaining accounts (selectMonitoringToDisable accounts brands caps)) brands caps = [] := by
  have sublist := remaining_sublist accounts (selectMonitoringToDisable accounts brands caps)
  rw [List.eq_nil_iff_forall_not_mem]
  intro id member
  rw [mem_select_iff (distinctAccounts.sublist (sublist.map _)) distinctBrands] at member
  obtain ⟨account, kept, _, exceeds⟩ := member
  obtain ⟨_, survives, few⟩ := of_mem_remaining distinctAccounts distinctBrands kept
  rcases exceeds with exceeds | ⟨cap, limited, many⟩
  · rw [survives] at exceeds
    cases exceeds
  · -- fewer accounts are older than it among those that stay
    have fewer : keyRank ageKey ((remaining accounts
          (selectMonitoringToDisable accounts brands caps)).filter
            (survivesBrandCap brands caps)) (ageKey account) ≤
        keyRank ageKey (accounts.filter (survivesBrandCap brands caps)) (ageKey account) :=
      (sublist.filter _).countP_le
    have below := few cap limited
    omega

end

end Select

/-- Selecting is exact, does not depend on the order of the rows, and leaves nothing to select. -/
theorem selectMonitoringToDisable_exact {accounts : List MonitoredAccountRef}
    {brands : List BrandRef} (caps : MonitoringCaps)
    (distinctAccounts : (accounts.map MonitoredAccountRef.id).Nodup)
    (distinctBrands : (brands.map BrandRef.id).Nodup) :
    KeepsOldest accounts brands caps (selectMonitoringToDisable accounts brands caps) ∧
      (∀ otherAccounts otherBrands, otherAccounts.Perm accounts → otherBrands.Perm brands → ∀ id,
        id ∈ selectMonitoringToDisable otherAccounts otherBrands caps ↔
          id ∈ selectMonitoringToDisable accounts brands caps) ∧
      selectMonitoringToDisable
        (remaining accounts (selectMonitoringToDisable accounts brands caps)) brands caps = [] := by
  refine ⟨⟨?_, ?_, ?_, ?_⟩, ?_, select_remaining distinctAccounts distinctBrands⟩
  · intro id member
    obtain ⟨account, present, same, _⟩ :=
      (mem_select_iff distinctAccounts distinctBrands id).mp member
    exact ⟨account, present, same⟩
  · intro account kept
    exact (of_mem_remaining distinctAccounts distinctBrands kept).2.1
  · exact fun cap limited => length_remaining_le distinctAccounts distinctBrands limited
  · intro account member disabled survives
    rcases (select_iff_overCap caps distinctAccounts distinctBrands member).mp disabled with
      exceeds | exceeds
    · rw [survives] at exceeds
      cases exceeds
    · exact exceeds
  · exact fun _ _ permAccounts permBrands =>
      mem_select_perm distinctAccounts distinctBrands permAccounts permBrands

/-- Of three accounts of two brands, one is over the brand cap and one over the account cap. -/
theorem selectMonitoringToDisable_exact_three :
    let accounts : List MonitoredAccountRef :=
      [⟨['c'], some ['y'], 1⟩, ⟨['b'], some ['x'], 2⟩, ⟨['a'], none, 1⟩]
    let brands : List BrandRef := [⟨['y'], 5⟩, ⟨['x'], 5⟩]
    selectMonitoringToDisable accounts brands ⟨some 1, some 1⟩ = [['c'], ['b']] ∧
      KeepsOldest accounts brands ⟨some 1, some 1⟩
        (selectMonitoringToDisable accounts brands ⟨some 1, some 1⟩) :=
  ⟨by decide, (selectMonitoringToDisable_exact ⟨some 1, some 1⟩ (by decide) (by decide)).1⟩

end Tamanor.Core
