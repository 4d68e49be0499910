import Mathlib.Algebra.Order.Ring.Rat
import Tamanor.Library.CharacterDatabase
import Tamanor.Library.Table

/-! The cache of AI results of one tenant and the content-version hash that is its key
(`usage-repo.ts`). -/

set_option autoImplicit false

namespace Tamanor.Db

open Library Library.Text

/-- What the code takes from its runtime: the digest of a text, and the text of a
number, which tells numbers apart and holds no NUL. -/
structure Runtime where
  sha256 : Text → String
  numberText : ℚ → Text
  numberText_injective : Function.Injective numberText
  numberText_ne_nil : ∀ number, numberText number ≠ []
  numberText_plain : ∀ number, Char.ofNat 0 ∉ numberText number

/-- A text for every number, in unary: its negative and its positive part over its
denominator. -/
def unaryText (number : ℚ) : Text :=
  List.replicate (-number.num).toNat '-' ++ List.replicate number.num.toNat '+' ++
    List.replicate number.den '/'

theorem unaryText_injective : Function.Injective unaryText := by
  intro left right same
  have negative : (-left.num).toNat = (-right.num).toNat := by
    simpa [unaryText, List.count_replicate] using congrArg (List.count '-') same
  have positive : left.num.toNat = right.num.toNat := by
    simpa [unaryText, List.count_replicate] using congrArg (List.count '+') same
  have denominator : left.den = right.den := by
    simpa [unaryText, List.count_replicate] using congrArg (List.count '/') same
  exact Rat.ext (by omega) denominator

def Runtime.ofDigest (known : Text) (digest : String) : Runtime where
  sha256 text := if text = known then digest else String.ofList ('#' :: text)
  numberText := unaryText
  numberText_injective := unaryText_injective
  numberText_ne_nil number := by simp [unaryText, number.den_ne_zero]
  numberText_plain number := by
    simp only [unaryText, List.mem_append, List.mem_replicate, not_or, not_and]
    exact ⟨⟨fun _ => by decide, fun _ => by decide⟩, fun _ => by decide⟩

theorem Runtime.ofDigest_injective (known : Text) {digest : String}
    (plain : digest.toList.head? ≠ some '#') :
    Function.Injective (Runtime.ofDigest known digest).sha256 := by
  have other (text : Text) : digest ≠ String.ofList ('#' :: text) := by
    rintro rfl
    simp at plain
  intro left right same
  simp only [ofDigest] at same
  split_ifs at same with leftKnown rightKnown rightKnown
  · rw [leftKnown, rightKnown]
  · exact absurd same (other right)
  · exact absurd same.symm (other left)
  · have printed := congrArg String.toList same
    simpa using printed

structure ContentVersion where
  text : Text
  rating : Option ℚ
  context : Text
  classifierVersion : Text
  policyVersion : Text

variable (database : CharacterDatabase)

def contentNorm (text : Text) : Text :=
  collapseSpaces (database.toLowerCase (trim text))

def ContentVersion.parts (runtime : Runtime) (version : ContentVersion) : List Text :=
  [contentNorm database version.text, (version.rating.map runtime.numberText).getD [],
    version.context, version.classifierVersion, version.policyVersion]

def closeParts (parts : List Text) : Text := parts.flatMap fun part => part ++ [Char.ofNat 0]

def contentVersionHash (runtime : Runtime) (version : ContentVersion) : String :=
  runtime.sha256 (closeParts (version.parts database runtime))

structure CacheKey where
  contentHash : String
  modelKey : String
  policyVersion : String
deriving DecidableEq

abbrev ResultCache (ν : Type) := Table CacheKey ν

variable {ν : Type}

def cacheGet (cache : ResultCache ν) (contentHash modelKey policyVersion : String) : Option ν :=
  cache.find? { contentHash, modelKey, policyVersion }

def cachePut (cache : ResultCache ν) (contentHash modelKey policyVersion : String)
    (normalizedResult : ν) : ResultCache ν :=
  cache.upsert { contentHash, modelKey, policyVersion } normalizedResult

end Tamanor.Db
