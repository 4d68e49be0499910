import Tamanor.Core.SecretPatterns
import Tamanor.Library.NumericLiteral

/-! The deep redaction of diagnostics (`observability.ts`): a walk over objects that may share
parts and contain themselves, which makes new texts of some of the values that it finds. -/

set_option autoImplicit false

namespace Tamanor.Core

open Library

structure RedactDeepOptions where
  maxDepth : Nat
  maxArray : Nat
  maxString : Nat
  maxKeys : Nat

def rdDefaults : RedactDeepOptions := ⟨6, 100, 2048, 100⟩

inductive LogValue where
  | undefined
  | null
  | boolean (value : Bool)
  /-- A double, by its bits. -/
  | number (bits : UInt64)
  | bigint (value : Int)
  | string (units : Units)
  | function
  | symbol
  | object (address : Nat)

/-- What stands at an address. What a hostile error or object holds cannot be read without a
throw. -/
inductive LogObject where
  | error (name message : LogValue)
  | hostileError
  | array (items : List LogValue) (inRange : items.length < 4294967296)
  | plain (fields : List (Units × LogValue))
  | hostile

abbrev LogHeap := Nat → LogObject

/-! The values that are returned; one that is handed on as it is still belongs to the heap. -/

inductive Redacted where
  | undefined
  | null
  | boolean (value : Bool)
  | number (bits : UInt64)
  | string (units : Units)
  | array (items : List Redacted)
  | object (fields : List (Units × Redacted))
  | raw (value : LogValue)

namespace Redacted

def text (text : String) : Redacted := .string (unitsOf text)

end Redacted

def cut (opts : RedactDeepOptions) (units : Units) : Units :=
  if opts.maxString < units.length then units.take opts.maxString ++ unitsOf "…[truncated]"
  else units

def redactString (opts : RedactDeepOptions) (units : Units) : Units :=
  if leaks units then unitsOf "[redacted]" else cut opts units

def bigintText (value : Int) : Units := unitsOf (toString value ++ "n")

def moreText (count : Nat) : Units := unitsOf ("…+" ++ toString count ++ " more")

/-! The walk. Its results are those of its parts, with the objects that have been seen; it is
`none` where it throws. -/

/-- `out[key] = value`. The name of the prototype is no field of the object itself. -/
def assignField {α : Type} (out : List (Units × α)) (key : Units) (value : α) : List (Units × α) :=
  if key = unitsOf "__proto__" then out
  else if key ∈ out.map Prod.fst then
    out.map fun field => if field.1 = key then (key, value) else field
  else out ++ [(key, value)]

section
variable {α : Type}

def walkItems (walkItem : List Nat → LogValue → Option (α × List Nat)) :
    List Nat → List LogValue → Option (List α × List Nat)
  | seen, [] => some ([], seen)
  | seen, item :: rest => do
    let (out, seen) ← walkItem seen item
    let (outs, seen) ← walkItems walkItem seen rest
    some (out :: outs, seen)

def walkFields (walkField : List Nat → Units → LogValue → Option (α × List Nat)) :
    List (Units × α) → List Nat → List (Units × LogValue) → Option (List (Units × α) × List Nat)
  | out, seen, [] => some (out, seen)
  | out, seen, (key, value) :: rest => do
    let (walked, seen) ← walkField seen key value
    walkFields walkField (assignField out key walked) seen rest

/-- The first keys of an object, with a mark for those that are left out. -/
def walkKeys (walkField : List Nat → Units → LogValue → Option (α × List Nat)) (limited : α)
    (maxKeys : Nat) (seen : List Nat) (fields : List (Units × LogValue)) :
    Option (List (Units × α) × List Nat) := do
  let (out, seen) ← walkFields walkField [] seen (fields.take maxKeys)
  some (if maxKeys < fields.length then assignField out (unitsOf "…") limited else out, seen)

end

def walkDeep (heap : LogHeap) (opts : RedactDeepOptions) : Nat → List Nat → LogValue → Nat →
    Option Units → Option (Redacted × List Nat)
  -- The stack is used up.
  | 0, _, _, _, _ => none
  | stack + 1, seen, value, depth, keyHint =>
    if keyHint.any isSecretKey then some (.text "[redacted]", seen)
    else
      match value with
      | .undefined => some (.undefined, seen)
      | .null => some (.null, seen)
      | .string units => some (.string (redactString opts units), seen)
      | .number bits => some (.number bits, seen)
      | .boolean value => some (.boolean value, seen)
      | .bigint value => some (.string (bigintText value), seen)
      | .function => some (.text "[function]", seen)
      | .symbol => some (.text "[symbol]", seen)
      | .object address =>
        match heap address with
        | .error name message => do
          let (walked, seen) ← walkDeep heap opts stack seen message (depth + 1)
            (some (unitsOf "message"))
          some (.object [(unitsOf "name", .raw name), (unitsOf "message", walked)], seen)
        | .hostileError => none
        | object =>
          if address ∈ seen then some (.text "[circular]", seen)
          else if opts.maxDepth ≤ depth then some (.text "[depth-limited]", address :: seen)
          else
            match object with
            | .array items _ => do
              let (outs, seen) ← walkItems
                (fun seen item => walkDeep heap opts stack seen item (depth + 1) none)
                (address :: seen) (items.take opts.maxArray)
              some (.array (outs ++ if opts.maxArray < items.length then
                [.string (moreText (items.length - opts.maxArray))] else []), seen)
            | .plain fields => do
              let (out, seen) ← walkKeys
                (fun seen key value => walkDeep heap opts stack seen value (depth + 1) (some key))
                (.text "[keys-limited]") opts.maxKeys (address :: seen) fields
              some (.object out, seen)
            | _ => none

def redactDeep (heap : LogHeap) (opts : RedactDeepOptions) (stack : Nat) (value : LogValue) :
    Redacted :=
  match walkDeep heap opts stack [] value 0 none with
  | some (out, _) => out
  | none => .text "[redaction-error]"

/-- A value of the heap that leads into no cycle, has no text in it that leaks, and under a secret
key nothing but the mark. -/
inductive Harmless (heap : LogHeap) : LogValue → Prop where
  | undefined : Harmless heap .undefined
  | null : Harmless heap .null
  | boolean (value : Bool) : Harmless heap (.boolean value)
  | number (bits : UInt64) : Harmless heap (.number bits)
  | bigint (value : Int) : Harmless heap (.bigint value)
  | function : Harmless heap .function
  | symbol : Harmless heap .symbol
  | string {units : Units} (quiet : leaks units = false) : Harmless heap (.string units)
  | error {address : Nat} {name message : LogValue} (found : heap address = .error name message)
      (name : Harmless heap name) (message : Harmless heap message) :
      Harmless heap (.object address)
  | array {address : Nat} {items : List LogValue} {inRange : items.length < 4294967296}
      (found : heap address = .array items inRange) (items : ∀ item ∈ items, Harmless heap item) :
      Harmless heap (.object address)
  | plain {address : Nat} {fields : List (Units × LogValue)} (found : heap address = .plain fields)
      (secrets : ∀ field ∈ fields, isSecretKey field.1 = true →
        field.2 = .string (unitsOf "[redacted]"))
      (fields : ∀ field ∈ fields, Harmless heap field.2) : Harmless heap (.object address)

mutual

def Sound (heap : LogHeap) : Redacted → Prop
  | .string units => leaks units = false
  | .array items => SoundItems heap items
  | .object fields => SoundFields heap fields
  | .raw value => Harmless heap value
  | _ => True

def SoundItems (heap : LogHeap) : List Redacted → Prop
  | [] => True
  | item :: rest => Sound heap item ∧ SoundItems heap rest

def SoundFields (heap : LogHeap) : List (Units × Redacted) → Prop
  | [] => True
  | (key, value) :: rest =>
    (isSecretKey key = true → value = .text "[redacted]") ∧ Sound heap value ∧ SoundFields heap rest

end

/-! The texts that are made of the values that a walk reaches. -/

inductive Conversion where
  | bigint (value : Int)
  | errorName (name : LogValue)
  | cutString (units : Units)

/-- A bigint has at most ten digits, the name of an error is clean, and no text is cut right behind
an address. -/
def Conversion.Fine (heap : LogHeap) (opts : RedactDeepOptions) : Conversion → Prop
  | .bigint value => value.natAbs < 10000000000
  | .errorName name => Harmless heap name
  | .cutString units => endsInAddress false (units.take opts.maxString) = false

def conversions (heap : LogHeap) (opts : RedactDeepOptions) : Nat → List Nat → LogValue → Nat →
    Option Units → Option (List Conversion × List Nat)
  | 0, _, _, _, _ => none
  | stack + 1, seen, value, depth, keyHint =>
    if keyHint.any isSecretKey then some ([], seen)
    else
      match value with
      | .string units =>
        some (if leaks units = false ∧ opts.maxString < units.length then [.cutString units]
          else [], seen)
      | .bigint value => some ([.bigint value], seen)
      | .object address =>
        match heap address with
        | .error name message => do
          let (inside, seen) ← conversions heap opts stack seen message (depth + 1)
            (some (unitsOf "message"))
          some (.errorName name :: inside, seen)
        | .hostileError => none
        | object =>
          if address ∈ seen then some ([], seen)
          else if opts.maxDepth ≤ depth then some ([], address :: seen)
          else
            match object with
            | .array items _ => do
              let (inside, seen) ← walkItems
                (fun seen item => conversions heap opts stack seen item (depth + 1) none)
                (address :: seen) (items.take opts.maxArray)
              some (inside.flatten, seen)
            | .plain fields => do
              let (inside, seen) ← walkKeys
                (fun seen key value =>
                  conversions heap opts stack seen value (depth + 1) (some key))
                [] opts.maxKeys (address :: seen) fields
              some (inside.flatMap Prod.snd, seen)
            | _ => none
      | _ => some ([], seen)

section
variable {heap : LogHeap} {opts : RedactDeepOptions}

section
variable {α β : Type} {Same : α → β → Prop}

/-- The results agree, and the same objects have been seen. -/
def Alike (Same : α → β → Prop) : Option (α × List Nat) → Option (β × List Nat) → Prop :=
  Option.Rel fun first second => Same first.1 second.1 ∧ first.2 = second.2

theorem Alike.bind {γ δ : Type} {Other : γ → δ → Prop} {first : Option (α × List Nat)}
    {second : Option (β × List Nat)} {next : α × List Nat → Option (γ × List Nat)}
    {next' : β × List Nat → Option (δ × List Nat)} (alike : Alike Same first second)
    (further : ∀ one other seen, Same one other →
      Alike Other (next (one, seen)) (next' (other, seen))) :
    Alike Other (first.bind next) (second.bind next') := by
  cases alike with
  | none => exact .none
  | @some one other same =>
    obtain ⟨same, seen⟩ := same
    obtain ⟨one, seenOne⟩ := one
    obtain ⟨other, seenOther⟩ := other
    obtain rfl : seenOne = seenOther := seen
    exact further one other seenOne same

theorem Alike.imp {Other : α → β → Prop} {first : Option (α × List Nat)}
    {second : Option (β × List Nat)} (alike : Alike Same first second)
    (also : ∀ one other, Same one other → Other one other) : Alike Other first second := by
  cases alike with
  | none => exact .none
  | some same => exact .some ⟨also _ _ same.1, same.2⟩

theorem alike_walkItems {first : List Nat → LogValue → Option (α × List Nat)}
    {second : List Nat → LogValue → Option (β × List Nat)}
    (alike : ∀ seen item, Alike Same (first seen item) (second seen item))
    (seen : List Nat) (items : List LogValue) :
    Alike (List.Forall₂ Same) (walkItems first seen items) (walkItems second seen items) := by
  induction items generalizing seen with
  | nil => exact .some ⟨.nil, rfl⟩
  | cons item rest ih =>
    refine (alike seen item).bind fun one other seen same => ?_
    exact (ih seen).bind fun ones others seen sames => .some ⟨.cons same sames, rfl⟩

structure AlikeField (SameUnder : Units → α → β → Prop) (first : Units × α) (second : Units × β) :
    Prop where
  key : first.1 = second.1
  value : SameUnder first.1 first.2 second.2

variable {SameUnder : Units → α → β → Prop} {out : List (Units × α)} {out' : List (Units × β)}

theorem keys_alike (alike : List.Forall₂ (AlikeField SameUnder) out out') :
    out.map Prod.fst = out'.map Prod.fst := by
  induction alike with
  | nil => rfl
  | cons same _ ih => rw [List.map_cons, List.map_cons, same.key, ih]

theorem alike_assignField {key : Units} {one : α} {other : β}
    (alike : List.Forall₂ (AlikeField SameUnder) out out') (same : SameUnder key one other) :
    List.Forall₂ (AlikeField SameUnder) (assignField out key one)
      (assignField out' key other) := by
  unfold assignField
  rw [keys_alike alike]
  split
  · exact alike
  · split
    · rw [List.forall₂_map_left_iff, List.forall₂_map_right_iff]
      refine alike.imp fun first second field => ?_
      rw [field.key]
      split
      · exact ⟨rfl, same⟩
      · exact field
    · exact List.rel_append alike (.cons ⟨rfl, same⟩ .nil)

theorem alike_walkFields {first : List Nat → Units → LogValue → Option (α × List Nat)}
    {second : List Nat → Units → LogValue → Option (β × List Nat)}
    (alike : ∀ seen key value, Alike (SameUnder key) (first seen key value) (second seen key value))
    (sofar : List.Forall₂ (AlikeField SameUnder) out out') (seen : List Nat)
    (fields : List (Units × LogValue)) :
    Alike (List.Forall₂ (AlikeField SameUnder)) (walkFields first out seen fields)
      (walkFields second out' seen fields) := by
  induction fields generalizing out out' seen with
  | nil => exact .some ⟨sofar, rfl⟩
  | cons field rest ih =>
    refine (alike seen field.1 field.2).bind fun one other seen same => ?_
    exact ih (alike_assignField sofar same) seen

theorem alike_walkKeys {first : List Nat → Units → LogValue → Option (α × List Nat)}
    {second : List Nat → Units → LogValue → Option (β × List Nat)} {limited : α} {limited' : β}
    (alike : ∀ seen key value, Alike (SameUnder key) (first seen key value) (second seen key value))
    (limits : SameUnder (unitsOf "…") limited limited') (maxKeys : Nat) (seen : List Nat)
    (fields : List (Units × LogValue)) :
    Alike (List.Forall₂ (AlikeField SameUnder)) (walkKeys first limited maxKeys seen fields)
      (walkKeys second limited' maxKeys seen fields) := by
  refine (alike_walkFields alike .nil seen _).bind fun one other seen same => .some ⟨?_, rfl⟩
  dsimp only
  split
  · exact alike_assignField same limits
  · exact same

end

theorem digit_units (value : Nat) :
    ∀ unit ∈ (Nat.toDigits 10 value).map Char.toNat, isDigitUnit unit = true := by
  intro unit member
  obtain ⟨digit, isDigit, rfl⟩ := List.mem_map.1 member
  have range := Nat.isDigit_of_mem_toDigits (by decide) (by decide) isDigit
  simp only [Char.isDigit, ge_iff_le, Bool.and_eq_true, decide_eq_true_eq,
    UInt32.le_iff_toNat_le] at range
  exact Bool.and_eq_true_iff.2 ⟨decide_eq_true range.1, decide_eq_true range.2⟩

theorem length_digits_le (value : Nat) :
    ((Nat.toDigits 10 value).map Char.toNat).length ≤ 10 ↔ value < 10000000000 := by
  rw [List.length_map, Nat.length_toDigits_le_iff (by decide) (by decide)]

theorem leaks_toDigits {before after : Units} (value : Nat)
    (quietBefore : ∀ unit ∈ before, isQuiet unit = true)
    (quietAfter : ∀ unit ∈ after, isQuiet unit = true) :
    leaks (before ++ (Nat.toDigits 10 value).map Char.toNat ++ after) = false ↔
      value < 10000000000 := by
  rw [← length_digits_le, ← Bool.not_eq_true,
    leaks_number (digit_units value) quietBefore quietAfter, Nat.not_lt]

theorem leaks_bigintText (value : Int) :
    leaks (bigintText value) = false ↔ value.natAbs < 10000000000 := by
  cases value with
  | ofNat value =>
    have isText : bigintText (.ofNat value) =
        [] ++ (Nat.toDigits 10 value).map Char.toNat ++ [110] := by
      rw [bigintText, unitsOf, String.toList_append, NumericLiteral.toList_toString_ofNat,
        List.map_append]
      rfl
    rw [isText]
    exact leaks_toDigits value (by decide) (by decide)
  | negSucc value =>
    have isText : bigintText (.negSucc value) =
        [45] ++ (Nat.toDigits 10 (value + 1)).map Char.toNat ++ [110] := by
      rw [bigintText, unitsOf, String.toList_append, NumericLiteral.toList_toString_negSucc,
        List.map_append]
      rfl
    rw [isText]
    exact leaks_toDigits (value + 1) (by decide) (by decide)

theorem quiet_moreText {count : Nat} (inRange : count < 4294967296) :
    leaks (moreText count) = false := by
  have isText : moreText count =
      unitsOf "…+" ++ (Nat.toDigits 10 count).map Char.toNat ++ unitsOf " more" := by
    rw [moreText, unitsOf, String.toList_append, String.toList_append, List.map_append,
      List.map_append]
    exact congrArg (fun digits => unitsOf "…+" ++ List.map Char.toNat digits ++ unitsOf " more")
      Nat.toList_repr
  rw [isText]
  exact (leaks_toDigits count (by decide) (by decide)).2 (by omega)

theorem sound_redactString (units : Units) :
    leaks (redactString opts units) = false ↔
      ∀ conversion ∈ (if leaks units = false ∧ opts.maxString < units.length then
        [Conversion.cutString units] else []), conversion.Fine heap opts := by
  unfold redactString
  by_cases found : leaks units = true
  · rw [if_pos found, if_neg (by simp [found])]
    exact iff_of_true (by decide) nofun
  · have quiet : leaks units = false := eq_false_of_ne_true found
    rw [if_neg found]
    by_cases long : opts.maxString < units.length
    · rw [if_pos ⟨quiet, long⟩, List.forall_mem_singleton, cut, if_pos long]
      rw [← List.take_append_drop opts.maxString units] at quiet
      exact leaks_truncated quiet
    · rw [if_neg (fun both => long both.2), cut, if_neg long]
      exact iff_of_true quiet nofun

example : leaks (unitsOf "1.2.3.4a") = false ∧
    leaks (cut { rdDefaults with maxString := 7 } (unitsOf "1.2.3.4a")) = true := by decide

theorem soundItems_append (first second : List Redacted) :
    SoundItems heap (first ++ second) ↔ SoundItems heap first ∧ SoundItems heap second := by
  induction first with
  | nil => simp [SoundItems]
  | cons item rest ih => simp [SoundItems, ih, and_assoc]

def SoundWith (heap : LogHeap) (opts : RedactDeepOptions) (out : Redacted)
    (inside : List Conversion) : Prop :=
  Sound heap out ↔ ∀ conversion ∈ inside, conversion.Fine heap opts

def SoundUnder (heap : LogHeap) (opts : RedactDeepOptions) (key : Units) (out : Redacted)
    (inside : List Conversion) : Prop :=
  (isSecretKey key = true → out = .text "[redacted]") ∧ SoundWith heap opts out inside

theorem soundItems_iff {outs : List Redacted} {inside : List (List Conversion)}
    (alike : List.Forall₂ (SoundWith heap opts) outs inside) :
    SoundItems heap outs ↔ ∀ conversion ∈ inside.flatten, conversion.Fine heap opts := by
  induction alike with
  | nil => simp [SoundItems]
  | cons same _ ih =>
    have exactly : Sound heap _ ↔ _ := same
    rw [SoundItems, exactly, ih, List.flatten_cons, List.forall_mem_append]

theorem soundFields_iff {out : List (Units × Redacted)} {inside : List (Units × List Conversion)}
    (alike : List.Forall₂ (AlikeField (SoundUnder heap opts)) out inside) :
    SoundFields heap out ↔ ∀ conversion ∈ inside.flatMap Prod.snd, conversion.Fine heap opts := by
  induction alike with
  | nil => simp [SoundFields]
  | @cons field _ _ _ same _ ih =>
    obtain ⟨key, value⟩ := field
    obtain ⟨secret, exactly⟩ := same.value
    have exactly : Sound heap value ↔ _ := exactly
    rw [SoundFields, exactly, ih, List.flatMap_cons, List.forall_mem_append, and_iff_right secret]

theorem sound_text {text : String} (quiet : leaks (unitsOf text) = false) :
    Sound heap (.text text) := quiet

variable {seen : List Nat}

theorem alike_plain {out : Redacted} (sound : Sound heap out) :
    Alike (SoundWith heap opts) (some (out, seen)) (some ([], seen)) :=
  .some ⟨iff_of_true sound nofun, rfl⟩

theorem sound_error (name : LogValue) (message : Redacted) :
    Sound heap (.object [(unitsOf "name", .raw name), (unitsOf "message", message)]) ↔
      Harmless heap name ∧ Sound heap message := by
  have quiet : isSecretKey (unitsOf "name") = false ∧ isSecretKey (unitsOf "message") = false := by
    decide
  simp only [Sound, SoundFields, quiet.1, quiet.2, Bool.false_eq_true, false_implies, true_and,
    and_true]

theorem sound_items {outs : List Redacted} {inside : List (List Conversion)} {more : List Redacted}
    (alike : List.Forall₂ (SoundWith heap opts) outs inside) (quiet : SoundItems heap more) :
    SoundWith heap opts (.array (outs ++ more)) inside.flatten := by
  have exactly := soundItems_iff alike
  rw [← and_iff_left_of_imp (fun _ : SoundItems heap outs => quiet), ← soundItems_append] at exactly
  exact exactly

theorem alike_under {stack : Nat} {value : LogValue} {depth : Nat} {key : Units}
    (alike : Alike (SoundWith heap opts)
      (walkDeep heap opts stack seen value depth (some key))
      (conversions heap opts stack seen value depth (some key))) :
    Alike (SoundUnder heap opts key) (walkDeep heap opts stack seen value depth (some key))
      (conversions heap opts stack seen value depth (some key)) := by
  cases stack with
  | zero => exact .none
  | succ stack =>
    by_cases secret : isSecretKey key = true
    · have hinted : (some key).any isSecretKey = true := secret
      unfold walkDeep conversions
      rw [if_pos hinted, if_pos hinted]
      exact .some ⟨⟨fun _ => rfl, iff_of_true (sound_text (by decide)) nofun⟩, rfl⟩
    · exact alike.imp fun _ _ same => ⟨fun found => absurd found secret, same⟩

theorem alike_unseen {address depth : Nat} {walked : Option (Redacted × List Nat)}
    {made : Option (List Conversion × List Nat)} (alike : Alike (SoundWith heap opts) walked made) :
    Alike (SoundWith heap opts)
      (if address ∈ seen then some (.text "[circular]", seen)
        else if opts.maxDepth ≤ depth then some (.text "[depth-limited]", address :: seen)
        else walked)
      (if address ∈ seen then some ([], seen)
        else if opts.maxDepth ≤ depth then some ([], address :: seen)
        else made) := by
  split
  · exact alike_plain (sound_text (by decide))
  · split
    · exact alike_plain (sound_text (by decide))
    · exact alike

/-- By induction on the stack, by cases on the value. -/
theorem alike_walkDeep (stack : Nat) (seen : List Nat) (value : LogValue) (depth : Nat)
    (keyHint : Option Units) :
    Alike (SoundWith heap opts) (walkDeep heap opts stack seen value depth keyHint)
      (conversions heap opts stack seen value depth keyHint) := by
  induction stack generalizing seen value depth keyHint with
  | zero => exact .none
  | succ stack ih =>
    unfold walkDeep conversions
    split
    · exact alike_plain (sound_text (by decide))
    · cases value with
      | undefined => exact alike_plain trivial
      | null => exact alike_plain trivial
      | boolean value => exact alike_plain trivial
      | number bits => exact alike_plain trivial
      | function => exact alike_plain (sound_text (by decide))
      | symbol => exact alike_plain (sound_text (by decide))
      | string units => exact .some ⟨sound_redactString units, rfl⟩
      | bigint value =>
        refine .some ⟨?_, rfl⟩
        change leaks (bigintText value) = false ↔ _
        rw [leaks_bigintText, List.forall_mem_singleton]
        exact Iff.rfl
      | object address =>
        dsimp only
        cases heap address with
        | error name message =>
          refine (ih seen message (depth + 1) _).bind fun walked inside seen same => .some ⟨?_, rfl⟩
          have exactly : Sound heap walked ↔ _ := same
          change Sound heap _ ↔ _
          rw [sound_error, exactly, List.forall_mem_cons]
          exact Iff.rfl
        | hostileError => exact .none
        | array items inRange =>
          refine alike_unseen ?_
          refine (alike_walkItems (fun seen item => ih seen item (depth + 1) none) _ _).bind
            fun outs inside seen same => .some ⟨sound_items same ?_, rfl⟩
          split
          · exact ⟨quiet_moreText (by omega), trivial⟩
          · trivial
        | plain fields =>
          refine alike_unseen ?_
          have limits : SoundUnder heap opts (unitsOf "…") (.text "[keys-limited]") [] :=
            ⟨fun secret => absurd secret (by decide), iff_of_true (sound_text (by decide)) nofun⟩
          have under : ∀ seen key value, Alike (SoundUnder heap opts key)
              (walkDeep heap opts stack seen value (depth + 1) (some key))
              (conversions heap opts stack seen value (depth + 1) (some key)) :=
            fun seen key value => alike_under (ih seen value (depth + 1) (some key))
          refine (alike_walkKeys under limits _ _ _).bind
            fun out inside seen same => .some ⟨?_, rfl⟩
          exact soundFields_iff same
        | hostile => exact alike_unseen .none

/-- Nothing of a value leaks exactly if each text that the walk makes is fine. -/
theorem redactDeep_sound_iff (heap : LogHeap) (opts : RedactDeepOptions) (stack : Nat)
    (value : LogValue) :
    Sound heap (redactDeep heap opts stack value) ↔
      ∀ found seen, conversions heap opts stack [] value 0 none = some (found, seen) →
        ∀ conversion ∈ found, conversion.Fine heap opts := by
  have alike : Alike (SoundWith heap opts) (walkDeep heap opts stack [] value 0 none) _ :=
    alike_walkDeep stack [] value 0 none
  unfold redactDeep
  cases walked : walkDeep heap opts stack [] value 0 none with
  | none =>
    rw [walked] at alike
    cases made : conversions heap opts stack [] value 0 none with
    | none => exact iff_of_true (sound_text (by decide)) nofun
    | some found => rw [made] at alike; cases alike
  | some result =>
    rw [walked] at alike
    cases made : conversions heap opts stack [] value 0 none with
    | none => rw [made] at alike; cases alike
    | some found =>
      rw [made] at alike
      cases alike with
      | some same =>
        have exactly : Sound heap result.1 ↔ _ := same.1
        dsimp only
        rw [exactly]
        constructor
        · intro fine inside seen isFound
          obtain rfl := Option.some.inj isFound
          exact fine
        · intro fine
          exact fine found.1 found.2 rfl

end

/-- `Object.assign(new Error("down"), { name: "Bearer abc" })`. -/
def namedError : LogHeap :=
  fun _ => .error (.string (unitsOf "Bearer abc")) (.string (unitsOf "down"))

theorem not_sound_name : ¬Sound namedError (redactDeep namedError rdDefaults 2 (.object 0)) := by
  have isResult : redactDeep namedError rdDefaults 2 (.object 0) =
      .object [(unitsOf "name", .raw (.string (unitsOf "Bearer abc"))),
        (unitsOf "message", .string (unitsOf "down"))] := rfl
  rw [isResult, sound_error]
  intro sound
  obtain ⟨clean, -⟩ := sound
  cases clean with
  | string quiet => exact absurd quiet (by decide)

end Tamanor.Core
