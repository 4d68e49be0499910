import Tamanor.Library.DelimitedText

/-! Safe CSV documents (`csv.ts`): a cell that a spreadsheet would run as a formula gets an
apostrophe, then every cell is quoted as in RFC 4180. Texts are lists of UTF-16 code units. -/

set_option autoImplicit false

namespace Tamanor.Core

open Library.DelimitedText

abbrev CsvText := List UInt16

def csvUnit (char : Char) : UInt16 := UInt16.ofNat char.toNat

/-- The value of a cell; `other` is one that is no text, with what `String` prints of it. -/
inductive CsvValue where
  | null
  | text (value : CsvText)
  | other (printed : CsvText)

def CsvValue.printed : CsvValue → CsvText
  | .null => []
  | .text value | .other value => value

def csvMarks : Marks UInt16 where
  separator := csvUnit ','
  quote := csvUnit '"'
  carriage := csvUnit '\r'
  newline := csvUnit '\n'
  distinct := by decide

def formulaTriggers : List UInt16 := ['=', '+', '-', '@', '\t', '\r'].map csvUnit

/-- `/^[=+\-@\t\r]/`. -/
def startsFormula (cell : CsvText) : Bool := cell.head?.any formulaTriggers.contains

def neutralize (cell : CsvText) : CsvText := if startsFormula cell then csvUnit '\'' :: cell else cell

def csvEscapeField (value : CsvValue) : CsvText :=
  printField csvMarks (neutralize value.printed)

def crlf : CsvText := [csvUnit '\r', csvUnit '\n']

def csvRecord (values : List CsvValue) : CsvText :=
  [csvUnit ','].intercalate (values.map csvEscapeField)

def toCsv (headers : List CsvText) (rows : List (List CsvValue)) : CsvText :=
  crlf.intercalate (csvRecord (headers.map .text) :: rows.map csvRecord) ++ crlf

def csvCells (headers : List CsvText) (rows : List (List CsvValue)) : List (List CsvText) :=
  headers :: rows.map fun row => row.map CsvValue.printed

variable {headers : List CsvText} {rows : List (List CsvValue)}

theorem intercalate_append_end {α : Type} (ending first : List α) (rest : List (List α)) :
    ending.intercalate (first :: rest) ++ ending = (first :: rest).flatMap (· ++ ending) := by
  induction rest generalizing first with
  | nil => simp [List.intercalate]
  | cons next rest ih =>
    have later := ih next
    simp [List.intercalate] at later ⊢
    exact later

theorem csvRecord_eq (values : List CsvValue) :
    csvRecord values = printRecord csvMarks ((values.map CsvValue.printed).map neutralize) := by
  have escaped : values.map csvEscapeField =
      ((values.map CsvValue.printed).map neutralize).map (printField csvMarks) := by
    simp only [List.map_map]
    rfl
  rw [csvRecord, escaped]
  rfl

theorem toCsv_eq (headers : List CsvText) (rows : List (List CsvValue)) :
    toCsv headers rows =
      printRecords csvMarks ((csvCells headers rows).map fun record => record.map neutralize) := by
  have texts : (headers.map CsvValue.text).map CsvValue.printed = headers := by
    simp [CsvValue.printed, Function.comp_def]
  have ending : crlf = [csvMarks.carriage, csvMarks.newline] := rfl
  rw [toCsv, intercalate_append_end, ending]
  simp [printRecords, csvCells, csvRecord_eq, texts, List.flatMap_map]

theorem startsFormula_neutralize (cell : CsvText) : startsFormula (neutralize cell) = false := by
  unfold neutralize
  split
  next => simp [startsFormula]; decide
  next safe => simpa using safe

theorem neutralize_inj {first second : CsvText} (plain : first.head? ≠ some (csvUnit '\''))
    (otherPlain : second.head? ≠ some (csvUnit '\''))
    (same : neutralize first = neutralize second) : first = second := by
  unfold neutralize at same
  split at same <;> split at same
  · exact (List.cons.inj same).2
  · rw [← same] at otherPlain
    exact absurd rfl otherPlain
  · rw [same] at plain
    exact absurd rfl plain
  · exact same

def PlainCells (cells : List (List CsvText)) : Prop :=
  ∀ record ∈ cells, ∀ cell ∈ record, cell.head? ≠ some (csvUnit '\'')

theorem map_inj_of {α β : Type} {f : α → β} {first second : List α}
    (inj : ∀ x ∈ first, ∀ y ∈ second, f x = f y → x = y) (same : first.map f = second.map f) :
    first = second := by
  induction first generalizing second with
  | nil => simpa using same.symm
  | cons x first ih =>
    cases second with
    | nil => simp at same
    | cons y second =>
      obtain ⟨head, tail⟩ := List.cons.inj same
      have same' := ih (fun x' member y' member' =>
        inj x' (List.mem_cons_of_mem _ member) y' (List.mem_cons_of_mem _ member')) tail
      rw [inj x List.mem_cons_self y List.mem_cons_self head, same']

theorem neutralized_inj {cells others : List (List CsvText)} (plain : PlainCells cells)
    (otherPlain : PlainCells others)
    (same : cells.map (fun record => record.map neutralize) =
      others.map fun record => record.map neutralize) : cells = others :=
  map_inj_of (fun record member other otherMember => map_inj_of fun cell inside otherCell otherInside =>
    neutralize_inj (plain record member cell inside) (otherPlain other otherMember otherCell otherInside))
    same

theorem csvCells_nonempty (named : headers ≠ []) (filled : ∀ row ∈ rows, row ≠ []) :
    ∀ record ∈ (csvCells headers rows).map (fun record => record.map neutralize), record ≠ [] := by
  simpa [csvCells, named] using filled

/-- A table whose records all have a cell is read back from its document, cell by cell, each as
it was or behind one apostrophe; no cell that is read starts a formula, and two tables without
apostrophes at the start of a cell have the same document only if they are the same. -/
theorem toCsv_lossless (headers : List CsvText) (rows : List (List CsvValue))
    (named : headers ≠ []) (filled : ∀ row ∈ rows, row ≠ []) :
    readRecords csvMarks (toCsv headers rows) =
        some ((csvCells headers rows).map fun record => record.map neutralize) ∧
      (∀ records, readRecords csvMarks (toCsv headers rows) = some records →
        ∀ record ∈ records, ∀ cell ∈ record, startsFormula cell = false) ∧
      ∀ (others : List CsvText) (otherRows : List (List CsvValue)), others ≠ [] →
        (∀ row ∈ otherRows, row ≠ []) → PlainCells (csvCells headers rows) →
        PlainCells (csvCells others otherRows) → toCsv headers rows = toCsv others otherRows →
        csvCells headers rows = csvCells others otherRows := by
  have read : readRecords csvMarks (toCsv headers rows) =
      some ((csvCells headers rows).map fun record => record.map neutralize) := by
    rw [toCsv_eq, readRecords_printRecords csvMarks (csvCells_nonempty named filled)]
  refine ⟨read, ?_, ?_⟩
  · intro records found record member cell inside
    rw [read] at found
    cases found
    obtain ⟨cells, -, rfl⟩ := List.mem_map.mp member
    obtain ⟨original, -, rfl⟩ := List.mem_map.mp inside
    exact startsFormula_neutralize original
  · intro others otherRows otherNamed otherFilled plain otherPlain same
    have otherRead : readRecords csvMarks (toCsv others otherRows) =
        some ((csvCells others otherRows).map fun record => record.map neutralize) := by
      rw [toCsv_eq, readRecords_printRecords csvMarks (csvCells_nonempty otherNamed otherFilled)]
    rw [same, otherRead] at read
    exact neutralized_inj plain otherPlain (Option.some.inj read).symm

/-- One cell that is a formula with a comma in it, under a header. -/
theorem toCsv_lossless_formula :
    [[csvUnit 'n']] ≠ ([] : List CsvText) ∧
      readRecords csvMarks
          (toCsv [[csvUnit 'n']] [[.text (("=A,B".toList).map csvUnit)]]) =
        some [[[csvUnit 'n']], [("'=A,B".toList).map csvUnit]] := by
  obtain ⟨read, -, -⟩ := toCsv_lossless [[csvUnit 'n']] [[.text (("=A,B".toList).map csvUnit)]]
    (by decide) (by decide)
  exact ⟨by decide, read.trans (by decide)⟩

end Tamanor.Core
