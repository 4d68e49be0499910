import Mathlib.Data.List.Nodup

/-! Tables as delimited text (RFC 4180), over any alphabet in which the four marks are told
apart. A field that contains a mark is put in quotes, with every quote doubled; a record ends
with a carriage return and a line feed. The reader is a machine that takes one symbol at a time. -/

set_option autoImplicit false

namespace Tamanor.Library.DelimitedText

structure Marks (α : Type) where
  separator : α
  quote : α
  carriage : α
  newline : α
  distinct : [separator, quote, carriage, newline].Nodup

variable {α : Type} {marks : Marks α}

variable (marks) in
theorem Marks.quote_ne_separator : marks.quote ≠ marks.separator := by
  have distinct := marks.distinct
  simp only [List.nodup_cons, List.mem_cons, not_or] at distinct
  exact fun same => distinct.1.1 same.symm

variable (marks) in
theorem Marks.carriage_ne : marks.carriage ≠ marks.quote ∧ marks.carriage ≠ marks.separator := by
  have distinct := marks.distinct
  simp only [List.nodup_cons, List.mem_cons, not_or] at distinct
  exact ⟨fun same => distinct.2.1.1 same.symm, fun same => distinct.1.2.1 same.symm⟩

variable [DecidableEq α] (marks)

def Marks.isMark (symbol : α) : Bool :=
  symbol = marks.quote || symbol = marks.separator || symbol = marks.carriage ||
    symbol = marks.newline

def doubled (field : List α) : List α :=
  field.flatMap fun symbol => if symbol = marks.quote then [marks.quote, marks.quote] else [symbol]

def printField (field : List α) : List α :=
  if field.any marks.isMark then marks.quote :: (doubled marks field ++ [marks.quote]) else field

def printRecord (record : List (List α)) : List α :=
  [marks.separator].intercalate (record.map (printField marks))

def printRecords (records : List (List (List α))) : List α :=
  records.flatMap fun record => printRecord marks record ++ [marks.carriage, marks.newline]

inductive Mode where
  | recordStart | fieldStart | plain | quoted
  /-- After a quote inside of quotes: the end of the field, or half of a doubled one. -/
  | closing
  | carriageSeen
  | broken

structure Reader (α : Type) where
  mode : Mode
  field : List α
  record : List (List α)
  records : List (List (List α))

namespace Reader

def start : Reader α := ⟨.recordStart, [], [], []⟩

def take (reader : Reader α) (mode : Mode) (symbol : α) : Reader α :=
  { reader with mode, field := reader.field ++ [symbol] }

def endField (reader : Reader α) (mode : Mode) : Reader α :=
  ⟨mode, [], reader.record ++ [reader.field], reader.records⟩

def endRecord (reader : Reader α) : Reader α :=
  ⟨.recordStart, [], [], reader.records ++ [reader.record]⟩

def breakOff (reader : Reader α) : Reader α := { reader with mode := .broken }

/-- What may stand after a field, or a symbol for which there is another meaning. -/
def afterField (reader : Reader α) (symbol : α) (otherwise : Reader α) : Reader α :=
  if symbol = marks.separator then reader.endField .fieldStart
  else if symbol = marks.carriage then reader.endField .carriageSeen
  else otherwise

def step (reader : Reader α) (symbol : α) : Reader α :=
  match reader.mode with
  | .recordStart | .fieldStart =>
    if symbol = marks.quote then { reader with mode := .quoted }
    else
      reader.afterField marks symbol
        (if symbol = marks.newline then reader.breakOff else reader.take .plain symbol)
  | .plain =>
    if symbol = marks.quote then reader.breakOff
    else
      reader.afterField marks symbol
        (if symbol = marks.newline then reader.breakOff else reader.take .plain symbol)
  | .quoted =>
    if symbol = marks.quote then { reader with mode := .closing } else reader.take .quoted symbol
  | .closing =>
    if symbol = marks.quote then reader.take .quoted symbol
    else reader.afterField marks symbol reader.breakOff
  | .carriageSeen => if symbol = marks.newline then reader.endRecord else reader.breakOff
  | .broken => reader

def feed (reader : Reader α) (text : List α) : Reader α := text.foldl (step marks) reader

def finish (reader : Reader α) : Option (List (List (List α))) :=
  match reader.mode with
  | .recordStart => some reader.records
  | .fieldStart | .plain | .closing => some (reader.endField .plain).endRecord.records
  | .quoted | .carriageSeen | .broken => none

end Reader

def readRecords (text : List α) : Option (List (List (List α))) :=
  (Reader.start.feed marks text).finish

/-! Every symbol of a printed field is read as a part of that field. -/

section Fields

variable (reader : Reader α)

theorem Reader.feed_append (first second : List α) :
    reader.feed marks (first ++ second) = (reader.feed marks first).feed marks second :=
  List.foldl_append

theorem Reader.feed_nil : reader.feed marks [] = reader := rfl

theorem Reader.feed_cons (symbol : α) (text : List α) :
    reader.feed marks (symbol :: text) = (reader.step marks symbol).feed marks text := rfl

theorem feed_plain {field : List α} (mode : reader.mode = .plain)
    (clean : ∀ symbol ∈ field, marks.isMark symbol = false) :
    reader.feed marks field = { reader with field := reader.field ++ field } := by
  induction field generalizing reader with
  | nil => simp [Reader.feed]
  | cons symbol field ih =>
    have unmarked := clean symbol List.mem_cons_self
    simp only [Marks.isMark, Bool.or_eq_false_iff, decide_eq_false_iff_not] at unmarked
    obtain ⟨⟨⟨noQuote, noSeparator⟩, noCarriage⟩, noNewline⟩ := unmarked
    have taken : reader.step marks symbol = reader.take .plain symbol := by
      simp [Reader.step, Reader.afterField, mode, noQuote, noSeparator, noCarriage, noNewline]
    have later := ih (reader.take .plain symbol) rfl
      fun other member => clean other (List.mem_cons_of_mem _ member)
    rw [Reader.feed_cons, taken, later]
    simp [Reader.take, mode]

theorem feed_doubled (field : List α) (mode : reader.mode = .quoted) :
    reader.feed marks (doubled marks field) = { reader with field := reader.field ++ field } := by
  induction field generalizing reader with
  | nil => simp [Reader.feed, doubled]
  | cons symbol field ih =>
    have taken : reader.feed marks
        (if symbol = marks.quote then [marks.quote, marks.quote] else [symbol]) =
          reader.take .quoted symbol := by
      by_cases isQuote : symbol = marks.quote
      · simp [Reader.feed, Reader.step, Reader.take, mode, isQuote]
      · simp [Reader.feed, Reader.step, mode, isQuote]
    have later := ih (reader.take .quoted symbol) rfl
    have split : doubled marks (symbol :: field) =
        (if symbol = marks.quote then [marks.quote, marks.quote] else [symbol]) ++
          doubled marks field := by
      simp [doubled]
    rw [split, Reader.feed_append, taken, later]
    simp [Reader.take, mode]

def Reader.MayEnd (reader : Reader α) : Prop :=
  reader.mode = .recordStart ∨ reader.mode = .fieldStart ∨ reader.mode = .plain ∨
    reader.mode = .closing

theorem feed_printField (field : List α)
    (begins : reader.mode = .recordStart ∨ reader.mode = .fieldStart) (empty : reader.field = []) :
    (reader.feed marks (printField marks field)).MayEnd ∧
      (reader.feed marks (printField marks field)).field = field ∧
      (reader.feed marks (printField marks field)).record = reader.record ∧
      (reader.feed marks (printField marks field)).records = reader.records := by
  by_cases marked : field.any marks.isMark = true
  · -- The opening quote, what stands in the quotes, and the closing quote.
    have opened : reader.step marks marks.quote = { reader with mode := .quoted } := by
      rcases begins with mode | mode <;> simp [Reader.step, mode]
    have inside := feed_doubled marks { reader with mode := .quoted } field rfl
    have closed : reader.feed marks (printField marks field) =
        { reader with mode := .closing, field := field } := by
      rw [printField, if_pos marked, Reader.feed_cons, opened, Reader.feed_append, inside]
      simp [Reader.feed, Reader.step, empty]
    simp [closed, Reader.MayEnd]
  · have clean : ∀ symbol ∈ field, marks.isMark symbol = false := by simpa using marked
    rw [printField, if_neg marked]
    cases field with
    | nil =>
      have mayEnd : reader.MayEnd := begins.elim .inl fun mode => .inr (.inl mode)
      simp [Reader.feed, empty, mayEnd]
    | cons symbol field =>
      have unmarked := clean symbol List.mem_cons_self
      simp only [Marks.isMark, Bool.or_eq_false_iff, decide_eq_false_iff_not] at unmarked
      obtain ⟨⟨⟨noQuote, noSeparator⟩, noCarriage⟩, noNewline⟩ := unmarked
      have taken : reader.step marks symbol = reader.take .plain symbol := by
        rcases begins with mode | mode <;>
          simp [Reader.step, Reader.afterField, mode, noQuote, noSeparator, noCarriage, noNewline]
      have later := feed_plain marks (reader.take .plain symbol) rfl
        fun other member => clean other (List.mem_cons_of_mem _ member)
      rw [Reader.feed_cons, taken, later]
      simp [Reader.take, Reader.MayEnd, empty]

variable {reader}

theorem step_separator (mayEnd : reader.MayEnd) :
    reader.step marks marks.separator = reader.endField .fieldStart := by
  have noQuote := marks.quote_ne_separator.symm
  rcases mayEnd with mode | mode | mode | mode <;>
    simp [Reader.step, Reader.afterField, mode, noQuote]

theorem step_carriage (mayEnd : reader.MayEnd) :
    reader.step marks marks.carriage = reader.endField .carriageSeen := by
  obtain ⟨noQuote, noSeparator⟩ := marks.carriage_ne
  rcases mayEnd with mode | mode | mode | mode <;>
    simp [Reader.step, Reader.afterField, mode, noQuote, noSeparator]

theorem step_newline :
    (reader.endField .carriageSeen).step marks marks.newline =
      (reader.endField .carriageSeen).endRecord := by
  simp [Reader.step, Reader.endField]

end Fields

variable (reader : Reader α)

theorem feed_printRecord {record : List (List α)} (nonempty : record ≠ [])
    (begins : reader.mode = .recordStart ∨ reader.mode = .fieldStart) (empty : reader.field = []) :
    reader.feed marks (printRecord marks record ++ [marks.carriage, marks.newline]) =
      ⟨.recordStart, [], [], reader.records ++ [reader.record ++ record]⟩ := by
  induction record generalizing reader with
  | nil => exact absurd rfl nonempty
  | cons field record ih =>
    obtain ⟨mayEnd, read, earlier, others⟩ := feed_printField marks reader field begins empty
    cases record with
    | nil =>
      have ended := step_carriage marks mayEnd
      have alone : printRecord marks [field] = printField marks field := by
        simp [printRecord, List.intercalate]
      rw [alone, Reader.feed_append, Reader.feed_cons, ended, Reader.feed_cons, step_newline]
      simp [Reader.feed_nil, Reader.endField, Reader.endRecord, read, earlier, others]
    | cons next record =>
      have ended := step_separator marks mayEnd
      have split : printRecord marks (field :: next :: record) =
          printField marks field ++ (marks.separator :: printRecord marks (next :: record)) := by
        simp [printRecord, List.intercalate]
      have later := ih ((reader.feed marks (printField marks field)).endField .fieldStart)
        (List.cons_ne_nil _ _) (.inr rfl) rfl
      rw [split, List.append_assoc, Reader.feed_append, List.cons_append, Reader.feed_cons, ended,
        later]
      simp [Reader.endField, read, earlier, others]

theorem feed_printRecords {records : List (List (List α))}
    (nonempty : ∀ record ∈ records, record ≠ []) (mode : reader.mode = .recordStart)
    (empty : reader.field = []) (fresh : reader.record = []) :
    (reader.feed marks (printRecords marks records)).mode = .recordStart ∧
      (reader.feed marks (printRecords marks records)).records = reader.records ++ records := by
  induction records generalizing reader with
  | nil => simp [printRecords, Reader.feed, mode]
  | cons record records ih =>
    have first := feed_printRecord marks reader (nonempty record List.mem_cons_self) (.inl mode)
      empty
    have later := ih ⟨.recordStart, [], [], reader.records ++ [reader.record ++ record]⟩
      (fun other member => nonempty other (List.mem_cons_of_mem _ member)) rfl rfl rfl
    have split : printRecords marks (record :: records) =
        (printRecord marks record ++ [marks.carriage, marks.newline]) ++
          printRecords marks records := by
      simp [printRecords]
    rw [split, Reader.feed_append, first]
    simpa [fresh] using later

theorem readRecords_printRecords {records : List (List (List α))}
    (nonempty : ∀ record ∈ records, record ≠ []) :
    readRecords marks (printRecords marks records) = some records := by
  obtain ⟨mode, read⟩ := feed_printRecords marks Reader.start nonempty rfl rfl rfl
  rw [readRecords, Reader.finish, mode, read]
  simp [Reader.start]

end Tamanor.Library.DelimitedText
