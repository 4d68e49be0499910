import Tamanor.Library.CharacterDatabase
import Tamanor.Library.NumericLiteral

/-! Language detection by stopwords and distinctive characters
(`language-detect.ts`). A text without a distinctive sign stays `unknown`. -/

set_option autoImplicit false

namespace Tamanor.Ai

open Library Library.Text

structure LanguageDetection where
  language : String
  confidence : ℚ
  isMixed : Bool
  source : String

structure LanguageSignals where
  language : String
  chars : String
  words : List String

/-- The generic `[a-z]` of the first row is never counted. -/
def languageSignals : List LanguageSignals := [
  ⟨"en", "", ["the", "and", "you", "this", "service", "thanks", "scam", "buy", "don't", "is",
    "are", "not", "please", "great"]⟩,
  ⟨"sk", "ľĺŕôäď", ["ďakujem", "služba", "otvorené", "veľmi", "prepáčte", "máte", "vy", "nie",
    "som", "hovno", "úplne", "sobotu"]⟩,
  ⟨"cs", "řěů", ["zloději", "děkuji", "není", "prosím", "dobrý", "špatný", "vy", "podvod"]⟩,
  ⟨"de", "ß", ["das", "ist", "und", "nicht", "betrug", "danke", "sie", "ein", "sehr", "der",
    "die", "kein"]⟩,
  ⟨"pl", "łśżźćęą", ["oszustwo", "dziękuję", "jest", "nie ma", "że", "bardzo", "proszę"]⟩,
  ⟨"hu", "őű", ["átverés", "köszönöm", "nagyon", "hogy", "van", "nem", "ez", "kérem"]⟩]

section Detection

variable (database : CharacterDatabase)

/-- `($|[^\p{L}])`. -/
def endsWord : Text → Bool
  | [] => true
  | char :: _ => !database.letter char

/-- Search for `(^|[^\p{L}])word($|[^\p{L}])`; `atBoundary` tells whether a word
may start here. -/
def wordTestFrom (word : Text) (atBoundary : Bool) : Text → Bool
  | [] => atBoundary && word.isEmpty
  | char :: rest =>
    (atBoundary && word.isPrefixOf (char :: rest) &&
      endsWord database ((char :: rest).drop word.length)) ||
      wordTestFrom word (!database.letter char) rest

/-- `wordRe(word).test(text)`. -/
def wordTest (text word : Text) : Bool := wordTestFrom database word true text

def languageScore (text : Text) (signals : LanguageSignals) : Nat :=
  2 * (signals.words.filter fun word => wordTest database text word.toList).length +
    min 4 (text.filter fun char => signals.chars.toList.contains char).length

def topLanguage : List (String × Nat) → String × Nat
  | [] => ("unknown", 0)
  | first :: rest => rest.foldl (fun top next => if top.2 < next.2 then next else top) first

def detectLanguage (input : Text) : LanguageDetection :=
  let text := database.toLowerCase input
  let unknown : LanguageDetection :=
    { language := "unknown", confidence := 0, isMixed := false, source := "unknown" }
  if (codeUnits (trim text)).length < 2 then unknown
  else
    let scores := languageSignals.map fun signals =>
      (signals.language, languageScore database text signals)
    let top := topLanguage scores
    if top.2 < 2 then unknown
    else
      { language := top.1
        confidence := round2 (min 0.95 (0.5 + top.2 * 0.1))
        isMixed := 2 ≤ (scores.filter fun score => 2 ≤ score.2).length
        source := "rules" }

end Detection

end Tamanor.Ai
