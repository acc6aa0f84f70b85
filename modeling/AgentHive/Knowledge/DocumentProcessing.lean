import AgentHive.Llm.Values
import AgentHive.Numeric.Rounding

/-!
The texts that ingestion stores beside a chunk and that retrieval looks for:
search texts, query terms, and the score of a chunk for the terms of a query.
-/

namespace AgentHive

structure TextClasses where
  lower : String → String
  isWord : Char → Bool

namespace DocumentProcessing

def round4 (q : ℚ) : ℚ := (Numeric.roundHalfEven (q * 10000) : ℚ) / 10000

def isCjk (c : Char) : Bool := 0x4e00 ≤ c.toNat && c.toNat ≤ 0x9fff

variable (classes : TextClasses)

/-- The runs of the characters that `normalize_search_text` keeps. -/
def searchWords (value : String) : List (List Char) :=
  ((classes.lower value).toList.splitOnP fun c => !(classes.isWord c || isCjk c)).filter
    fun word => !word.isEmpty

def normalizeSearchText (value : String) : List Char :=
  [' '].intercalate (searchWords classes value)

def queryTerms (query : String) : List (List Char) :=
  let terms := (searchWords classes query).filter fun term => 2 ≤ term.length
  let cjkChars := (normalizeSearchText classes query).filter isCjk
  let cjkBigrams := (cjkChars.zip cjkChars.tail).map fun pair => [pair.1, pair.2]
  ((terms ++ cjkBigrams).eraseDups).take 24

/-- `str.count` for a text that is not empty: its occurrences that do not overlap. -/
def occurrences (term : List Char) : Nat → List Char → Nat
  | _, [] => 0
  | skip + 1, _ :: rest => occurrences term skip rest
  | 0, c :: rest =>
    if term.isPrefixOf (c :: rest) then 1 + occurrences term (term.length - 1) rest
    else occurrences term 0 rest

def scoreChunk (searchText : List Char) (queryTerms : List (List Char)) (rawQuery : String) : ℚ :=
  let normalizedQuery := normalizeSearchText classes rawQuery
  if queryTerms.isEmpty then 1 / 10
  else
    let whole : ℚ :=
      if !normalizedQuery.isEmpty && 0 < occurrences normalizedQuery 0 searchText then 45 / 100
      else 0
    let parts := queryTerms.map fun term =>
      min (2 / 10 : ℚ) (8 / 100 * (occurrences term 0 searchText : ℚ))
    round4 (min (whole + parts.sum) 1)

def buildFtsText (value : String) : String :=
  String.ofList ([' '].intercalate (queryTerms classes value))

def buildFtsQuery (query : String) : String :=
  String.ofList (" | ".toList.intercalate (queryTerms classes query))

def roughTokenCount (text : String) : Nat := max 1 (text.length / 4)

end DocumentProcessing
end AgentHive
