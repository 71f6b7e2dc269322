import HybridSearch.Language.Nouns
import HybridSearch.Query.Code
import HybridSearch.Query.Synonyms
import HybridSearch.Query.Version

/-!
The stages of query enrichment. Each stage turns a context into the next one, and a stage that does not apply is
skipped.
-/

namespace HybridSearch.Query

open HybridSearch.Language HybridSearch.Text

structure Sources where
  stoplist : Stoplist
  synonyms : String → List String
  classifier : Option Classifier
  /-- How many milliseconds to wait for the classifier. -/
  patience : Nat

def codeFields : List String := ["code", "code._2gram", "code._3gram"]

def nameFields : List String := ["name", "name._2gram", "name._3gram"]

def intentApplicable (isCode disabled : Bool) (query : String) : Bool :=
  !isCode && !disabled && !isShortQuery query

def detectCode (c : Context) : Context :=
  let code := isCode c.query
  { c with
    isCode := code
    fields := if code then codeFields else nameFields
    processed := [⟨c.query, .user, "original"⟩] }

def addStem (stoplist : Stoplist) (c : Context) : Context :=
  let q := stemQuery stoplist c.query
  if !q.useful || q.stemmed.length < minStemLength then c
  else if c.has .dualQuery then c.append ⟨q.stemmed, .user, "stemmed"⟩
  else
    { c with
      processed := Context.modifyUserQuery
        (fun user =>
          if user.text = q.stemmed then user
          else { user with text := q.stemmed, source := "stemmed" })
        c.processed }

/-- The synonyms of some nouns that none of the known words is, each once. -/
def newSynonyms (find : String → List String) (nouns known : List String) : List String :=
  ((nouns.flatMap find).filter (!known.contains ·)).eraseDups

/-- The words that synonyms may add nothing to: those of the queries so far and the nouns. -/
def knownWords (c : Context) (nouns : List String) : List String :=
  (c.processed.flatMap fun q => (words q.text).map lowercase) ++ nouns

def expandSynonyms (find : String → List String) (c : Context) : Context :=
  let nouns := extractNouns c.query
  let added := newSynonyms find nouns (knownWords c nouns)
  if added.isEmpty then c
  else
    let text := " ".intercalate added
    if c.has .dualQuery then c.append ⟨text, .synonym, "synonyms"⟩
    else
      { c with
        processed := Context.modifyUserQuery
          (fun user => { user with text := user.text ++ " " ++ text }) c.processed }

/-- The least confidence of a secondary intent that gives terms. -/
def secondaryConfidence : Float := 0.5

def intentLabels (c : Classification) : List String :=
  c.primaryIntent ::
    ((c.topIntents.filter fun t => secondaryConfidence ≤ t.confidence).map (·.intent))

def labelPieces (label : String) : List String :=
  ((runs isAlphanumeric label.toList).filter fun p => minStemLength ≤ p.length).map .ofList

def intentTerms (stoplist : Stoplist) (c : Classification) : List String :=
  (stoplist.dropGeneric (((intentLabels c).flatMap labelPieces).map stem)).eraseDups

def addIntent (stoplist : Stoplist) (classification : Classification) (c : Context) : Context :=
  let terms := if classification.lowInformation then [] else intentTerms stoplist classification
  let extended :=
    if terms.isEmpty then c else c.append ⟨" ".intercalate terms, .intent, "classifier"⟩
  { extended with classification := some classification }

def classifyIntent (s : Sources) (c : Context) : Context :=
  match s.classifier with
  | none => c
  | some classifier =>
    match (classifier c.query).within s.patience with
    | none => c
    | some classification => addIntent s.stoplist classification c

def dropGenericQueries (stoplist : Stoplist) (c : Context) : Context :=
  { c with processed := c.processed.filter (!stoplist.isAllGeneric ·.text) }

inductive Stage where
  | codeDetection
  | stemming
  | synonymExpansion
  | intentClassification
  | genericNounFilter
deriving DecidableEq, Repr

namespace Stage

def name : Stage → String
  | codeDetection => "code_detection"
  | stemming => "stemming"
  | synonymExpansion => "synonym_expansion"
  | intentClassification => "intent_classification"
  | genericNounFilter => "generic_noun_filter"

def applies (s : Sources) (c : Context) : Stage → Bool
  | codeDetection => true
  | stemming => c.has .stemming && !c.isCode && minStemLength ≤ c.query.length
  | synonymExpansion => c.has .synonymExpansion && !c.isCode
  | intentClassification =>
    c.has .intentClassification && s.classifier.isSome && intentApplicable c.isCode false c.query
  | genericNounFilter => c.has .genericNounFilter

def run (s : Sources) (c : Context) : Stage → Context
  | codeDetection => detectCode c
  | stemming => addStem s.stoplist c
  | synonymExpansion => expandSynonyms s.synonyms c
  | intentClassification => classifyIntent s c
  | genericNounFilter => dropGenericQueries s.stoplist c

def step (s : Sources) (c : Context) (stage : Stage) : Context :=
  if stage.applies s c then stage.run s c else c

end Stage

def runStages (s : Sources) (stages : List Stage) (c : Context) : Context :=
  stages.foldl (Stage.step s) c

def Version.stages : Version → List Stage
  | v1 => [.codeDetection]
  | v2 | v3 =>
    [.codeDetection, .stemming, .synonymExpansion, .intentClassification, .genericNounFilter]

def enrich (s : Sources) (version : Version) (query : String) (disableIntent : Bool) : Context :=
  let features :=
    if disableIntent then version.features.filter (· ≠ .intentClassification) else version.features
  runStages s version.stages (.ofQuery query features)

/-- What the main search learns about a query before it asks the services: whether it is a code, and its stemmed
form. -/
def analyze (s : Sources) (query : String) : Context :=
  runStages s [.codeDetection, .stemming] (.ofQuery query [.stemming, .dualQuery])

end HybridSearch.Query
