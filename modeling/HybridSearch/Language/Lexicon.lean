/-!
The word lists behind the tags of tokens. Nouns are not listed: what no list claims is taken for one.
-/

namespace HybridSearch.Language.Lexicon

def determiners : List String := [
  "a", "an", "the", "this", "that", "these", "those", "my", "your", "our", "their", "his", "her", "its", "some", "any",
  "each", "every", "no", "all", "both", "another", "other", "which", "whose"]

def pronouns : List String := [
  "i", "me", "we", "us", "you", "he", "him", "she", "it", "they", "them", "myself", "ourselves", "yourself",
  "themselves", "someone", "somebody", "anyone", "anybody", "something", "anything", "everyone", "what", "who", "whom",
  "where", "when", "how", "why", "mine", "yours", "ours", "theirs"]

def objectPronouns : List String := ["me", "us", "him", "her", "them", "it", "myself"]

def adpositions : List String := [
  "with", "for", "to", "in", "on", "at", "by", "from", "of", "about", "near", "into", "around", "without", "during",
  "after", "before", "under", "over", "through", "between", "within", "across", "against", "towards", "toward", "like",
  "via", "per"]

def conjunctions : List String := ["and", "or", "but", "nor", "so", "yet", "if", "because", "while"]

def auxiliaries : List String := [
  "am", "is", "are", "was", "were", "be", "been", "being", "do", "does", "did", "have", "has", "had", "can", "could",
  "will", "would", "shall", "should", "may", "might", "must", "i'm", "im", "i've", "can't", "cant", "don't", "dont"]

def particles : List String := ["not", "n't", "please"]

def adverbs : List String := [
  "very", "really", "just", "now", "today", "tonight", "tomorrow", "here", "there", "nearby", "asap", "urgently",
  "immediately", "also", "too", "again", "soon", "currently"]

/-- Words that are verbs in a query. Words such as `help` or `care`, which are mostly what is asked for, are not among
them. -/
def verbs : List String := [
  "need", "needs", "needed", "want", "wants", "find", "finding", "get", "getting", "got", "looking", "look", "search",
  "searching", "pay", "paying", "apply", "applying", "afford", "go", "going", "live", "living", "lost", "lose",
  "losing", "make", "making", "take", "taking", "give", "giving", "keep", "fix", "fixing", "buy", "feed", "feeding",
  "sign", "talk", "speak", "call", "quit", "stop", "stay", "staying", "move", "moving", "evicted", "kicked", "locate",
  "locating", "receive", "know", "tell", "show", "struggling", "trying", "try", "became", "become", "cover",
  "covering"]

def adjectives : List String := [
  "free", "cheap", "affordable", "low", "low-cost", "local", "new", "old", "good", "best", "small", "big", "young",
  "elderly", "homeless", "hungry", "sick", "pregnant", "disabled", "unemployed", "open", "close", "closest", "nearest",
  "available", "public", "legal", "mental", "medical", "dental", "financial", "emergency", "immediate", "safe",
  "single", "low-income", "overdue", "past-due", "unpaid", "late", "many", "much", "more", "most"]

def months : List String := [
  "january", "february", "march", "april", "june", "july", "august", "september", "october", "november", "december",
  "jan", "feb", "mar", "apr", "jun", "jul", "aug", "sep", "sept", "oct", "nov", "dec"]

def weekdays : List String := [
  "monday", "tuesday", "wednesday", "thursday", "friday", "saturday", "sunday", "weekend", "weekends", "weekday",
  "weekdays"]

/-- Nouns too broad to narrow a search on their own, as written. -/
def genericNouns : List String := [
  "help", "service", "services", "assistance", "assist", "support", "program", "programs", "resource", "resources",
  "information", "info", "thing", "things", "stuff", "place", "places", "area", "location", "people", "person", "way",
  "option", "options", "provider", "providers", "organization", "agency", "center", "need", "needs", "problem",
  "issue", "issues", "question", "questions", "someone", "somewhere", "something", "anything", "type", "kind", "lot",
  "access", "aid", "benefit", "benefits"]

end HybridSearch.Language.Lexicon
