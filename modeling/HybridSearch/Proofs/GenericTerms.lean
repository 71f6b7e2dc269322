import HybridSearch.Proofs.Spacing

/-!
# Generic words in the stemmed form

A long query is reduced to the stems of its nouns, and a stem that is on the stoplist is dropped. A
noun of several pieces, such as one with a hyphen, has a stem of as many words, and it is the stem
as a whole that is looked up. So a generic word gets into the stemmed form exactly as a piece of a
noun that is not dropped for it.
-/

namespace HybridSearch.Language

open Text

/-- A noun that is dropped, or that has no generic word in its stem. -/
def Stoplist.Settles (stoplist : Stoplist) (noun : String) : Prop :=
  stoplist.isGeneric (stem noun) ∨ ∀ term ∈ words (stem noun), stoplist.isGeneric term = false

section

variable {stoplist : Stoplist} {nouns : List String} {noun query : String}

instance : Decidable (stoplist.Settles noun) := inferInstanceAs (Decidable (_ ∨ _))

/-! ### The words of the stemmed form -/

theorem words_stemLong (stoplist : Stoplist) (nouns : List String) :
    words (stemLong stoplist nouns) =
      (nouns.filter fun noun => !stoplist.isGeneric (stem noun)).flatMap
        fun noun => words (stem noun) := by
  rw [stemLong, Stoplist.dropGeneric, words_joined, List.filter_map, List.flatMap_map]
  rfl

theorem words_stemLong_specific_iff :
    (∀ term ∈ words (stemLong stoplist nouns), stoplist.isGeneric term = false) ↔
      ∀ noun ∈ nouns, stoplist.Settles noun := by
  simp only [words_stemLong, List.mem_flatMap, List.mem_filter, Bool.not_eq_true']
  constructor
  · intro hterms noun hnoun
    cases hgeneric : stoplist.isGeneric (stem noun) with
    | true => exact .inl hgeneric
    | false => exact .inr fun term hterm => hterms term ⟨noun, ⟨hnoun, hgeneric⟩, hterm⟩
  · rintro hsettled term ⟨noun, ⟨hnoun, hgeneric⟩, hterm⟩
    rcases hsettled noun hnoun with hdropped | hspecific
    · rw [hgeneric] at hdropped
      exact absurd hdropped Bool.false_ne_true
    · exact hspecific term hterm

theorem words_stem_ne_nil (hnoun : noun ∈ extractNouns query) : words (stem noun) ≠ [] :=
  (singleSpaced_stem noun).words_ne_nil (stem_ne_empty (any_isAlphanumeric_of_noun hnoun))

/-- Nothing is left of a query if each of its nouns is dropped. -/
theorem stemLong_eq_empty_iff : stemLong stoplist (extractNouns query) = "" ↔
    ∀ noun ∈ extractNouns query, stoplist.isGeneric (stem noun) := by
  have hwords : stemLong stoplist (extractNouns query) = "" ↔
      words (stemLong stoplist (extractNouns query)) = [] := by
    constructor
    · intro hempty
      rw [hempty]
      rfl
    · intro hnone
      by_contra hsome
      exact (singleSpaced_stemLong stoplist query).words_ne_nil hsome hnone
  rw [hwords, words_stemLong, List.flatMap_eq_nil_iff]
  constructor
  · intro hnone noun hnoun
    by_contra hgeneric
    refine words_stem_ne_nil hnoun (hnone noun (List.mem_filter.mpr ⟨hnoun, ?_⟩))
    simpa using hgeneric
  · intro hdropped noun hnoun
    obtain ⟨hnoun, hkept⟩ := List.mem_filter.mp hnoun
    rw [hdropped noun hnoun] at hkept
    cases hkept

/-- A noun of generic words only is settled if it is dropped. -/
theorem Stoplist.settles_iff_of_generic (hnoun : noun ∈ extractNouns query)
    (hgeneric : ∀ term ∈ words (stem noun), stoplist.isGeneric term) :
    stoplist.Settles noun ↔ stoplist.isGeneric (stem noun) := by
  refine or_iff_left fun hspecific => ?_
  obtain ⟨term, hterm⟩ := List.exists_mem_of_ne_nil _ (words_stem_ne_nil hnoun)
  have hboth := hgeneric term hterm
  rw [hspecific term hterm] at hboth
  cases hboth

/-! ### Long queries -/

theorem stemQuery_of_long (stoplist : Stoplist) (hlong : 2 < wordCount query) :
    (stemQuery stoplist query).nouns = some (extractNouns query) ∧
      (stemQuery stoplist query).stemmed = stemLong stoplist (extractNouns query) := by
  have hshort : isShortQuery (trim query) = false := by
    rw [isShortQuery, wordCount, words_trim]
    exact decide_eq_false (Nat.not_le.mpr hlong)
  simp only [stemQuery_eq, stemmedForm, hshort, extractNouns_congr (words_trim query),
    Bool.false_eq_true, if_false, and_self]

theorem useful_eq_false_of_empty (hempty : (stemQuery stoplist query).stemmed = "") :
    (stemQuery stoplist query).useful = false := by
  rw [← Bool.not_eq_true, useful_iff, hempty]
  exact fun h => h.1 rfl

end

/-- The stemmed form of a long query has no generic word in it exactly if each of its nouns is
dropped or has none. On nouns of generic words only, it is empty and not used exactly then. -/
theorem stemmed_terms_specific_iff (stoplist : Stoplist) {query : String}
    (hlong : 2 < wordCount query) : ∃ nouns, (stemQuery stoplist query).nouns = some nouns ∧
      ((∀ term ∈ words (stemQuery stoplist query).stemmed, stoplist.isGeneric term = false) ↔
        ∀ noun ∈ nouns, stoplist.Settles noun) ∧
      ((∀ noun ∈ nouns, ∀ term ∈ words (stem noun), stoplist.isGeneric term) →
        ((stemQuery stoplist query).stemmed = "" ∧ (stemQuery stoplist query).useful = false ↔
          ∀ noun ∈ nouns, stoplist.Settles noun)) := by
  obtain ⟨hnouns, hstemmed⟩ := stemQuery_of_long stoplist hlong
  refine ⟨extractNouns query, hnouns, ?_, fun hgeneric => ?_⟩
  · rw [hstemmed, words_stemLong_specific_iff]
  · calc (stemQuery stoplist query).stemmed = "" ∧ (stemQuery stoplist query).useful = false
        ↔ stemLong stoplist (extractNouns query) = "" := by
          rw [and_iff_left_of_imp useful_eq_false_of_empty, hstemmed]
      _ ↔ ∀ noun ∈ extractNouns query, stoplist.isGeneric (stem noun) := stemLong_eq_empty_iff
      _ ↔ ∀ noun ∈ extractNouns query, stoplist.Settles noun :=
          forall₂_congr fun noun hnoun =>
            (Stoplist.settles_iff_of_generic hnoun (hgeneric noun hnoun)).symm

/-- A short stoplist. -/
def Stoplist.helpful : Stoplist := ofNouns ["help", "services", "aid"]

theorem stemmed_terms_specific_of_dropIn : 2 < wordCount "drop-in help near me" ∧
    ∀ term ∈ words (stemQuery .helpful "drop-in help near me").stemmed,
      Stoplist.helpful.isGeneric term = false := by
  have hlong : 2 < wordCount "drop-in help near me" := by decide +kernel
  obtain ⟨nouns, hnouns, hterms, -⟩ := stemmed_terms_specific_iff .helpful hlong
  have hlisted : (stemQuery .helpful "drop-in help near me").nouns = some ["drop-in", "help"] := by
    decide +kernel
  obtain rfl := Option.some_inj.mp (hnouns.symm.trans hlisted)
  exact ⟨hlong, hterms.mpr (by decide +kernel)⟩

/-- Of a noun that is two generic words with a hyphen between them both words stay. -/
theorem exists_generic_terms_kept : ∃ (stoplist : Stoplist) (query : String),
    2 < wordCount query ∧
      (∀ noun ∈ extractNouns query, ∀ term ∈ words (stem noun), stoplist.isGeneric term) ∧
      (stemQuery stoplist query).stemmed = "help servic" ∧
      (stemQuery stoplist query).useful = true ∧
      ∀ term ∈ words "help servic", stoplist.isGeneric term :=
  ⟨.helpful, "some help-services and aid", by decide +kernel, by decide +kernel,
    by decide +kernel, by decide +kernel, by decide +kernel⟩

end HybridSearch.Language
