import HybridSearch.Proofs.Bounds
import HybridSearch.Proofs.Distinct
import HybridSearch.Proofs.Spacing
import HybridSearch.Query.Stage

/-!
# Terms out of a classification

A classifier names intents in texts of any shape, each with a confidence of any value. What a query
takes from them are stems of letters and digits only, specific ones, and each once. Nothing else of
the intents that count is lost, and those that are not trusted leave no trace.
-/

namespace HybridSearch.Query

open HybridSearch.Language HybridSearch.Text

/-! ### Pieces of labels -/

/-- Letters and digits of a text that stand between other characters, or at an end of it. -/
def IsPiece (text piece : String) : Prop :=
  ∃ before after, text = before ++ piece ++ after ∧ piece ≠ "" ∧
    (∀ c ∈ piece.toList, isAlphanumeric c) ∧
    (∀ c ∈ before.toList.getLast?, isAlphanumeric c = false) ∧
    ∀ c ∈ after.toList.head?, isAlphanumeric c = false

section

variable {label piece : String}

theorem isPiece_iff : IsPiece label piece ↔ piece.toList ∈ runs isAlphanumeric label.toList := by
  rw [mem_runs_iff]
  constructor
  · rintro ⟨before, after, rfl, hsome, hpiece, hbefore, hafter⟩
    refine ⟨before.toList, after.toList, ?_, ?_, hpiece, hbefore, hafter⟩
    · rw [String.toList_append, String.toList_append]
    · simpa using hsome
  · rintro ⟨before, after, hlabel, hsome, hpiece, hbefore, hafter⟩
    refine ⟨.ofList before, .ofList after, ?_, ?_, hpiece, ?_, ?_⟩
    · rw [← String.toList_inj, hlabel]
      simp
    · simpa using hsome
    · simpa using hbefore
    · simpa using hafter

theorem mem_labelPieces_iff :
    piece ∈ labelPieces label ↔ IsPiece label piece ∧ 3 ≤ piece.length := by
  rw [isPiece_iff, labelPieces, List.mem_map]
  constructor
  · rintro ⟨run, hrun, rfl⟩
    obtain ⟨hrun, hlong⟩ := List.mem_filter.mp hrun
    rw [String.toList_ofList, String.length_ofList]
    exact ⟨hrun, of_decide_eq_true hlong⟩
  · rintro ⟨hrun, hlong⟩
    refine ⟨piece.toList, List.mem_filter.mpr ⟨hrun, ?_⟩, String.ofList_toList⟩
    rw [String.length_toList]
    exact decide_eq_true hlong

/-- Stemming breaks no piece into words. -/
theorem IsPiece.isSolid_stem (hpiece : IsPiece label piece) : IsSolid (stem piece).toList := by
  obtain ⟨-, -, -, hsome, halphanumeric, -, -⟩ := hpiece
  have hone : runs isAlphanumeric (piece.toList ++ []) = piece.toList :: runs isAlphanumeric [] :=
    runs_append_of_head? (by simpa using hsome) halphanumeric (by simp)
  rw [List.append_nil, runs_nil] at hone
  have hsolid := isSolid_pieces piece
  rw [hone, List.map_singleton, List.forall_mem_singleton] at hsolid
  rwa [stem, hone, List.map_singleton, String.intercalate_singleton]

end

/-! ### Terms -/

/-- Whether a text is the label of the primary intent, or of another one that is trusted. -/
def IsLabel (c : Classification) (label : String) : Prop :=
  label = c.primaryIntent ∨ ∃ t ∈ c.topIntents, 0.5 ≤ t.confidence ∧ t.intent = label

/-- The stems of all pieces that are long enough, label by label. -/
def pieceStems (c : Classification) : List String := ((intentLabels c).flatMap labelPieces).map stem

section

variable {stoplist : Stoplist} {c : Classification} {label term : String}

theorem mem_intentLabels_iff : label ∈ intentLabels c ↔ IsLabel c label := by
  rw [intentLabels, IsLabel, List.mem_cons, List.mem_map]
  refine or_congr_right (exists_congr fun t => ?_)
  rw [List.mem_filter, decide_eq_true_iff, and_assoc]
  rfl

theorem mem_pieceStems_iff : term ∈ pieceStems c ↔ ∃ label piece,
    IsLabel c label ∧ IsPiece label piece ∧ 3 ≤ piece.length ∧ stem piece = term := by
  simp only [pieceStems, List.mem_map, List.mem_flatMap, mem_intentLabels_iff, mem_labelPieces_iff]
  constructor
  · rintro ⟨piece, ⟨label, hlabel, hpiece, hlong⟩, hterm⟩
    exact ⟨label, piece, hlabel, hpiece, hlong, hterm⟩
  · rintro ⟨label, piece, hlabel, hpiece, hlong, hterm⟩
    exact ⟨piece, ⟨label, hlabel, hpiece, hlong⟩, hterm⟩

theorem intentTerms_eq (stoplist : Stoplist) (c : Classification) : intentTerms stoplist c =
    ((pieceStems c).filter fun term => !stoplist.isGeneric term).eraseDups := rfl

theorem mem_intentTerms_iff : term ∈ intentTerms stoplist c ↔
    stoplist.isGeneric term = false ∧ term ∈ pieceStems c := by
  rw [intentTerms_eq, List.mem_eraseDups, List.mem_filter, Bool.not_eq_true', and_comm]

theorem isSolid_of_mem_intentTerms (hterm : term ∈ intentTerms stoplist c) :
    IsSolid term.toList := by
  obtain ⟨label, piece, -, hpiece, -, rfl⟩ := mem_pieceStems_iff.mp (mem_intentTerms_iff.mp hterm).2
  exact hpiece.isSolid_stem

/-! ### Intents that are not trusted -/

theorem not_trusted {x : Float} (hx : x < 0.5 ∨ x.isNaN) : ¬ secondaryConfidence ≤ x :=
  hx.elim float_not_le_of_lt float_not_le_of_isNaN

theorem intentLabels_drop {before after : List TopIntent} {t : TopIntent}
    (hsplit : c.topIntents = before ++ t :: after) (ht : t.confidence < 0.5 ∨ t.confidence.isNaN) :
    intentLabels { c with topIntents := before ++ after } = intentLabels c := by
  have hdropped : decide (secondaryConfidence ≤ t.confidence) = false :=
    decide_eq_false (not_trusted ht)
  simp [intentLabels, hsplit, hdropped]

end

/-- The terms of a classification are the stems that are not generic of the long enough pieces of
its primary label and of the labels it is confident of, each once, as words of their own and in the
order in which they are first met. An intent that is not trusted might as well not be there. -/
theorem intentTerms_sound_complete (stoplist : Stoplist) (c : Classification) :
    (intentTerms stoplist c).Nodup ∧
    (intentTerms stoplist c).Pairwise (FirstBefore (pieceStems c)) ∧
    (∀ term ∈ intentTerms stoplist c,
      stoplist.isGeneric term = false ∧ term ≠ "" ∧ ∀ d ∈ term.toList, isSpace d = false) ∧
    (∀ term, term ∈ intentTerms stoplist c ↔ stoplist.isGeneric term = false ∧
      ∃ label piece, IsLabel c label ∧ IsPiece label piece ∧ 3 ≤ piece.length ∧
        stem piece = term) ∧
    ∀ before t after, c.topIntents = before ++ t :: after →
      t.confidence < 0.5 ∨ t.confidence.isNaN →
        intentTerms stoplist { c with topIntents := before ++ after } = intentTerms stoplist c := by
  refine ⟨?_, ?_, fun term hterm => ?_, fun term => ?_, fun before t after hsplit ht => ?_⟩
  · rw [intentTerms_eq]
    exact nodup_eraseDups _
  · rw [intentTerms_eq]
    exact pairwise_eraseDups_filter _ _
  · have hsolid := isSolid_of_mem_intentTerms hterm
    exact ⟨(mem_intentTerms_iff.mp hterm).1, by simpa using hsolid.some, hsolid.solid⟩
  · rw [mem_intentTerms_iff, mem_pieceStems_iff]
  · rw [intentTerms, intentTerms, intentLabels_drop hsplit ht]

/-- A classification with an intent that is trusted and two that are not. -/
def rentAssistance : Classification where
  primaryIntent := "rent payment-assistance"
  confidence := 0.9
  taxonomyCodes := []
  lowInformation := false
  topIntents := [⟨"eviction of renters", 0.6⟩, ⟨"legal counsel", 0.1⟩, ⟨"shelter", 0 / 0⟩]

theorem intentTerms_sound_complete_of_rent :
    intentTerms .default rentAssistance = ["rent", "payment", "evict", "renter"] ∧
    (∃ label piece, IsLabel rentAssistance label ∧ IsPiece label piece ∧ 3 ≤ piece.length ∧
      stem piece = "renter") ∧
    intentTerms .default { rentAssistance with
      topIntents := [⟨"eviction of renters", 0.6⟩, ⟨"shelter", 0 / 0⟩] } =
        intentTerms .default rentAssistance ∧
    intentTerms .default { rentAssistance with
      topIntents := [⟨"eviction of renters", 0.6⟩, ⟨"legal counsel", 0.1⟩] } =
        intentTerms .default rentAssistance := by
  obtain ⟨-, -, -, hterms, hdrop⟩ := intentTerms_sound_complete .default rentAssistance
  have hlisted : intentTerms .default rentAssistance = ["rent", "payment", "evict", "renter"] := by
    decide +kernel
  have hrenter : "renter" ∈ intentTerms .default rentAssistance := by simp [hlisted]
  refine ⟨hlisted, ((hterms "renter").mp hrenter).2, ?_, ?_⟩
  · exact hdrop [⟨"eviction of renters", 0.6⟩] ⟨"legal counsel", 0.1⟩ [⟨"shelter", 0 / 0⟩] rfl
      (.inl (by decide +kernel))
  · exact hdrop [⟨"eviction of renters", 0.6⟩, ⟨"legal counsel", 0.1⟩] ⟨"shelter", 0 / 0⟩ [] rfl
      (.inr (by decide +kernel))

end HybridSearch.Query
