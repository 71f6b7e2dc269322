import HybridSearch.Cursor
import HybridSearch.Proofs.Double

/-!
# Cursors sent back

A cursor is written for a hit that was just ranked and read again from a request. Reading refuses
what is no finite number and what is no id, so it refuses some of what can be written, and what it
accepts it gives back unchanged.
-/

namespace HybridSearch.Cursor

/-- Whether a cursor is read again from its own text. -/
def IsReadable (c : Cursor) : Prop := c.score.isFinite ∧ c.id ≠ ""

instance (c : Cursor) : Decidable c.IsReadable := inferInstanceAs (Decidable (_ ∧ _))

theorem score?_number (s : Score) :
    score? (.number s.toFloat) = if s.isFinite then some s else none := by
  by_cases hfinite : s.isFinite
  · simp [Json.number, score?, Json.float?, hfinite, Score.ofFloat_toFloat hfinite]
  · simp [Json.number, score?, Json.float?, hfinite]

theorem decode_json_eq (c : Cursor) :
    decode c.json = decodeParts (.number c.score.toFloat) (.str c.id) (c.fingerprint.map .str) := by
  obtain ⟨score, id, _ | fingerprint⟩ := c <;> rfl

/-- The fault of the score is reported before that of the id. -/
theorem decode_json (c : Cursor) : decode c.json =
    if c.score.isFinite then (if c.id = "" then .error .id else .ok c) else .error .score := by
  rw [decode_json_eq, decodeParts, score?_number]
  by_cases hfinite : c.score.isFinite
  · by_cases hid : c.id = ""
    · simp [hfinite, id?, hid]
    · obtain ⟨score, id, _ | fingerprint⟩ := c <;> simp_all [id?, fingerprint?]
  · simp [hfinite]

theorem decode_json_of_isReadable {c : Cursor} (hread : c.IsReadable) : decode c.json = .ok c := by
  rw [decode_json, if_pos hread.1, if_neg hread.2]

theorem decode_json_eq_ok_iff {c d : Cursor} : decode c.json = .ok d ↔ c.IsReadable ∧ d = c := by
  constructor
  · intro hdecode
    rw [decode_json] at hdecode
    split at hdecode
    · split at hdecode
      · cases hdecode
      · cases hdecode
        exact ⟨⟨‹_›, ‹_›⟩, rfl⟩
    · cases hdecode
  · rintro ⟨hread, rfl⟩
    exact decode_json_of_isReadable hread

end HybridSearch.Cursor
