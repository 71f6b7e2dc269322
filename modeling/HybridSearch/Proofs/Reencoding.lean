import HybridSearch.Proofs.Payload
import HybridSearch.Proofs.Refusal

/-!
# Cursors in other words

A cursor can be written in more ways than it is issued in: with a whole number for the score, with a
number for the id, with a null in the place of the fingerprint. However it was written, what is read
is a cursor with a finite score and an id, and such a cursor is read again from its own form. So the
two ways between cursors and their forms are inverse to each other where they lead anywhere.
-/

namespace HybridSearch

theorem Json.eq_chars_of_numberChars? {j : Json} {cs : List Char} (hj : j.numberChars? = some cs) :
    cs = j.chars := by
  cases j with
  | int n =>
      obtain rfl := Option.some_inj.mp hj
      rfl
  | float x =>
      obtain rfl := Option.some_inj.mp hj
      rw [chars]
  | null => cases hj
  | bool b => cases hj
  | str s => cases hj
  | arr items => cases hj
  | obj members => cases hj

theorem Score.isFinite_ofFloat (x : Float) : (ofFloat x).isFinite = x.isFinite := by
  rw [← isFinite_toFloat, toFloat_ofFloat]

namespace Cursor

theorem isFinite_of_score? {j : Json} {s : Score} (hscore : score? j = some s) : s.isFinite := by
  unfold score? at hscore
  split at hscore
  · rename_i x _
    split_ifs at hscore with hfinite
    obtain rfl := Option.some_inj.mp hscore
    rwa [Score.isFinite_ofFloat]
  · cases hscore

/-- An id is a text that is not empty or the digits of a number, of which there is one at least. -/
theorem ne_empty_of_id? {j : Json} {id : String} (hid : id? j = some id) : id ≠ "" := by
  have hdigits (hnumber : j.numberChars?.map String.ofList = some id) : id ≠ "" := by
    obtain ⟨cs, hcs, rfl⟩ := Option.map_eq_some_iff.mp hnumber
    rw [Json.eq_chars_of_numberChars? hcs, Ne, String.ofList_eq_empty_iff]
    exact Json.chars_ne_nil j
  cases j with
  | str s =>
      rw [id?] at hid
      split_ifs at hid with hempty
      exact Option.some_inj.mp hid ▸ hempty
  | _ => exact hdigits hid

theorem isReadable_of_decodeParts {score id : Json} {fingerprint : Option Json} {c : Cursor}
    (hparts : decodeParts score id fingerprint = .ok c) : c.IsReadable := by
  obtain ⟨hscore, hid, -⟩ := decodeParts_eq_ok_iff.mp hparts
  exact ⟨isFinite_of_score? hscore, ne_empty_of_id? hid⟩

/-- Whatever form a cursor was read from, it can be read again. -/
theorem isReadable_of_decode {j : Json} {c : Cursor} (hdecode : decode j = .ok c) :
    c.IsReadable := by
  unfold decode at hdecode
  split at hdecode
  · exact isReadable_of_decodeParts hdecode
  · exact isReadable_of_decodeParts hdecode
  · cases hdecode
  · cases hdecode

/-- The form of a cursor is read exactly if the cursor has a finite score and an id, and then as the
cursor itself, to the bit. A cursor that was read from any value at all is read again from its own
form. -/
theorem decode_json_inverse :
    (∀ c : Cursor, (∃ d, decode c.json = .ok d) ↔ c.score.isFinite ∧ c.id ≠ "") ∧
    (∀ c d : Cursor, decode c.json = .ok d → d = c) ∧
    ∀ (j : Json) (c : Cursor), decode j = .ok c → decode c.json = .ok c := by
  refine ⟨fun c => ?_, fun c d hdecode => (decode_json_eq_ok_iff.mp hdecode).2,
    fun j c hdecode => decode_json_of_isReadable (isReadable_of_decode hdecode)⟩
  constructor
  · rintro ⟨d, hdecode⟩
    exact (decode_json_eq_ok_iff.mp hdecode).1
  · exact fun hread => ⟨c, decode_json_of_isReadable hread⟩

/-- A client may write all three places in a way of its own. -/
theorem decode_json_inverse_of_numbers :
    decode (.arr [.int (-3), .int 7, .null]) = .ok ⟨.ofFloat (-3), "7", none⟩ ∧
    (⟨.ofFloat (-3), "7", none⟩ : Cursor).json = .arr [.float (-3), .str "7"] ∧
    decode (.arr [.float (-3), .str "7"]) = .ok ⟨.ofFloat (-3), "7", none⟩ := by
  have hread : decode (.arr [.int (-3), .int 7, .null]) = .ok ⟨.ofFloat (-3), "7", none⟩ := by
    decide +kernel
  have hform : (⟨.ofFloat (-3), "7", none⟩ : Cursor).json = .arr [.float (-3), .str "7"] := by
    rfl
  obtain ⟨-, -, hagain⟩ := decode_json_inverse
  exact ⟨hread, hform, hform ▸ hagain _ _ hread⟩

end Cursor

end HybridSearch
