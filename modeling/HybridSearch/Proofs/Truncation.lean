import HybridSearch.Embedding
import Mathlib.Order.Bounds.Basic

/-!
# The text that is embedded

A text that takes too many bytes is cut where no character is cut in two. The place is looked for
from the limit down, one byte at a time. The start of the text is such a place, so the search does
not run out of the text, and it passes over no such place on its way, so what it keeps is the
longest beginning of the text that fits. A text that fits is its own longest beginning.
-/

namespace HybridSearch.Embedding

variable {text : String} {n : Nat} {place : text.Pos}

/-- A text begins with another one, of whole characters and at most `limit` bytes, and with no
longer one. -/
structure IsLongestPrefix (limit : Nat) (kept text : String) : Prop where
  begins : ∃ rest, text = kept ++ rest
  fits : kept.utf8ByteSize ≤ limit
  longest : ∀ other rest, text = other ++ rest → other.utf8ByteSize ≤ limit →
    other.utf8ByteSize ≤ kept.utf8ByteSize

/-! ### The search -/

/-- Of the places where a text can be cut, the search finds the last one up to where it begins. -/
theorem isGreatest_boundary? (hplace : boundary? text n = some place) :
    IsGreatest {m | m ≤ n ∧ String.Pos.Raw.IsValid text ⟨m⟩} place.offset.byteIdx := by
  induction n with
  | zero =>
      rw [boundary?, dif_pos String.Pos.Raw.isValid_zero, Option.some.injEq] at hplace
      subst hplace
      exact ⟨⟨le_rfl, String.Pos.Raw.isValid_zero⟩, fun m hm => hm.1⟩
  | succ n ih =>
      rw [boundary?] at hplace
      split at hplace
      case isTrue hvalid =>
        obtain rfl := Option.some.inj hplace
        exact ⟨⟨le_rfl, hvalid⟩, fun m hm => hm.1⟩
      case isFalse hinvalid =>
        -- The byte that the search passes over is no place to cut at.
        obtain ⟨⟨hle, hvalid⟩, hlast⟩ := ih hplace
        refine ⟨⟨hle.trans n.le_succ, hvalid⟩, fun m hm => hlast ⟨?_, hm.2⟩⟩
        have hne : m ≠ n + 1 := by
          rintro rfl
          exact hinvalid hm.2
        exact Nat.le_of_lt_succ (lt_of_le_of_ne hm.1 hne)

/-- The fifth byte is in the middle of the last character. -/
example : (boundary? "né€" 5).map (·.offset.byteIdx) = some 3 := by decide

/-- What stands before the last such place is the longest beginning that fits. -/
theorem isLongestPrefix_sliceTo
    (hplace : IsGreatest {m | m ≤ n ∧ String.Pos.Raw.IsValid text ⟨m⟩} place.offset.byteIdx) :
    IsLongestPrefix n (text.sliceTo place).copy text := by
  have hsplit := place.splits
  have hsize : (text.sliceTo place).copy.utf8ByteSize = place.offset.byteIdx := by
    rw [hsplit.offset_eq_rawEndPos, String.byteIdx_rawEndPos]
  refine ⟨⟨_, hsplit.eq_append⟩, hsize ▸ hplace.1.1, fun other rest htext hfits => ?_⟩
  rw [hsize]
  refine hplace.2 ⟨hfits, ?_⟩
  exact String.Pos.Raw.isValid_iff_exists_append.mpr ⟨other, rest, htext, rfl⟩

/-! ### The cut -/

/-- A text that fits is cut nowhere before its end. -/
theorem copy_sliceTo_eq_self (hfits : text.utf8ByteSize ≤ n)
    (hplace : IsGreatest {m | m ≤ n ∧ String.Pos.Raw.IsValid text ⟨m⟩} place.offset.byteIdx) :
    (text.sliceTo place).copy = text := by
  obtain ⟨rest, htext⟩ := (isLongestPrefix_sliceTo hplace).begins
  have hwhole := (isLongestPrefix_sliceTo hplace).longest text "" (by simp) hfits
  have hsize := congrArg String.utf8ByteSize htext
  rw [String.utf8ByteSize_append] at hsize
  have hrest : rest = "" := String.utf8ByteSize_eq_zero_iff.mp (by omega)
  rw [hrest, String.append_empty] at htext
  exact htext.symm

/-- Every text is cut where the search ends, also one that is not searched. -/
theorem exists_truncate_eq (text : String) : ∃ place : text.Pos,
    boundary? text byteLimit = some place ∧ truncate text = (text.sliceTo place).copy := by
  have hplace := Option.some_get (isSome_boundary? text byteLimit)
  refine ⟨_, hplace.symm, ?_⟩
  rw [truncate]
  split
  case isTrue hfits => exact (copy_sliceTo_eq_self hfits (isGreatest_boundary? hplace.symm)).symm
  case isFalse => rfl

/-- The search for a place to cut at ends with one, and what is kept up to there is the longest
beginning of the text of at most two thousand bytes. Just the texts that fit are kept whole. -/
theorem truncate_isLongestPrefix (text : String) :
    (∃ place : text.Pos, boundary? text 2000 = some place ∧
      truncate text = (text.sliceTo place).copy) ∧
    IsLongestPrefix 2000 (truncate text) text ∧
    (truncate text = text ↔ text.utf8ByteSize ≤ 2000) := by
  obtain ⟨place, hplace, hcut⟩ := exists_truncate_eq text
  have hlongest : IsLongestPrefix 2000 (truncate text) text :=
    hcut ▸ isLongestPrefix_sliceTo (isGreatest_boundary? hplace)
  refine ⟨⟨place, hplace, hcut⟩, hlongest, ?_, fun hfits => ?_⟩
  · intro hwhole
    rw [← hwhole]
    exact hlongest.fits
  · rw [truncate]
    exact if_pos hfits

end HybridSearch.Embedding
