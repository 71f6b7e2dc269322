import HybridSearch.Text.Basic

/-!
# Characters of ASCII

There are so few of them that what holds of each can be looked up. The letters among them are no
blanks, and each has one letter for its lowercase.
-/

namespace HybridSearch.Text

variable {c : Char}

theorem of_isAscii {P : Char → Prop} (hall : ∀ n < 128, P (.ofNat n)) (hc : isAscii c) : P c := by
  have hlt : c.toNat < 128 := of_decide_eq_true hc
  simpa using hall c.toNat hlt

theorem isAscii_of_isAlpha (hc : c.isAlpha) : isAscii c := by
  have hlast : c.val ≤ 'Z'.val ∨ c.val ≤ 'z'.val := by
    rcases (Bool.or_eq_true _ _).mp hc with hupper | hlower
    · exact .inl (of_decide_eq_true hupper).2
    · exact .inr (of_decide_eq_true ((Bool.and_eq_true _ _).mp hlower).2)
  have hupper : 'Z'.val.toNat = 90 := rfl
  have hlower : 'z'.val.toNat = 122 := rfl
  have hlt : c.val.toNat < 128 := by
    rw [UInt32.le_iff_toNat_le, UInt32.le_iff_toNat_le] at hlast
    omega
  exact decide_eq_true hlt

theorem isAscii_of_isDigit (hc : c.isDigit) : isAscii c := by
  have hlast : c.val ≤ '9'.val := of_decide_eq_true ((Bool.and_eq_true _ _).mp hc).2
  have hnine : '9'.val.toNat = 57 := rfl
  have hlt : c.val.toNat < 128 := by
    rw [UInt32.le_iff_toNat_le] at hlast
    omega
  exact decide_eq_true hlt

/-- Nothing but letters of ASCII has another `toLower`. -/
theorem rel_toLower {R : Char → Char → Prop}
    (hascii : ∀ n < 128, R (Char.ofNat n).toLower (.ofNat n)) (hrefl : ∀ c, R c c) (c : Char) :
    R c.toLower c := by
  cases hcase : isAscii c with
  | true => exact of_isAscii (P := fun c => R c.toLower c) hascii hcase
  | false =>
      have hsame : c.toLower = c := by
        refine dif_neg fun hcapital => ?_
        have hupper : c.isUpper := decide_eq_true hcapital
        have halpha : c.isAlpha := (Bool.or_eq_true _ _).mpr (.inl hupper)
        rw [isAscii_of_isAlpha halpha] at hcase
        exact absurd hcase (by decide)
      rw [hsame]
      exact hrefl c

/-- What a letter of ASCII counts as. -/
structure IsLetter (c : Char) : Prop where
  alpha : c.isAlpha
  space : isSpace c = false
  alphanumeric : isAlphanumeric c
  lower : lowerChar c = [c.toLower]
  alpha_toLower : c.toLower.isAlpha

theorem isLetter_of_isAlpha (hc : c.isAlpha) : IsLetter c := by
  have hall : ∀ n < 128, (Char.ofNat n).isAlpha → isSpace (.ofNat n) = false ∧
      isAlphanumeric (.ofNat n) ∧ lowerChar (.ofNat n) = [(Char.ofNat n).toLower] ∧
      (Char.ofNat n).toLower.isAlpha := by
    decide +kernel
  refine of_isAscii (P := fun c => c.isAlpha → IsLetter c) ?_ (isAscii_of_isAlpha hc) hc
  intro n hn halpha
  obtain ⟨hspace, halphanumeric, hlower, hlowered⟩ := hall n hn halpha
  exact ⟨halpha, hspace, halphanumeric, hlower, hlowered⟩

end HybridSearch.Text
