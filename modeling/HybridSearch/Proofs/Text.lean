import HybridSearch.Text.Basic
import Mathlib.Data.List.DropRight
import Mathlib.Data.List.TakeWhile

/-!
# Blanks around a text

What is trimmed off a text is blank, what is trimmed once has nothing left to trim, and nothing is
left of a text that is all blanks.
-/

namespace HybridSearch.Text

theorem trimChars_eq (cs : List Char) :
    trimChars cs = (cs.dropWhile isSpace).rdropWhile isSpace := rfl

theorem exists_trimEndWhile (p : Char → Bool) (cs : List Char) :
    ∃ after, cs = trimEndWhile p cs ++ after ∧ ∀ c ∈ after, p c := by
  refine ⟨(cs.reverse.takeWhile p).reverse, ?_, fun c hc => ?_⟩
  · rw [trimEndWhile, ← List.reverse_append, List.takeWhile_append_dropWhile, List.reverse_reverse]
  · exact List.mem_takeWhile_imp (List.mem_reverse.mp hc)

theorem mem_of_mem_trimEndWhile {p : Char → Bool} {cs : List Char} {c : Char}
    (hc : c ∈ trimEndWhile p cs) : c ∈ cs := by
  obtain ⟨after, hsplit, -⟩ := exists_trimEndWhile p cs
  rw [hsplit]
  exact List.mem_append_left after hc

theorem trimEndWhile_eq_self {p : Char → Bool} {cs : List Char}
    (hlast : ∀ c ∈ cs.getLast?, p c = false) : trimEndWhile p cs = cs := by
  refine List.rdropWhile_eq_self_iff.mpr fun hsome => ?_
  rw [hlast _ (List.getLast?_eq_some_getLast hsome)]
  exact Bool.false_ne_true

theorem trimEndWhile_append (p : Char → Bool) (a b : List Char) : trimEndWhile p (a ++ b) =
    if trimEndWhile p b = [] then trimEndWhile p a else a ++ trimEndWhile p b := by
  simp only [trimEndWhile, List.reverse_append, List.dropWhile_append, List.isEmpty_iff,
    List.reverse_eq_nil_iff]
  split_ifs
  · rfl
  · rw [List.reverse_append, List.reverse_reverse]

theorem trimEndWhile_cons {p : Char → Bool} {c : Char} (hc : p c = false) (cs : List Char) :
    trimEndWhile p (c :: cs) = c :: trimEndWhile p cs := by
  rw [← List.singleton_append, trimEndWhile_append]
  split_ifs with hnone
  · rw [hnone]
    exact trimEndWhile_eq_self fun d hd => Option.some_inj.mp hd ▸ hc
  · rfl

theorem exists_trimChars (cs : List Char) : ∃ before after, cs = before ++ (trimChars cs ++ after) ∧
    (∀ c ∈ before, isSpace c) ∧ ∀ c ∈ after, isSpace c := by
  obtain ⟨after, hsplit, hafter⟩ := exists_trimEndWhile isSpace (cs.dropWhile isSpace)
  refine ⟨cs.takeWhile isSpace, after, ?_, fun c hc => List.mem_takeWhile_imp hc, hafter⟩
  rw [trimChars, ← hsplit, List.takeWhile_append_dropWhile]

theorem trimChars_trimChars (cs : List Char) : trimChars (trimChars cs) = trimChars cs := by
  simp only [trimChars_eq]
  have hstarts := List.rdropWhile_prefix isSpace (cs.dropWhile isSpace)
  have hstart : ((cs.dropWhile isSpace).rdropWhile isSpace).dropWhile isSpace
      = (cs.dropWhile isSpace).rdropWhile isSpace := by
    rw [List.dropWhile_eq_self_iff]
    intro hpos
    rw [hstarts.getElem hpos]
    exact List.dropWhile_get_zero_not isSpace cs (hpos.trans_le hstarts.length_le)
  rw [hstart, List.rdropWhile_idempotent]

@[simp]
theorem trim_trim (s : String) : trim (trim s) = trim s := by
  simp [trim, trimChars_trimChars]

theorem trim_eq_empty_iff (s : String) : trim s = "" ↔ isBlank s := by
  calc trim s = "" ↔ trimChars s.toList = [] := by
        rw [trim, ← String.toList_inj]
        simp
    _ ↔ s.toList.dropWhile isSpace = [] := by
        rw [trimChars_eq, List.rdropWhile_eq_nil_iff, ← List.dropWhile_eq_nil_iff,
          List.dropWhile_idempotent]
    _ ↔ isBlank s := by
        rw [List.dropWhile_eq_nil_iff, isBlank, List.all_eq_true]

theorem isBlank_trim (s : String) : isBlank (trim s) ↔ isBlank s := by
  rw [← trim_eq_empty_iff, trim_trim, trim_eq_empty_iff]

end HybridSearch.Text
