import HybridSearch.Proofs.Text
import HybridSearch.Query.Version

/-!
# How a version may be written

A version is documented to be written as its digit, alone or after a single mark. Blanks around it
do not matter. What is read is the digit after any number of marks, so a text is read as documented
unless it is read as a version in spite of a second mark.
-/

namespace HybridSearch.Query.Version

open Text

variable {marks : List Char} {v : Version} {s : String}

/-- The documented spellings of a version. -/
def spellings (v : Version) : List String := [v.name, "v" ++ v.name, "V" ++ v.name]

def isMark (c : Char) : Bool := c = 'v' || c = 'V'

/-- A text is the digit of a version after some marks. -/
structure IsMarked (marks : List Char) (v : Version) (s : String) : Prop where
  areMarks : ∀ c ∈ marks, isMark c
  split : s.toList = marks ++ v.name.toList

theorem IsMarked.countP (h : IsMarked marks v s) : s.toList.countP isMark = marks.length := by
  have hname : v.name.toList.countP isMark = 0 := by
    cases v <;> rfl
  rw [h.split, List.countP_append, hname, List.countP_eq_length.mpr h.areMarks, Nat.add_zero]

theorem mem_spellings_iff_toList : s ∈ v.spellings ↔ s.toList = v.name.toList ∨
    s.toList = 'v' :: v.name.toList ∨ s.toList = 'V' :: v.name.toList := by
  simp [spellings, ← String.toList_inj]

/-- The documented spellings are those with one mark at most. -/
theorem mem_spellings_iff :
    s ∈ v.spellings ↔ ∃ marks, IsMarked marks v s ∧ marks.length ≤ 1 := by
  rw [mem_spellings_iff_toList]
  constructor
  · rintro (hs | hs | hs)
    · exact ⟨[], ⟨by simp, hs⟩, Nat.zero_le 1⟩
    · exact ⟨['v'], ⟨by simp [isMark], hs⟩, le_rfl⟩
    · exact ⟨['V'], ⟨by simp [isMark], hs⟩, le_rfl⟩
  · rintro ⟨marks, hmarks, hfew⟩
    match marks, hfew with
    | [], _ => exact .inl hmarks.split
    | [c], _ =>
        have hc : c = 'v' ∨ c = 'V' := by
          simpa [isMark] using hmarks.areMarks c List.mem_cons_self
        rcases hc with rfl | rfl
        · exact .inr (.inl hmarks.split)
        · exact .inr (.inr hmarks.split)

/-! ### What is read -/

theorem toList_stripMarks (s : String) :
    (stripMarks s).toList = (trim s).toList.dropWhile isMark := by
  rw [stripMarks, trim, String.toList_ofList, String.toList_ofList]
  rfl

theorem parse_eq_ok_iff_stripMarks : parse s = .ok v ↔ stripMarks s = v.name := by
  rw [parse]
  cases v <;> split_ifs <;> simp_all [name]

theorem stripMarks_eq_name_iff :
    stripMarks s = v.name ↔ ∃ marks, IsMarked marks v (trim s) := by
  rw [← String.toList_inj, toList_stripMarks]
  constructor
  · intro hname
    refine ⟨(trim s).toList.takeWhile isMark, fun c hc => List.mem_takeWhile_imp hc, ?_⟩
    rw [← hname, List.takeWhile_append_dropWhile]
  · rintro ⟨marks, hmarks⟩
    have hname : v.name.toList.dropWhile isMark = v.name.toList := by
      cases v <;> rfl
    rw [hmarks.split, List.dropWhile_append_of_pos hmarks.areMarks, hname]

/-- A text is read as a version if it is the digit of the version after marks alone. -/
theorem parse_eq_ok_iff : parse s = .ok v ↔ ∃ marks, IsMarked marks v (trim s) :=
  parse_eq_ok_iff_stripMarks.trans stripMarks_eq_name_iff

/-- A text is read as a version exactly if it is the digit of the version after marks alone, with
blanks around it or none. That is what is documented, unless the text is read with more than one
mark. Every version is read from its own name. -/
theorem parse_spellings_iff (s : String) :
    (∀ v, parse s = .ok v ↔ ∃ marks, IsMarked marks v (trim s)) ∧
    ((∀ v, parse s = .ok v ↔ trim s ∈ v.spellings) ↔
      ∀ v, parse s = .ok v → (trim s).toList.countP isMark ≤ 1) ∧
    ∀ v : Version, parse v.name = .ok v := by
  refine ⟨fun v => parse_eq_ok_iff, ⟨?_, ?_⟩, fun v => by cases v <;> rfl⟩
  · intro hdocumented v hparse
    obtain ⟨marks, hmarks, hfew⟩ := mem_spellings_iff.mp ((hdocumented v).mp hparse)
    rw [hmarks.countP]
    exact hfew
  · intro hfew v
    constructor
    · intro hparse
      obtain ⟨marks, hmarks⟩ := parse_eq_ok_iff.mp hparse
      exact mem_spellings_iff.mpr ⟨marks, hmarks, hmarks.countP ▸ hfew v hparse⟩
    · intro hspelled
      obtain ⟨marks, hmarks, -⟩ := mem_spellings_iff.mp hspelled
      exact parse_eq_ok_iff.mpr ⟨marks, hmarks⟩

/-- A text with two marks is read as a version and is no documented spelling of any. -/
theorem parse_marked_twice : parse "vv1" = .ok v1 ∧ ∀ v : Version, trim "vv1" ∉ v.spellings := by
  refine ⟨parse_eq_ok_iff_stripMarks.mpr (by decide +kernel), fun v => ?_⟩
  cases v <;> decide +kernel

end HybridSearch.Query.Version
