import HybridSearch.Proofs.Outage

/-!
# The order that a reranker gives

The ids of an answer come first, each in the place of its best entry, and those with equally good
entries as the entries stand in the answer. The ids that the answer leaves out follow as they were.
Scores are compared in the total order, so the undefined ones have their places too.
-/

namespace HybridSearch

/-! ### Sorting with the places kept -/

section

variable {α : Type} {le : α → α → Bool} {l : List (α × Nat)}

/-- A stable sort puts the elements in order of their places where it finds them alike. -/
theorem map_fst_mergeSort (hplaces : l.Pairwise fun a b => a.2 < b.2) :
    (l.mergeSort (List.zipIdxLE le)).map (·.1) = (l.map (·.1)).mergeSort le := by
  have hlt {i j : Nat} {a b : α × Nat} (ha : l[i]? = some a) (hb : l[j]? = some b) (hij : i < j) :
      a.2 < b.2 := by
    obtain ⟨hi, rfl⟩ := List.getElem?_eq_some_iff.mp ha
    obtain ⟨hj, rfl⟩ := List.getElem?_eq_some_iff.mp hb
    exact List.pairwise_iff_getElem.mp hplaces i j hi hj hij
  have hagree : ∀ a ∈ l.zipIdx, ∀ b ∈ l.zipIdx,
      List.zipIdxLE (fun x y => le x.1 y.1) a b = List.zipIdxLE le a.1 b.1 := by
    rintro ⟨a, i⟩ ha ⟨b, j⟩ hb
    rw [List.mem_zipIdx_iff_getElem?] at ha hb
    have hplace : i ≤ j ↔ a.2 ≤ b.2 := by
      rcases Nat.lt_trichotomy i j with hij | rfl | hji
      · exact iff_of_true hij.le (hlt ha hb hij).le
      · obtain rfl := Option.some.inj (ha.symm.trans hb)
        exact iff_of_true le_rfl le_rfl
      · exact iff_of_false hji.not_ge (hlt hb ha hji).not_ge
    simp only [List.zipIdxLE, hplace]
  calc (l.mergeSort (List.zipIdxLE le)).map (·.1)
      = ((l.zipIdx.map (·.1)).mergeSort (List.zipIdxLE le)).map (·.1) := by simp
    _ = ((l.zipIdx.mergeSort (List.zipIdxLE fun x y => le x.1 y.1)).map (·.1)).map (·.1) := by
        rw [List.map_mergeSort hagree]
    _ = (l.mergeSort fun x y => le x.1 y.1).map (·.1) := by rw [List.mergeSort_zipIdx]
    _ = (l.map (·.1)).mergeSort le := List.map_mergeSort fun _ _ _ _ => rfl

end

namespace Rerank

/-! ### What an answer asks for -/

def answered (ranked : List RankedPassage) (id : String) : Bool := ranked.any (·.id = id)

/-- The entry of an answer that counts for its id: none for the id is better, and none before it is
as good. -/
structure Leads (ranked : List RankedPassage) (place : Nat) (p : RankedPassage) : Prop where
  stands : ranked[place]? = some p
  best : ∀ (i : Nat) (q : RankedPassage), ranked[i]? = some q → q.id = p.id →
    q.score.rank < p.score.rank ∨ q.score.rank = p.score.rank ∧ place ≤ i

/-- Ids in the order of an answer: those that it holds by their leading entries, the best score
first and of equal ones the entry that is met first, and then the others as they were. -/
structure IsReordering (ids : List String) (ranked : List RankedPassage) (order : List String) :
    Prop where
  perm : order.Perm ids
  answeredFirst : order.Pairwise fun a b => answered ranked b → answered ranked a
  byScore : order.Pairwise fun a b => answered ranked a → answered ranked b →
    ∃ i p j q, Leads ranked i p ∧ p.id = a ∧ Leads ranked j q ∧ q.id = b ∧
      (q.score.rank < p.score.rank ∨ q.score.rank = p.score.rank ∧ i < j)
  others : order.filter (fun id => !answered ranked id) = ids.filter fun id => !answered ranked id

/-! ### Entries in the order of their scores -/

variable (ids : List String) (ranked : List RankedPassage)

def notWorse (p q : RankedPassage) : Bool := q.score.rank ≤ p.score.rank

/-- The entries for ids that were asked about, each with its place in the answer. -/
def entries : List (RankedPassage × Nat) :=
  (ranked.zipIdx.filter fun e => ids.contains e.1.id).mergeSort (List.zipIdxLE notWorse)

variable {ids ranked} {i j : Nat} {p q : RankedPassage}

theorem mem_entries_iff : (p, i) ∈ entries ids ranked ↔ ranked[i]? = some p ∧ p.id ∈ ids := by
  rw [entries, List.mem_mergeSort, List.mem_filter, List.mk_mem_zipIdx_iff_getElem?,
    List.contains_iff_mem]

theorem pairwise_entries (ids : List String) (ranked : List RankedPassage) :
    (entries ids ranked).Pairwise fun d e => e.1.score.rank < d.1.score.rank ∨
      e.1.score.rank = d.1.score.rank ∧ d.2 ≤ e.2 := by
  have htrans (p q r : RankedPassage) : notWorse p q → notWorse q r → notWorse p r := by
    simp only [notWorse, decide_eq_true_iff]
    omega
  have htotal (p q : RankedPassage) : notWorse p q || notWorse q p := by
    simp only [notWorse, Bool.or_eq_true, decide_eq_true_iff]
    omega
  have hsorted := List.pairwise_mergeSort (List.zipIdxLE_trans htrans) (List.zipIdxLE_total htotal)
    (ranked.zipIdx.filter fun e => ids.contains e.1.id)
  refine hsorted.imp ?_
  rintro d e hde
  simp only [List.zipIdxLE, notWorse, decide_eq_true_iff] at hde
  split_ifs at hde with hle hge
  · exact .inr ⟨le_antisymm hle hge, of_decide_eq_true hde⟩
  · exact .inl (not_le.mp hge)

theorem map_fst_entries (ids : List String) (ranked : List RankedPassage) :
    (entries ids ranked).map (·.1)
      = (ranked.filter fun p => ids.contains p.id).mergeSort notWorse := by
  have hplaces : (ranked.zipIdx.filter fun e => ids.contains e.1.id).Pairwise
      fun d e => d.2 < e.2 := by
    have hrange : (ranked.zipIdx.map (·.2)).Pairwise (· < ·) := by
      rw [List.zipIdx_map_snd]
      exact List.pairwise_lt_range'
    exact (List.pairwise_map.mp hrange).filter _
  rw [entries, map_fst_mergeSort hplaces]
  congr 1
  calc (ranked.zipIdx.filter fun e => ids.contains e.1.id).map (·.1)
      = (ranked.zipIdx.map (·.1)).filter fun p => ids.contains p.id := by rw [List.filter_map]; rfl
    _ = ranked.filter fun p => ids.contains p.id := by rw [List.zipIdx_map_fst]

theorem leads_of_first {front back : List (RankedPassage × Nat)}
    (hsplit : entries ids ranked = front ++ (p, i) :: back) (hfirst : ∀ e ∈ front, e.1.id ≠ p.id) :
    Leads ranked i p := by
  have hsorted := pairwise_entries ids ranked
  have hmem : (p, i) ∈ entries ids ranked := hsplit ▸ List.mem_append_right _ List.mem_cons_self
  obtain ⟨hstands, hknown⟩ := mem_entries_iff.mp hmem
  refine ⟨hstands, fun m q hq hid => ?_⟩
  have hother : (q, m) ∈ entries ids ranked := mem_entries_iff.mpr ⟨hq, hid ▸ hknown⟩
  rw [hsplit, List.pairwise_append, List.pairwise_cons] at hsorted
  rw [hsplit, List.mem_append, List.mem_cons] at hother
  rcases hother with hbefore | hsame | hafter
  · exact absurd hid (hfirst _ hbefore)
  · cases hsame
    exact .inr ⟨rfl, le_rfl⟩
  · exact hsorted.2.1.1 _ hafter

/-! ### The order of the ids -/

/-- The ids that an answer holds of those asked about, by its entries. -/
def scoredIds (ids : List String) (ranked : List RankedPassage) : List String :=
  (entries ids ranked).map (·.1.id)

theorem mem_scoredIds_iff {id : String} :
    id ∈ scoredIds ids ranked ↔ id ∈ ids ∧ answered ranked id := by
  have hanswered : answered ranked id ↔
      ∃ (i : Nat) (p : RankedPassage), ranked[i]? = some p ∧ p.id = id := by
    simp only [answered, List.any_eq_true, decide_eq_true_iff, List.mem_iff_getElem?]
    tauto
  rw [scoredIds, List.mem_map, hanswered]
  constructor
  · rintro ⟨⟨p, i⟩, he, rfl⟩
    obtain ⟨hstands, hknown⟩ := mem_entries_iff.mp he
    exact ⟨hknown, i, p, hstands, rfl⟩
  · rintro ⟨hknown, i, p, hstands, rfl⟩
    exact ⟨(p, i), mem_entries_iff.mpr ⟨hstands, hknown⟩, rfl⟩

theorem exists_leads_of_firstBefore {a b : String}
    (hbefore : FirstBefore (scoredIds ids ranked) a b) (hb : b ∈ scoredIds ids ranked) :
    ∃ i p j q, Leads ranked i p ∧ p.id = a ∧ Leads ranked j q ∧ q.id = b ∧
      (q.score.rank < p.score.rank ∨ q.score.rank = p.score.rank ∧ i < j) := by
  obtain ⟨front, hfront, ha, hlater⟩ := hbefore
  obtain ⟨earlier, ⟨later, hsplit⟩, rfl⟩ := List.prefix_map_iff.mp hfront
  have hearlier : ∀ e ∈ earlier, e.1.id ≠ b := fun e he hid => hlater (hid ▸ List.mem_map_of_mem he)
  have hlate : ∃ e ∈ later, e.1.id = b := by
    obtain ⟨e, he, hid⟩ := List.mem_map.mp hb
    rw [← hsplit, List.mem_append] at he
    exact ⟨e, he.resolve_left fun he => hearlier e he hid, hid⟩
  obtain ⟨front₁, ⟨p, i⟩, back₁, rfl, rfl, hfirst₁⟩ := exists_first (List.mem_map.mp ha)
  obtain ⟨front₂, ⟨q, j⟩, back₂, rfl, rfl, hfirst₂⟩ := exists_first hlate
  have hatP : entries ids ranked
      = front₁ ++ (p, i) :: (back₁ ++ (front₂ ++ (q, j) :: back₂)) := by
    rw [← hsplit, List.append_assoc, List.cons_append]
  have hatQ : entries ids ranked
      = ((front₁ ++ (p, i) :: back₁) ++ front₂) ++ (q, j) :: back₂ := by
    rw [← hsplit, List.append_assoc _ front₂]
  have hp : Leads ranked i p := leads_of_first hatP hfirst₁
  have hq : Leads ranked j q :=
    leads_of_first hatQ (List.forall_mem_append.mpr ⟨hearlier, hfirst₂⟩)
  have hsorted := pairwise_entries ids ranked
  rw [← hsplit, List.pairwise_append] at hsorted
  refine ⟨i, p, j, q, hp, rfl, hq, rfl, ?_⟩
  rcases hsorted.2.2 (p, i) (by simp) (q, j) (by simp) with hlt | ⟨heq, hle⟩
  · exact .inl hlt
  -- In one place there is one entry, and its id is not both.
  · refine .inr ⟨heq, lt_of_le_of_ne hle ?_⟩
    rintro (rfl : i = j)
    obtain rfl : p = q := Option.some.inj (hp.stands.symm.trans hq.stands)
    exact hearlier (p, i) (by simp) rfl

theorem order_eq (hnodup : ids.Nodup) (ranked : List RankedPassage) : order ids ranked =
    (scoredIds ids ranked).eraseDups ++ ids.filter fun id => !answered ranked id := by
  have hscored : ((ranked.filter fun p => ids.contains p.id).mergeSort notWorse).map (·.id)
      = scoredIds ids ranked := by
    rw [← map_fst_entries, List.map_map]
    rfl
  have hothers :
      ids.removeAll (scoredIds ids ranked) = ids.filter fun id => !answered ranked id := by
    refine List.filter_congr fun id hid => ?_
    rw [Bool.not_inj_iff, Bool.eq_iff_iff, List.elem_iff, mem_scoredIds_iff, and_iff_right hid]
  change (((ranked.filter fun p => ids.contains p.id).mergeSort notWorse).map (·.id)
    ++ ids).eraseDups = _
  rw [hscored, List.eraseDups_append, hothers, eraseDups_of_nodup (hnodup.filter _)]

theorem isReordering_order (hnodup : ids.Nodup) (ranked : List RankedPassage) :
    IsReordering ids ranked (order ids ranked) := by
  have hscored : ∀ id ∈ (scoredIds ids ranked).eraseDups, answered ranked id := fun id hid =>
    (mem_scoredIds_iff.mp (List.mem_eraseDups.mp hid)).2
  have hother : ∀ id ∈ ids.filter (fun id => !answered ranked id), ¬ answered ranked id :=
    fun id hid => by simpa using (List.mem_filter.mp hid).2
  have hbefore : (scoredIds ids ranked).eraseDups.Pairwise (FirstBefore (scoredIds ids ranked)) :=
    pairwise_eraseDups _
  constructor
  case perm => exact order_perm hnodup ranked
  case answeredFirst =>
    rw [order_eq hnodup, List.pairwise_append]
    refine ⟨?_, ?_, fun a ha _ _ _ => hscored a ha⟩
    · exact List.pairwise_of_forall_mem_list fun a ha _ _ _ => hscored a ha
    · exact List.pairwise_of_forall_mem_list fun _ _ b hb hanswered =>
        absurd hanswered (hother b hb)
  case byScore =>
    rw [order_eq hnodup, List.pairwise_append]
    refine ⟨hbefore.imp_of_mem fun _ hb hab _ _ => ?_, ?_, ?_⟩
    · exact exists_leads_of_firstBefore hab (List.mem_eraseDups.mp hb)
    · exact List.pairwise_of_forall_mem_list fun _ _ b hb _ hanswered =>
        absurd hanswered (hother b hb)
    · exact fun _ _ b hb _ hanswered => absurd hanswered (hother b hb)
  case others =>
    rw [order_eq hnodup, List.filter_append, List.filter_filter, List.filter_eq_nil_iff.mpr]
    · simp
    · simpa using hscored

/-- The passages are put in the order of the answer, and are left as they were when there is none.
Each id keeps its one place whatever the answer holds: ids that were not asked about, ids again and
again, and any scores. -/
theorem run_reorders (reranker : Reranker) (limit : Nat) (query : String) {passages : List Passage}
    (hids : (passages.map (·.id)).Nodup) :
    (∀ ranked, (reranker query passages passages.length).result = .ok ranked →
      (reranker query passages passages.length).delay ≤ limit →
      IsReordering (passages.map (·.id)) ranked (run reranker limit query passages).value) ∧
    ((reranker query passages passages.length).IsLost limit →
      (run reranker limit query passages).value = passages.map (·.id)) := by
  constructor
  · intro ranked hranked htime
    have hwithin := Attempt.within_eq_some_iff.mpr ⟨htime, hranked⟩
    have hvalue : (run reranker limit query passages).value
        = order (passages.map (·.id)) ranked := by
      rw [run]
      split_ifs with hnone
      · rw [List.isEmpty_iff.mp hnone]
        exact (order_of_unknown List.nodup_nil fun _ _ => List.not_mem_nil).symm
      · rw [orderBy, hwithin]
    exact hvalue ▸ isReordering_order hids ranked
  · exact fun hlost => run_of_isWasted hids (.inl hlost)

def fourPassages : List Passage := [⟨"a", ""⟩, ⟨"b", ""⟩, ⟨"c", ""⟩, ⟨"d", ""⟩]

/-- Some ids more than once, one of them unknown, and a score that is undefined. -/
def unevenAnswer : List RankedPassage :=
  [⟨"z", .ofFloat 2⟩, ⟨"c", .undefined⟩, ⟨"d", .ofFloat 0.5⟩, ⟨"a", .ofFloat 0.5⟩,
    ⟨"d", .ofFloat (-1)⟩, ⟨"a", .ofFloat 0.5⟩]

theorem run_reorders_of_uneven :
    IsReordering ["a", "b", "c", "d"] unevenAnswer
        (run (fun _ _ _ => .atOnce (.ok unevenAnswer)) 5 "rent" fourPassages).value ∧
      (run (fun _ _ _ => ⟨.ok unevenAnswer, 6⟩) 5 "rent" fourPassages).value
        = ["a", "b", "c", "d"] := by
  have hids : (fourPassages.map (·.id)).Nodup := by decide
  have hlate : (⟨.ok unevenAnswer, 6⟩ : Attempt (List RankedPassage)).IsLost 5 := .inl (by decide)
  constructor
  · exact (run_reorders (fun _ _ _ => .atOnce (.ok unevenAnswer)) 5 "rent" hids).1 unevenAnswer rfl
      (Nat.zero_le 5)
  · exact (run_reorders (fun _ _ _ => ⟨.ok unevenAnswer, 6⟩) 5 "rent" hids).2 hlate

end Rerank

end HybridSearch
