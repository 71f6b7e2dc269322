import HybridSearch.Proofs.Ranking
import HybridSearch.Search.Page

/-!
# Pages of a ranking without repeated ids

A page ends at a document, and the cursor made from that document leads to what comes after it.
Reranking moves the hits of a page about and does nothing else, because it reads no more than an
order of ids off the answer.
-/

namespace HybridSearch

theorem pageAfter_suffix (pool : List CombinedHit) (c : Option Cursor) :
    pageAfter pool c <:+ pool := by
  cases c with
  | none => exact List.suffix_rfl
  | some c =>
      rw [pageAfter]
      split
      · exact (List.drop_suffix _ _).trans (List.dropWhile_suffix _)
      · exact List.dropWhile_suffix _

/-- A cursor that names a document of the ranking leads to what follows it, whatever its score. -/
theorem pageAfter_of_id {before after : List CombinedHit} {h : CombinedHit} {c : Cursor}
    (hid : c.id = h.id) (hnodup : ((before ++ h :: after).map (·.id)).Nodup) :
    pageAfter (before ++ h :: after) (some c) = after := by
  have hbefore : ∀ b ∈ before, decide (b.id ≠ c.id) = true := by
    intro b hb
    exact decide_eq_true (hid ▸ (key_ne_of_nodup hnodup).1 b hb)
  have hfound : (before ++ h :: after).any (·.id = c.id) = true := by simp [hid]
  rw [pageAfter, if_pos hfound, List.dropWhile_append_of_pos hbefore]
  simp [hid]

namespace Page

variable {pool : List CombinedHit} {limit : Nat} {fingerprint : String}

theorem cut_next_cases (pool : List CombinedHit) (fingerprint : String) (hpos : 0 < limit)
    (c : Option Cursor) :
    (pageAfter pool c).length ≤ limit ∧ (cut pool c limit fingerprint).next = none ∨
      ∃ front h rest, pageAfter pool c = front ++ h :: rest ∧ front.length + 1 = limit ∧ rest ≠ [] ∧
        (cut pool c limit fingerprint).next = some (Cursor.ofHit h fingerprint) := by
  rw [cut]
  by_cases hlength : limit < (pageAfter pool c).length
  · right
    have hlast : limit - 1 < (pageAfter pool c).length := by omega
    have hsplit : (pageAfter pool c).take (limit - 1) ++ [(pageAfter pool c)[limit - 1]]
        = (pageAfter pool c).take limit := by
      rw [List.take_append_getElem hlast, Nat.sub_add_cancel hpos]
    refine ⟨(pageAfter pool c).take (limit - 1), (pageAfter pool c)[limit - 1],
      (pageAfter pool c).drop limit, ?_, ?_, ?_, ?_⟩
    · rw [List.append_cons, hsplit, List.take_append_drop]
    · rw [List.length_take]
      omega
    · simpa using hlength
    · rw [if_pos hlength, ← hsplit, List.getLast?_concat]
      rfl
  · left
    rw [if_neg hlength]
    exact ⟨by omega, rfl⟩

/-- The cursor of a page leads to what follows the page, as no other hit has the id that it
names. -/
theorem pageAfter_next (hpos : 0 < limit) (hnodup : (pool.map (·.id)).Nodup) {c : Option Cursor}
    {next : Cursor} (hnext : (cut pool c limit fingerprint).next = some next) :
    pageAfter pool (some next) = (pageAfter pool c).drop limit := by
  obtain ⟨-, hnone⟩ | ⟨front, h, rest, hafter, hfront, -, hsome⟩ :=
    cut_next_cases pool fingerprint hpos c
  · rw [hnone] at hnext
    cases hnext
  · obtain ⟨before, hpool⟩ := pageAfter_suffix pool c
    obtain rfl : Cursor.ofHit h fingerprint = next := Option.some.inj (hsome.symm.trans hnext)
    rw [hafter, ← List.append_assoc] at hpool
    rw [hafter, ← hpool, pageAfter_of_id rfl (hpool ▸ hnodup)]
    rw [List.append_cons, List.drop_left' (by simpa using hfront)]

end Page

namespace Rerank

/-- An answer says which of the ids asked about come first; it takes none away and adds none. -/
theorem order_perm {ids : List String} (hnodup : ids.Nodup) (ranked : List RankedPassage) :
    (order ids ranked).Perm ids := by
  refine (List.perm_ext_iff_of_nodup (nodup_eraseDups _) hnodup).mpr fun id => ?_
  rw [List.mem_eraseDups, List.mem_append]
  refine ⟨?_, Or.inr⟩
  rintro (hranked | hid)
  · obtain ⟨r, hr, rfl⟩ := List.mem_map.mp hranked
    have hknown := List.mem_mergeSort.mp hr
    simpa using (List.mem_filter.mp hknown).2
  · exact hid

theorem orderBy_perm (patience : Nat) {ids : List String} (hnodup : ids.Nodup)
    (answer : Attempt (List RankedPassage)) : (orderBy patience ids answer).Perm ids := by
  rw [orderBy]
  split
  · exact order_perm hnodup _
  · exact List.Perm.refl ids

theorem run_perm (reranker : Reranker) (patience : Nat) (query : String) {passages : List Passage}
    (hnodup : (passages.map (·.id)).Nodup) :
    (run reranker patience query passages).value.Perm (passages.map (·.id)) := by
  rw [run]
  split
  · exact List.Perm.refl _
  · exact orderBy_perm patience hnodup _

end Rerank

namespace Page

variable {hits : List CombinedHit}

theorem find?_id (hnodup : (hits.map (·.id)).Nodup) {h : CombinedHit} (hmem : h ∈ hits) :
    hits.find? (·.id = h.id) = some h := by
  obtain ⟨before, after, rfl⟩ := List.append_of_mem hmem
  have hbefore : ∀ b ∈ before, ¬ decide (b.id = h.id) = true := by
    intro b hb
    simpa using (key_ne_of_nodup hnodup).1 b hb
  rw [List.find?_append, List.find?_eq_none.mpr hbefore]
  simp

theorem arrange_ids (hnodup : (hits.map (·.id)).Nodup) : arrange hits (hits.map (·.id)) = hits := by
  rw [arrange, List.filterMap_map]
  calc hits.filterMap ((fun id => hits.find? (·.id = id)) ∘ (·.id))
      = hits.filterMap some := List.filterMap_congr fun h hmem => find?_id hnodup hmem
    _ = hits := List.filterMap_some

theorem arrange_perm (hnodup : (hits.map (·.id)).Nodup) {order : List String}
    (horder : order.Perm (hits.map (·.id))) : (arrange hits order).Perm hits := by
  have hperm := horder.filterMap fun id => hits.find? (·.id = id)
  rwa [← arrange, ← arrange, arrange_ids hnodup] at hperm

theorem rerank_perm (hnodup : (hits.map (·.id)).Nodup) (patience : Nat) (reranker : Option Reranker)
    (query : Option String) : (rerank patience hits reranker query).value.Perm hits := by
  have hids : (hits.map passage).map (·.id) = hits.map (·.id) := by simp [passage]
  unfold rerank
  split
  · split
    · exact List.Perm.refl hits
    · exact arrange_perm hnodup (hids ▸ Rerank.run_perm _ patience _ (hids ▸ hnodup))
  · exact List.Perm.refl hits

end Page

end HybridSearch
