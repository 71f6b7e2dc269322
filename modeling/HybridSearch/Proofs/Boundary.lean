import HybridSearch.Proofs.Page

/-!
# Where a page begins

A boundary is looked for by its document, and by its place in the order only if the document is not
there. On a ranking both ways lead to the same hits, those that the boundary precedes: they are all
in one piece at the end, because the ranking is sorted by the order in which `precedes` compares.
-/

namespace HybridSearch

theorem dropWhile_not_eq_filter {α : Type} {p : α → Bool} {l : List α}
    (hmono : l.Pairwise fun a b => p a → p b) : l.dropWhile (fun a => !p a) = l.filter p := by
  induction l with
  | nil => rfl
  | cons a l ih =>
      obtain ⟨hhead, htail⟩ := List.pairwise_cons.mp hmono
      cases hp : p a with
      | true =>
          have hall : l.filter p = l := List.filter_eq_self.mpr fun b hb => hhead b hb hp
          rw [List.dropWhile_cons_of_neg (by simp [hp]), List.filter_cons_of_pos hp, hall]
      | false =>
          rw [List.dropWhile_cons_of_pos (by simp [hp]), List.filter_cons_of_neg (by simp [hp]),
            ih htail]

namespace Cursor

variable {c : Cursor} {a b h x : CombinedHit}

theorem precedes_iff {score : Score} {id : String} : c.precedes score id ↔
    score.rank < c.score.rank ∨ score.rank = c.score.rank ∧ c.id < id := by
  simp [precedes]

theorem precedes_iff_before (hscore : c.score = h.total) (hid : c.id = h.id) :
    c.precedes x.total x.id ↔ h.Before x := by
  rw [precedes_iff, hscore, hid]
  rfl

/-- What comes after a hit that comes after the boundary does so too. -/
theorem precedes_mono (hc : c.precedes a.total a.id) (hab : a.notAfter b) :
    c.precedes b.total b.id := by
  rw [precedes_iff] at *
  rcases CombinedHit.notAfter_iff.mp hab with hlt | ⟨heq, hle⟩
  · left
    omega
  · rw [← heq]
    exact hc.imp_right fun ⟨hsame, hid⟩ => ⟨hsame, Std.lt_of_lt_of_le hid hle⟩

end Cursor

variable {hits before after : List CombinedHit} {h : CombinedHit} {c : Cursor}

/-- What a hit of a ranking precedes is what follows it there. -/
theorem filter_precedes_eq (hstrict : (before ++ h :: after).Pairwise CombinedHit.Before)
    (hscore : c.score = h.total) (hid : c.id = h.id) :
    (before ++ h :: after).filter (fun x => c.precedes x.total x.id) = after := by
  obtain ⟨-, htail, hbefore⟩ := List.pairwise_append.mp hstrict
  have hnone : ∀ x ∈ before, ¬ c.precedes x.total x.id := by
    intro x hx hprecedes
    have hxh : x.Before h := hbefore x hx h List.mem_cons_self
    exact hxh.asymm ((Cursor.precedes_iff_before hscore hid).mp hprecedes)
  have hself : ¬ c.precedes h.total h.id := by
    intro hprecedes
    have hhh : h.Before h := (Cursor.precedes_iff_before hscore hid).mp hprecedes
    exact hhh.asymm hhh
  have hall : ∀ x ∈ after, c.precedes x.total x.id := by
    intro x hx
    exact (Cursor.precedes_iff_before hscore hid).mpr ((List.pairwise_cons.mp htail).1 x hx)
  rw [List.filter_append, List.filter_eq_nil_iff.mpr hnone, List.filter_cons, if_neg hself,
    List.filter_eq_self.mpr hall, List.nil_append]

theorem pageAfter_eq_filter (hnodup : (hits.map (·.id)).Nodup)
    (hsame : ∀ h ∈ hits, h.id = c.id → h.total = c.score) : pageAfter (sortHits hits) (some c)
      = (sortHits hits).filter fun x => c.precedes x.total x.id := by
  have hstrict := pairwise_before (pairwise_sortHits hits) (nodup_ids_sortHits hnodup)
  by_cases hpresent : ∃ h ∈ sortHits hits, h.id = c.id
  · obtain ⟨h, hmem, hid⟩ := hpresent
    have hscore : c.score = h.total := (hsame h ((sortHits_perm hits).subset hmem) hid).symm
    obtain ⟨before, after, hsplit⟩ := List.append_of_mem hmem
    have hids : ((before ++ h :: after).map (·.id)).Nodup := hsplit ▸ nodup_ids_sortHits hnodup
    rw [hsplit] at hstrict ⊢
    rw [pageAfter_of_id hid.symm hids, filter_precedes_eq hstrict hscore hid.symm]
  · -- Nothing is found by the document, and the first hit after the boundary is looked for.
    have hany : ¬ (sortHits hits).any (·.id = c.id) := by simpa using hpresent
    rw [pageAfter, if_neg hany]
    apply dropWhile_not_eq_filter
    exact (pairwise_sortHits hits).imp fun hab hc => Cursor.precedes_mono hc hab

/-- A boundary found by its document and one found by its place in the order are the same, unless the
document has another score by now: then the document counts. -/
theorem boundary_found_alike (hnodup : (hits.map (·.id)).Nodup) :
    (∀ c : Cursor, (∀ h ∈ hits, h.id = c.id → h.total = c.score) →
      pageAfter (sortHits hits) (some c)
        = (sortHits hits).filter fun x => c.precedes x.total x.id) ∧
    ∀ before h after, sortHits hits = before ++ h :: after →
      (∀ c : Cursor, c.id = h.id → pageAfter (sortHits hits) (some c) = after) ∧
      ∀ fingerprint, ∀ x ∈ hits,
        (Cursor.ofHit h fingerprint).precedes x.total x.id ↔ x ∈ after := by
  refine ⟨fun c hsame => pageAfter_eq_filter hnodup hsame, ?_⟩
  intro before h after hsplit
  have hids : ((before ++ h :: after).map (·.id)).Nodup := hsplit ▸ nodup_ids_sortHits hnodup
  have hstrict : (before ++ h :: after).Pairwise CombinedHit.Before :=
    hsplit ▸ pairwise_before (pairwise_sortHits hits) (nodup_ids_sortHits hnodup)
  constructor
  · intro c hid
    rw [hsplit, pageAfter_of_id hid hids]
  · intro fingerprint x hx
    have hmem : x ∈ before ++ h :: after := hsplit ▸ (sortHits_perm hits).symm.subset hx
    have hfilter := filter_precedes_eq (c := Cursor.ofHit h fingerprint) hstrict rfl rfl
    rw [← hfilter, List.mem_filter]
    exact (and_iff_right hmem).symm

def fourHits : List CombinedHit :=
  [⟨"a", .ofFloat 5, [], .null⟩, ⟨"b", .ofFloat 0, [], .null⟩, ⟨"c", .ofFloat 0, [], .null⟩,
    ⟨"d", .negativeZero, [], .null⟩]

theorem boundary_found_alike_of_four :
    pageAfter (sortHits fourHits) (some ⟨.ofFloat 0, "b", none⟩) = fourHits.drop 2 ∧
    pageAfter (sortHits fourHits) (some ⟨.ofFloat 0, "bb", none⟩) = fourHits.drop 2 ∧
    pageAfter (sortHits fourHits) (some ⟨.ofFloat 7, "c", none⟩) = fourHits.drop 3 ∧
    ∀ x ∈ fourHits, (Cursor.ofHit ⟨"c", .ofFloat 0, [], .null⟩ "").precedes x.total x.id ↔
      x ∈ fourHits.drop 3 := by
  have hnodup : (fourHits.map (·.id)).Nodup := by decide
  have hsorted : sortHits fourHits = fourHits := by
    apply List.mergeSort_of_pairwise
    decide +kernel
  obtain ⟨hfilter, hsplit⟩ := boundary_found_alike hnodup
  obtain ⟨hsplitc, hprecedes⟩ := hsplit (fourHits.take 2) _ (fourHits.drop 3) hsorted
  refine ⟨?_, ?_, hsplitc _ rfl, hprecedes ""⟩
  · rw [hfilter _ (by decide +kernel), hsorted]
    rfl
  · rw [hfilter _ (by decide +kernel), hsorted]
    rfl

end HybridSearch
