import HybridSearch.Proofs.Double
import HybridSearch.Proofs.Ranking

/-!
# Fusion by weighted sum

The hits for a document are read in the order in which they were found. The first gives its source,
and the first of every strategy counts for that strategy. What they and the proximity of the document
add up to is its score, by which the documents are ranked. This leaves nothing about a ranking open,
so rankings are described here without the functions that compute them.
-/

namespace HybridSearch

/-- The hits for a document, as they were found one after the other. -/
def hitsFor (results : List StrategyResult) (id : String) : List (StrategyResult × Hit) :=
  (allHits results).filter (·.2.id = id)

/-- Reading the hits from the first on, one meets the strategy `a` while there is none of `b` yet. -/
def MetBefore (found : List (StrategyResult × Hit)) (a b : String) : Prop :=
  ∃ read, read <+: found ∧ (∃ f ∈ read, f.1.strategy = a) ∧ ∀ f ∈ read, f.1.strategy ≠ b

/-- One contribution for every strategy that found something, by its first hit. -/
structure Credited (found : List (StrategyResult × Hit)) (given : List Contribution) : Prop where
  ordered : given.Pairwise fun c d => MetBefore found c.strategy d.strategy
  complete : ∀ f ∈ found, ∃ c ∈ given, c.strategy = f.1.strategy
  first : ∀ c ∈ given, ∃ f, found.find? (·.1.strategy = c.strategy) = some f ∧
    c = ⟨c.strategy, f.2.score, f.1.weight⟩

def GeoPoint.IsPlaceOf (place : GeoPoint) (source : Json) : Prop :=
  ∃ location, source.get? Geo.locationField = some location ∧ ofJson? location = some place

/-- A contribution for the proximity of a place, and none if none counts or the place is unknown. -/
structure IsProximity (geo : Option GeoScorer) (source : Json) (near : List Contribution) :
    Prop where
  located : ∀ g (place : GeoPoint), geo = some g → 0 < g.weight → place.IsPlaceOf source →
    near = [⟨Strategy.geospatial.name,
      .ofFloat (Geo.decay (Geo.distance g.origin place) g.scale g.offset), .ofFloat g.weight⟩]
  unlocated : (∀ g (place : GeoPoint), geo = some g → 0 < g.weight → ¬ place.IsPlaceOf source) →
    near = []

/-- What becomes of the hits for a document. Terms are added from left to right, which matters. -/
structure IsFused (results : List StrategyResult) (geo : Option GeoScorer) (x : CombinedHit) :
    Prop where
  source : ∃ f, (hitsFor results x.id).head? = some f ∧ x.source = f.2.source
  contributions : ∃ given near, x.contributions = given ++ near ∧
    Credited (hitsFor results x.id) given ∧ IsProximity geo x.source near
  total : ∃ c more, x.contributions = c :: more ∧
    x.total = more.foldl (fun sum d => sum + d.score * d.weight) (c.score * c.weight)

/-- Each document found stands here once, after those of a higher score and those of the same score
and a lower id. -/
structure IsRanking (results : List StrategyResult) (geo : Option GeoScorer)
    (ranking : List CombinedHit) : Prop where
  nodup : (ranking.map (·.id)).Nodup
  ids : ∀ id, id ∈ ranking.map (·.id) ↔ ∃ r ∈ results, ∃ h ∈ r.hits, h.id = id
  fused : ∀ x ∈ ranking, IsFused results geo x
  ordered : ranking.Pairwise fun a b =>
    b.total.rank < a.total.rank ∨ a.total = b.total ∧ a.id < b.id

theorem retrieved_cons (r : StrategyResult) (h : Hit) (found : List (StrategyResult × Hit)) :
    retrieved ((r, h) :: found) =
      ⟨r.strategy, h.score, r.weight⟩ :: retrieved (found.filter (·.1.strategy ≠ r.strategy)) := by
  rw [retrieved, List.map_cons, List.eraseDupsBy_cons, retrieved, List.filter_map]
  congr 3
  apply List.filter_congr
  intro f _
  simp

section

variable {found : List (StrategyResult × Hit)} {given given' : List Contribution} {a b : String}

theorem MetBefore.asymm (hab : MetBefore found a b) : ¬ MetBefore found b a := by
  obtain ⟨read, hread, ⟨f, hf, hfa⟩, hnob⟩ := hab
  rintro ⟨read', hread', ⟨g, hg, hgb⟩, hnoa⟩
  rcases List.prefix_or_prefix_of_prefix hread hread' with hle | hle
  · exact hnoa f (hle.subset hf) hfa
  · exact hnob g (hle.subset hg) hgb

/-- Hits that are read besides make no difference to strategies that they are not from. -/
theorem MetBefore.of_filter {p : StrategyResult × Hit → Bool}
    (hab : MetBefore (found.filter p) a b) (hkept : ∀ f, f.1.strategy = b → p f) :
    MetBefore found a b := by
  obtain ⟨read, ⟨rest, hread⟩, ⟨f, hf, hfa⟩, hnob⟩ := hab
  obtain ⟨before, after, rfl, rfl, rfl⟩ := List.filter_eq_append_iff.mp hread.symm
  refine ⟨before, List.prefix_append _ _, ⟨f, List.mem_of_mem_filter hf, hfa⟩, ?_⟩
  intro g hg hgb
  exact hnob g (List.mem_filter.mpr ⟨hg, hkept g hgb⟩) hgb

theorem MetBefore.cons (f : StrategyResult × Hit) (hab : MetBefore found a b)
    (hother : f.1.strategy ≠ b) : MetBefore (f :: found) a b := by
  obtain ⟨read, hread, ⟨g, hg, hga⟩, hnob⟩ := hab
  refine ⟨f :: read, List.cons_prefix_cons.mpr ⟨rfl, hread⟩, ⟨g, List.mem_cons_of_mem _ hg, hga⟩, ?_⟩
  exact List.forall_mem_cons.mpr ⟨hother, hnob⟩

theorem find?_filter_of_imp {α : Type} {p q : α → Bool} (himp : ∀ a, q a → p a) (l : List α) :
    (l.filter p).find? q = l.find? q := by
  rw [List.find?_filter]
  congr 1
  funext a
  rw [Bool.eq_iff_iff, decide_eq_true_iff]
  exact and_iff_right_of_imp (himp a)

namespace Credited

theorem exists_of_mem (hcredited : Credited found given) {c : Contribution} (hc : c ∈ given) :
    ∃ f ∈ found, f.1.strategy = c.strategy := by
  obtain ⟨f, hf, -⟩ := hcredited.first c hc
  exact ⟨f, List.mem_of_find?_eq_some hf, by simpa using List.find?_some hf⟩

/-- A strategy that is met first counts by that hit, and the others by the hits that are not its
own. -/
theorem cons {r : StrategyResult} (h : Hit)
    (hrest : Credited (found.filter (·.1.strategy ≠ r.strategy)) given) :
    Credited ((r, h) :: found) (⟨r.strategy, h.score, r.weight⟩ :: given) := by
  have hother : ∀ c ∈ given, c.strategy ≠ r.strategy := by
    intro c hc
    obtain ⟨f, hf, hfc⟩ := hrest.exists_of_mem hc
    simpa [hfc] using (List.mem_filter.mp hf).2
  have hkept : ∀ c ∈ given, ∀ f : StrategyResult × Hit, f.1.strategy = c.strategy →
      decide (f.1.strategy ≠ r.strategy) := by
    intro c hc f hf
    simpa [hf] using hother c hc
  constructor
  case ordered =>
    refine List.pairwise_cons.mpr ⟨fun c hc => ?_, hrest.ordered.imp_of_mem fun {c d} hc hd hmet => ?_⟩
    · refine ⟨[(r, h)], by simp, ⟨_, List.mem_singleton_self _, rfl⟩, ?_⟩
      intro f hf
      rw [List.mem_singleton.mp hf]
      exact (hother c hc).symm
    · exact (hmet.of_filter (hkept d hd)).cons (r, h) (hother d hd).symm
  case complete =>
    intro f hf
    by_cases hsame : f.1.strategy = r.strategy
    · exact ⟨_, List.mem_cons_self, hsame.symm⟩
    · have hmem : f ∈ found := (List.mem_cons.mp hf).resolve_left fun heq => hsame (heq ▸ rfl)
      obtain ⟨c, hc, hcf⟩ :=
        hrest.complete f (List.mem_filter.mpr ⟨hmem, decide_eq_true hsame⟩)
      exact ⟨c, List.mem_cons_of_mem _ hc, hcf⟩
  case first =>
    intro c hc
    rcases List.mem_cons.mp hc with rfl | hc
    · exact ⟨(r, h), by simp, rfl⟩
    · obtain ⟨f, hf, hcf⟩ := hrest.first c hc
      refine ⟨f, ?_, hcf⟩
      rw [find?_filter_of_imp fun g hg => hkept c hc g (of_decide_eq_true hg)] at hf
      rwa [List.find?_cons_of_neg (by simpa using (hother c hc).symm)]

theorem subset (hcredited : Credited found given) (hcredited' : Credited found given') :
    given ⊆ given' := by
  intro c hc
  obtain ⟨f, hf, hfc⟩ := hcredited.exists_of_mem hc
  obtain ⟨d, hd, hdf⟩ := hcredited'.complete f hf
  obtain ⟨g, hg, hcg⟩ := hcredited.first c hc
  obtain ⟨g', hg', hdg⟩ := hcredited'.first d hd
  have hsame : d.strategy = c.strategy := hdf.trans hfc
  obtain rfl : g = g' := Option.some.inj (hg.symm.trans (hsame ▸ hg'))
  rwa [hcg, ← hsame, ← hdg]

theorem unique (hcredited : Credited found given) (hcredited' : Credited found given') :
    given = given' := by
  have : Std.Irrefl fun c d : Contribution => MetBefore found c.strategy d.strategy :=
    ⟨fun c hcc => hcc.asymm hcc⟩
  have : Std.Antisymm fun c d : Contribution => MetBefore found c.strategy d.strategy :=
    ⟨fun c d hcd hdc => absurd hdc hcd.asymm⟩
  exact hcredited.ordered.eq_of_mem_iff hcredited'.ordered
    fun _ => ⟨fun hc => hcredited.subset hcredited' hc, fun hc => hcredited'.subset hcredited hc⟩

end Credited

theorem credited_retrieved (found : List (StrategyResult × Hit)) :
    Credited found (retrieved found) := by
  induction hlength : found.length using Nat.strongRecOn generalizing found with
  | ind n ih =>
      cases found with
      | nil => exact ⟨List.Pairwise.nil, nofun, nofun⟩
      | cons f found =>
          have hshorter : (found.filter (·.1.strategy ≠ f.1.strategy)).length < n :=
            hlength ▸ Nat.lt_succ_of_le (List.length_filter_le _ _)
          rw [retrieved_cons]
          exact (ih _ hshorter _ rfl).cons f.2

end

section

variable {geo : Option GeoScorer} {source : Json} {near near' : List Contribution}

theorem GeoScorer.decay?_eq_some {g : GeoScorer} {place : GeoPoint} (hplace : place.IsPlaceOf source) :
    g.decay? source = some (Geo.decay (Geo.distance g.origin place) g.scale g.offset) := by
  obtain ⟨location, hlocation, hread⟩ := hplace
  simp [decay?, hlocation, hread]

theorem GeoScorer.decay?_eq_none {g : GeoScorer}
    (hnowhere : ∀ place : GeoPoint, ¬ place.IsPlaceOf source) : g.decay? source = none := by
  cases hlocation : source.get? Geo.locationField with
  | none => simp [decay?, hlocation]
  | some location =>
      cases hread : GeoPoint.ofJson? location with
      | none => simp [decay?, hlocation, hread]
      | some place => exact absurd ⟨location, hlocation, hread⟩ (hnowhere place)

theorem isProximity_proximity (geo : Option GeoScorer) (source : Json) :
    IsProximity geo source (proximity geo source) := by
  constructor
  case located =>
    rintro g place rfl hweight hplace
    simp only [proximity, if_pos hweight, GeoScorer.decay?_eq_some hplace]
    rfl
  case unlocated =>
    intro hunlocated
    cases geo with
    | none => rfl
    | some g =>
        simp only [proximity]
        split_ifs with hweight
        · rw [GeoScorer.decay?_eq_none fun place => hunlocated g place rfl hweight]
          rfl
        · rfl

theorem IsProximity.unique (hnear : IsProximity geo source near)
    (hnear' : IsProximity geo source near') : near = near' := by
  by_cases hlocated : ∃ g, geo = some g ∧ 0 < g.weight ∧ ∃ place : GeoPoint, place.IsPlaceOf source
  · obtain ⟨g, hgeo, hweight, place, hplace⟩ := hlocated
    rw [hnear.located g place hgeo hweight hplace, hnear'.located g place hgeo hweight hplace]
  · have hunlocated : ∀ g (place : GeoPoint), geo = some g → 0 < g.weight →
        ¬ place.IsPlaceOf source := fun g place hgeo hweight hplace =>
      hlocated ⟨g, hgeo, hweight, place, hplace⟩
    rw [hnear.unlocated hunlocated, hnear'.unlocated hunlocated]

end

section

variable {results : List StrategyResult} {geo : Option GeoScorer} {x y : CombinedHit}

theorem IsFused.unique (hx : IsFused results geo x) (hy : IsFused results geo y)
    (hid : x.id = y.id) : x = y := by
  obtain ⟨⟨f, hf, hsource⟩, ⟨given, near, hsum, hgiven, hnear⟩, c, more, hterms, htotal⟩ := hx
  obtain ⟨⟨f', hf', hsource'⟩, ⟨given', near', hsum', hgiven', hnear'⟩, c', more', hterms', htotal'⟩
    := hy
  rw [hid] at hf hgiven
  obtain rfl : f = f' := Option.some.inj (hf.symm.trans hf')
  have hsources : x.source = y.source := hsource.trans hsource'.symm
  obtain rfl : given = given' := hgiven.unique hgiven'
  obtain rfl : near = near' := (hsources ▸ hnear).unique hnear'
  have hcontributions : x.contributions = y.contributions := hsum.trans hsum'.symm
  obtain ⟨rfl, rfl⟩ : c = c' ∧ more = more' :=
    List.cons.inj (hterms.symm.trans (hcontributions.trans hterms'))
  cases x
  cases y
  simp_all

theorem isFused_fuse {id : String} (hfound : hitsFor results id ≠ []) :
    IsFused results geo (fuse geo id (hitsFor results id)) := by
  obtain ⟨⟨r, h⟩, found, hcons⟩ := List.exists_cons_of_ne_nil hfound
  constructor
  case source => exact ⟨(r, h), by simp [hcons], by simp [fuse, hcons]⟩
  case contributions =>
    exact ⟨_, _, rfl, credited_retrieved _, isProximity_proximity geo _⟩
  case total =>
    have hterms : (fuse geo id (hitsFor results id)).contributions =
        ⟨r.strategy, h.score, r.weight⟩ :: (retrieved (found.filter (·.1.strategy ≠ r.strategy))
          ++ proximity geo h.source) := by
      rw [hcons]
      change retrieved ((r, h) :: found) ++ proximity geo h.source = _
      rw [retrieved_cons]
      rfl
    refine ⟨_, _, hterms, ?_⟩
    have htotal : (fuse geo id (hitsFor results id)).total =
      .sum ((fuse geo id (hitsFor results id)).contributions.map Contribution.value) := rfl
    rw [htotal, hterms, List.map_cons, Score.sum_cons, List.foldl_map]
    rfl

theorem isFused_of_mem_combine (hx : x ∈ combine results geo) : IsFused results geo x := by
  obtain ⟨id, hid, rfl⟩ := List.mem_map.mp ((combine_perm results geo).mem_iff.mp hx)
  apply isFused_fuse
  obtain ⟨f, hf, hfid⟩ := List.mem_map.mp (List.mem_eraseDups.mp hid)
  exact List.ne_nil_of_mem (List.mem_filter.mpr ⟨hf, decide_eq_true hfid⟩)

theorem isRanking_combine (results : List StrategyResult) (geo : Option GeoScorer) :
    IsRanking results geo (combine results geo) := by
  constructor
  case nodup => exact nodup_ids_combine results geo
  case ids => exact fun id => mem_ids_combine results geo
  case fused => exact fun x hx => isFused_of_mem_combine hx
  case ordered =>
    refine (pairwise_before (pairwise_combine results geo) (nodup_ids_combine results geo)).imp ?_
    rintro a b (hlt | ⟨hrank, hid⟩)
    · exact .inl hlt
    · exact .inr ⟨Score.rank_injective hrank.symm, hid⟩

namespace IsRanking

variable {ranking ranking' : List CombinedHit}

theorem pairwise_before (hranking : IsRanking results geo ranking) :
    ranking.Pairwise CombinedHit.Before :=
  hranking.ordered.imp fun hab => hab.imp_right fun ⟨htotal, hid⟩ => ⟨htotal ▸ rfl, hid⟩

theorem subset (hranking : IsRanking results geo ranking)
    (hranking' : IsRanking results geo ranking') : ranking ⊆ ranking' := by
  intro x hx
  have hid : x.id ∈ ranking'.map (·.id) :=
    (hranking'.ids x.id).mpr ((hranking.ids x.id).mp (List.mem_map_of_mem hx))
  obtain ⟨y, hy, hyx⟩ := List.mem_map.mp hid
  rwa [← (hranking'.fused y hy).unique (hranking.fused x hx) hyx]

theorem unique (hranking : IsRanking results geo ranking)
    (hranking' : IsRanking results geo ranking') : ranking = ranking' := by
  have : Std.Irrefl CombinedHit.Before := ⟨fun x hxx => hxx.asymm hxx⟩
  have : Std.Antisymm CombinedHit.Before := ⟨fun x y hxy hyx => absurd hyx hxy.asymm⟩
  exact hranking.pairwise_before.eq_of_mem_iff hranking'.pairwise_before
    fun _ => ⟨fun hx => hranking.subset hranking' hx, fun hx => hranking'.subset hranking hx⟩

end IsRanking

end

/-- Fusion gives the one ranking of the documents by the weighted sum of what was found for them. -/
theorem eq_combine_iff_isRanking (results : List StrategyResult) (geo : Option GeoScorer)
    (ranking : List CombinedHit) : ranking = combine results geo ↔ IsRanking results geo ranking := by
  constructor
  · rintro rfl
    exact isRanking_combine results geo
  · intro hranking
    exact hranking.unique (isRanking_combine results geo)

end HybridSearch
