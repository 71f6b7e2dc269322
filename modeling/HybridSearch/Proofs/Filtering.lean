import HybridSearch.Proofs.Json
import HybridSearch.Proofs.PlainNumber
import HybridSearch.Proofs.Refusal
import HybridSearch.Proofs.Text

/-!
# What filters mean

The conditions of a request reach the backend as filter queries, which are read here as the backend
reads them, from what is sent: a term is a value that a field holds, terms are values of which it
holds one, and a distance is a circle around a place. A document passes all of them exactly when it
is what the request asks for. Codes lose their blanks, their repetitions and then those that were
all blanks, and a list of values with nothing in it is no condition, not one that nothing meets.
-/

namespace HybridSearch

/-- What the filters see of a document. -/
structure Document where
  values : String → Set String
  liesWithin : GeoPoint → Float → Prop

namespace Document

/-- Whether a document passes a filter query, read from its JSON. -/
inductive Satisfies (d : Document) (query : Json) : Prop where
  | term {field value : String} :
      query = .obj [("term", .obj [(field, .str value)])] →
      value ∈ d.values field → Satisfies d query
  | terms {field value : String} {values : List String} :
      query = .obj [("terms", .obj [(field, .arr (values.map .str))])] →
      value ∈ values → value ∈ d.values field → Satisfies d query
  | within {lat lon miles : Float} :
      query = .obj [("geo_distance", .obj [("distance", .str (plainNumber miles ++ "mi")),
        ("location", .obj [("lat", .float lat), ("lon", .float lon)])])] →
      d.liesWithin ⟨lat, lon⟩ miles → Satisfies d query

variable (d : Document)

theorem satisfies_term_iff (field value : String) :
    d.Satisfies (FilterQuery.term field value).json ↔ value ∈ d.values field := by
  have hjson : (FilterQuery.term field value).json =
      .obj [("term", .obj [(field, .str value)])] := rfl
  constructor
  · rw [hjson]
    rintro (⟨hquery, hvalue⟩ | ⟨hquery, -, -⟩ | ⟨hquery, -⟩)
    · obtain ⟨rfl, rfl⟩ : field = _ ∧ value = _ := by simpa using hquery
      exact hvalue
    · simp at hquery
    · simp at hquery
  · exact .term hjson

theorem satisfies_terms_iff (field : String) (values : List String) :
    d.Satisfies (FilterQuery.terms field values).json ↔ ∃ v ∈ values, v ∈ d.values field := by
  have hjson : (FilterQuery.terms field values).json =
      .obj [("terms", .obj [(field, .arr (values.map .str))])] := rfl
  have hstr : Function.Injective Json.str := fun _ _ => Json.str.inj
  constructor
  · rw [hjson]
    rintro (⟨hquery, -⟩ | ⟨hquery, hlisted, hvalue⟩ | ⟨hquery, -⟩)
    · simp at hquery
    · obtain ⟨rfl, hsame⟩ : field = _ ∧ values.map Json.str = _ := by simpa using hquery
      obtain rfl := List.map_injective_iff.mpr hstr hsame
      exact ⟨_, hlisted, hvalue⟩
    · simp at hquery
  · rintro ⟨v, hlisted, hvalue⟩
    exact .terms hjson hlisted hvalue

theorem json_within {place : GeoPoint} (hearth : GeoPoint.IsOnEarth place.lat place.lon)
    (miles : Float) : (FilterQuery.within place miles).json =
      .obj [("geo_distance", .obj [("distance", .str (plainNumber miles ++ "mi")),
        ("location", .obj [("lat", .float place.lat), ("lon", .float place.lon)])])] := by
  obtain ⟨⟨hlat, -⟩, hlon, -⟩ := hearth
  have hplace : place.json = .obj [("lat", .float place.lat), ("lon", .float place.lon)] := by
    rw [GeoPoint.json, Json.number, if_pos hlat, Json.number, if_pos hlon]
    exact Json.object_pair (by decide) _ _
  rw [FilterQuery.json, hplace, Json.object_pair (by decide)]
  rfl

theorem satisfies_within_iff {place : GeoPoint} (hearth : GeoPoint.IsOnEarth place.lat place.lon)
    {miles : Float} (hmiles : miles.isFinite) :
    d.Satisfies (FilterQuery.within place miles).json ↔ d.liesWithin place miles := by
  constructor
  · rw [json_within hearth]
    rintro (⟨hquery, -⟩ | ⟨hquery, -, -⟩ | ⟨hquery, hlies⟩)
    · simp at hquery
    · simp at hquery
    · obtain ⟨htext, hlat, hlon⟩ : plainNumber miles = _ ∧ place.lat = _ ∧ place.lon = _ := by
        simpa using hquery
      -- The text of a distance is that of no other, so the circle is the one that was asked for.
      obtain rfl := (plainNumber_inj hmiles).mp htext
      rwa [← hlat, ← hlon] at hlies
  · exact .within (json_within hearth miles)

/-- Whether a document is what a request asks for, said by the request alone. -/
structure Meets (r : SearchRequest) : Prop where
  distance : ∀ miles, r.distance = some miles →
    ∃ lat lon, r.lat = some lat ∧ r.lon = some lon ∧ d.liesWithin ⟨lat, lon⟩ miles
  allOf : ∀ wanted, r.taxonomy = some wanted → ∀ code ∈ wanted.allOf, ¬ Text.isBlank code →
    Text.trim code ∈ d.values "taxonomies.code"
  anyOf : ∀ wanted, r.taxonomy = some wanted → (∃ code ∈ wanted.anyOf, ¬ Text.isBlank code) →
    ∃ code ∈ wanted.anyOf, ¬ Text.isBlank code ∧ Text.trim code ∈ d.values "taxonomies.code"
  facets : ∀ facet values, (facet, values) ∈ r.facets → values ≠ [] →
    ∃ v ∈ values, v ∈ d.values ("facets." ++ facet)

end Document

namespace SearchRequest

theorem mem_cleanCodes_iff {codes : List String} {code : String} :
    code ∈ cleanCodes codes ↔ ∃ typed ∈ codes, ¬ Text.isBlank typed ∧ Text.trim typed = code := by
  simp only [cleanCodes, List.mem_eraseDups, List.mem_filter, List.mem_map, decide_eq_true_eq]
  constructor
  · rintro ⟨⟨typed, htyped, rfl⟩, hkept⟩
    exact ⟨typed, htyped, mt (Text.trim_eq_empty_iff typed).mpr hkept, rfl⟩
  · rintro ⟨typed, htyped, hfilled, rfl⟩
    exact ⟨⟨typed, htyped, rfl⟩, mt (Text.trim_eq_empty_iff typed).mp hfilled⟩

theorem cleanCodes_ne_nil_iff {codes : List String} :
    cleanCodes codes ≠ [] ↔ ∃ typed ∈ codes, ¬ Text.isBlank typed := by
  constructor
  · intro hany
    obtain ⟨code, hcode⟩ := List.exists_mem_of_ne_nil _ hany
    obtain ⟨typed, htyped, hfilled, -⟩ := mem_cleanCodes_iff.mp hcode
    exact ⟨typed, htyped, hfilled⟩
  · rintro ⟨typed, htyped, hfilled⟩
    exact List.ne_nil_of_mem (mem_cleanCodes_iff.mpr ⟨typed, htyped, hfilled, rfl⟩)

variable {r : SearchRequest} {origin : Option GeoPoint} {circle : Option GeoFilter}

theorem origin_eq_some {place : GeoPoint} (horigin : r.origin = .ok (some place)) :
    r.lat = some place.lat ∧ r.lon = some place.lon ∧
      GeoPoint.IsOnEarth place.lat place.lon := by
  unfold SearchRequest.origin at horigin
  split at horigin
  · rename_i lat lon hlat hlon
    split at horigin
    · rename_i made hmake
      cases horigin
      obtain ⟨hearth, rfl⟩ := GeoPoint.make_eq_ok_iff.mp hmake
      exact ⟨hlat, hlon, hearth⟩
    · cases horigin
  · cases horigin
  · cases horigin

/-- The circle of a request is drawn around its coordinates, as far as its distance. -/
theorem circle_eq (horigin : r.origin = .ok origin) (hcircle : r.circle origin = .ok circle) :
    (r.distance = none ∧ circle = none) ∨ ∃ place miles, r.distance = some miles ∧
      miles.isFinite ∧ r.lat = some place.lat ∧ r.lon = some place.lon ∧
        GeoPoint.IsOnEarth place.lat place.lon ∧ circle = some ⟨place, miles⟩ := by
  unfold SearchRequest.circle at hcircle
  split at hcircle
  · rename_i place miles hdistance
    split_ifs at hcircle with hmiles
    cases hcircle
    rw [Bool.and_eq_true] at hmiles
    obtain ⟨hlat, hlon, hearth⟩ := origin_eq_some horigin
    exact .inr ⟨place, miles, hdistance, hmiles.1, hlat, hlon, hearth, rfl⟩
  · cases hcircle
  · rename_i hdistance
    cases hcircle
    exact .inl ⟨hdistance, rfl⟩

end SearchRequest

namespace Document

variable (d : Document) {r : SearchRequest} {origin : Option GeoPoint} {circle : Option GeoFilter}

theorem satisfies_circle_iff (horigin : r.origin = .ok origin)
    (hcircle : r.circle origin = .ok circle) :
    (∀ g, circle = some g → d.Satisfies (FilterQuery.within g.origin g.miles).json) ↔
      ∀ miles, r.distance = some miles →
        ∃ lat lon, r.lat = some lat ∧ r.lon = some lon ∧ d.liesWithin ⟨lat, lon⟩ miles := by
  obtain ⟨hdistance, rfl⟩ | ⟨place, miles, hdistance, hmiles, hlat, hlon, hearth, rfl⟩ :=
    SearchRequest.circle_eq horigin hcircle
  · simp [hdistance]
  · simp [hdistance, hlat, hlon, d.satisfies_within_iff hearth hmiles]

theorem carries_cleanCodes_iff (codes : List String) (field : String) :
    (∀ code ∈ SearchRequest.cleanCodes codes, code ∈ d.values field) ↔
      ∀ code ∈ codes, ¬ Text.isBlank code → Text.trim code ∈ d.values field := by
  simp only [SearchRequest.mem_cleanCodes_iff]
  constructor
  · intro hcarries code hcode hfilled
    exact hcarries _ ⟨code, hcode, hfilled, rfl⟩
  · rintro hcarries _ ⟨code, hcode, hfilled, rfl⟩
    exact hcarries code hcode hfilled

theorem exists_cleanCodes_iff (codes : List String) (field : String) :
    (SearchRequest.cleanCodes codes ≠ [] →
        ∃ code ∈ SearchRequest.cleanCodes codes, code ∈ d.values field) ↔
      ((∃ code ∈ codes, ¬ Text.isBlank code) →
        ∃ code ∈ codes, ¬ Text.isBlank code ∧ Text.trim code ∈ d.values field) := by
  rw [SearchRequest.cleanCodes_ne_nil_iff]
  refine imp_congr_right fun _ => ?_
  simp only [SearchRequest.mem_cleanCodes_iff]
  constructor
  · rintro ⟨_, ⟨code, hcode, hfilled, rfl⟩, hcarried⟩
    exact ⟨code, hcode, hfilled, hcarried⟩
  · rintro ⟨code, hcode, hfilled, hcarried⟩
    exact ⟨_, ⟨code, hcode, hfilled, rfl⟩, hcarried⟩

theorem satisfies_queries_iff (f : Filters) : (∀ q ∈ f.queries, d.Satisfies q.json) ↔
    (∀ g, f.geo = some g → d.Satisfies (FilterQuery.within g.origin g.miles).json) ∧
      (∀ code ∈ f.allOf, code ∈ d.values "taxonomies.code") ∧
      (f.anyOf ≠ [] → ∃ code ∈ f.anyOf, code ∈ d.values "taxonomies.code") ∧
      ∀ facet values, (facet, values) ∈ f.facets → values ≠ [] →
        ∃ v ∈ values, v ∈ d.values ("facets." ++ facet) := by
  have hany : (∀ q ∈ if f.anyOf.isEmpty then [] else [FilterQuery.terms Filters.codeField f.anyOf],
      d.Satisfies q.json) ↔
        (f.anyOf ≠ [] → ∃ code ∈ f.anyOf, code ∈ d.values "taxonomies.code") := by
    -- Terms without a code would be met by nothing, and so are not sent.
    cases hcodes : f.anyOf with
    | nil => simp
    | cons code codes => simp [satisfies_terms_iff, Filters.codeField]
  have hfacets : (∀ m ∈ f.facets.filter fun m => !m.2.isEmpty,
      d.Satisfies (FilterQuery.terms (Filters.facetField m.1) m.2).json) ↔
        ∀ facet values, (facet, values) ∈ f.facets → values ≠ [] →
          ∃ v ∈ values, v ∈ d.values ("facets." ++ facet) := by
    simp only [List.mem_filter, satisfies_terms_iff, Prod.forall, and_imp, Bool.not_eq_true',
      List.isEmpty_eq_false_iff]
    rfl
  have hgeo : (∀ q ∈ (f.geo.map fun g => FilterQuery.within g.origin g.miles).toList,
      d.Satisfies q.json) ↔
        ∀ g, f.geo = some g → d.Satisfies (FilterQuery.within g.origin g.miles).json := by
    cases f.geo <;> simp
  have hall : (∀ code ∈ f.allOf, d.Satisfies (FilterQuery.term Filters.codeField code).json) ↔
      ∀ code ∈ f.allOf, code ∈ d.values "taxonomies.code" := by
    simp only [satisfies_term_iff, Filters.codeField]
  simp only [Filters.queries, List.forall_mem_append, List.forall_mem_map, and_assoc, hgeo, hall,
    hany, hfacets]

/-- The filters of a request together pass the documents that it asks for, and no others. -/
theorem satisfies_filters_iff (horigin : r.origin = .ok origin)
    (hcircle : r.circle origin = .ok circle) :
    (∀ q ∈ (r.filters circle).queries, d.Satisfies q.json) ↔ d.Meets r := by
  rw [satisfies_queries_iff]
  simp only [SearchRequest.filters, carries_cleanCodes_iff, exists_cleanCodes_iff,
    d.satisfies_circle_iff horigin hcircle]
  constructor
  · rintro ⟨hdistance, hall, hany, hfacets⟩
    refine ⟨hdistance, ?_, ?_, hfacets⟩
    · intro wanted htaxonomy
      rwa [htaxonomy] at hall
    · intro wanted htaxonomy
      rwa [htaxonomy] at hany
  · rintro ⟨hdistance, hall, hany, hfacets⟩
    refine ⟨hdistance, ?_, ?_, hfacets⟩
    · cases htaxonomy : r.taxonomy with
      | none => simp
      | some wanted => exact hall wanted htaxonomy
    · cases htaxonomy : r.taxonomy with
      | none => simp
      | some wanted => exact hany wanted htaxonomy

end Document

/-- A request with a filter of each kind, and some that are empty or blank. -/
def strictRequest : SearchRequest :=
  { SearchRequest.empty with
    lat := some 40
    lon := some (-75)
    distance := some 10
    taxonomy := some ⟨["BD", " BD ", ""], ["LR", " "]⟩
    facets := [("empty", []), ("language", ["es", "en"])] }

/-- A document a mile away, about food and for readers of Spanish. -/
def nearbyDocument : Document where
  values field :=
    if field = "taxonomies.code" then {"BD", "LR"}
    else if field = "facets.language" then {"es"}
    else ∅
  liesWithin place miles := place = ⟨40, -75⟩ ∧ 1 ≤ miles

def distantDocument : Document where
  values := nearbyDocument.values
  liesWithin _ _ := False

theorem nearbyDocument_meets : nearbyDocument.Meets strictRequest where
  distance := by
    rintro miles hdistance
    cases hdistance
    exact ⟨40, -75, rfl, rfl, rfl, by decide +kernel⟩
  allOf := by
    rintro wanted htaxonomy
    cases htaxonomy
    have hcodes : ∀ code ∈ ["BD", " BD ", ""], ¬ Text.isBlank code → Text.trim code = "BD" := by
      decide
    intro code hcode hfilled
    exact .inl (hcodes code hcode hfilled)
  anyOf := by
    rintro wanted htaxonomy -
    cases htaxonomy
    exact ⟨"LR", by decide, by decide, .inr rfl⟩
  facets := by
    intro facet values hfacet hany
    simp only [strictRequest, List.mem_cons, Prod.mk.injEq, List.not_mem_nil, or_false] at hfacet
    obtain ⟨rfl, rfl⟩ | ⟨rfl, rfl⟩ := hfacet
    · exact absurd rfl hany
    · exact ⟨"es", by decide, rfl⟩

theorem satisfies_filters_nearby :
    (∀ q ∈ (strictRequest.filters (some ⟨⟨40, -75⟩, 10⟩)).queries,
      nearbyDocument.Satisfies q.json) ∧
    ¬ ∀ q ∈ (strictRequest.filters (some ⟨⟨40, -75⟩, 10⟩)).queries,
      distantDocument.Satisfies q.json := by
  have hearth : GeoPoint.IsOnEarth 40 (-75) := by
    unfold GeoPoint.IsOnEarth
    decide +kernel
  have horigin : strictRequest.origin = .ok (some ⟨40, -75⟩) := by
    simp [SearchRequest.origin, strictRequest, GeoPoint.make_eq_ok_iff.mpr ⟨hearth, rfl⟩]
  have hmiles : ((10 : Float).isFinite && 0 < (10 : Float)) = true := by decide +kernel
  have hcircle : strictRequest.circle (some ⟨40, -75⟩) = .ok (some ⟨⟨40, -75⟩, 10⟩) := by
    simp [SearchRequest.circle, strictRequest, hmiles]
  constructor
  · exact (nearbyDocument.satisfies_filters_iff horigin hcircle).mpr nearbyDocument_meets
  · rw [distantDocument.satisfies_filters_iff horigin hcircle]
    intro hmeets
    obtain ⟨-, -, -, -, ⟨⟩⟩ := hmeets.distance 10 rfl

end HybridSearch
