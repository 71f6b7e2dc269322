import HybridSearch.Proofs.Batch
import HybridSearch.Proofs.Bounds
import HybridSearch.Proofs.WeightChange

/-!
# When a search fails

A search fails for a fault of the request, which is found before anything outside is asked, or
because the backend has no answer to any of the clauses. What counts as a fault is said here by the
request alone, without the checks that find it.
-/

namespace HybridSearch

def GeoPoint.IsOnEarth (lat lon : Float) : Prop :=
  (lat.isFinite ∧ -90 ≤ lat ∧ lat ≤ 90) ∧ lon.isFinite ∧ -180 ≤ lon ∧ lon ≤ 180

theorem GeoPoint.make_eq_ok_iff {lat lon : Float} {place : GeoPoint} :
    make lat lon = .ok place ↔ IsOnEarth lat lon ∧ place = ⟨lat, lon⟩ := by
  have hlat : (lat.isFinite && -90 ≤ lat && lat ≤ 90) = true ↔
      lat.isFinite ∧ -90 ≤ lat ∧ lat ≤ 90 := by simp [and_assoc]
  have hlon : (lon.isFinite && -180 ≤ lon && lon ≤ 180) = true ↔
      lon.isFinite ∧ -180 ≤ lon ∧ lon ≤ 180 := by simp [and_assoc]
  rw [make, IsOnEarth, ← hlat, ← hlon]
  cases lat.isFinite && -90 ≤ lat && lat ≤ 90
  · simp
  · cases lon.isFinite && -180 ≤ lon && lon ≤ 180
    · simp
    · simp [eq_comm]

namespace Cursor

def IsScore (j : Json) : Prop := ∃ x, j.float? = some x ∧ x.isFinite

def IsId (j : Json) : Prop := (∃ s, j = .str s ∧ s ≠ "") ∨ j.numberChars?.isSome

/-- A value of the form of a cursor: a score and an id, and perhaps a fingerprint or its absence. -/
inductive IsWritten : Json → Prop where
  | pair {score id : Json} : IsScore score → IsId id → IsWritten (.arr [score, id])
  | triple {score id fingerprint : Json} : IsScore score → IsId id →
      fingerprint = .null ∨ (∃ s, fingerprint = .str s) → IsWritten (.arr [score, id, fingerprint])

theorem isSome_score?_iff {j : Json} : (score? j).isSome ↔ IsScore j := by
  unfold score? IsScore
  cases j.float? with
  | none => simp
  | some x => by_cases hfinite : x.isFinite <;> simp [hfinite]

theorem isSome_id?_iff {j : Json} : (id? j).isSome ↔ IsId j := by
  unfold IsId
  cases j with
  | str s => by_cases hempty : s = "" <;> simp [id?, hempty, Json.numberChars?]
  | _ => simp [id?]

theorem isSome_fingerprint?_iff {j : Json} :
    (fingerprint? (some j)).isSome ↔ j = .null ∨ ∃ s, j = .str s := by
  cases j <;> simp [fingerprint?]

theorem fingerprint?_eq_some_iff {j : Json} {s : String} :
    fingerprint? (some j) = some (some s) ↔ j = .str s := by
  cases j <;> simp [fingerprint?]

theorem decodeParts_eq_ok_iff {score id : Json} {fingerprint : Option Json} {c : Cursor} :
    decodeParts score id fingerprint = .ok c ↔
      score? score = some c.score ∧ id? id = some c.id ∧
        fingerprint? fingerprint = some c.fingerprint := by
  obtain ⟨s, i, f⟩ := c
  unfold decodeParts
  split <;> simp_all

theorem exists_decodeParts_iff {score id : Json} {fingerprint : Option Json} :
    (∃ c, decodeParts score id fingerprint = .ok c) ↔
      IsScore score ∧ IsId id ∧ (fingerprint? fingerprint).isSome := by
  rw [← isSome_score?_iff, ← isSome_id?_iff]
  simp only [decodeParts_eq_ok_iff, Option.isSome_iff_exists]
  constructor
  · rintro ⟨c, hscore, hid, hfingerprint⟩
    exact ⟨⟨_, hscore⟩, ⟨_, hid⟩, ⟨_, hfingerprint⟩⟩
  · rintro ⟨⟨s, hscore⟩, ⟨i, hid⟩, ⟨f, hfingerprint⟩⟩
    exact ⟨⟨s, i, f⟩, hscore, hid, hfingerprint⟩

theorem exists_decode_iff {j : Json} : (∃ c, decode j = .ok c) ↔ IsWritten j := by
  constructor
  · rintro ⟨c, hdecode⟩
    unfold decode at hdecode
    split at hdecode
    · obtain ⟨hscore, hid, -⟩ := exists_decodeParts_iff.mp ⟨c, hdecode⟩
      exact .pair hscore hid
    · obtain ⟨hscore, hid, hfingerprint⟩ := exists_decodeParts_iff.mp ⟨c, hdecode⟩
      exact .triple hscore hid (isSome_fingerprint?_iff.mp hfingerprint)
    · cases hdecode
    · cases hdecode
  · rintro (⟨hscore, hid⟩ | ⟨hscore, hid, hfingerprint⟩)
    · exact exists_decodeParts_iff.mpr ⟨hscore, hid, rfl⟩
    · exact exists_decodeParts_iff.mpr ⟨hscore, hid, isSome_fingerprint?_iff.mpr hfingerprint⟩

/-- A cursor that is read carries the fingerprint that stands in its third place. -/
theorem decode_fingerprint {j : Json} {c : Cursor} (hdecode : decode j = .ok c) {fp : String} :
    c.fingerprint = some fp ↔ ∃ score id, j = .arr [score, id, .str fp] := by
  unfold decode at hdecode
  split at hdecode
  · obtain ⟨-, -, hfingerprint⟩ := decodeParts_eq_ok_iff.mp hdecode
    rw [← Option.some.inj hfingerprint]
    simp
  · obtain ⟨-, -, hfingerprint⟩ := decodeParts_eq_ok_iff.mp hdecode
    rw [← Option.some_inj, ← hfingerprint, fingerprint?_eq_some_iff]
    simp
  · cases hdecode
  · cases hdecode

end Cursor

namespace SearchRequest

/-- What a request changes about the weights. -/
def changes (r : SearchRequest) : WeightOverride := requestOverride r.flatWeights r.customWeights

/-- The weights of a request, in bounds or not. -/
def layered (w : Weights) (r : SearchRequest) : Weights := r.changes.apply w

/-- The faults of a request under a snapshot of the weights. -/
inductive IsFaulty (w : Weights) (r : SearchRequest) : Prop where
  | language : Index.isLanguage (Text.lowercase (Text.trim r.lang)) = false → IsFaulty w r
  | coordinatesApart : r.lat.isSome ≠ r.lon.isSome → IsFaulty w r
  | place {lat lon : Float} : r.lat = some lat → r.lon = some lon →
      ¬ GeoPoint.IsOnEarth lat lon → IsFaulty w r
  | distanceWithoutPlace : r.distance.isSome → r.lat.isNone ∨ r.lon.isNone → IsFaulty w r
  | distance {miles : Float} : r.distance = some miles → ¬ (miles.isFinite ∧ 0 < miles) →
      IsFaulty w r
  | cursor {j : Json} : r.searchAfter = some j → ¬ Cursor.IsWritten j → IsFaulty w r
  | weights {f : WeightField} : r.changes.isEmpty = false →
      f.admits ((r.layered w).value f) = false → IsFaulty w r
  | staleCursor {score id : Json} {fingerprint : String} :
      r.searchAfter = some (.arr [score, id, .str fingerprint]) →
      fingerprint ≠ (r.layered w).fingerprint → IsFaulty w r

variable {w w' : Weights} {r : SearchRequest}

theorem exists_origin_iff : (∃ origin, r.origin = .ok origin) ↔ r.lat.isSome = r.lon.isSome ∧
    ∀ lat lon, r.lat = some lat → r.lon = some lon → GeoPoint.IsOnEarth lat lon := by
  unfold origin
  cases r.lat with
  | none => cases r.lon <;> simp
  | some lat =>
      cases r.lon with
      | none => simp
      | some lon =>
          cases hmake : GeoPoint.make lat lon with
          | error cause =>
              have hout : ¬ GeoPoint.IsOnEarth lat lon := by
                intro hearth
                cases hmake.symm.trans (GeoPoint.make_eq_ok_iff.mpr ⟨hearth, rfl⟩)
              simpa [hmake] using hout
          | ok place => simpa [hmake] using (GeoPoint.make_eq_ok_iff.mp hmake).1

theorem isSome_of_origin {origin : Option GeoPoint} (horigin : r.origin = .ok origin) :
    origin.isSome = (r.lat.isSome && r.lon.isSome) := by
  unfold SearchRequest.origin at horigin
  split at horigin
  · split at horigin
    · cases horigin
      simp [*]
    · cases horigin
  · cases horigin
    simp [*]
  · cases horigin

theorem exists_circle_iff {origin : Option GeoPoint} :
    (∃ circle, r.circle origin = .ok circle) ↔
      ∀ miles, r.distance = some miles → origin.isSome ∧ miles.isFinite ∧ 0 < miles := by
  unfold circle
  cases r.distance with
  | none => simp
  | some miles =>
      cases origin with
      | none => simp
      | some place => by_cases hmiles : miles.isFinite ∧ 0 < miles <;> simp [hmiles]

theorem cursor_eq_ok_iff {cursor : Option Cursor} : r.cursor = .ok cursor ↔
    (r.searchAfter = none ∧ cursor = none) ∨
      ∃ j c, r.searchAfter = some j ∧ Cursor.decode j = .ok c ∧ cursor = some c := by
  unfold SearchRequest.cursor
  cases r.searchAfter with
  | none => simp [eq_comm]
  | some j => cases hdecode : Cursor.decode j <;> simp [hdecode, eq_comm]

theorem exists_cursor_iff : (∃ cursor, r.cursor = .ok cursor) ↔
    ∀ j, r.searchAfter = some j → Cursor.IsWritten j := by
  simp only [cursor_eq_ok_iff, ← Cursor.exists_decode_iff]
  cases r.searchAfter <;> simp

/-- Of the cursors that can be read, those are stale that carry another fingerprint. -/
theorem isStale_iff {cursor : Option Cursor} (hcursor : r.cursor = .ok cursor)
    {current : String} : cursor.any (·.isStale current) ↔ ∃ score id fingerprint,
      r.searchAfter = some (.arr [score, id, .str fingerprint]) ∧ fingerprint ≠ current := by
  obtain ⟨hnone, rfl⟩ | ⟨j, c, hsome, hdecode, rfl⟩ := cursor_eq_ok_iff.mp hcursor
  · simp [hnone]
  · simp only [Option.any_some, Cursor.isStale, Option.any_eq_true, hsome, Option.some_inj,
      decide_eq_true_eq, Cursor.decode_fingerprint hdecode]
    constructor
    · rintro ⟨fingerprint, ⟨score, id, rfl⟩, hother⟩
      exact ⟨score, id, fingerprint, rfl, hother⟩
    · rintro ⟨score, id, fingerprint, rfl, hother⟩
      exact ⟨fingerprint, ⟨score, id, rfl⟩, hother⟩

theorem weights_eq_ok_iff : r.weights w = .ok w' ↔
    (r.changes.isEmpty ∨ (r.layered w).isValid) ∧ w' = r.layered w := by
  have hresolve : r.weights w = .ok w' ↔
      w.forRequest r.flatWeights r.customWeights = .ok w' := by
    unfold SearchRequest.weights
    cases w.forRequest r.flatWeights r.customWeights <;> simp
  exact hresolve.trans Weights.forRequest_eq_ok_iff

theorem isFaulty_of_isValid (hvalid : w.isValid) {f : WeightField}
    (hout : f.admits ((r.layered w).value f) = false) : r.IsFaulty w := by
  refine .weights (Bool.eq_false_iff.mpr ?_) hout
  intro hempty
  rw [layered, WeightOverride.apply_of_isEmpty hempty, Weights.isValid_iff.mp hvalid] at hout
  cases hout

end SearchRequest

theorem Index.exists_name_iff {base lang : String} : (∃ index, name base lang = .ok index) ↔
    isLanguage (Text.lowercase (Text.trim lang)) := by
  simp only [name]
  by_cases hlang : isLanguage (Text.lowercase (Text.trim lang)) <;> simp [hlang]

namespace Plan

variable {indexBase : String} {w : Weights} {r : SearchRequest}

theorem not_isFaulty_of_ofRequest {plan : Plan} (hplan : ofRequest indexBase w r = .ok plan) :
    ¬ r.IsFaulty w := by
  intro hfaulty
  obtain ⟨hindex, horigin, ⟨circle, hcircle, -⟩, hcursor, hweights, hfresh⟩ :=
    ofRequest_eq_ok_iff.mp hplan
  obtain ⟨htogether, hearth⟩ := SearchRequest.exists_origin_iff.mp ⟨_, horigin⟩
  have hdistance := SearchRequest.exists_circle_iff.mp ⟨_, hcircle⟩
  obtain ⟨hbounds, hlayered⟩ := SearchRequest.weights_eq_ok_iff.mp hweights
  cases hfaulty with
  | language hlang =>
      rw [Index.exists_name_iff.mp ⟨_, hindex⟩] at hlang
      cases hlang
  | coordinatesApart hapart => exact hapart htogether
  | place hlat hlon hout => exact hout (hearth _ _ hlat hlon)
  | distanceWithoutPlace hsome hnone =>
      obtain ⟨miles, hmiles⟩ := Option.isSome_iff_exists.mp hsome
      have hplace := (hdistance miles hmiles).1
      rw [SearchRequest.isSome_of_origin horigin, Bool.and_eq_true] at hplace
      simp [Option.isSome_iff_ne_none.mp hplace.1, Option.isSome_iff_ne_none.mp hplace.2] at hnone
  | distance hmiles hout => exact hout (hdistance _ hmiles).2
  | cursor hj hout => exact hout (SearchRequest.exists_cursor_iff.mp ⟨_, hcursor⟩ _ hj)
  | weights hchanged hout =>
      rw [hchanged, Weights.isValid_iff] at hbounds
      rw [hbounds.resolve_left Bool.false_ne_true] at hout
      cases hout
  | staleCursor hj hother =>
      rw [hlayered, (SearchRequest.isStale_iff hcursor).mpr ⟨_, _, _, hj, hother⟩] at hfresh
      cases hfresh

theorem exists_ofRequest_of_not_isFaulty (hsound : ¬ r.IsFaulty w) :
    ∃ plan, ofRequest indexBase w r = .ok plan := by
  obtain ⟨index, hindex⟩ : ∃ index, Index.name indexBase r.lang = .ok index := by
    rw [Index.exists_name_iff]
    by_contra hlang
    exact hsound (.language (Bool.eq_false_iff.mpr hlang))
  obtain ⟨origin, horigin⟩ : ∃ origin, r.origin = .ok origin := by
    rw [SearchRequest.exists_origin_iff]
    constructor
    · by_contra hapart
      exact hsound (.coordinatesApart hapart)
    · intro lat lon hlat hlon
      by_contra hout
      exact hsound (.place hlat hlon hout)
  obtain ⟨circle, hcircle⟩ : ∃ circle, r.circle origin = .ok circle := by
    rw [SearchRequest.exists_circle_iff, SearchRequest.isSome_of_origin horigin]
    intro miles hmiles
    constructor
    · by_contra hnone
      have hmissing : r.lat.isNone ∨ r.lon.isNone := by
        cases hlat : r.lat <;> cases hlon : r.lon <;> simp_all
      exact hsound (.distanceWithoutPlace (by simp [hmiles]) hmissing)
    · by_contra hout
      exact hsound (.distance hmiles hout)
  obtain ⟨cursor, hcursor⟩ : ∃ cursor, r.cursor = .ok cursor := by
    rw [SearchRequest.exists_cursor_iff]
    intro j hj
    by_contra hout
    exact hsound (.cursor hj hout)
  have hweights : r.weights w = .ok (r.layered w) := by
    rw [SearchRequest.weights_eq_ok_iff, Weights.isValid_iff]
    refine ⟨?_, rfl⟩
    by_contra hout
    rw [not_or, not_forall] at hout
    obtain ⟨hchanged, f, hadmits⟩ := hout
    exact hsound (.weights (Bool.eq_false_iff.mpr hchanged) (Bool.eq_false_iff.mpr hadmits))
  have hfresh : cursor.any (·.isStale (r.layered w).fingerprint) = false := by
    rw [Bool.eq_false_iff]
    intro hstale
    obtain ⟨score, id, fingerprint, hj, hother⟩ := (SearchRequest.isStale_iff hcursor).mp hstale
    exact hsound (.staleCursor hj hother)
  exact ⟨⟨index, r.filters circle, origin, cursor, r.layered w⟩, ofRequest_eq_ok_iff.mpr
    ⟨hindex, horigin, ⟨circle, hcircle, rfl⟩, hcursor, hweights, hfresh⟩⟩

end Plan

namespace Batch

variable {backend : Backend} {index : String} {clauses : List Clause}

/-- Some clauses are sent, and the call fails or has no answer to any of them. Answers beyond the
clauses do not count. -/
def Fails (backend : Backend) (index : String) (clauses : List Clause) : Prop :=
  clauses ≠ [] ∧ ((∃ reason, backend index (clauses.map (·.body)) = .error reason) ∨
    ∃ answers, backend index (clauses.map (·.body)) = .ok answers ∧
      ∀ answer ∈ answers.take clauses.length, answer.error.isSome)

theorem exists_execute_error_iff :
    (∃ cause, (execute backend index clauses).value = .error cause) ↔
      Fails backend index clauses := by
  unfold execute Fails
  by_cases hempty : clauses = []
  · simp [hempty]
  · rw [if_neg (by simpa using hempty)]
    cases hbackend : backend index (clauses.map (·.body)) with
    | error reason => simp [judge, hempty, hbackend]
    | ok answers =>
        simp only [judge, hbackend, Except.ok.injEq, exists_eq_left', ← all_refused_iff]
        by_cases hall : (clauses.zipWith label answers).all (·.error.isSome)
        · simp [hall, hempty]
        · simp [hall]

end Batch

namespace Engine

/-- Whether the backend leaves a sound request without an answer. -/
def IsUnanswered (e : Engine) (w : Weights) (r : SearchRequest) : Prop :=
  ∃ plan, Plan.ofRequest e.indexBase w r = .ok plan ∧
    Batch.Fails e.backend plan.index (e.clauses r plan)

theorem search_cases (e : Engine) (w : Weights) (r : SearchRequest) :
    (r.IsFaulty w ∧ ∃ cause, e.search w r = pure (.error (.invalid cause))) ∨
    (¬ r.IsFaulty w ∧ e.IsUnanswered w r ∧
      ∃ cause, (e.search w r).value = .error (.backend cause)) ∨
    (¬ r.IsFaulty w ∧ ¬ e.IsUnanswered w r ∧ ∃ p, (e.search w r).value = .ok p) := by
  cases hplan : Plan.ofRequest e.indexBase w r with
  | error cause =>
      left
      refine ⟨?_, cause, e.search_of_invalid hplan⟩
      by_contra hsound
      obtain ⟨plan, hok⟩ : ∃ plan, Plan.ofRequest e.indexBase w r = .ok plan :=
        Plan.exists_ofRequest_of_not_isFaulty hsound
      cases hplan.symm.trans hok
  | ok plan =>
      right
      have hsound := Plan.not_isFaulty_of_ofRequest hplan
      have hunanswered : e.IsUnanswered w r ↔ ∃ cause, e.retrieve r plan = .error cause := by
        rw [retrieve_eq, Batch.exists_execute_error_iff]
        simp [IsUnanswered, hplan]
      rw [hunanswered, e.search_of_plan hplan]
      cases hfound : e.retrieve r plan with
      | error cause => exact .inl ⟨hsound, ⟨cause, rfl⟩, cause, rfl⟩
      | ok found => exact .inr ⟨hsound, by simp, _, rfl⟩

/-- A search is refused for a fault of the request, before anyone is called, fails for want of an
answer of the backend, and fails for no other reason. Weights out of bounds are a fault if the
request changes any, so under a snapshot in bounds they always are. -/
theorem search_outcome (e : Engine) (w : Weights) (r : SearchRequest) :
    ((∃ cause, (e.search w r).value = .error (.invalid cause)) ↔ r.IsFaulty w) ∧
    (r.IsFaulty w → (e.search w r).calls = []) ∧
    (w.isValid → ∀ f : WeightField, f.admits ((r.layered w).value f) = false → r.IsFaulty w) ∧
    ((∃ cause, (e.search w r).value = .error (.backend cause)) ↔
      ¬ r.IsFaulty w ∧ e.IsUnanswered w r) ∧
    ((∃ p, (e.search w r).value = .ok p) ↔ ¬ r.IsFaulty w ∧ ¬ e.IsUnanswered w r) ∧
    ∀ reason, (e.search w r).value ≠ .error (.internal reason) := by
  have hbounds (hvalid : w.isValid) (f : WeightField)
      (hout : f.admits ((r.layered w).value f) = false) : r.IsFaulty w :=
    SearchRequest.isFaulty_of_isValid hvalid hout
  obtain ⟨hfaulty, cause, hsearch⟩ | ⟨hsound, hlost, cause, hsearch⟩ |
      ⟨hsound, hlost, p, hsearch⟩ := e.search_cases w r
  · simp [hsearch, hfaulty]
  · simpa [hsearch, hsound, hlost] using hbounds
  · simpa [hsearch, hsound, hlost] using hbounds

/-- A snapshot out of bounds is served by, as long as the request changes nothing about it. -/
theorem search_of_unchecked_snapshot :
    WeightField.keywordSearch.admits
        ((SearchRequest.empty.layered (Session.keywordsAt 20)).value .keywordSearch) = false ∧
      ∃ p, ((ofHits Walk.threeHits).search (Session.keywordsAt 20) .empty).value = .ok p := by
  refine ⟨by decide +kernel, ?_⟩
  have hplan : Plan.ofRequest "resources" (Session.keywordsAt 20) .empty
      = .ok ⟨"resources_en", ⟨none, [], [], []⟩, none, none, Session.keywordsAt 20⟩ := rfl
  have hfound : (ofHits Walk.threeHits).retrieve .empty
      ⟨"resources_en", ⟨none, [], [], []⟩, none, none, Session.keywordsAt 20⟩
      = .ok [Walk.threeResult] := rfl
  exact ⟨_, (ofHits Walk.threeHits).search_eq_ok_iff.mpr ⟨_, _, hplan, hfound, rfl⟩⟩

end Engine

end HybridSearch
