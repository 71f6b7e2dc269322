import HybridSearch.Decimal.Literal
import HybridSearch.Json.Basic
import HybridSearch.Text.Basic
import HybridSearch.Weights.Basic

/-!
Places on the earth, the distance between them, and how relevance fades with distance.
-/

namespace HybridSearch

structure GeoPoint where
  lat : Float
  lon : Float
deriving DecidableEq

inductive GeoError where
  | latitude (value : Float)
  | longitude (value : Float)

def GeoError.message : GeoError → String
  | latitude x => s!"latitude {plainNumber x} is outside [-90, 90]"
  | longitude x => s!"longitude {plainNumber x} is outside [-180, 180]"

namespace GeoPoint

def make (lat lon : Float) : Except GeoError GeoPoint :=
  if !(lat.isFinite && -90 ≤ lat && lat ≤ 90) then .error (.latitude lat)
  else if !(lon.isFinite && -180 ≤ lon && lon ≤ 180) then .error (.longitude lon)
  else .ok ⟨lat, lon⟩

def make? (lat lon : Float) : Option GeoPoint := (make lat lon).toOption

def splitComma (cs : List Char) : Option (List Char × List Char) :=
  match cs.dropWhile (· ≠ ',') with
  | [] => none
  | _ :: rest => some (cs.takeWhile (· ≠ ','), rest)

/-- The location of a document: an object, a pair with the longitude first, or a text with the latitude first. -/
def ofJson? : Json → Option GeoPoint
  | .obj members => do
    let lat ← (← members.lookup "lat").float?
    let lon ← (← members.lookup "lon").float?
    make? lat lon
  | .arr [first, second] => do
    let lon ← first.float?
    let lat ← second.float?
    make? lat lon
  | .str s => do
    let (lat, lon) ← splitComma s.toList
    make? (← Decimal.literal? (Text.trimChars lat)) (← Decimal.literal? (Text.trimChars lon))
  | _ => none

def json (p : GeoPoint) : Json := .object [("lat", .number p.lat), ("lon", .number p.lon)]

end GeoPoint

namespace Geo

def earthRadiusMiles : Float := 3958.8

def radiansPerDegree : Float := 3.141592653589793 / 180.0

def radians (degrees : Float) : Float := degrees * radiansPerDegree

def square (x : Float) : Float := x * x

/-- At most one; an undefined number counts as one. -/
def atMostOne (x : Float) : Float := if x < 1 then x else 1

def distance (a b : GeoPoint) : Float :=
  let dlat := radians (b.lat - a.lat)
  let dlon := radians (b.lon - a.lon)
  let h := square (dlat / 2).sin +
    (radians a.lat).cos * (radians b.lat).cos * square (dlon / 2).sin
  2 * earthRadiusMiles * (atMostOne h.sqrt).asin

/-- One within the offset, and beyond it a bell curve of the given scale. -/
def decay (distance scale offset : Float) : Float :=
  if distance ≤ offset then 1
  else
    let d := distance - offset
    (-(d * d) / (2 * scale * scale)).exp

def locationField : String := "location"

end Geo

/-- Scores documents by how near they are to a place. -/
structure GeoScorer where
  origin : GeoPoint
  weight : Float
  scale : Float
  offset : Float

namespace GeoScorer

def ofWeights (origin : GeoPoint) (w : GeospatialWeights) : GeoScorer :=
  ⟨origin, w.weight, w.decayScale, w.decayOffset⟩

def decay? (g : GeoScorer) (source : Json) : Option Float := do
  let place ← GeoPoint.ofJson? (← source.get? Geo.locationField)
  return Geo.decay (Geo.distance g.origin place) g.scale g.offset

end GeoScorer

end HybridSearch
