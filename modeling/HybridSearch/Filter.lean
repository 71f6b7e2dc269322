import HybridSearch.Geo

/-!
Conditions that every hit of a request has to meet.
-/

namespace HybridSearch

inductive FilterQuery where
  | within (origin : GeoPoint) (miles : Float)
  | term (field value : String)
  | terms (field : String) (values : List String)

def FilterQuery.json : FilterQuery → Json
  | within origin miles =>
    .object [("geo_distance", .object [("distance", .str s!"{plainNumber miles}mi"),
      (Geo.locationField, origin.json)])]
  | term field value => .object [("term", .object [(field, .str value)])]
  | terms field values => .object [("terms", .object [(field, .strings values)])]

structure GeoFilter where
  origin : GeoPoint
  miles : Float

structure Filters where
  geo : Option GeoFilter
  allOf : List String
  /-- Taxonomy codes of which a hit has to carry one, if there are any. -/
  anyOf : List String
  /-- Values of which a hit has to carry one, by facet. -/
  facets : List (String × List String)

namespace Filters

def codeField : String := "taxonomies.code"

def facetField (facet : String) : String := s!"facets.{facet}"

def queries (f : Filters) : List FilterQuery :=
  (f.geo.map fun g => .within g.origin g.miles).toList ++
  f.allOf.map (.term codeField) ++
  (if f.anyOf.isEmpty then [] else [.terms codeField f.anyOf]) ++
  (f.facets.filter fun m => !m.2.isEmpty).map fun m => .terms (facetField m.1) m.2

end Filters

end HybridSearch
