/-!
# Kinds of entities
-/

namespace Gazetteer

/-- What an entity of an atlas can be. -/
inductive Kind where
  | point
  | path
  | polygon
  | multiGeometry
  | placemark
  | folder
  deriving DecidableEq, Repr

namespace Kind

def all : List Kind := [point, path, polygon, multiGeometry, placemark, folder]

/-- The name of a kind, in fields and messages. -/
def name : Kind → String
  | point => "Point"
  | path => "Path"
  | polygon => "Polygon"
  | multiGeometry => "MultiGeometry"
  | placemark => "Placemark"
  | folder => "Folder"

/-- Whether entities of the kind can be the geometry of a placemark or a member of an aggregate. -/
def isGeometry : Kind → Bool
  | point | path | polygon | multiGeometry => true
  | placemark | folder => false

end Kind

end Gazetteer
