import CoverageQuery.QueryError

/-!
# Output formats

The formats in which a service can encode a result, with their media types.
-/

namespace CoverageQuery

inductive OutputFormat where
  | png | jpeg | jpg | tiff | gtiff | jp2 | netcdf | csv | json | gml
deriving DecidableEq, Repr

namespace OutputFormat

def all : List OutputFormat := [png, jpeg, jpg, tiff, gtiff, jp2, netcdf, csv, json, gml]

def name : OutputFormat → String
  | png => "png"
  | jpeg => "jpeg"
  | jpg => "jpg"
  | tiff => "tiff"
  | gtiff => "gtiff"
  | jp2 => "jp2"
  | netcdf => "netcdf"
  | csv => "csv"
  | json => "json"
  | gml => "gml"

def mediaType : OutputFormat → String
  | png => "image/png"
  | jpeg | jpg => "image/jpeg"
  | tiff | gtiff => "image/tiff"
  | jp2 => "image/jp2"
  | netcdf => "application/netcdf"
  | csv => "text/csv"
  | json => "application/json"
  | gml => "application/gml+xml"

def ofName? (name : String) : Option OutputFormat := all.find? (·.name == name)

def known (name : String) : Except QueryError OutputFormat :=
  match ofName? name with
  | some format => .ok format
  | none => .error (.unknownFormat name)

end OutputFormat

end CoverageQuery
