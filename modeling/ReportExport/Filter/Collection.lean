import ReportExport.Filter.Basic
import ReportExport.QueryString

/-!
# Filter collections

An ordered list of filters with an optional group name. The group names the
query parameter the collection travels under; without one the settings'
default group is used. A collection is written as an array of wire objects,
as JSON text, or as a nested-bracket query string, and read back from each.

Reading an array skips entries that cannot be filters at all (not an object,
or a column or operator that is missing, not a string, or empty); every other
entry must make a filter, or the whole read fails with the first error.
-/

namespace ReportExport

/-- Settings for filter collections: the query parameter used when a collection
has no group of its own. -/
structure FilterSettings where
  defaultGroup : String := "filters"
  deriving Repr, DecidableEq

/-- An ordered list of filters with an optional group. -/
structure FilterCollection where
  filters : List Filter := []
  group : Option String := none
  deriving Inhabited

namespace FilterCollection

/-- Equal filters in the same order and the same group. -/
def beq (a b : FilterCollection) : Bool := a.filters == b.filters && a.group == b.group

instance : BEq FilterCollection := ⟨beq⟩

/-- The collection with a group set. -/
def withGroup (c : FilterCollection) (g : String) : FilterCollection := { c with group := some g }

/-- Appends a filter. -/
def add (c : FilterCollection) (f : Filter) : FilterCollection := { c with filters := c.filters ++ [f] }

/-- Appends filters in order. -/
def addMany (c : FilterCollection) (fs : List Filter) : FilterCollection :=
  { c with filters := c.filters ++ fs }

/-- A collection of the given filters without a group. -/
def ofList (fs : List Filter) : FilterCollection := { filters := fs }

/-- The query parameter: the group, or the default group. -/
def queryParameter (c : FilterCollection) (s : FilterSettings) : String :=
  c.group.getD s.defaultGroup

/-- Number of filters. -/
def size (c : FilterCollection) : Nat := c.filters.length

/-- Whether there are no filters. -/
def isEmpty (c : FilterCollection) : Bool := c.filters.isEmpty

/-- The filter at a position. -/
def get? (c : FilterCollection) (i : Nat) : Option Filter := c.filters[i]?

/-- The filters on one column, in order. -/
def forColumn (c : FilterCollection) (column : String) : List Filter :=
  c.filters.filter (fun f => f.column == column)

/-- Whether some filter is on the column. -/
def hasColumn (c : FilterCollection) (column : String) : Bool :=
  c.filters.any (fun f => f.column == column)

/-- This collection's filters followed by the other's, under this group. -/
def merge (c other : FilterCollection) : FilterCollection :=
  { filters := c.filters ++ other.filters, group := c.group }

/-- The wire objects of the filters. -/
def toArray (c : FilterCollection) : List Json := c.filters.map Filter.toJson

/-- The compact JSON text of the wire objects. -/
def toJsonText (c : FilterCollection) : String := (Json.arr c.toArray).compact

/-- The wire objects under the query parameter, or nothing when empty. -/
def toQueryArray (c : FilterCollection) (s : FilterSettings) : List (String × Json) :=
  if c.isEmpty then [] else [(c.queryParameter s, .arr c.toArray)]

/-- The nested-bracket query string, empty for an empty collection. -/
def toQueryString (c : FilterCollection) (s : FilterSettings) : String :=
  if c.isEmpty then "" else QueryString.build (c.queryParameter s) (.arr c.toArray)

/-- Appends the query string to a URL, with `&` when it already has a query
and `?` otherwise; an empty collection leaves the URL alone. -/
def appendToUrl (c : FilterCollection) (url : String) (s : FilterSettings) : String :=
  let q := c.toQueryString s
  if q.isEmpty then url
  else url ++ (if url.toList.contains '?' then "&" else "?") ++ q

/-- The filter an array entry makes: `none` for an entry that is skipped. -/
def entryFilter? (entry : Json) : Option (Except FilterError Filter) :=
  match entry with
  | .obj ms =>
    match Json.lookup "column" ms, Json.lookup "operator" ms with
    | some (.str column), some (.str operator) =>
      if column.isEmpty || operator.isEmpty then none
      else some (Filter.ofParts column operator ((Json.lookup "value" ms).getD .null))
    | _, _ => none
  | _ => none

/-- Reads a collection from array entries. -/
def ofArray (entries : List Json) (group : Option String) : Except FilterError FilterCollection := do
  let filters ← (entries.filterMap entryFilter?).mapM id
  pure { filters, group }

/-- Reads a collection from JSON text; text that is not an array gives an
empty collection. -/
def ofJsonText (text : String) (group : Option String) : Except FilterError FilterCollection :=
  match JsonText.read text with
  | .ok (.arr entries) => ofArray entries group
  | _ => .ok { group }

/-- Reads the entries under the query parameter; anything but an array there
gives an empty collection. -/
def ofParams (params : List (String × Json)) (group : Option String) (s : FilterSettings) :
    Except FilterError FilterCollection :=
  match Json.lookup (group.getD s.defaultGroup) params with
  | some (.arr entries) => ofArray entries group
  | _ => .ok { group }

/-- Reads a collection from a nested-bracket query string. -/
def ofQueryString (query : String) (group : Option String) (s : FilterSettings) :
    Except FilterError FilterCollection :=
  ofParams (QueryString.parse query) group s

end FilterCollection

end ReportExport
