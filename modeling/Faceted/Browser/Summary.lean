import Faceted.Browser.Basic
import Faceted.Expression.Summary
import Faceted.KeySet.Shown

/-!
# Browsers shown in one line

What diagnostics show of a browser: sizes instead of contents, and facets by their ids.
-/

namespace Faceted

open Faceted.Text

def ErrorPolicy.summary : ErrorPolicy → String
  | .throw => "Throw"
  | .logAndThrow => "LogAndThrow"
  | .log => "Log"

def Settings.summary (s : Settings) : String :=
  shownRecord "Settings"
    [("errors", s.errors.summary), ("text_search_delay_ms", toString s.textSearchDelay),
      ("numeric_interval", Decimal.Layout.exact.render s.numericInterval),
      ("alpha_interval", toString s.alphaInterval), ("base_uri", quoted s.baseUri)]

def ItemSource.summary : ItemSource → String
  | .allItems => "AllItems"
  | .ofTypes types => shownOf "TypeBased" types.shownQuoted
  | .based expression base restricting =>
    shownRecord "Based"
      [("expression", expression.summary), ("base", quoted base),
        ("restricting", booleanText restricting)]

def Collection.summary (c : Collection) : String :=
  shownRecord "Collection"
    [("id", quoted c.id), ("kind", c.source.summary), ("items", toString c.items.size),
      ("restricted_items", toString c.restricted.size),
      ("facets", shownList (c.facets.map fun f => quoted f.id))]

/-- A store has as many listeners as browsers use it. -/
def Store.summary (s : Store) (listeners : Nat) : String :=
  shownRecord "Database"
    [("items", toString s.items.size), ("types", toString s.types.size),
      ("properties", toString s.properties.size), ("subjects", toString s.forward.size),
      ("listeners", toString listeners)]

def Property.summary (p : Property) : String :=
  shownRecord "Property"
    [("id", quoted p.id), ("uri", quoted p.uri), ("value_type", p.valueType.summary),
      ("label", quoted p.label), ("indexed", booleanText p.rangeIndex.isSome)]

def Browser.summary (b : Browser) : String :=
  shownRecord "Exhibit"
    [("database", b.store.summary 1), ("collections", shownList (b.collections.map Collection.summary)),
      ("settings", b.settings.summary)]

/-- The property of the id, if the store knows it. -/
def Browser.propertySummary (b : Browser) (id : String) : String :=
  shownOption Property.summary (b.store.properties.get? id)

end Faceted
