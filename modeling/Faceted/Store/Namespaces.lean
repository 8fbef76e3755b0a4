import Faceted.Store.Basic
import Faceted.Store.Uri
import Faceted.TwoWayMap

/-!
# Namespaces

The URIs of the properties share bases. Each distinct base gets a short name, and a property whose
URI has a base is abbreviated by the short name and its name within the base. Short names go to the
bases in ascending order: the letters from `a` to `z`, then `ns26`, `ns27` and so on. They are kept
in a one-to-one map, in which each property finds the short name of its base.
-/

namespace Faceted

/-- A property's URI in its two parts, with the short name of the first. -/
structure QualifiedName where
  base : String
  localName : String
  shortName : String
  deriving DecidableEq

structure Namespaces where
  /-- By property id. -/
  names : KeyMap QualifiedName
  /-- Short names on the left, bases on the right. -/
  shortNames : TwoWayMap

namespace Namespaces

def letters : List Char := "abcdefghijklmnopqrstuvwxyz".toList

/-- The short name of the base at that place among the bases. -/
def shortName (place : Nat) : String :=
  match letters[place]? with
  | some letter => String.ofList [letter]
  | none => "ns" ++ toString place

/-- The properties whose URI has a base, with base and name. -/
def splitUris (s : Store) : List (String × String × String) :=
  s.properties.toList.filterMap fun (id, p) =>
    (Uri.splitNamespace? p.uri).map fun (base, name) => (id, base, name)

/-- The distinct bases in ascending order. -/
def basesOf (s : Store) : List String :=
  (KeySet.ofList ((splitUris s).map fun (_, base, _) => base)).toList

/-- The short names of the bases, each by the place of its base. -/
def shortNamesOf (bases : List String) : TwoWayMap :=
  bases.zipIdx.foldl (fun m (base, place) => m.insert (shortName place) base) ∅

/-- The namespaces of a store's properties. -/
def ofStore (s : Store) : Namespaces :=
  let shortNames := shortNamesOf (basesOf s)
  { names := KeyMap.ofList ((splitUris s).map fun (id, base, name) =>
      (id, ⟨base, name, (shortNames.byRight.get? base).getD ""⟩))
    shortNames }

/-- Bases by short name. -/
def bases (n : Namespaces) : KeyMap String := n.shortNames.byLeft

end Namespaces

end Faceted
