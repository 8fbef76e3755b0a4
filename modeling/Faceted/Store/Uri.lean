/-!
# Parts of a URI

The local name of a URI is what stands after its last `#` or `/`, if anything does; otherwise it is
the whole URI. A namespace is cut off at the first `#`, or failing that at the last `/`, as long as
something stands before it.
-/

namespace Faceted.Uri

/-- Splits after the last character that passes the test; the character stays with the front. -/
def splitAfterLast (p : Char → Bool) (cs : List Char) : List Char × List Char :=
  let back := cs.reverse.takeWhile fun c => !p c
  (cs.take (cs.length - back.length), back.reverse)

/-- What stands after the last `#` or `/`, or all of it if nothing does. -/
def localName (uri : String) : String :=
  match splitAfterLast (fun c => c == '#' || c == '/') uri.toList with
  | (_, []) => uri
  | (_, name) => String.ofList name

/-- Splits after the first `#`, the mark at the end of the front, if something stands before it. -/
def splitAtFragment? (cs : List Char) : Option (List Char × List Char) :=
  let front := cs.takeWhile (· != '#')
  match front, cs.drop front.length with
  | _ :: _, mark :: rest => some (front ++ [mark], rest)
  | _, _ => none

/-- Splits after the last `/`, the mark at the end of the front, if something stands before it. -/
def splitAtSlash? (cs : List Char) : Option (List Char × List Char) :=
  match splitAfterLast (· == '/') cs with
  | (front, rest) => if 2 ≤ front.length then some (front, rest) else none

/-- The base of a URI and the name within it, if it has a base. -/
def splitNamespace? (uri : String) : Option (String × String) :=
  match splitAtFragment? uri.toList with
  | some (base, name) => some (String.ofList base, String.ofList name)
  | none =>
    match splitAtSlash? uri.toList with
    | some (base, name) => some (String.ofList base, String.ofList name)
    | none => none

end Faceted.Uri
