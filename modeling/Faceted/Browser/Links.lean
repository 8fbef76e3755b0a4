import Faceted.Browser.Operations
import Faceted.Files
import Faceted.Json.Reader

/-!
# Data links

A link is the path of a file that holds a payload. Links are loaded one after the other, so the data
of one can refer to what those before it have declared. A link that cannot be read is a failure like
any other: where the settings only log failures it is left out and the next one is loaded.
-/

namespace Faceted

open Faceted.Action

/-- The payload that a link leads to. -/
def Files.payload (files : Files) (link : String) : Outcome Json :=
  match files link with
  | none => .error (.file link)
  | some file =>
    match Json.parse? file.text with
    | some payload => .ok payload
    | none => .error .json

namespace Browser

/-- Loads what a link leads to and says whether the link could be read. -/
def loadLink (files : Files) (link : String) : Action Browser Bool := do
  match ← guarded none (ofOutcome ((files.payload link).map some)) with
  | none => return false
  | some payload =>
    load payload (some (files.baseUri link))
    return true

/-- Loads the links in their order and counts those that could be read. -/
def loadLinks (files : Files) (links : List String) : Action Browser Nat := do
  let answers ← collect (loadLink files) links
  return answers.count true

end Browser

end Faceted
