import Faceted.KeySet
import Faceted.Text.Shown

/-!
# Sets of keys as texts, and walks through them
-/

namespace Faceted.KeySet

open Faceted.Text

/-- The keys in ascending order between braces. -/
def shown (s : KeySet) : String := shownSet s.toList

/-- The keys in quotes, in ascending order between braces. -/
def shownQuoted (s : KeySet) : String := shownSet (s.toList.map quoted)

/-- Shows the keys of a list to a visitor, up to the one at which it stops. -/
def visitKeys {σ : Type} (visitor : σ → String → σ × Bool) : σ → List String → σ
  | state, [] => state
  | state, k :: ks =>
    let (state, stop) := visitor state k
    if stop then state else visitKeys visitor state ks

/-- Shows the keys to a visitor in ascending order, up to the one at which it stops. -/
def visit {σ : Type} (s : KeySet) (visitor : σ → String → σ × Bool) (start : σ) : σ :=
  visitKeys visitor start s.toList

end Faceted.KeySet
