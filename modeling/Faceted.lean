import Faceted.Text.Blank
import Faceted.Text.Case
import Faceted.Text.CodeRange
import Faceted.Text.Unprinted
import Faceted.Text.Percent
import Faceted.Text.Shown
import Faceted.Decimal
import Faceted.Number
import Faceted.Calendar
import Faceted.KeyMap
import Faceted.TwoWayMap
import Faceted.Json
import Faceted.Json.Reader
import Faceted.Failure
import Faceted.ValueType
import Faceted.RangeIndex
import Faceted.Expression.Parser
import Faceted.Store.Ranges
import Faceted.Store.Loading
import Faceted.Store.Namespaces
import Faceted.Expression.Eval
import Faceted.Facet.State
import Faceted.Facet.Entry
import Faceted.Facet.Cloud
import Faceted.Facet.NumericRange
import Faceted.Facet.AlphaRange
import Faceted.Facet.Hierarchical
import Faceted.Facet.TextSearch
import Faceted.Action
import Faceted.Facet.Change
import Faceted.Facet.Config
import Faceted.Browser.Bookmark
import Faceted.Browser.Summary
import Faceted.Main
import Faceted.Proofs.Browser.HandedOver
import Faceted.Proofs.Browser.Bookmarks
import Faceted.Proofs.Expression.RoundTrip
import Faceted.Proofs.Store.Kept
import Faceted.Proofs.Collection.Adding
import Faceted.Proofs.Collection.Clicks
import Faceted.Proofs.Collection.Moments
import Faceted.Proofs.Browser.Clearing
import Faceted.Proofs.Browser.Lost
import Faceted.Proofs.Collection.Offering
import Faceted.Proofs.Browser.Offering
import Faceted.Proofs.Browser.Unnarrowed
import Faceted.Proofs.Browser.Reaching
import Faceted.Proofs.Collection.Reapplying
import Faceted.Proofs.Browser.Standing
import Faceted.Proofs.Browser.Abreast
import Faceted.Proofs.Browser.Importing
import Faceted.Proofs.Store.Reloading
import Faceted.Proofs.Facet.Inner
import Faceted.Proofs.Collection.Peers
import Faceted.Proofs.Collection.Batches
import Faceted.Proofs.Browser.Naming
import Faceted.Proofs.Json.RoundTrip
import Faceted.Proofs.Browser.WrittenStates
import Faceted.Proofs.Hierarchy.Growing
import Faceted.Proofs.Hierarchy.Excluding
import Faceted.Proofs.Hierarchy.Counting
import Faceted.Proofs.Hierarchy.Complete
import Faceted.Proofs.Hierarchy.Visible
import Faceted.Proofs.Facet.TakingOver
import Faceted.Proofs.Facet.Reporting
import Faceted.Proofs.Facet.Tallying
import Faceted.Proofs.Facet.Ordering
import Faceted.Proofs.Expression.Longest
import Faceted.Proofs.Expression.Ranges
import Faceted.Proofs.Expression.Several
import Faceted.Proofs.Expression.Rebinding
import Faceted.Proofs.Store.Anonymous
import Faceted.Proofs.Collection.Moving
import Faceted.Proofs.Collection.Telling
import Faceted.Proofs.Store.Lookups
import Faceted.Proofs.Facet.Searching
import Faceted.Proofs.Facet.Lettering
import Faceted.Proofs.Store.Listing
import Faceted.Proofs.Store.Abbreviating
import Faceted.Proofs.Facet.Typing
import Faceted.Proofs.Hierarchy.Calling
import Faceted.Proofs.Hierarchy.Closing
import Faceted.Proofs.Facet.Weighing
import Faceted.Proofs.Facet.Clicking
import Faceted.Proofs.Browser.Ending
