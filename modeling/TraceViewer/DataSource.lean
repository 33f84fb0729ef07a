import TraceViewer.Fetch

/-!
# Data sources

A data source answers requests about one or more runs.  The totals that it reports
for a run may only grow.  A request for a page is answered with the items of the
range that exist, together with the total at that time.
-/

namespace TraceViewer

/-- What can be asked of a data source. -/
class DataSource (Source : Type) where
  /-- A name for people. -/
  name : Source → String
  /-- The runs. -/
  listRuns : Source → Except TransportError RunListing
  /-- The answer to a request within a run. -/
  fetch : Source → RunId → Request → Except TransportError Reply

end TraceViewer
