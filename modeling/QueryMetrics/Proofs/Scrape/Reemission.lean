import QueryMetrics.Proofs.Scrape.Interval

/-!
# Samples that are given again

A definition that is not due gives the samples of an earlier run. What is remembered is kept under
the identity of the definition, and identities can be shared: by definitions that differ in their
labels or columns, and by those before and after a change of their file. So the earlier run is the
latest success under the identity, whichever definition it was made for (`TaskRun.Reemits`), and it
need not be one of the definition itself (`TaskRun.ReemitsOwn`).
-/

namespace QueryMetrics

open QueryMetrics.Action

namespace TaskRun

end TaskRun

namespace Exporter

variable {δ : Type}

end Exporter

end QueryMetrics
