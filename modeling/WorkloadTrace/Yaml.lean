import WorkloadTrace.Yaml.Datum

/-!
# Reading YAML

The datum that a YAML document denotes. The text is cut into tokens, the tokens describe a tree, and
the tree denotes the datum. A scalar in quotes is a text; a scalar without quotes is what its form
says.
-/

namespace WorkloadTrace.Yaml

/-- The datum of a document. -/
def read (s : Text) : Except Refusal Datum := do
  let n ← Node.ofTokens (tokens s)
  (Datum.ofNode n.spread).mapError Fault.refusal

end WorkloadTrace.Yaml
