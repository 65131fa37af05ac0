import FlowchartMerge.Document.Selection
import FlowchartMerge.Comparison.Merge

/-!
# Comparing two versions of a document

The chosen blocks of both versions are compared like bare diagram texts.
-/

set_option autoImplicit false

namespace FlowchartMerge

def Versions.merge (s : Settings) (v : Versions) : Text := FlowchartMerge.merge s v.old v.new

def mergeDocuments (s : Settings) (sel : Selector) (old new : Text) :
    Except SelectionError Text :=
  (sel.choose old new).map (Versions.merge s)

end FlowchartMerge
