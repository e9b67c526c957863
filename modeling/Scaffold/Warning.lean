import Scaffold.Fault

/-! What is reported while work goes on. -/

namespace Scaffold

inductive Warning where
  | unparsableSource (file : Path)
  | unreadableManifest
  | foreignManifestEntry (manifest : Path) (file : String)
  | orphanKept (path : Path) (refusal : Refusal)
  | finding (file : String) (issue : Issue)
  | collision (file : String) (triggers : List String)
  deriving DecidableEq, Repr

namespace Warning

def message : Warning → String
  | unparsableSource _ => "skipping unparsable source file"
  | unreadableManifest => "ignoring unreadable manifest"
  | foreignManifestEntry _ _ => "ignoring manifest entry outside the output directory"
  | orphanKept path refusal => "failed to remove orphaned file " ++ path.quoted ++ ": " ++ refusal.text
  | finding _ issue => issue.finding.message
  | collision _ _ => "several triggers generate the same file; the last one wins"

/-- The fields of a warning besides its message. -/
def fields : Warning → List (String × String)
  | unparsableSource file => [("file", file.text)]
  | unreadableManifest => []
  | foreignManifestEntry manifest file => [("manifest", manifest.text), ("file", file)]
  | orphanKept _ _ => []
  | finding file issue =>
    [("file", file), ("line", issue.lineLabel), ("severity", issue.finding.severity.label)]
  | collision file triggers => [("file", file), ("triggers", Text.Quoted.quoteList triggers)]

end Warning

end Scaffold
