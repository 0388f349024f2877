import Mathlib.Data.Finset.Card
import Proofread.Proofs.HeadingRemarks

set_option autoImplicit false

namespace Proofread.Lint

open Rules (headingKey duplicateReports)

variable (lower : List Char → List Char)

example :
    (duplicateReports Text.lowerCase [] [⟨1, " Alpha", ⟨⟨1, 1, 0⟩, ⟨1, 9, 8⟩⟩⟩,
      ⟨2, "", ⟨⟨2, 1, 9⟩, ⟨2, 3, 11⟩⟩⟩, ⟨2, "ALPHA ", ⟨⟨3, 1, 12⟩, ⟨3, 9, 20⟩⟩⟩,
      ⟨2, "", ⟨⟨4, 1, 21⟩, ⟨4, 3, 23⟩⟩⟩, ⟨3, "alpha", ⟨⟨5, 1, 24⟩, ⟨5, 9, 32⟩⟩⟩]).map
        (Emission.toMessage none "" none) =
      [⟨"", "Do not use headings with similar content (1:1)", none,
          some (.range ⟨⟨3, 1, 12⟩, ⟨3, 9, 20⟩⟩), none, "marklint"⟩,
        ⟨"", "Do not use headings with similar content (1:1)", none,
          some (.range ⟨⟨5, 1, 24⟩, ⟨5, 9, 32⟩⟩), none, "marklint"⟩] := by
  decide +kernel

end Proofread.Lint
