import QueryTaint.Proofs.Campaign.Counters
import QueryTaint.Proofs.Campaign.Course

namespace QueryTaint

namespace Campaign

variable {σ : Type} [Source σ] {fuel : Nat}

section Course

variable {μ : Type} {setup : Setup μ} {first world after : World σ μ}
  {before candidates : List Text} {iterations : List Iteration}

end Course

section Reference

variable {setup : Setup Unit} {world after : World σ Unit}

end Reference

end Campaign

end QueryTaint
