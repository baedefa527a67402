import QueryTaint.Proofs.Campaign.Accord
import QueryTaint.Proofs.Disk
import QueryTaint.Session

namespace QueryTaint.Session

theorem kinds_ne_nil (settings : Settings) : settings.tokenConfig.kinds ≠ [] :=
  List.cons_ne_nil _ _

-- The setup of the queries, which there is if the maximal length is large enough.
def setup (settings : Settings) (maxLength : Nat) (h : 2 ≤ maxLength) : Campaign.Setup Unit :=
  ⟨⟨settings.tokenConfig, kinds_ne_nil settings⟩, .reference settings.dialect .reject, maxLength, h⟩

section Campaign

variable {fuel : Nat} {parameters : Parameters} {settings : Settings} {first last : Incidents}
  {result : Except RunError Summary}

end Campaign

section Disk

variable {F P : Type}

variable [Disk (StateM F)] {content? : F → P → Option String} {names : F → P → Prop}
  {parameters : Parameters}

end Disk

-- There is no folder for the log file.
example :
    (run 0 ⟨1, 2, 1, "logs/run.log"⟩ .default ⟨0, 3, 0⟩ : StateM Folder _) ⟨[]⟩ =
      (some (.error (.logFile "logs/run.log" .noSuchFile), ⟨0, 3, 0⟩), ⟨[]⟩) := by
  rfl

end QueryTaint.Session
