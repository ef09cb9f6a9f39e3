import SqlSurvey.Proofs.PooledRuns

/-! # How a run ends

A run over placed trees refuses its root, stops at a name that is too long, stops at a file that cannot be read, or
returns a report; none of the records that it makes is ever refused. This does not depend on the number of workers. -/
namespace SqlSurvey

namespace Survey

variable {survey : Survey}

/-- A link whose target no entry can be named after. -/
def longLink : Survey :=
  { sample with workspace := ⟨.directory [("x.cs", .link (List.replicate 256 (.char 'n')))], []⟩ }

set_option maxRecDepth 4096 in
/-- A run that skips what it cannot read still stops at a link to a name that is too long. -/
theorem longLink_has_no_report : longLink.errorMode = .skip ∧
    (longLink.run {}).2 = .error (.collect (.file (.system .nameTooLong "/x.cs"))) := ⟨rfl, rfl⟩

end Survey
end SqlSurvey
