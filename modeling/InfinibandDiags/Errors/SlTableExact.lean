import InfinibandDiags.Errors.SlTable

/-! When ibqueryerrors stays inside its table of SLs. -/
namespace InfinibandDiags

namespace ErrorOptions
variable (options : ErrorOptions) (pma : Pma) (f : Fabric) (n : NodeRef)

variable {options pma f n}

end ErrorOptions

section Exact
variable (options : ErrorOptions) (pma : Pma) (f : Fabric) (obtainSl : Bool) (scope : ErrorScope)

end Exact
end InfinibandDiags
