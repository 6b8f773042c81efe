import Workbench.Dev.Wire
import Workbench.Proofs.Dev.Asked
import Workbench.Proofs.Http.Header
import Workbench.Proofs.Json.Document
import Workbench.Proofs.Rule.Backend

set_option autoImplicit false

namespace Workbench

open Http (Header Headers Request Response)

namespace Http.Headers

variable {headers : Headers} {name : String}

theorem addMissing_eq (headers : Headers) (header : Header) :
    headers.addMissing header =
      headers ++ if headers.values header.name = [] then [header] else [] := by
  rw [addMissing]
  split
  next present =>
    have stated : headers.values header.name ≠ [] := by
      rw [ne_eq, ← has_eq_false_iff, present]
      exact Bool.true_eq_false_eq_False
    rw [if_neg stated, List.append_nil]
  next missing =>
    rw [if_pos (has_eq_false_iff.mp (by simpa using missing))]

end Http.Headers

namespace Http.Response

end Http.Response

namespace Wire

-- What is added has a name of its own, so it does not get between the values of another.
def Extends (given : Headers) (addable : Header -> Prop) (extended : Headers) : Prop :=
  ∃ added, extended = given ++ added ∧
    ∀ header ∈ added, given.values header.name = [] ∧ addable header

theorem Extends.addMissing {given extended : Headers} {addable : Header -> Prop} {header : Header}
    (extending : Extends given addable extended) (may : addable header) :
    Extends given addable (extended.addMissing header) := by
  obtain ⟨added, rfl, ofAdded⟩ := extending
  rw [Headers.addMissing_eq]
  split
  next missing =>
    have lacking : given.values header.name = [] := by
      rw [Headers.values, List.filter_append, List.map_append] at missing
      exact (List.append_eq_nil_iff.mp missing).1
    refine ⟨added ++ [header], List.append_assoc _ _ _, ?_⟩
    intro other among
    obtain earlier | last := List.mem_append.mp among
    next => exact ofAdded other earlier
    next =>
      obtain rfl := List.mem_singleton.mp last
      exact ⟨lacking, may⟩
  next => exact ⟨added, List.append_nil _, ofAdded⟩

end Wire

namespace Site

variable {site : Site} {assets : Assets} {transport : Transport} {request : Request}

end Site

end Workbench
