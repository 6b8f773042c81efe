import Mathlib.Data.List.Basic
import Workbench.Proofs.Config.Requirement

set_option autoImplicit false

namespace Workbench

namespace Requirement

theorem node_before_node {first second : Nat} (less : first < second)
    (left right : NodeRequirement) : (node first left).Before (node second right) := by
  simp [Before, place, List.cons_lt_cons_iff, less]

theorem rewrite_before_rewrite {first second : Nat} (less : first < second) :
    (rewrite first).Before (rewrite second) := by
  simp [Before, place, List.cons_lt_cons_iff, less]

end Requirement

namespace Config

variable {config : Config}

theorem pairwise_index_lt {α : Type} (items : List α) (start : Nat) :
    (items.zipIdx start).Pairwise fun left right => left.2 < right.2 := by
  rw [← List.pairwise_map, List.zipIdx_map_snd]
  exact List.pairwise_lt_range' 1

theorem pairwise_before_requirements (config : Config) :
    config.requirements.Pairwise Requirement.Before := by
  have nodes : (config.seed.nodes.zipIdx.flatMap fun entry =>
      NodeRequirement.all.map (Requirement.node entry.2)).Pairwise Requirement.Before := by
    refine List.pairwise_flatMap.mpr ⟨fun entry _ => ?_, ?_⟩
    · simp [NodeRequirement.all, Requirement.Before, Requirement.place, NodeRequirement.place,
        List.cons_lt_cons_iff]
    · refine (pairwise_index_lt config.seed.nodes 0).imp fun less => ?_
      simp only [List.mem_map]
      rintro - ⟨left, -, rfl⟩ - ⟨right, -, rfl⟩
      exact Requirement.node_before_node less left right
  have rewrites : (config.dev.rewrites.zipIdx.map fun entry =>
      Requirement.rewrite entry.2).Pairwise Requirement.Before :=
    List.pairwise_map.mpr
      ((pairwise_index_lt config.dev.rewrites 0).imp Requirement.rewrite_before_rewrite)
  refine List.pairwise_append.mpr ⟨List.pairwise_append.mpr ⟨List.pairwise_append.mpr
    ⟨List.pairwise_append.mpr ⟨?_, nodes, ?_⟩, ?_, ?_⟩, rewrites, ?_⟩,
    List.pairwise_singleton _ _, ?_⟩
  all_goals simp [List.forall_mem_append, List.forall_mem_flatMap, List.forall_mem_map,
    -List.mem_append, -List.mem_flatMap, -List.mem_map, Requirement.Before, Requirement.place,
    List.cons_lt_cons_iff]

theorem mem_requirements {requirement : Requirement} (violated : config.Violates requirement) :
    requirement ∈ config.requirements := by
  cases requirement with
  | seedHost | seedPort | devHost | devPort | quiet => simp [requirements]
  | node index requirement =>
      obtain ⟨seed, found, -⟩ := violated
      have member : (seed, index) ∈ config.seed.nodes.zipIdx :=
        List.mem_zipIdx_iff_getElem?.mpr found
      have among : requirement ∈ NodeRequirement.all := by cases requirement <;> decide
      simp only [requirements, List.mem_append, List.mem_flatMap, List.mem_map]
      exact .inl (.inl (.inl (.inr ⟨_, member, requirement, among, rfl⟩)))
  | rewrite index =>
      obtain ⟨rule, found, -⟩ := violated
      have member : (rule, index) ∈ config.dev.rewrites.zipIdx :=
        List.mem_zipIdx_iff_getElem?.mpr found
      simp only [requirements, List.mem_append, List.mem_map]
      exact .inl (.inr ⟨_, member, rfl⟩)

theorem toList_found? {requirement : Requirement} {violation : Violation} {holds : Bool}
    (said : config.violation? requirement = some violation)
    (violated : holds = true ↔ config.Violates requirement) :
    (config.found? requirement).toList = violation.if holds := by
  cases holds with
  | true =>
      rw [(found?_eq_some_iff requirement violation).mpr ⟨violated.mp rfl, said⟩]
      rfl
  | false =>
      rw [(found?_eq_none_iff requirement).mpr fun holds => nomatch violated.mpr holds]
      rfl

theorem node_violations_eq {index : Nat} {seed : Seed}
    (found : config.seed.nodes[index]? = some seed) :
    seed.violations (Env.indexed "seed.nodes" index) =
      NodeRequirement.all.flatMap fun requirement =>
        (config.found? (.node index requirement)).toList := by
  have told {requirement : NodeRequirement} {holds : Bool}
      (violated : holds = true ↔ seed.Violates requirement) :
      (config.found? (.node index requirement)).toList =
        (seed.violation (Env.indexed "seed.nodes" index) requirement).if holds := by
    refine toList_found? (by simp [violation?, found]) (violated.trans ?_)
    simp [Violates, found]
  have token : seed.token.isEmpty = true ↔ seed.Violates .token := String.isEmpty_iff
  have decimalToken : (!seed.token.toList.all Char.isDigit) = true ↔
      seed.Violates .decimalToken := by
    rw [Bool.not_eq_true', Bool.eq_false_iff, Ne, Text.all_isDigit_iff]
    simp [Seed.Violates]
  have hostname : seed.hostname.isEmpty = true ↔ seed.Violates .hostname := String.isEmpty_iff
  have dc : seed.dc.isEmpty = true ↔ seed.Violates .dc := String.isEmpty_iff
  have address : (Ipv4.parse? seed.ip.toList).isNone = true ↔ seed.Violates .address :=
    Option.isNone_iff_eq_none.trans (Ipv4.parse?_eq_none_iff _)
  simp only [NodeRequirement.all, List.flatMap_cons, List.flatMap_nil, List.append_nil,
    told token, told decimalToken, told hostname, told dc, told address, Seed.violations,
    Seed.violation, List.append_assoc]

theorem violations_eq (config : Config) :
    config.violations = config.requirements.filterMap config.found? := by
  have seedHost : (config.found? .seedHost).toList = _ :=
    toList_found? rfl (String.isEmpty_iff (s := config.seed.host))
  have seedPort : (config.found? .seedPort).toList = _ :=
    toList_found? rfl (beq_iff_eq (a := config.seed.port) (b := 0))
  have seed : config.seed.violations = (config.found? .seedHost).toList ++
      (config.found? .seedPort).toList ++ config.seed.nodes.zipIdx.flatMap fun entry =>
        NodeRequirement.all.flatMap fun requirement =>
          (config.found? (.node entry.2 requirement)).toList := by
    rw [seedHost, seedPort]
    refine congrArg (_ ++ ·) (List.flatMap_congr fun entry member => ?_)
    exact node_violations_eq (List.mem_zipIdx_iff_getElem?.mp member)
  have devHost : (config.found? .devHost).toList = _ :=
    toList_found? rfl (String.isEmpty_iff (s := config.dev.host))
  have devPort : (config.found? .devPort).toList = _ :=
    toList_found? rfl (beq_iff_eq (a := config.dev.port) (b := 0))
  have dev : config.dev.violations = (config.found? .devHost).toList ++
      (config.found? .devPort).toList ++ config.dev.rewrites.zipIdx.flatMap fun entry =>
        (config.found? (.rewrite entry.2)).toList := by
    rw [devHost, devPort]
    refine congrArg (_ ++ ·) (List.flatMap_congr fun entry member => ?_)
    have found := List.mem_zipIdx_iff_getElem?.mp member
    refine (toList_found? rfl ?_).symm
    simp only [Violates, Text.allBlank, List.all_eq_true]
    simp [found]
  have quiet : (config.found? .quiet).toList = _ :=
    toList_found? rfl (decide_eq_true_iff (p := maxQuiet < config.reload.quiet))
  simp only [violations, seed, dev, ReloadSettings.violations, ← quiet, requirements,
    List.filterMap_eq_flatMap_toList, List.flatMap_append, List.flatMap_cons, List.flatMap_nil,
    List.append_nil, List.flatMap_assoc, List.flatMap_map, List.append_assoc]

end Config

end Workbench
