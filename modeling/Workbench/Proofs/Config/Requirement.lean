import Workbench.Config.Validity
import Workbench.Proofs.Host.DottedQuad

set_option autoImplicit false

namespace Workbench

inductive NodeRequirement
  | token
  | decimalToken
  | hostname
  | dc
  | address
  deriving DecidableEq, Repr

inductive Requirement
  | seedHost
  | seedPort
  | node (index : Nat) (requirement : NodeRequirement)
  | devHost
  | devPort
  | rewrite (index : Nat)
  | quiet
  deriving DecidableEq, Repr

namespace NodeRequirement

def place : NodeRequirement -> Nat
  | .token => 0
  | .decimalToken => 1
  | .hostname => 2
  | .dc => 3
  | .address => 4

def field : NodeRequirement -> String
  | .token => ".token"
  | .decimalToken => ".token"
  | .hostname => ".hostname"
  | .dc => ".dc"
  | .address => ".ip"

def all : List NodeRequirement :=
  [.token, .decimalToken, .hostname, .dc, .address]

end NodeRequirement

namespace Requirement

def place : Requirement -> List Nat
  | .seedHost => [0]
  | .seedPort => [1]
  | .node index requirement => [2, index, requirement.place]
  | .devHost => [3]
  | .devPort => [4]
  | .rewrite index => [5, index]
  | .quiet => [6]

def field : Requirement -> String
  | .seedHost => "seed.host"
  | .seedPort => "seed.port"
  | .node index requirement => Env.indexed "seed.nodes" index ++ requirement.field
  | .devHost => "dev.host"
  | .devPort => "dev.port"
  | .rewrite index => Env.indexed "dev.rewrites" index
  | .quiet => "live_reload.debounce_ms"

def Before (left right : Requirement) : Prop :=
  left.place < right.place

theorem Before.asymm {left right : Requirement} (before : left.Before right) :
    ¬ right.Before left :=
  List.lt_asymm before

end Requirement

structure Seed.Valid (seed : Seed) : Prop where
  token : seed.token ≠ ""
  decimalToken : ∀ char ∈ seed.token.toList, '0' ≤ char ∧ char ≤ '9'
  hostname : seed.hostname ≠ ""
  dc : seed.dc ≠ ""
  address : ∃ address : Ipv4, seed.ip.toList = address.text

structure Config.Valid (config : Config) : Prop where
  seedHost : config.seed.host ≠ ""
  seedPort : config.seed.port ≠ 0
  nodes : ∀ seed ∈ config.seed.nodes, seed.Valid
  devHost : config.dev.host ≠ ""
  devPort : config.dev.port ≠ 0
  rewrites : ∀ rule ∈ config.dev.rewrites, ∃ char ∈ rule.toList, Text.isBlank char = false
  quiet : config.reload.quiet ≤ 10000

def Seed.Violates (seed : Seed) : NodeRequirement -> Prop
  | .token => seed.token = ""
  | .decimalToken => ∃ char ∈ seed.token.toList, ¬ ('0' ≤ char ∧ char ≤ '9')
  | .hostname => seed.hostname = ""
  | .dc => seed.dc = ""
  | .address => ∀ address : Ipv4, seed.ip.toList ≠ address.text

def Config.Violates (config : Config) : Requirement -> Prop
  | .seedHost => config.seed.host = ""
  | .seedPort => config.seed.port = 0
  | .node index requirement =>
      ∃ seed, config.seed.nodes[index]? = some seed ∧ seed.Violates requirement
  | .devHost => config.dev.host = ""
  | .devPort => config.dev.port = 0
  | .rewrite index =>
      ∃ rule, config.dev.rewrites[index]? = some rule ∧
        ∀ char ∈ rule.toList, Text.isBlank char = true
  | .quiet => 10000 < config.reload.quiet

def Violation.field : Violation -> String
  | .empty field => field
  | .zeroPort field => field
  | .notDecimal field _ => field
  | .notAddress field _ => field
  | .longQuiet => "live_reload.debounce_ms"

theorem Violation.message_eq (violation : Violation) :
    ∃ fault, violation.message = violation.field ++ fault := by
  cases violation with
  | empty field => exact ⟨" cannot be empty", rfl⟩
  | zeroPort field => exact ⟨" cannot be 0", rfl⟩
  | notDecimal field value =>
      exact ⟨" must be a decimal number, got " ++ Text.quote value, String.append_assoc⟩
  | notAddress field value =>
      exact ⟨" must be an IPv4 address, got " ++ Text.quote value, String.append_assoc⟩
  | longQuiet => exact ⟨" cannot exceed 10000", by decide⟩

def Seed.violation (seed : Seed) (field : String) : NodeRequirement -> Violation
  | .token => .empty (field ++ ".token")
  | .decimalToken => .notDecimal (field ++ ".token") seed.token
  | .hostname => .empty (field ++ ".hostname")
  | .dc => .empty (field ++ ".dc")
  | .address => .notAddress (field ++ ".ip") seed.ip

def Config.violation? (config : Config) : Requirement -> Option Violation
  | .seedHost => some (.empty "seed.host")
  | .seedPort => some (.zeroPort "seed.port")
  | .node index requirement =>
      config.seed.nodes[index]?.map (·.violation (Env.indexed "seed.nodes" index) requirement)
  | .devHost => some (.empty "dev.host")
  | .devPort => some (.zeroPort "dev.port")
  | .rewrite index => some (.empty (Env.indexed "dev.rewrites" index))
  | .quiet => some .longQuiet

theorem Seed.field_violation (seed : Seed) (field : String) (requirement : NodeRequirement) :
    (seed.violation field requirement).field = field ++ requirement.field := by
  cases requirement <;> rfl

theorem Config.field_of_violation? {config : Config} {requirement : Requirement}
    {violation : Violation} (said : config.violation? requirement = some violation) :
    violation.field = requirement.field := by
  cases requirement with
  | node index requirement =>
      obtain ⟨seed, -, rfl⟩ := Option.map_eq_some_iff.mp said
      exact seed.field_violation _ requirement
  | seedHost | seedPort | devHost | devPort | rewrite | quiet =>
      obtain rfl := Option.some.inj said
      rfl

theorem Seed.valid_iff (seed : Seed) :
    seed.Valid ↔ ∀ requirement, ¬ seed.Violates requirement := by
  constructor
  · intro valid requirement violated
    cases requirement with
    | token => exact valid.token violated
    | decimalToken =>
        obtain ⟨char, member, other⟩ := violated
        exact other (valid.decimalToken char member)
    | hostname => exact valid.hostname violated
    | dc => exact valid.dc violated
    | address =>
        obtain ⟨address, same⟩ := valid.address
        exact violated address same
  · intro met
    exact {
      token := met .token
      decimalToken := fun char member =>
        by_contra fun other => met .decimalToken ⟨char, member, other⟩
      hostname := met .hostname
      dc := met .dc
      address := by_contra fun unbracketed =>
        met .address fun address same => unbracketed ⟨address, same⟩ }

namespace Config

variable {config : Config}

theorem valid_iff (config : Config) :
    config.Valid ↔ ∀ requirement, ¬ config.Violates requirement := by
  constructor
  · intro valid requirement violated
    cases requirement with
    | seedHost => exact valid.seedHost violated
    | seedPort => exact valid.seedPort violated
    | node index requirement =>
        obtain ⟨seed, found, violated⟩ := violated
        exact seed.valid_iff.mp (valid.nodes seed (List.mem_of_getElem? found)) requirement violated
    | devHost => exact valid.devHost violated
    | devPort => exact valid.devPort violated
    | rewrite index =>
        obtain ⟨rule, found, blank⟩ := violated
        obtain ⟨char, member, visible⟩ := valid.rewrites rule (List.mem_of_getElem? found)
        simp [blank char member] at visible
    | quiet => exact Nat.not_lt.mpr valid.quiet violated
  · intro met
    refine ⟨met .seedHost, met .seedPort, ?_, met .devHost, met .devPort, ?_,
      Nat.not_lt.mp (met .quiet)⟩
    · intro seed member
      obtain ⟨index, found⟩ := List.getElem?_of_mem member
      exact seed.valid_iff.mpr fun requirement violated =>
        met (.node index requirement) ⟨seed, found, violated⟩
    · intro rule member
      obtain ⟨index, found⟩ := List.getElem?_of_mem member
      by_contra unseen
      refine met (.rewrite index) ⟨rule, found, fun char among => ?_⟩
      by_contra visible
      exact unseen ⟨char, among, by simpa using visible⟩

open Classical in
noncomputable def found? (config : Config) (requirement : Requirement) : Option Violation :=
  if config.Violates requirement then config.violation? requirement else none

theorem found?_eq_none_iff (requirement : Requirement) :
    config.found? requirement = none ↔ ¬ config.Violates requirement := by
  unfold found?
  split
  next violated =>
    refine iff_of_false ?_ (not_not.mpr violated)
    cases requirement with
    | node index requirement =>
        obtain ⟨seed, found, -⟩ := violated
        simp [violation?, found]
    | seedHost => simp [violation?]
    | seedPort => simp [violation?]
    | devHost => simp [violation?]
    | devPort => simp [violation?]
    | rewrite index => simp [violation?]
    | quiet => simp [violation?]
  next met => exact iff_of_true rfl met

theorem found?_eq_some_iff (requirement : Requirement) (violation : Violation) :
    config.found? requirement = some violation ↔
      config.Violates requirement ∧ config.violation? requirement = some violation := by
  unfold found?
  split
  next violated => simp [violated]
  next met => simp [met]

def requirements (config : Config) : List Requirement :=
  [.seedHost, .seedPort] ++
    (config.seed.nodes.zipIdx.flatMap fun entry => NodeRequirement.all.map (.node entry.2)) ++
    [.devHost, .devPort] ++ (config.dev.rewrites.zipIdx.map fun entry => .rewrite entry.2) ++
    [.quiet]

end Config

end Workbench
