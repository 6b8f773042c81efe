import Workbench.Config.Basic
import Workbench.Env.Reference
import Workbench.Host.Ipv4
import Workbench.Text.Quoted

set_option autoImplicit false

namespace Workbench

inductive Violation
  | empty (field : String)
  | zeroPort (field : String)
  | notDecimal (field value : String)
  | notAddress (field value : String)
  | longQuiet
  deriving DecidableEq, Repr

def maxQuiet : Nat := 10000

def Violation.message : Violation -> String
  | .empty field => field ++ " cannot be empty"
  | .zeroPort field => field ++ " cannot be 0"
  | .notDecimal field value => field ++ " must be a decimal number, got " ++ Text.quote value
  | .notAddress field value => field ++ " must be an IPv4 address, got " ++ Text.quote value
  | .longQuiet => "live_reload.debounce_ms cannot exceed " ++ toString maxQuiet

def Violation.if (violation : Violation) (holds : Bool) : List Violation :=
  if holds then [violation] else []

def Seed.violations (seed : Seed) (field : String) : List Violation :=
  let token := field ++ ".token"
  let ip := field ++ ".ip"
  (Violation.empty token).if seed.token.isEmpty ++
    (Violation.notDecimal token seed.token).if (!seed.token.toList.all Char.isDigit) ++
    (Violation.empty (field ++ ".hostname")).if seed.hostname.isEmpty ++
    (Violation.empty (field ++ ".dc")).if seed.dc.isEmpty ++
    (Violation.notAddress ip seed.ip).if (Ipv4.parse? seed.ip.toList).isNone

def SeedSettings.violations (seed : SeedSettings) : List Violation :=
  (Violation.empty "seed.host").if seed.host.isEmpty ++
    (Violation.zeroPort "seed.port").if (seed.port == 0) ++
    (seed.nodes.zipIdx.flatMap fun (node, index) =>
      node.violations (Env.indexed "seed.nodes" index))

def DevSettings.violations (dev : DevSettings) : List Violation :=
  (Violation.empty "dev.host").if dev.host.isEmpty ++
    (Violation.zeroPort "dev.port").if (dev.port == 0) ++
    (dev.rewrites.zipIdx.flatMap fun (rule, index) =>
      (Violation.empty (Env.indexed "dev.rewrites" index)).if (Text.allBlank rule.toList))

def ReloadSettings.violations (reload : ReloadSettings) : List Violation :=
  Violation.longQuiet.if (maxQuiet < reload.quiet)

def Config.violations (config : Config) : List Violation :=
  config.seed.violations ++ config.dev.violations ++ config.reload.violations

def Config.validate (config : Config) : Except Violation Unit :=
  match config.violations with
  | [] => .ok ()
  | violation :: _ => .error violation

end Workbench
