import Workbench.Json.Reader
import Workbench.Seed.Record

set_option autoImplicit false

namespace Workbench

open Json (Value)

def Seed.fields (seed : Seed) : List (String × String) :=
  [("token", seed.token), ("hostname", seed.hostname), ("dc", seed.dc), ("ip", seed.ip),
    ("zone", seed.zone), ("location", seed.location)]

def Seed.toJson (seed : Seed) : Value :=
  .object (seed.fields.map fun (name, text) => (name, .string text))

namespace Descriptor

def render (seeds : List Seed) : String :=
  String.ofList (Value.render (.array (seeds.map Seed.toJson)))

def path : String := "/REST/v1/admin/cluster_describe"

def banner (body : String) : String :=
  "Serving: " ++ path ++ " -> " ++ body

def field? (members : List (String × Value)) (name : String) : Option String :=
  match members.filter (·.1 = name) with
  | [(_, .string text)] => some text
  | _ => none

def seed? : Value -> Option Seed
  | .object members => do
      pure {
        token := ← field? members "token"
        hostname := ← field? members "hostname"
        dc := ← field? members "dc"
        ip := ← field? members "ip"
        zone := ← field? members "zone"
        location := ← field? members "location" }
  | .array [.string token, .string hostname, .string dc, .string ip, .string zone,
      .string location] => some { token, hostname, dc, ip, zone, location }
  | _ => none

def parse? (text : String) : Option (List Seed) :=
  match Json.parse? text.toList with
  | some (.array items) => items.mapM seed?
  | _ => none

end Descriptor

end Workbench
