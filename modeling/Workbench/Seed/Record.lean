set_option autoImplicit false

namespace Workbench

structure Seed where
  token : String
  hostname : String
  dc : String
  ip : String
  zone : String
  location : String
  deriving DecidableEq, Repr

def Seed.localNode : Seed where
  token := "1383429731"
  hostname := "localhost"
  dc := "local-dc"
  ip := "127.0.0.1"
  zone := "us-east-1c"
  location := "us-east-1c"

end Workbench
