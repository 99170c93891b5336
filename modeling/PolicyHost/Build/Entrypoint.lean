import PolicyHost.Dict

set_option autoImplicit false

namespace PolicyHost.Build

def slashed (package : String) : String := package.map fun c => if c = '.' then '/' else c

def entrypoint (package rule : String) : String := slashed package ++ "/" ++ rule

def query (package rule : String) : String := "data." ++ package ++ "." ++ rule

def compiledRules (rules : NameSet) (defaultRule : String) : NameSet :=
  if rules.isEmpty then .ofList [defaultRule] else rules

def entrypoints (packages rules : NameSet) (defaultRule : String) : List String :=
  packages.toList.flatMap fun package =>
    (compiledRules rules defaultRule).toList.map fun rule => entrypoint package rule

end PolicyHost.Build
