import PolicyHost.Build.Entrypoint
import PolicyHost.Host.Basic
import PolicyHost.Source.Identifier

set_option autoImplicit false

namespace PolicyHost

structure Target where
  policy : Policy
  package : String
  rule : String

namespace Target

def invalid (kind : Failure.Kind) (message hint : String) : Failure :=
  { kind, message, suggestions := [hint] }

def checkPackage (package : Option String) : Except Failure Unit :=
  match package with
  | none => .ok ()
  | some name =>
      if Source.isDottedPath name.toList then .ok ()
      else .error (invalid .invalidNamespace ("'" ++ name ++ "' is not a valid namespace")
        "namespaces are dotted identifiers, e.g. `authz` or `team.rbac`")

def checkRule (rule : String) : Except Failure Unit :=
  if Source.isIdentifier rule.toList then .ok ()
  else .error (invalid .invalidRule ("'" ++ rule ++ "' is not a valid rule name")
    "rule names are identifiers, e.g. `allow`")

def packageHint (s : Store) : String :=
  if s.packages.isEmpty then "load a policy first"
  else "available namespaces: " ++ Wasm.commaList s.packages.toList

def findPolicy (s : Store) (package : Option String) : Except Failure Policy :=
  match s.findByPackage? package, package with
  | some policy, _ => .ok policy
  | none, some name =>
      .error (invalid .invalidNamespace ("namespace '" ++ name ++ "' is not loaded") (packageHint s))
  | none, none => .error (invalid .invalidNamespace "no policies are loaded" (packageHint s))

def packageOf (policy : Policy) (package : Option String) : Except Failure String :=
  match package.or policy.packages.toList.head? with
  | some name => .ok name
  | none =>
      .error
        { kind := .invalidNamespace
          message := "policy " ++ policy.path.text ++ " declares no namespace" }

def find (s : Store) (package : Option String) (rule : String) : Except Failure Target := do
  checkPackage package
  checkRule rule
  let policy ← findPolicy s package
  let package ← packageOf policy package
  if rule ∈ policy.rules then return { policy, package, rule }
  else
    .error (invalid .invalidRule ("rule '" ++ rule ++ "' not found in namespace '" ++ package ++ "'")
      ("available rules: " ++ Wasm.commaList policy.rules.toList))

def entrypoint (t : Target) : String := Build.entrypoint t.package t.rule

def query (t : Target) : String := Build.query t.package t.rule

end Target

namespace Host

def target (h : Host) (package rule : Option String) : Except Failure Target :=
  Target.find h.store package (rule.getD h.config.defaultRule)

end Host

end PolicyHost
