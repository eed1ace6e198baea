namespace DeployForge

inductive Stage where
  | pathBound
  | compiled
  | extracted
  | codeBound
  | recompiled
  | deployed
  | persisted
  deriving DecidableEq, Repr

namespace Stage

def all : List Stage :=
  [pathBound, compiled, extracted, codeBound, recompiled, deployed, persisted]

def name : Stage → String
  | pathBound => "bind-path"
  | compiled => "compile"
  | extracted => "extract"
  | codeBound => "bind-code"
  | recompiled => "recompile"
  | deployed => "deploy"
  | persisted => "persist"

end Stage

end DeployForge
