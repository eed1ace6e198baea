namespace DeployForge.CommandLine

inductive Tone where
  | heading
  | muted
  | target
  | step
  | ok
  | fail
  deriving DecidableEq, Repr

def Tone.code : Tone → String
  | heading => "\x1b[1m"
  | muted => "\x1b[2m"
  | target => "\x1b[36m"
  | step => "\x1b[34m"
  | ok => "\x1b[32m"
  | fail => "\x1b[31m"

def reset : String := "\x1b[0m"

def paint (isColored : Bool) (tone : Tone) (text : String) : String :=
  if isColored then tone.code ++ text ++ reset else text

end DeployForge.CommandLine
