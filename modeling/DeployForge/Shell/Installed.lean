import DeployForge.Shell.Octets

namespace DeployForge.Shell

def shells : List String := ["sh", "dash", "bash"]

def starters : List String := ["env", "find", "awk"]

def programs : List String := [
  "[", "base64", "basename", "cat", "chmod", "cmp", "comm", "cp", "cut", "dd", "dirname",
  "echo", "false", "fold", "grep", "head", "install", "join", "kill", "ln", "ls", "mkdir", "mv",
  "nl", "od", "paste", "printenv", "printf", "pwd", "realpath", "rm", "rmdir", "sed", "seq",
  "sha256sum", "sleep", "sort", "stat", "tail", "tee", "test", "touch", "tr", "true",
  "truncate", "uniq", "wc"]

def isInstalled (name : String) : Bool :=
  programs.contains name || shells.contains name || starters.contains name

end DeployForge.Shell
