import DeployForge.Shell.Awk.Pattern
import DeployForge.Shell.Awk.Value

namespace DeployForge.Shell.Awk

inductive Token where
  | number (x : Float)
  | text (s : Octets)
  | name (s : Octets)
  | callee (s : Octets)
  | builtin (b : Builtin)
  | word (s : String)
  | sign (s : String)
  | newline
  | finish

namespace Token

def isSign (t : Token) (s : String) : Bool :=
  match t with
  | sign u => u = s
  | _ => false

def isWord (t : Token) (s : String) : Bool :=
  match t with
  | word u => u = s
  | _ => false

def shown? : Token → Option Octets
  | number x => some (numberText usualFormat x)
  | text s => some ('"' :: s ++ ['"'])
  | name s | callee s => some s
  | builtin b => ((Builtin.names.find? (·.2 = b)).map fun (s, _) => s.toList)
  | word s | sign s => some s.toList
  | newline | finish => none

def beginsOperand (t : Token) : Bool :=
  match t with
  | number _ | text _ | name _ | callee _ | builtin _ => true
  | sign s => ["$", "!", "(", "++", "--"].contains s
  | _ => false

end Token

def words : List String := [
  "BEGIN", "END", "function", "if", "else", "while", "do", "for", "in", "break", "continue",
  "next", "nextfile", "exit", "return", "delete", "print", "printf", "getline"]

def signs : List String := [
  ">>", "<=", ">=", "==", "!=", "!~", "&&", "||", "++", "--", "+=", "-=", "*=", "/=", "%=", "^=",
  "+", "-", "*", "/", "%", "^", "<", ">", "=", "!", "~", "?", ":", ",", ";", "$", "(", ")", "[",
  "]", "|", "\x7b", "\x7d"]

inductive SourceFault where
  | near (s : Octets)
  | nearEnd
  | missingBrace
  | extraBrace
  | unexpected (c : Char)
  | openText (s : Octets)
  | openRegex (s : Octets)
  | badRegex (s : Octets) (fault : PatternFault)
  | neverDefined (name : Octets)
  | tooMany (name : Octets)
  | wrongCount (name : Octets)
  | outsideLoop (word : String)
  | outsideFunction
  | misplaced (word : String)
  | noArguments
  deriving DecidableEq, Repr

def SourceFault.text : SourceFault → Octets
  | near s => "syntax error at or near ".toList ++ s
  | nearEnd => "syntax error at or near end of line".toList
  | missingBrace => "missing \x7d near end of file".toList
  | extraBrace => "extra '\x7d'".toList
  | unexpected c => "unexpected character '".toList ++ [c, '\'']
  | openText s => "runaway string constant \"".toList ++ s ++ " ...".toList
  | openRegex s => "runaway regular expression /".toList ++ s ++ " ...".toList
  | badRegex s fault =>
    "regular expression compile failed (".toList ++ fault.text.toList ++ ")\n".toList ++ s
  | neverDefined name => "function ".toList ++ name ++ " never defined".toList
  | tooMany name => "too many arguments in call to ".toList ++ name
  | wrongCount name => "wrong number of arguments in call to ".toList ++ name
  | outsideLoop word => (word ++ " statement outside of loop").toList
  | outsideFunction => "return outside function body".toList
  | misplaced word => ("improper use of " ++ word).toList
  | noArguments => "no arguments in call to printf".toList

def textWithin (isQuoted : Bool) :
    Nat → Octets → Nat → List Char → Option (Octets × Nat × List Char)
  | 0, _, _, _ => none
  | _, done, lines, [] => if isQuoted then none else some (done.reverse, lines, [])
  | fuel + 1, done, lines, c :: rest =>
    match c, rest with
    | '\\', '\n' :: rest => textWithin isQuoted fuel done (lines + 1) rest
    | '\\', d :: after =>
      let hex := (after.take 2).takeWhile isHexDigit
      if d = 'x' && !hex.isEmpty then
        textWithin isQuoted fuel (octet (Octets.foldDigits 16 hex) :: done) lines
          (after.drop hex.length)
      else if d = '"' || d = '\\' then textWithin isQuoted fuel (d :: done) lines after
      else
        match unescaped rest with
        | some (e, after) =>
          textWithin isQuoted fuel (if e = d then d :: '\\' :: done else e :: done) lines after
        | none => none
    | _, _ =>
      if isQuoted && c = '"' then some (done.reverse, lines, rest)
      else if isQuoted && c = '\n' then none
      else textWithin isQuoted fuel (c :: done) lines rest

def textOfArgument (s : Octets) : Octets :=
  match textWithin false (s.length + 1) [] 0 s with
  | some (t, _, _) => t
  | none => s

def regexWithin : Nat → Bool → Octets → List Char → Option (Octets × List Char)
  | 0, _, _, _ | _, _, _, [] => none
  | fuel + 1, inSet, done, c :: rest =>
    match c, rest with
    | '\n', _ => none
    | '/', _ =>
      if inSet then regexWithin fuel inSet (c :: done) rest else some (done.reverse, rest)
    | '\\', '/' :: rest => regexWithin fuel inSet ('/' :: done) rest
    | '\\', d :: rest => regexWithin fuel inSet (d :: '\\' :: done) rest
    | '[', '^' :: ']' :: rest => regexWithin fuel true (']' :: '^' :: '[' :: done) rest
    | '[', ']' :: rest => regexWithin fuel true (']' :: '[' :: done) rest
    | '[', _ => regexWithin fuel true (c :: done) rest
    | ']', _ => regexWithin fuel false (c :: done) rest
    | _, _ => regexWithin fuel inSet (c :: done) rest

def numberLength (s : List Char) : Nat :=
  let whole := s.takeWhile Char.isDigit
  let rest := s.drop whole.length
  let part := match rest with
    | '.' :: after => 1 + (after.takeWhile Char.isDigit).length
    | _ => 0
  let rest := rest.drop part
  let exponent := match rest with
    | c :: after =>
      if c.toLower = 'e' then
        let sign := (after.takeWhile fun d => d = '+' || d = '-').take 1
        let ds := (after.drop sign.length).takeWhile Char.isDigit
        if ds.isEmpty then 0 else 1 + sign.length + ds.length
      else 0
    | [] => 0
  whole.length + part + exponent

def skipBlanks : Nat → Nat → List Char → Nat × List Char
  | 0, lines, s => (lines, s)
  | fuel + 1, lines, s =>
    match s with
    | '\\' :: '\n' :: rest => skipBlanks fuel (lines + 1) rest
    | '\\' :: '\r' :: '\n' :: rest => skipBlanks fuel (lines + 1) rest
    | '#' :: rest => (lines, rest.dropWhile (· ≠ '\n'))
    | c :: rest => if isBlank c || c = '\r' || c = '\x0c' then skipBlanks fuel lines rest else (lines, s)
    | [] => (lines, [])

def nextToken (s : List Char) : Except SourceFault (Token × Nat × List Char) :=
  let (lines, s) := skipBlanks (s.length + 1) 0 s
  match s with
  | [] => .ok (.finish, lines, [])
  | '\n' :: rest => .ok (.newline, lines + 1, rest)
  | '"' :: rest =>
    match textWithin true (rest.length + 1) [] lines rest with
    | some (t, lines, rest) => .ok (.text t, lines, rest)
    | none => .error (.openText (rest.takeWhile (· ≠ '\n')))
  | c :: rest =>
    let isNumber := c.isDigit || c = '.' && (rest.head?.map Char.isDigit).getD false
    if isNumber then
      let n := numberLength s
      .ok (.number (leadingNumber (s.take n)), lines, s.drop n)
    else if isNameStart c then
      let name := s.takeWhile isNameChar
      let rest := s.drop name.length
      let word := String.ofList name
      if words.contains word || word = "func" then
        .ok (.word (if word = "func" then "function" else word), lines, rest)
      else
        match Builtin.names.lookup word with
        | some b => .ok (.builtin b, lines, rest)
        | none => .ok (if rest.head? = some '(' then .callee name else .name name, lines, rest)
    else
      match signs.find? fun g => g.toList.isPrefixOf s with
      | some g => .ok (.sign g, lines, s.drop g.length)
      | none => .error (.unexpected c)

end DeployForge.Shell.Awk
