import DeployForge.Shell.Escape
import DeployForge.Shell.Find
import DeployForge.Shell.Regex.Reading
import DeployForge.Shell.Utility.Calendar
import DeployForge.Shell.Utility.Files

namespace DeployForge.Shell.Find

inductive Token where
  | leaf (q : Query)
  | negation (name : Octets)
  | joint (name : Octets) (rank : Nat)
  | opening
  | closing
  | finish
  deriving DecidableEq, Repr

namespace Token

def name? : Token → Option Octets
  | negation name | joint name _ => some name
  | _ => none

def beginsOperand : Token → Bool
  | leaf _ | negation _ | opening => true
  | _ => false

def endsOperand : Token → Bool
  | leaf _ | closing => true
  | _ => false

end Token

def join (rank : Nat) (p q : Query) : Query :=
  match rank with
  | 1 => .list p q
  | 2 => .either p q
  | _ => .both p q

def invalid {α : Type} (text : String) : Except Octets α :=
  .error ("invalid expression; ".toList ++ text.toList)

mutual

def operand (rank : Nat) (before : Token) : Nat → List Token → Except Octets (Query × List Token)
  | 0, _ | _, [] => .error "invalid expression".toList
  | fuel + 1, t :: rest =>
    match t with
    | .leaf q => others rank q fuel rest
    | .negation _ => do
      let (q, rest) ← operand 4 t fuel rest
      others rank (.not q) fuel rest
    | .joint name _ =>
      invalid ("you have used a binary operator '" ++ .ofList name ++ "' with nothing before it.")
    | .closing =>
      match before.name? with
      | some name => .error ("expected an expression between '".toList ++ name ++ "' and ')'".toList)
      | none => invalid "you have too many ')'"
    | .finish =>
      .error ("expected an expression after '".toList ++ (before.name?).getD [] ++ ['\''])
    | .opening =>
      match rest with
      | [] | .finish :: _ =>
        invalid ("expected to find a ')' but didn't see one. "
          ++ "Perhaps you need an extra predicate after '('")
      | .closing :: _ => invalid "empty parentheses are not allowed."
      | _ => do
        let (q, rest) ← operand 0 t fuel rest
        match rest with
        | .closing :: rest | .finish :: rest => others rank q fuel rest
        | _ => invalid "I was expecting to find a ')' somewhere but did not see one."

def others (rank : Nat) (q : Query) : Nat → List Token → Except Octets (Query × List Token)
  | 0, ts => .ok (q, ts)
  | fuel + 1, ts =>
    match ts with
    | .joint name r :: rest =>
      if rank < r then do
        let (p, rest) ← operand r (.joint name r) fuel rest
        others rank (join r q p) fuel rest
      else .ok (q, ts)
    | _ => .ok (q, ts)

end

def print : Query := .action (.print '\n' none)

def query (ts : List Token) : Except Octets Query := do
  let acts := ts.any fun t =>
    match t with
    | .leaf q => q.acts
    | _ => false
  let whole : List Token :=
    if ts.isEmpty then [.leaf print]
    else if acts then ts
    else .opening :: ts ++ [.finish, .joint "-a".toList 3, .leaf print]
  let (q, rest) ← operand 0 .opening (4 * whole.length + 8) whole
  match rest with
  | [] => return q
  | .closing :: _ | .finish :: _ => .error "you have too many ')'".toList
  | _ => .error "unexpected extra predicate".toList

structure Plan where
  range : Range := {}
  /-- Whether the order was asked for, and not only needed. -/
  asksDeep : Bool := false
  regex : String := "findutils-default"
  gathered : Nat := 0
  hasPrune : Bool := false
  hasDelete : Bool := false
  tokens : List Token := []

namespace Plan

def add (p : Plan) (t : Token) : Plan :=
  match p.tokens with
  | before :: _ =>
    if before.endsOperand && t.beginsOperand then
      { p with tokens := t :: .joint "-a".toList 3 :: p.tokens }
    else { p with tokens := t :: p.tokens }
  | [] => { p with tokens := [t] }

def test (p : Plan) (t : Test) : Plan := p.add (.leaf (.test t))

def action (p : Plan) (a : Action) : Plan := p.add (.leaf (.action a))

end Plan

def dialects : List (String × Option Bool) := [
  ("findutils-default", none), ("ed", some false), ("emacs", none), ("gnu-awk", some true),
  ("grep", some false), ("posix-awk", some true), ("awk", some true), ("posix-basic", some false),
  ("posix-egrep", some true), ("egrep", some true), ("posix-extended", some true),
  ("posix-minimal-basic", some false), ("sed", some false)]

def extended : Nat → Octets → Octets
  | 0, _ | _, [] => []
  | fuel + 1, '\\' :: c :: rest =>
    if "()|".toList.contains c then c :: extended fuel rest else '\\' :: c :: extended fuel rest
  | fuel + 1, '[' :: rest =>
    let start := rest.takeWhile (· = '^')
    let first := (rest.drop start.length).take 1
    let inner := (rest.drop (start.length + 1)).takeWhile (· ≠ ']')
    let front := start ++ first ++ inner
    '[' :: front ++ extended fuel (rest.drop front.length)
  | fuel + 1, c :: rest =>
    if "()|\x7b\x7d".toList.contains c then '\\' :: c :: extended fuel rest
    else c :: extended fuel rest

def bound? (s : Octets) : Option Bound :=
  let (relation, ds) : Ordering × Octets := match s with
    | '+' :: ds => (.gt, ds)
    | '-' :: ds => (.lt, ds)
    | ds => (.eq, ds)
  (Octets.nat? ds).map fun number => ⟨relation, number⟩

def timeBound? (s : Octets) : Option Bound :=
  match Octets.cut? '.' s with
  | some (whole, part) =>
    if whole.isEmpty || !part.all Char.isDigit then none
    else (bound? whole).map fun b =>
      { b with number := b.number + if b.relation ≠ .gt && part.any (· ≠ '0') then 1 else 0 }
  | none => bound? s

def unit? (c : Char) : Option Nat :=
  match c with
  | 'b' => some 512
  | 'c' => some 1
  | 'w' => some 2
  | 'k' => some 1024
  | 'M' => some 1048576
  | 'G' => some 1073741824
  | _ => none

def badArgument {α : Type} (c : Call) (name s : Octets) : Act α :=
  c.fail 1 ("invalid argument \x60".toList ++ s ++ "' to \x60".toList ++ name ++ ['\''])

def missingArgument {α : Type} (c : Call) (name : Octets) : Act α :=
  c.fail 1 ("missing argument to \x60".toList ++ name ++ ['\''])

def quoted (s : Octets) : Octets := '\'' :: s ++ ['\'']

def located (c : Call) (p : Octets) : Act Location := do
  match (← get).storage.status true p with
  | .ok (l, _) => return l
  | .error e => c.fail 1 (quoted p ++ ": ".toList ++ .ofString e.text)

def kinds (c : Call) (name : Octets) : Octets → Act (List Char)
  | [] =>
    c.fail 1 ("Arguments to ".toList ++ name ++ " should contain at least one letter".toList)
  | letter :: rest => do
    if letter = 'D' then
      c.fail 1 (name ++ (" D is not supported because Solaris doors are not supported on the "
        ++ "platform find was compiled on.").toList)
    if !"bcdpfls".toList.contains letter then
      c.fail 1 ("Unknown argument to ".toList ++ name ++ ": ".toList ++ [letter])
    match rest with
    | [] => return [letter]
    | [','] =>
      c.fail 1 ("Last file type in list argument to ".toList ++ name
        ++ " is missing, i.e., list is ending on: ','".toList)
    | ',' :: rest => return letter :: (← kinds c name rest)
    | _ =>
      c.fail 1 ("Must separate multiple arguments to ".toList ++ name ++ " using: ','".toList)

def sizeTest (c : Call) (s : Octets) : Act Test := do
  let last ← match s.getLast? with
    | some last => pure last
    | none => c.failText 1 "invalid null argument to -size"
  let digits := if last.isDigit then s else s.dropLast
  match if last.isDigit then some 512 else unit? last with
  | none => c.fail 1 ("invalid -size type \x60".toList ++ [last, '\''])
  | some unit =>
    match bound? digits with
    | some b => return .size unit b
    | none => c.fail 1 ("Invalid argument \x60".toList ++ s ++ "' to -size".toList)

def rightsTest (c : Call) (s : Octets) : Act Test := do
  let (how, text) : Rights × Octets := match s with
    | '-' :: rest => (.every, rest)
    | '/' :: rest => (.any, rest)
    | _ => (.exactly, s)
  match Mode.read? text with
  | none => c.fail 1 ("invalid mode ".toList ++ quoted s)
  | some spec =>
    let bits := spec.apply false 0 0
    if how = .any && bits = 0 then
      c.complain ("warning: you have specified a mode pattern ".toList ++ s
        ++ (" (which is equivalent to /000). The meaning of -perm /000 has now been changed to be "
        ++ "consistent with -perm -000; that is, while it used to match no files, it now matches "
        ++ "all files.").toList)
      return .always
    return .rights how bits (spec.apply true 0 0)

def ownerTest (c : Call) (name s : Octets) : Act Test := do
  let isUser := name = "-user".toList
  if s = "root".toList then return .owner ⟨.eq, 0⟩
  match Octets.nat? s with
  | some n => return .owner ⟨.eq, n⟩
  | none =>
    if s.isEmpty then
      c.failText 1 (if isUser then "The argument to -user should not be empty"
        else "argument to -group is empty, but should be a group name")
    if isUser then c.fail 1 (quoted s ++ " is not the name of a known user".toList)
    let rest := s.dropWhile Char.isDigit
    let more := if rest.length = s.length then [] else
      " and it does not look like a numeric group ID because it has the unexpected suffix ".toList
        ++ quoted rest
    c.fail 1 (quoted s ++ " is not the name of an existing group".toList ++ more)

def regexTest (c : Call) (p : Plan) (folds : Bool) (s : Octets) : Act Test := do
  let (d, text) : Regex.Dialect × Octets := match (dialects.lookup p.regex).bind (·) with
    | some isExtended => ({ extended := isExtended }, s)
    | none => ({ extended := true, lenient := true }, extended (s.length + 1) s)
  match Regex.parse d text with
  | .ok r => return .expression folds r.regex
  | .error fault =>
    c.fail 1 ("failed to compile regular expression ".toList ++ quoted s ++ ": ".toList
      ++ .ofString fault.text)

def steps (seconds : Int) : Int := (seconds - Calendar.present) * 1000000

def newerTest (c : Call) (letters s : Octets) : Act Test := do
  match letters with
  | [_, 't'] =>
    match Calendar.read? s with
    | some t => return .newer (steps t)
    | none =>
      c.fail 1 ("I cannot figure out how to interpret ".toList ++ quoted s
        ++ " as a date or time".toList)
  | _ =>
    let l ← located c s
    return .newer ((← get).storage.time l)

def outputFile (c : Call) (name : Octets) : Act (Option Octets) := do
  if name = "/dev/stdout".toList then return none
  let m ← get
  match m.openToWrite .truncate false name with
  | .ok (_, m) =>
    set m
    return some name
  | .error e => c.fail 1 (quoted name ++ ": ".toList ++ .ofString e.text)

def pieces (c : Call) : Nat → Octets → Act (List Piece)
  | 0, _ | _, [] => return []
  | fuel + 1, '\\' :: rest => do
    match rest with
    | [] =>
      c.complainText "warning: escape \x60\\' followed by nothing at all"
      return [.text ['\\']]
    | 'c' :: _ => return [.stop]
    | ch :: after =>
      let ds := (rest.take 3).takeWhile isOctal
      if !ds.isEmpty then
        return .text [Escape.octal ds] :: (← pieces c fuel (rest.drop ds.length))
      match if ch = 'e' then none else Escape.letter? ch with
      | some d => return .text [d] :: (← pieces c fuel after)
      | none =>
        c.complain ("warning: unrecognized escape \x60\\".toList ++ [ch, '\''])
        return .text ['\\', ch] :: (← pieces c fuel after)
  | fuel + 1, '%' :: rest => do
    if rest.isEmpty then c.failText 1 "error: % at end of format string"
    let marks := rest.takeWhile ("-+ #0".toList.contains ·)
    let after := rest.drop marks.length
    let width := after.takeWhile Char.isDigit
    let after := after.drop width.length
    let (precision, after) : Option Nat × Octets := match after with
      | '.' :: more =>
        let ds := more.takeWhile Char.isDigit
        (some (Octets.nat ds), more.drop ds.length)
      | _ => (none, after)
    let f : Format := marks.foldl Format.withMark { width := Octets.nat width, precision }
    match after with
    | [] => c.failText 1 "error: the format directive \x60%\x00' is reserved for future use"
    | ch :: more =>
      let shown := '%' :: rest.take (rest.length - more.length)
      if ch = '%' then return .text ['%'] :: (← pieces c fuel more)
      if "abcdDfFgGhHiklmMnpPsStuUyYZ".toList.contains ch then
        return .field f ch :: (← pieces c fuel more)
      if "ABCT".toList.contains ch then
        match more with
        | d :: more => return .time f d :: (← pieces c fuel more)
        | [] =>
          c.complain ("warning: format directive \x60%".toList
            ++ [ch] ++ "' should be followed by another character".toList)
          return [.text shown]
      if "\x7b[(".toList.contains ch then
        c.fail 1 ("error: the format directive \x60%".toList ++ [ch]
          ++ "' is reserved for future use".toList)
      c.complain ("warning: unrecognized format directive \x60%".toList ++ [ch, '\''])
      return .text shown :: (← pieces c fuel more)
  | fuel + 1, ch :: rest => do
    let plain := ch :: rest.takeWhile fun d => d ≠ '\\' && d ≠ '%'
    return .text plain :: (← pieces c fuel (rest.drop (plain.length - 1)))

def formatOf (c : Call) (s : Octets) : Act (List Piece) := pieces c (s.length + 1) s

def longFormat : List Piece :=
  let right (n : Nat) : Format := { width := n }
  let left (n : Nat) : Format := { width := n, left := true }
  [.field (right 9) 'i', .text [' '], .field (right 6) 'k', .text [' '], .field {} 'M',
    .text [' '], .field (right 3) 'n', .text [' '], .field (left 8) 'u', .text [' '],
    .field (left 8) 'g', .text [' '], .field (right 8) 's', .text [' '], .time {} 'b',
    .text [' '], .time (right 2) 'e', .text [' '], .time {} 'H', .text [':'], .time {} 'M',
    .text [' '], .field {} 'p', .field {} 'L', .text ['\n']]

def braces : Octets := ['\x7b', '\x7d']

def command? : List Octets → List Octets → Option (List Octets × Bool × List Octets)
  | done, w :: rest =>
    if w = [';'] then some (done.reverse, false, rest)
    else if w = ['+'] && done.head?.any (Octets.containsPart braces) then
      some (done.reverse, true, rest)
    else command? (w :: done) rest
  | _, [] => none

def running (c : Call) (p : Plan) (name : Octets) (words : List Octets) :
    Act (Plan × List Octets) := do
  let isInside := "dir".toList.isSuffixOf name
  let asks := "-ok".toList.isPrefixOf name
  if words.isEmpty then missingArgument c name
  let ending := if asks then
      let front := words.takeWhile (· ≠ [';'])
      match words.drop front.length with
      | _ :: rest => some (front, false, rest)
      | [] => none
    else command? [] words
  match ending with
  | none => missingArgument c name
  | some ([], _, _) => badArgument c name [';']
  | some (front, false, rest) => return (p.action (.run isInside asks front), rest)
  | some (front, true, rest) =>
    let last := front.getLastD []
    if 1 < front.countP (Octets.containsPart braces) then
      c.fail 1 ("Only one instance of \x7b\x7d is supported with ".toList ++ name ++ " ... +".toList)
    if last ≠ braces then
      c.fail 1 ("In '".toList ++ name ++ (" ... \x7b\x7d +' the '\x7b\x7d' must appear by itself, "
        ++ "but you specified ").toList ++ quoted last)
    let p := p.action (.gather p.gathered isInside front.dropLast)
    return ({ p with gathered := p.gathered + 1 }, rest)

def alone (p : Plan) (name : String) : Option Plan :=
  let always := p.test .always
  match name with
  | "-print" => some (p.action (.print '\n' none))
  | "-print0" => some (p.action (.print '\x00' none))
  | "-ls" => some (p.action (.format longFormat none))
  | "-delete" =>
    some { p.action .delete with range := { p.range with isDeep := true }, hasDelete := true }
  | "-prune" => some { p.action .prune with hasPrune := true }
  | "-quit" => some (p.action .quit)
  | "-true" | "-daystart" | "-mount" | "-xdev" | "-noleaf" | "-warn" | "-nowarn"
  | "-ignore_readdir_race" | "-noignore_readdir_race" => some always
  | "-false" | "-nouser" | "-nogroup" => some (p.test .never)
  | "-depth" | "-d" =>
    some { always with range := { p.range with isDeep := true }, asksDeep := true }
  | "-follow" => some { always with range := { p.range with follows := .always } }
  | "-empty" => some (p.test .isEmpty)
  | "-executable" => some (p.test .isRunnable)
  | "-readable" | "-writable" => some (p.test .leadsSomewhere)
  | "!" => some (p.add (.negation ['!']))
  | "-not" => some (p.add (.negation name.toList))
  | "-a" | "-and" => some (p.add (.joint name.toList 3))
  | "-o" | "-or" => some (p.add (.joint name.toList 2))
  | "," => some (p.add (.joint [','] 1))
  | "(" => some (p.add .opening)
  | ")" => some (p.add .closing)
  | _ => none

def takers : List String := [
  "-name", "-iname", "-path", "-wholename", "-ipath", "-iwholename", "-lname", "-ilname", "-regex",
  "-iregex", "-regextype", "-type", "-xtype", "-size", "-perm", "-newer", "-anewer", "-cnewer",
  "-mtime", "-atime", "-ctime", "-mmin", "-amin", "-cmin", "-user", "-group", "-uid", "-gid",
  "-links", "-inum", "-samefile", "-maxdepth", "-mindepth", "-printf", "-fprint", "-fprint0",
  "-fls", "-used", "-fstype", "-fprintf", "-context"]

def depthOf (c : Call) (name s : Octets) : Act Nat :=
  match Octets.nat? s with
  | some n => return n
  | none =>
    c.fail 1 ("Expected a positive decimal integer argument to ".toList ++ name ++ ", but got ".toList
      ++ quoted s)

def valued (c : Call) (p : Plan) (name : String) (s : Octets) : Act Plan := do
  let word := name.toList
  let pattern : Pattern := .ofName s
  let isStuck := (s.reverse.takeWhile (· = '\\')).length % 2 = 1
  let glob (t : Test) : Plan := p.test (if isStuck then .never else t)
  let bounded (read : Octets → Option Bound) (t : Bound → Test) : Act Plan :=
    match read s with
    | some b => return p.test (t b)
    | none => badArgument c word s
  match name with
  | "-name" => return glob (.name false pattern)
  | "-iname" => return glob (.name true pattern)
  | "-path" | "-wholename" => return glob (.path false pattern)
  | "-ipath" | "-iwholename" => return glob (.path true pattern)
  | "-lname" => return glob (.target false pattern)
  | "-ilname" => return glob (.target true pattern)
  | "-regex" => return p.test (← regexTest c p false s)
  | "-iregex" => return p.test (← regexTest c p true s)
  | "-regextype" =>
    match dialects.find? (·.1.toList = s) with
    | some (d, _) => return { p.test .always with regex := d }
    | none =>
      c.fail 1 ("Unknown regular expression type ".toList ++ quoted s ++ "; valid types are ".toList
        ++ Octets.join ", ".toList (dialects.map fun (d, _) => quoted d.toList) ++ ['.'])
  | "-type" => return p.test (.kind (← kinds c word s) false)
  | "-xtype" => return p.test (.kind (← kinds c word s) true)
  | "-size" => return p.test (← sizeTest c s)
  | "-perm" => return p.test (← rightsTest c s)
  | "-newer" | "-anewer" | "-cnewer" => return p.test (← newerTest c [] s)
  | "-mtime" | "-atime" | "-ctime" => bounded timeBound? .days
  | "-mmin" | "-amin" | "-cmin" => bounded timeBound? .minutes
  | "-user" | "-group" => return p.test (← ownerTest c word s)
  | "-uid" | "-gid" => bounded bound? .owner
  | "-links" => bounded bound? .links
  | "-inum" => bounded bound? .inode
  | "-samefile" => return p.test (.same (← located c s))
  | "-maxdepth" =>
    let n ← depthOf c word s
    return { p.test .always with range := { p.range with most := some n } }
  | "-mindepth" =>
    let n ← depthOf c word s
    return { p.test .always with range := { p.range with least := n } }
  | "-printf" => return p.action (.format (← formatOf c s) none)
  | "-fprint" => return p.action (.print '\n' (← outputFile c s))
  | "-fprint0" => return p.action (.print '\x00' (← outputFile c s))
  | "-fls" => return p.action (.format longFormat (← outputFile c s))
  | "-used" =>
    if (bound? s).isNone then c.fail 1 ("Invalid argument ".toList ++ s ++ " to -used".toList)
    return p.test .never
  | "-context" => c.failText 1 "invalid predicate -context: SELinux is not enabled."
  | _ => return p.test .never

def looksLikeQuery (isLeading : Bool) (w : Octets) : Bool :=
  match w with
  | '-' :: _ :: _ => true
  | ['('] | ['!'] => true
  | [')'] | [','] => !isLeading
  | _ => false

def newerLetters? (name : Octets) : Option Octets :=
  if "-newer".toList.isPrefixOf name && name.length = 8 then some (name.drop 6) else none

def readWords (c : Call) : Nat → Octets → Plan → List Octets → Act Plan
  | 0, _, p, _ | _, _, p, [] => return p
  | fuel + 1, before, p, w :: rest => do
    let name := String.ofList w
    if !looksLikeQuery false w then
      c.complain ("paths must precede expression: \x60".toList ++ w ++ ['\''])
      if !before.isEmpty && ((← get).own? w).isSome then
        c.complain ("possible unquoted pattern after predicate \x60".toList ++ before ++ "'?".toList)
      Call.abort 1
    match alone p name with
    | some p => readWords c fuel w p rest
    | none =>
      if ["-help", "--help", "-version", "--version"].contains name then Call.abort 0
      if ["-exec", "-execdir", "-ok", "-okdir"].contains name then
        let (p, rest) ← running c p w rest
        return ← readWords c fuel w p rest
      match newerLetters? w with
      | some letters =>
        let [x, y] := letters | c.fail 1 ("invalid predicate \x60".toList ++ w ++ ['\''])
        if !"aBcm".toList.contains x || !"aBcmt".toList.contains y then
          c.fail 1 ("invalid predicate \x60".toList ++ w ++ ['\''])
        match rest with
        | s :: rest => return ← readWords c fuel w (p.test (← newerTest c letters s)) rest
        | [] => c.fail 1 ("The ".toList ++ quoted w ++ " test needs an argument".toList)
      | none => pure ()
      if !takers.contains name then c.fail 1 ("unknown predicate \x60".toList ++ w ++ ['\''])
      match name, rest with
      | "-fprintf", file :: format :: rest =>
        let file ← outputFile c file
        let p := p.action (.format (← formatOf c format) file)
        readWords c fuel w p rest
      | "-fprintf", [s] => badArgument c w s
      | _, s :: rest => readWords c fuel w (← valued c p name s) rest
      | _, [] =>
        if ["-links", "-inum", "-uid", "-gid"].contains name then badArgument c w w
        missingArgument c w

structure Given where
  range : Range
  paths : List Octets
  query : Query

def leading (c : Call) : Nat → Follows → List Octets → Act (Follows × List Octets)
  | 0, f, args | _, f, args@([]) => return (f, args)
  | fuel + 1, f, args@(w :: rest) => do
    match w with
    | ['-', 'P'] => leading c fuel .never rest
    | ['-', 'H'] => leading c fuel .named rest
    | ['-', 'L'] => leading c fuel .always rest
    | ['-', '-'] => return (f, rest)
    | '-' :: 'O' :: level =>
      if (Octets.nat? level).isNone then
        c.failText 1 "Please specify a decimal number immediately after -O"
      leading c fuel f rest
    | ['-', 'D'] =>
      match rest with
      | [] => c.failText 1 "Missing argument after the -D option."
      | flags :: rest =>
        for flag in Text.splitAt ',' flags do
          if !(["exec", "opt", "rates", "search", "stat", "time", "tree", "all", "help"].any
              (·.toList = flag)) then
            c.complain ("Ignoring unrecognised debug flag ".toList ++ quoted flag)
        leading c fuel f rest
    | _ => return (f, args)

def given (c : Call) : Act Given := do
  let (follows, args) ← leading c (c.args.length + 1) .never c.args
  let paths := args.takeWhile (!looksLikeQuery true ·)
  let words := args.drop paths.length
  let p ← readWords c (words.length + 1) [] { range := { follows } } words
  if p.hasDelete && p.hasPrune && !p.asksDeep then
    c.failText 1 ("The -delete action automatically turns on -depth, but -prune does nothing when "
      ++ "-depth is in effect.  If you want to carry on anyway, just explicitly use the -depth "
      ++ "option.")
  match query p.tokens.reverse with
  | .error text => c.fail 1 text
  | .ok query =>
    return { range := p.range, paths := if paths.isEmpty then [['.']] else paths, query }

end DeployForge.Shell.Find
