import DeployForge.Shell.Command

namespace DeployForge.Shell.Parser

structure Malformed where
  line : Nat
  text : String
  deriving DecidableEq, Repr

inductive Token where
  | endOfText
  | newline
  | operator (s : String)
  | redirection
  | word
  | keyword (s : String)
  deriving DecidableEq, Repr

def Token.text : Token → String
  | endOfText => "end of file"
  | newline => "newline"
  | operator s | keyword s => "\"" ++ s ++ "\""
  | redirection => "redirection"
  | word => "word"

def keywords : List String := [
  "!", "case", "do", "done", "elif", "else", "esac", "fi", "for", "if", "in", "then", "until",
  "while", "\x7b", "\x7d"]

def Token.endsList : Token → Bool
  | endOfText | operator ")" | operator ";;" => true
  | keyword s => ["do", "done", "elif", "else", "esac", "fi", "then", "\x7d"].contains s
  | _ => false

inductive Arrow where
  | file (mode : FileMode)
  | duplicate
  | document (stripsTabs : Bool)
  deriving DecidableEq, Repr

structure Awaited where
  key : Nat
  delimiter : Octets
  stripsTabs : Bool
  expands : Bool

structure Reader where
  rest : List Char
  line : Nat := 1
  /-- Whether the last token is to be read once more. -/
  isPushed : Bool := false
  last : Token := .endOfText
  word : Word := []
  isQuoted : Bool := false
  arrow : Arrow := .duplicate
  descriptor : Nat := 0
  awaited : List Awaited := []
  documents : List (Nat × Word) := []
  nextKey : Nat := 0
  aliases : List (Octets × Octets) := []
  /-- Aliases that are being read, each with how much text is left behind it, and whether the
  word there may be an alias as well. -/
  unfolding : List (Octets × Nat × Bool) := []

abbrev Parse := StateT Reader (Except Malformed)

def fault {α : Type} (text : String) : Parse α := do
  throw ⟨(← get).line, "Syntax error: " ++ text⟩

def exhausted {α : Type} : Parse α := fault "too deep"

def joined (n : Nat) : List Char → Nat × List Char
  | '\\' :: '\n' :: rest => joined (n + 1) rest
  | s => (n, s)

def nextRaw : Parse (Option Char) := do
  let r ← get
  match r.rest with
  | [] => return none
  | c :: rest =>
    set { r with rest }
    return some c

def next : Parse (Option Char) := do
  modify fun r =>
    let (n, rest) := joined 0 r.rest
    { r with rest, line := r.line + n }
  nextRaw

def unread (c? : Option Char) : Parse Unit :=
  match c? with
  | some c => modify fun r => { r with rest := c :: r.rest }
  | none => pure ()

def take (c : Char) : Parse Bool := do
  let d? ← next
  if d? = some c then return true
  else
    unread d?
    return false

def countLine : Parse Unit := modify fun r => { r with line := r.line + 1 }

inductive Context where
  | base
  | double
  | single
  | arithmetic
  deriving DecidableEq, Repr

structure Layer where
  context : Context
  hasInnerQuotes : Bool := false
  isPushed : Bool := false
  isDouble : Bool := false
  nesting : Nat := 0
  quotedNesting : Nat := 0
  parentheses : Nat := 0

structure Draft where
  top : Layer
  below : List Layer := []
  marks : Word := []
  isQuoted : Bool := false

namespace Draft

def add (d : Draft) (m : Mark) : Draft := { d with marks := m :: d.marks }

def push (d : Draft) (layer : Layer) : Draft := { d with top := layer, below := d.top :: d.below }

def pop (d : Draft) : Draft :=
  match d.below with
  | layer :: below => { d with top := layer, below }
  | [] => d

def quoted (d : Draft) : Draft := { d with isQuoted := true }

end Draft

def isControl (c : Char) : Bool := "!*?[=~:/-]".toList.contains c

def isSpecialParameter (c : Char) : Bool := "!#$*-?@".toList.contains c || c.isDigit

inductive Class where
  | newline
  | word
  | control
  | backslash
  | openSingle
  | openDouble
  | closeQuote
  | dollar
  | closeBrace
  | openParenthesis
  | closeParenthesis
  | backquote
  | separator
  deriving DecidableEq, Repr

def classify (context : Context) (c : Char) : Class :=
  if c = '\n' then .newline
  else
    match context with
    | .base =>
      if c = '\\' then .backslash
      else if c = '\'' then .openSingle
      else if c = '"' then .openDouble
      else if c = '\x60' then .backquote
      else if c = '$' then .dollar
      else if c = '\x7d' then .closeBrace
      else if "<>();&| \t".toList.contains c then .separator
      else .word
    | .double =>
      if c = '\\' then .backslash
      else if c = '"' then .closeQuote
      else if c = '\x60' then .backquote
      else if c = '$' then .dollar
      else if c = '\x7d' then .closeBrace
      else if isControl c then .control
      else .word
    | .single =>
      if c = '\'' then .closeQuote
      else if c = '\\' || isControl c then .control
      else .word
    | .arithmetic =>
      if c = '\\' then .backslash
      else if c = '\x60' then .backquote
      else if c = '$' then .dollar
      else if c = '\x7d' then .closeBrace
      else if c = '(' then .openParenthesis
      else if c = ')' then .closeParenthesis
      else .word

def nameFrom (test : Char → Bool) : Nat → Octets → Parse Octets
  | 0, name => return name.reverse
  | fuel + 1, name => do
    match ← next with
    | some c =>
      if test c then nameFrom test fuel (c :: name)
      else
        unread (some c)
        return name.reverse
    | none => return name.reverse

def backquoted (inQuotes : Bool) : Nat → Octets → Parse Octets
  | 0, _ => exhausted
  | fuel + 1, text => do
    match ← next with
    | none => fault "EOF in backquote substitution"
    | some '\x60' => return text.reverse
    | some '\\' =>
      match ← nextRaw with
      | none => fault "EOF in backquote substitution"
      | some c =>
        if c = '\n' then countLine
        if c = '\\' || c = '\x60' || c = '$' || inQuotes && c = '"' then
          backquoted inQuotes fuel (c :: text)
        else backquoted inQuotes fuel (c :: '\\' :: text)
    | some c =>
      if c = '\n' then countLine
      backquoted inQuotes fuel (c :: text)

/-- The delimiter of a text in the script ends it on a line of its own. -/
def atDelimiter (a : Awaited) : Parse Bool := do
  if a.stripsTabs then modify fun r => { r with rest := r.rest.dropWhile (· = '\t') }
  let r ← get
  if a.delimiter.isPrefixOf r.rest then
    match r.rest.drop a.delimiter.length with
    | [] =>
      set { r with rest := [], line := r.line + 1 }
      return true
    | '\n' :: rest =>
      set { r with rest, line := r.line + 1 }
      return true
    | _ => return false
  else return false

def modifiers : List (Char × Modifier) := [
  ('\x7d', .plain), ('-', .orDefault), ('+', .alternative), ('?', .complain), ('=', .assign)]

def modifier : Parse (Modifier × Bool × Bool) := do
  let c? ← next
  match c? with
  | some ':' =>
    let d? ← next
    return (((d?.bind (modifiers.lookup ·)).getD .malformed), true, false)
  | some '%' => return (.dropBack (← take '%'), false, true)
  | some '#' => return (.dropFront (← take '#'), false, true)
  | _ =>
    return ((c?.bind (modifiers.lookup ·)).getD .malformed, false, false)

def found (t : Token) : Parse Token := do
  modify fun r => { r with last := t }
  return t

def pushBack : Parse Unit := modify fun r => { r with isPushed := true }

def unexpected {α : Type} (wanted : Option Token) : Parse α := do
  let r ← get
  match wanted with
  | some t => fault (r.last.text ++ " unexpected (expecting " ++ t.text ++ ")")
  | none => fault (r.last.text ++ " unexpected")

structure Expectation where
  newlines : Bool := false
  keywords : Bool := false
  aliases : Bool := false
  delimiter : Bool := false

def anyCommand : Expectation := { newlines := true, keywords := true, aliases := true }

def noNewline : Expectation := { keywords := true, aliases := true }

def arrowFrom (c : Char) (number : Octets) : Parse Unit := do
  let default := if c = '>' then 1 else 0
  let arrow ← if c = '>' then do
      if ← take '>' then pure (Arrow.file .append)
      else if ← take '|' then pure (Arrow.file .clobber)
      else if ← take '&' then pure Arrow.duplicate
      else pure (Arrow.file .write)
    else do
      if ← take '<' then pure (Arrow.document (← take '-'))
      else if ← take '&' then pure Arrow.duplicate
      else if ← take '>' then pure (Arrow.file .readWrite)
      else pure (Arrow.file .read)
  modify fun r => { r with arrow, descriptor := (number.head?.map digitValue).getD default }

def skipComment : Parse Unit := modify fun r => { r with rest := r.rest.dropWhile (· ≠ '\n') }

def aliasText? (isStart : Bool) : Parse (Option Octets) := do
  let r ← get
  let left := r.rest.length
  set { r with unfolding := r.unfolding.filter fun (_, n, _) => n ≤ left }
  let isOpen := isStart || r.unfolding.any fun (_, n, continues) => left < n && continues
  let isRead (name : Octets) : Bool := r.unfolding.any fun (a, n, _) => a = name && n ≤ left
  if r.isQuoted || !isOpen || isRead r.word.bare then return none
  else return r.word.plain?.bind (r.aliases.lookup ·)

def specialNames : List String := [
  ".", ":", "break", "continue", "eval", "exec", "exit", "export", "readonly", "return", "set",
  "shift", "times", "trap", "unset"]

/-- What was read of a simple command, the latest first. -/
structure Simple where
  assignments : List Word := []
  words : List Word := []
  redirects : List Redirect := []

def inBackground (line : Nat) : Command → Command
  | .pipeline cs _ => .pipeline cs true
  | .redirected line body rs => .background line body rs
  | body => .background line body []

mutual

def scan (expects : Expectation) (awaited : Option Awaited) : Nat → Draft → Parse Draft
  | 0, _ => exhausted
  | fuel + 1, d => do
    let c? ← if d.top.context = .single then nextRaw else next
    match c? with
    | none => return d
    | some c =>
      match classify d.top.context c with
      | .newline =>
        if d.top.context = .base && d.top.nesting = 0 then
          unread c?
          return d
        countLine
        match awaited with
        | some a =>
          if ← atDelimiter a then return d.add (.plain c)
          else scan expects awaited fuel (d.add (.plain c))
        | none => scan expects awaited fuel (d.add (.plain c))
      | .word => scan expects awaited fuel (d.add (.plain c))
      | .control =>
        let m : Mark := if awaited.isNone || d.top.isDouble then .escaped c else .plain c
        scan expects awaited fuel (d.add m)
      | .backslash =>
        match ← nextRaw with
        | none => scan expects awaited fuel (d.add (.escaped '\\'))
        | some e =>
          if e = '\n' then countLine
          let keeps := d.top.isDouble && e ≠ '\\' && e ≠ '\x60' && e ≠ '$'
            && (e ≠ '"' || awaited.isSome && d.top.nesting = 0)
            && (e ≠ '\x7d' || d.top.nesting = 0)
          let d := if keeps then d.add (.escaped '\\') else d
          scan expects awaited fuel (d.add (.escaped e)).quoted
      | .openSingle =>
        let d := { d with top := { d.top with context := .single } }
        scan expects awaited fuel (if awaited.isNone then d.add .quote else d)
      | .openDouble =>
        let top := { d.top with
          context := .double
          isDouble := true
          hasInnerQuotes := d.top.hasInnerQuotes != (d.top.nesting ≠ 0) }
        let d := { d with top }
        scan expects awaited fuel (if awaited.isNone then d.add .quote else d)
      | .closeQuote =>
        if awaited.isSome && d.top.nesting = 0 then
          scan expects awaited fuel (d.add (.plain c))
        else
          let top := if d.top.quotedNesting = 0 then
              { d.top with context := .base, isDouble := false } else d.top
          let top := if c = '"' then
              { top with hasInnerQuotes := top.hasInnerQuotes != (top.nesting ≠ 0) } else top
          let d := { d with top }.quoted
          scan expects awaited fuel (if awaited.isNone then d.add .quote else d)
      | .dollar => scan expects awaited fuel (← dollar expects fuel d)
      | .closeBrace =>
        if !d.top.hasInnerQuotes && 0 < d.top.nesting then
          let top := { d.top with nesting := d.top.nesting - 1 }
          let d := { d with top }.add .endParameter
          let d :=
            if top.nesting = 0 && top.isPushed then d.pop
            else { d with top := { top with quotedNesting := top.quotedNesting - 1 } }
          scan expects awaited fuel d
        else scan expects awaited fuel (d.add (.plain c))
      | .openParenthesis =>
        let top := { d.top with parentheses := d.top.parentheses + 1 }
        scan expects awaited fuel ({ d with top }.add (.plain c))
      | .closeParenthesis =>
        if 0 < d.top.parentheses then
          let top := { d.top with parentheses := d.top.parentheses - 1 }
          scan expects awaited fuel ({ d with top }.add (.plain c))
        else if ← take ')' then scan expects awaited fuel (d.add .endArithmetic).pop
        else scan expects awaited fuel (d.add (.plain c))
      | .backquote =>
        if expects.delimiter then scan expects awaited fuel (d.add (.plain c))
        else
          let text ← backquoted d.top.isDouble fuel []
          let body ← inner fuel text
          scan expects awaited fuel (d.add (.command body))
      | .separator =>
        if d.top.nesting = 0 then
          unread c?
          return d
        else scan expects awaited fuel (d.add (.plain c))

def dollar (expects : Expectation) : Nat → Draft → Parse Draft
  | 0, _ => exhausted
  | fuel + 1, d => do
    let c? ← next
    match c? with
    | none => return d.add (.plain '$')
    | some c =>
      if expects.delimiter
          || !(c = '(' || c = '\x7b' || isNameStart c || isSpecialParameter c) then
        unread c?
        return d.add (.plain '$')
      else if c = '(' then
        if ← take '(' then
          return (d.push { context := .arithmetic, isDouble := true }).add .arithmetic
        else return d.add (.command (← substituted fuel))
      else if c = '\x7b' then
        let e? ← next
        braced fuel d e?
      else if isNameStart c then
        return d.add (.parameter (← nameFrom isNameChar fuel [c]) .plain false)
      else return d.add (.parameter [c] .plain false)

def braced : Nat → Draft → Option Char → Parse Draft
  | 0, _, _ => exhausted
  | fuel + 1, d, c? => do
    let isName := (c?.map isNameStart).getD false
    let isNumber := (c?.map Char.isDigit).getD false
    let close (name : Octets) (m : Modifier) (ifEmpty isPattern : Bool) : Parse Draft := do
      let context := if isPattern then .base else d.top.context
      let context := if context = .arithmetic then .double else context
      let d := if (context ≠ d.top.context || d.top.hasInnerQuotes) && m ≠ .plain then
          d.push { context, isPushed := true, isDouble := context ≠ .base } else d
      let d := d.add (.parameter name m ifEmpty)
      if m = .plain then return d
      else
        let top := { d.top with
          nesting := d.top.nesting + 1
          quotedNesting := d.top.quotedNesting + if d.top.isDouble then 1 else 0 }
        return { d with top }
    let rest (name : Octets) : Parse Draft := do
      let (m, ifEmpty, isPattern) ← modifier
      close name m ifEmpty isPattern
    match c? with
    | some '#' =>
      let e? ← next
      match e? with
      | some e =>
        if isNameStart e || e.isDigit then
          let name ← nameFrom (if e.isDigit then Char.isDigit else isNameChar) fuel [e]
          let f? ← next
          unread f?
          if f? = some '\x7d' then close name .length false false
          else close name .malformed false false
        else
          let f? ← next
          if e ≠ '\x7d' && f? = some '\x7d' then
            unread f?
            if isSpecialParameter e then close [e] .length false false
            else close [] .malformed false false
          else
            unread f?
            unread e?
            rest ['#']
      | none => rest ['#']
    | some c =>
      if isName then rest (← nameFrom isNameChar fuel [c])
      else if isNumber then rest (← nameFrom Char.isDigit fuel [c])
      else if isSpecialParameter c then rest [c]
      else
        if c = '\x7d' then unread c?
        close [] .malformed false false
    | none => close [] .malformed false false

def substituted : Nat → Parse Command
  | 0 => exhausted
  | fuel + 1 => do
    let before ← get
    set { before with awaited := [] }
    let body ← list true false fuel
    if (← readToken {} fuel) ≠ .operator ")" then unexpected (some (.operator ")"))
    modify fun r => { r with awaited := before.awaited, isPushed := false }
    return body.getD .skip

def inner : Nat → Octets → Parse Command
  | 0, _ => exhausted
  | fuel + 1, text => do
    let before ← get
    set { before with rest := text, line := 1, awaited := [], unfolding := [] }
    let body ← list true false fuel
    readDocuments fuel
    modify fun r => { before with documents := r.documents, nextKey := r.nextKey }
    return body.getD .skip

def readDocuments : Nat → Parse Unit
  | 0 => exhausted
  | fuel + 1 => do
    match (← get).awaited with
    | [] => return ()
    | a :: more =>
      modify fun r => { r with awaited := more }
      let context : Context := if a.expands then .double else .single
      let d ← if ← atDelimiter a then pure { top := { context } }
        else scan {} (some a) fuel { top := { context, isDouble := a.expands } }
      if d.top.nesting ≠ 0 then fault "Missing '\x7d'"
      modify fun r => { r with documents := (a.key, d.marks.reverse) :: r.documents }
      readDocuments fuel

def rawToken (expects : Expectation) : Nat → Parse Token
  | 0 => exhausted
  | fuel + 1 => do
    if (← get).isPushed then
      modify fun r => { r with isPushed := false }
      return (← get).last
    match ← next with
    | none => found .endOfText
    | some c =>
      if isBlank c then rawToken expects fuel
      else if c = '#' then
        skipComment
        rawToken expects fuel
      else if c = '\n' then
        countLine
        found .newline
      else if c = '&' then found (.operator (if ← take '&' then "&&" else "&"))
      else if c = '|' then found (.operator (if ← take '|' then "||" else "|"))
      else if c = ';' then found (.operator (if ← take ';' then ";;" else ";"))
      else if c = '(' || c = ')' then found (.operator c.toString)
      else
        unread (some c)
        let d ← scan expects none fuel { top := { context := .base } }
        if d.top.context = .arithmetic then fault "Missing '))'"
        if d.top.context ≠ .base then fault "Unterminated quoted string"
        if d.top.nesting ≠ 0 then fault "Missing '\x7d'"
        let number? : Option Octets := match d.isQuoted, d.marks with
          | false, [] => some []
          | false, [.plain n] => if n.isDigit then some [n] else none
          | _, _ => none
        let e? ← next
        match number?, e? with
        | some number, some '<' =>
          arrowFrom '<' number
          found .redirection
        | some number, some '>' =>
          arrowFrom '>' number
          found .redirection
        | _, _ =>
          unread e?
          modify fun r => { r with word := d.marks.reverse, isQuoted := d.isQuoted }
          found .word

def readToken (expects : Expectation) : Nat → Parse Token
  | 0 => exhausted
  | fuel + 1 => do
    let t ← rawToken expects fuel
    if t = .newline && expects.newlines then
      readDocuments fuel
      readToken expects fuel
    else if t ≠ .word then return t
    else
      let r ← get
      let text? := if r.isQuoted then none else r.word.plain?
      match text?.bind fun text =>
          if expects.keywords then keywords.find? (·.toList = text) else none with
      | some k => found (.keyword k)
      | none =>
        match ← aliasText? expects.aliases with
        | some text =>
          let continues := (text.getLast?.map isBlank).getD false
          modify fun r => { r with
            rest := text ++ r.rest
            unfolding := (r.word.bare, r.rest.length, continues) :: r.unfolding }
          readToken expects fuel
        | none => return .word

/-- Commands one after another. A list of its own stops at a line's end, and the list of a
substitution or of an arm may be empty. No command at all is the end of the text. -/
def list (mayBeEmpty isTop : Bool) : Nat → Parse (Option Command)
  | 0 => exhausted
  | fuel + 1 => listAfter mayBeEmpty isTop fuel none

def listAfter (mayBeEmpty isTop : Bool) : Nat → Option Command → Parse (Option Command)
  | 0, _ => exhausted
  | fuel + 1, done => do
    let t ← readToken (if isTop then noNewline else anyCommand) fuel
    match t with
    | .newline =>
      readDocuments fuel
      return some (done.getD .skip)
    | .endOfText =>
      readDocuments fuel
      pushBack
      discard (found .endOfText)
      return if isTop then done else some (done.getD .skip)
    | _ =>
      pushBack
      if !isTop && (mayBeEmpty || done.isSome) && t.endsList then return some (done.getD .skip)
      let command ← andOr fuel
      let t ← rawToken {} fuel
      let line := (← get).line
      let command := if t = .operator "&" then inBackground line command else command
      let done := match done with
        | some first => Command.sequence first command
        | none => command
      match t with
      | .endOfText =>
        readDocuments fuel
        pushBack
        discard (found .endOfText)
        return some done
      | .newline =>
        pushBack
        listAfter mayBeEmpty isTop fuel (some done)
      | .operator "&" | .operator ";" => listAfter mayBeEmpty isTop fuel (some done)
      | _ =>
        if isTop then unexpected none
        pushBack
        return some done

def andOr : Nat → Parse Command
  | 0 => exhausted
  | fuel + 1 => do andOrAfter fuel (← pipeline {} fuel)

def andOrAfter : Nat → Command → Parse Command
  | 0, _ => exhausted
  | fuel + 1, first => do
    match ← rawToken {} fuel with
    | .operator "&&" => andOrAfter fuel (.both first (← pipeline anyCommand fuel))
    | .operator "||" => andOrAfter fuel (.either first (← pipeline anyCommand fuel))
    | _ =>
      pushBack
      return first

def pipeline (expects : Expectation) : Nat → Parse Command
  | 0 => exhausted
  | fuel + 1 => do
    let isNegated := (← readToken expects fuel) = .keyword "!"
    if !isNegated then pushBack
    let first ← command (if isNegated then noNewline else {}) fuel
    let more ← piped fuel
    let whole := if more.isEmpty then first else .pipeline (first :: more) false
    return if isNegated then .negated whole else whole

def piped : Nat → Parse (List Command)
  | 0 => exhausted
  | fuel + 1 => do
    if (← rawToken {} fuel) = .operator "|" then
      let c ← command anyCommand fuel
      return c :: (← piped fuel)
    else
      pushBack
      return []

def listBefore (t : Token) : Nat → Parse Command
  | 0 => exhausted
  | fuel + 1 => do
    let body ← list false false fuel
    if (← readToken {} fuel) ≠ t then unexpected (some t)
    return body.getD .skip

def branches : Nat → Parse Command
  | 0 => exhausted
  | fuel + 1 => do
    let test ← listBefore (.keyword "then") fuel
    let whenTrue ← list false false fuel
    match ← readToken {} fuel with
    | .keyword "elif" => return .choice test (whenTrue.getD .skip) (← branches fuel)
    | .keyword "else" =>
      let whenFalse ← list false false fuel
      return .choice test (whenTrue.getD .skip) (whenFalse.getD .skip)
    | _ =>
      pushBack
      return .choice test (whenTrue.getD .skip) .skip

def wordsFrom : Nat → Parse (List Word)
  | 0 => exhausted
  | fuel + 1 => do
    if (← readToken {} fuel) = .word then
      let w := (← get).word
      return w :: (← wordsFrom fuel)
    else return []

def patterns : Nat → Parse (List Word)
  | 0 => exhausted
  | fuel + 1 => do
    let w := (← get).word
    if (← readToken {} fuel) = .operator "|" then
      discard (readToken {} fuel)
      return w :: (← patterns fuel)
    else return [w]

def arms : Nat → Parse (List (List Word × Command))
  | 0 => exhausted
  | fuel + 1 => do
    let expects : Expectation := { newlines := true, keywords := true }
    match ← readToken expects fuel with
    | .keyword "esac" => return []
    | t =>
      if t = .operator "(" then discard (readToken {} fuel)
      let ps ← patterns fuel
      if (← get).last ≠ .operator ")" then unexpected (some (.operator ")"))
      let body := (← list true false fuel).getD .skip
      match ← readToken expects fuel with
      | .keyword "esac" => return [(ps, body)]
      | .operator ";;" => return (ps, body) :: (← arms fuel)
      | _ => unexpected (some (.operator ";;"))

def redirection : Nat → Parse Redirect
  | 0 => exhausted
  | fuel + 1 => do
    let r ← get
    let isDocument := match r.arrow with
      | .document _ => true
      | _ => false
    if (← readToken { delimiter := isDocument } fuel) ≠ .word then unexpected none
    let w := (← get).word
    match r.arrow with
    | .file mode => return .file r.descriptor mode w
    | .duplicate => return .duplicate r.descriptor w
    | .document stripsTabs =>
      let after ← get
      let key := after.nextKey
      let expands := !after.isQuoted
      let awaited : Awaited := { key, delimiter := w.bare, stripsTabs, expands }
      set { after with nextKey := key + 1, awaited := after.awaited ++ [awaited] }
      return .document r.descriptor key expands

def redirections : Nat → Parse (List Redirect)
  | 0 => exhausted
  | fuel + 1 => do
    if (← readToken noNewline fuel) = .redirection then
      let r ← redirection fuel
      return r :: (← redirections fuel)
    else
      pushBack
      return []

def command (expects : Expectation) : Nat → Parse Command
  | 0 => exhausted
  | fuel + 1 => do
    let line := (← get).line
    let finish (c : Command) : Parse Command := do
      let rs ← redirections fuel
      match c with
      | .nested line body _ => return .nested line body rs
      | _ => return if rs.isEmpty then c else .redirected line c rs
    let close (t : Token) (c : Command) : Parse Command := do
      if (← readToken {} fuel) ≠ t then unexpected (some t)
      finish c
    let t ← readToken expects fuel
    match t with
    | .keyword "if" => close (.keyword "fi") (← branches fuel)
    | .keyword "while" | .keyword "until" =>
      let test ← listBefore (.keyword "do") fuel
      let body ← list false false fuel
      close (.keyword "done") (.loop test (t = .keyword "until") (body.getD .skip))
    | .keyword "for" =>
      let isWord := (← readToken {} fuel) = .word
      let r ← get
      let name := r.word.bare
      if !isWord || r.isQuoted || !((r.word.plain?.map Word.isName).getD false) then
        fault "Bad for loop variable"
      let words ← if (← readToken anyCommand fuel) = .keyword "in" then do
          let ws ← wordsFrom fuel
          let last := (← get).last
          if last ≠ .newline && last ≠ .operator ";" then unexpected none
          if last = .newline then readDocuments fuel
          pure ws
        else do
          if (← get).last ≠ .operator ";" then pushBack
          pure [[.quote, .parameter ['@'] .plain false, .quote]]
      if (← readToken anyCommand fuel) ≠ .keyword "do" then unexpected (some (.keyword "do"))
      let body ← list false false fuel
      close (.keyword "done") (.each line name words (body.getD .skip))
    | .keyword "case" =>
      if (← readToken {} fuel) ≠ .word then unexpected (some .word)
      let w := (← get).word
      if (← readToken anyCommand fuel) ≠ .keyword "in" then unexpected (some (.keyword "in"))
      finish (.select line w (← arms fuel))
    | .operator "(" =>
      let body ← list false false fuel
      close (.operator ")") (.nested line (body.getD .skip) [])
    | .keyword "\x7b" =>
      let body ← list false false fuel
      close (.keyword "\x7d") (body.getD .skip)
    | .word | .redirection =>
      pushBack
      simple (← get).line fuel {} true
    | _ => unexpected none

def simple (line : Nat) : Nat → Simple → Bool → Parse Command
  | 0, _, _ => exhausted
  | fuel + 1, done, isOpen => do
    match ← readToken { aliases := isOpen && !(← get).isPushed } fuel with
    | .word =>
      let w := (← get).word
      if isOpen && w.isAssignment then
        simple line fuel { done with assignments := w :: done.assignments } true
      else simple line fuel { done with words := w :: done.words } false
    | .redirection =>
      let r ← redirection fuel
      simple line fuel { done with redirects := r :: done.redirects } isOpen
    | t =>
      match t, done with
      | .operator "(", { assignments := [], words := [w], redirects := [] } =>
        if (← readToken {} fuel) ≠ .operator ")" then unexpected (some (.operator ")"))
        let name := w.bare
        if !(w.plain?.map Word.isName).getD false || specialNames.contains (String.ofList name) then
          fault "Bad function name"
        let at_ := (← get).line
        return .define at_ name (← command anyCommand fuel)
      | _, _ =>
        pushBack
        return .simple line done.assignments.reverse done.words.reverse done.redirects.reverse

end

def depth (r : Reader) : Nat := 8 * r.rest.length + 100000

def next? (r : Reader) : Except Malformed (Option Command × Reader) :=
  (list false true (depth r)).run { r with isPushed := false, awaited := [] }

def quoted (r : Reader) : Except Malformed (Word × Reader) :=
  (do
    let never : Awaited := { key := 0, delimiter := ['\n'], stripsTabs := false, expands := true }
    let d ← scan {} (some never) (depth r)
      { top := { context := .double, isDouble := true } }
    return d.marks.reverse : Parse Word).run r

end DeployForge.Shell.Parser
