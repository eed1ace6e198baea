import DeployForge.Shell.Octets

/-! Moments in seconds since the start of 1970, and how they are read and shown. -/

namespace DeployForge.Shell.Calendar

/-- A moment that counts as the present. -/
def present : Int := 1760000000

structure Date where
  year : Int
  month : Nat
  day : Nat
  deriving DecidableEq, Repr

/-- Days since the start of 1970. The year is taken to begin in March. -/
def Date.number (d : Date) : Int :=
  let year := if d.month ≤ 2 then d.year - 1 else d.year
  let era := year.fdiv 400
  let inEra := year - era * 400
  let month : Int := (d.month + 9) % 12
  let inYear := (153 * month + 2) / 5 + d.day - 1
  era * 146097 + inEra * 365 + inEra / 4 - inEra / 100 + inYear - 719468

def Date.ofNumber (n : Int) : Date :=
  let n := n + 719468
  let era := n.fdiv 146097
  let inEra := n - era * 146097
  let years := (inEra - inEra / 1460 + inEra / 36524 - inEra / 146096) / 365
  let inYear := inEra - (365 * years + years / 4 - years / 100)
  let month := (5 * inYear + 2) / 153
  let day := inYear - (153 * month + 2) / 5 + 1
  let month := if month < 10 then month + 3 else month - 9
  let year := years + era * 400 + if month ≤ 2 then 1 else 0
  ⟨year, month.toNat, day.toNat⟩

structure Moment where
  date : Date
  second : Nat
  deriving DecidableEq, Repr

namespace Moment

def ofSeconds (t : Int) : Moment := ⟨.ofNumber (t.fdiv 86400), (t.fmod 86400).toNat⟩

def seconds (m : Moment) : Int := m.date.number * 86400 + m.second

def hour (m : Moment) : Nat := m.second / 3600

def minute (m : Moment) : Nat := m.second / 60 % 60

def weekday (m : Moment) : Nat := ((m.date.number + 4).fmod 7).toNat

def yearDay (m : Moment) : Nat := (m.date.number - (Date.mk m.date.year 1 1).number).toNat

end Moment

def months : List String := [
  "January", "February", "March", "April", "May", "June", "July", "August", "September",
  "October", "November", "December"]

def weekdays : List String :=
  ["Sunday", "Monday", "Tuesday", "Wednesday", "Thursday", "Friday", "Saturday"]

def short (s : String) : Octets := s.toList.take 3

/-- The week of the year and the year it belongs to, where weeks begin on Monday and the first one
has four days at least. -/
def isoWeek (m : Moment) : Int × Nat :=
  let weekday := (m.weekday + 6) % 7
  let thursday := Moment.ofSeconds (m.seconds + 86400 * (3 - (weekday : Int)))
  (thursday.date.year, thursday.yearDay / 7 + 1)

structure Filling where
  fill : Option Char := some '0'
  upper : Bool := false
  width : Option Nat := none

def Filling.number (f : Filling) (fill : Char) (width : Nat) (n : Int) : Octets :=
  let digits := Octets.ofNat n.natAbs
  let width := f.width.getD width
  let sign : Octets := if n < 0 then ['-'] else []
  match f.fill with
  | none => sign ++ digits
  | some c =>
    let c := if c = '0' then fill else c
    sign ++ Octets.padLeft (if c = '+' then '0' else c) (width - sign.length) digits

def Filling.text (f : Filling) (s : Octets) : Octets :=
  let s := if f.upper then Octets.toUpper s else s
  Octets.padLeft ' ' (f.width.getD 0) s

def format (m : Moment) : Nat → Octets → Octets
  | 0, _ | _, [] => []
  | fuel + 1, '%' :: rest =>
    let marks := rest.takeWhile ("-_0^#+".toList.contains ·)
    let after := rest.drop marks.length
    let digits := after.takeWhile Char.isDigit
    let after := after.drop digits.length
    let after := if after.head? = some 'E' || after.head? = some 'O' then after.tail else after
    let f : Filling := {
      fill := if marks.contains '-' then none else if marks.contains '_' then some ' ' else some '0'
      upper := marks.contains '^'
      width := if digits.isEmpty then none else some (Octets.nat digits) }
    let n := f.number '0'
    let twelve := if m.hour % 12 = 0 then 12 else m.hour % 12
    match after with
    | [] => '%' :: rest
    | c :: after =>
      let nested (s : String) : Octets := f.text (format m fuel s.toList)
      let shown : Octets := match c with
        | '%' => ['%']
        | 'n' => ['\n']
        | 't' => ['\t']
        | 'Y' => n 4 m.date.year
        | 'C' => n 2 (m.date.year.fdiv 100)
        | 'y' => n 2 (m.date.year.fmod 100)
        | 'm' => n 2 m.date.month
        | 'd' => n 2 m.date.day
        | 'e' => f.number ' ' 2 m.date.day
        | 'H' => n 2 m.hour
        | 'k' => f.number ' ' 2 m.hour
        | 'I' => n 2 twelve
        | 'l' => f.number ' ' 2 twelve
        | 'M' => n 2 m.minute
        | 'S' => n 2 ((m.second % 60 : Nat) : Int)
        | 'N' => n 9 0
        | 's' => n 1 m.seconds
        | 'j' => n 3 (m.yearDay + 1)
        | 'u' => n 1 (if m.weekday = 0 then 7 else m.weekday)
        | 'w' => n 1 m.weekday
        | 'q' => n 1 ((m.date.month + 2) / 3 : Nat)
        | 'a' => f.text (short (weekdays[m.weekday]?.getD ""))
        | 'A' => f.text (weekdays[m.weekday]?.getD "").toList
        | 'b' | 'h' => f.text (short (months[m.date.month - 1]?.getD ""))
        | 'B' => f.text (months[m.date.month - 1]?.getD "").toList
        | 'p' => f.text (if m.hour < 12 then "AM".toList else "PM".toList)
        | 'P' => f.text (if m.hour < 12 then "am".toList else "pm".toList)
        | 'F' => nested "%Y-%m-%d"
        | 'D' | 'x' => nested "%m/%d/%y"
        | 'T' | 'X' => nested "%H:%M:%S"
        | 'R' => nested "%H:%M"
        | 'r' => nested "%I:%M:%S %p"
        | 'c' => nested "%a %b %e %H:%M:%S %Y"
        | 'Z' => f.text "UTC".toList
        | 'z' => "+0000".toList
        | 'G' => n 4 (isoWeek m).1
        | 'g' => n 2 ((isoWeek m).1.fmod 100)
        | 'V' => n 2 (isoWeek m).2
        | 'U' => n 2 ((m.yearDay + 7 - m.weekday) / 7 : Nat)
        | 'W' => n 2 ((m.yearDay + 7 - (m.weekday + 6) % 7) / 7 : Nat)
        | ':' => if after.head? = some 'z' then "+00:00".toList else '%' :: rest
        | _ => '%' :: rest.take (rest.length - after.length)
      let after := if c = ':' then after.drop 1 else after
      shown ++ format m fuel after
  | fuel + 1, c :: rest => c :: format m fuel rest

def shown (m : Moment) (s : Octets) : Octets := format m (s.length + 8) s

def numbers (mark : Char) (s : Octets) : Option (List Nat) := (Text.splitAt mark s).mapM Octets.nat?

def date? (year month day : Nat) : Option Date :=
  let d : Date := ⟨year, month, day⟩
  if 1 ≤ month && month ≤ 12 && 1 ≤ day && Date.ofNumber d.number = d then some d else none

def time? (s : Octets) : Option Nat := do
  let s := if s.getLast? = some 'Z' then s.dropLast else s
  let whole := s.takeWhile (· ≠ '.')
  match ← numbers ':' whole with
  | [h, m] => if h < 24 && m < 60 then some (h * 3600 + m * 60) else none
  | [h, m, s] => if h < 24 && m < 60 && s < 61 then some (h * 3600 + m * 60 + s) else none
  | _ => none

def unit? (s : Octets) : Option Int :=
  let s := if s.length > 1 && s.getLast? = some 's' then s.dropLast else s
  match String.ofList s with
  | "second" | "sec" => some 1
  | "minute" | "min" => some 60
  | "hour" => some 3600
  | "day" => some 86400
  | "week" => some 604800
  | "fortnight" => some 1209600
  | _ => none

structure Given where
  date : Option Date := none
  time : Option Nat := none
  shift : Int := 0
  months : Int := 0

def addMonths (d : Date) (n : Int) : Date :=
  let month := (d.month : Int) - 1 + n
  let first : Date := ⟨d.year + month.fdiv 12, (month.fmod 12).toNat + 1, 1⟩
  .ofNumber (first.number + d.day - 1)

def monthOf? (s : Octets) : Option Nat :=
  (months.findIdx? fun m => Octets.toLower m.toList = s || Octets.toLower (short m) = s).map (· + 1)

def isWeekday (w : Octets) : Bool :=
  let w := w.filter (· ≠ ',')
  weekdays.any fun d => Octets.toLower d.toList = w || Octets.toLower (short d) = w

def halfDay (t : Nat) : List Octets → Nat × List Octets
  | ['a', 'm'] :: rest => (if t / 3600 = 12 then t - 43200 else t, rest)
  | ['p', 'm'] :: rest => (if t / 3600 < 12 then t + 43200 else t, rest)
  | rest => (t, rest)

def readWords : Nat → List Octets → Given → Option Given
  | 0, _, _ => none
  | _, [], g => some g
  | fuel + 1, w :: ws, g =>
    let go := readWords fuel
    let amount (n : Int) (unit : Octets) (rest : List Octets) : Option Given := do
      let (n, rest) := if rest.head? = some "ago".toList then (-n, rest.tail) else (n, rest)
      let plain := if unit.length > 1 && unit.getLast? = some 's' then unit.dropLast else unit
      if plain = "month".toList then go rest { g with months := g.months + n }
      else if plain = "year".toList then go rest { g with months := g.months + 12 * n }
      else go rest { g with shift := g.shift + n * (← unit? unit) }
    match String.ofList w with
    | "now" | "today" | "utc" | "z" | "gmt" | "+0000" => go ws g
    | "yesterday" => go ws { g with shift := g.shift - 86400 }
    | "tomorrow" => go ws { g with shift := g.shift + 86400 }
    | "next" | "last" =>
      let unit := ws.headD []
      if isWeekday unit then go ws.tail g
      else amount (if w = "next".toList then 1 else -1) unit ws.tail
    | _ =>
      if w.contains ':' then do
        let (t, ws) := halfDay (← time? w) ws
        go ws { g with time := some t }
      else if 1 < w.countP (· = '-') && w.head? ≠ some '-' then
        match numbers '-' w with
        | some [y, m, d] => do go ws { g with date := ← date? y m d }
        | _ => none
      else if w.contains '/' then
        match numbers '/' w with
        | some [m, d, y] => do go ws { g with date := ← date? y m d }
        | some [m, d] => do go ws { g with date := ← date? 2025 m d }
        | _ => none
      else
        match Octets.int? w with
        | some n =>
          match ws with
          | unit :: rest =>
            if (unit = "am".toList || unit = "pm".toList) && 1 ≤ n && n ≤ 12 then
              let (t, rest) := halfDay (n.toNat * 3600) ws
              go rest { g with time := some t }
            else if (monthOf? unit).isSome then
              match monthOf? unit, rest with
              | some m, y :: rest => do
                go rest { g with date := ← date? (← Octets.nat? y) m n.toNat }
              | _, _ => none
            else amount n unit rest
          | [] =>
            if w.length = 8 && w.all Char.isDigit then do
              let d ← date? (Octets.nat (w.take 4)) (Octets.nat ((w.drop 4).take 2))
                (Octets.nat (w.drop 6))
              go ws { g with date := some d }
            else none
        | none =>
          match monthOf? w, ws with
          | some m, d :: y :: rest => do
            let d ← Octets.nat? (d.filter (· ≠ ','))
            go rest { g with date := ← date? (← Octets.nat? y) m d }
          | _, _ =>
            if isWeekday w then go ws g
            else
              match unit? w with
              | some _ => amount 1 w ws
              | none => none

def read? (s : Octets) : Option Int :=
  match s.dropWhile isSpace with
  | '@' :: n => Octets.int? (n.takeWhile (· ≠ '.'))
  | s =>
    let s := Octets.toLower s
    let spaced := (s.zip ('x' :: s)).flatMap fun (c, before) =>
      if c.isAlpha && before.isDigit then if c = 't' then [' '] else [' ', c] else [c]
    let words := (Text.splitAt ' ' (spaced.map fun c => if isSpace c then ' ' else c)).filter
      (!·.isEmpty)
    (readWords (words.length + 1) words {}).map fun g =>
      let now := Moment.ofSeconds present
      let date := addMonths (g.date.getD now.date) g.months
      let second := match g.time, g.date with
        | some t, _ => t
        | none, some _ => 0
        | none, none => if words.isEmpty then 0 else now.second
      (Moment.mk date second).seconds + g.shift

def stamp? (s : Octets) : Option Int := do
  let (digits, seconds) ← match Octets.cut? '.' s with
    | some (a, b) => if b.length = 2 then (Octets.nat? b).map (a, ·) else none
    | none => some (s, 0)
  if !digits.all Char.isDigit then none
  let year ← match digits.length with
    | 12 => some (Octets.nat (digits.take 4))
    | 10 =>
      let y := Octets.nat (digits.take 2)
      some (if y < 69 then 2000 + y else 1900 + y)
    | 8 => some 2025
    | _ => none
  let rest := digits.drop (digits.length - 8)
  let two (n : Nat) : Nat := Octets.nat ((rest.drop n).take 2)
  let date ← date? year (two 0) (two 2)
  if two 4 < 24 && two 6 < 60 then
    some (Moment.mk date (two 4 * 3600 + two 6 * 60 + seconds)).seconds
  else none

end DeployForge.Shell.Calendar
