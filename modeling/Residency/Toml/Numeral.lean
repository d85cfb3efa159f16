import Residency.Toml

namespace Residency.Toml

def endsRun (c : Char) : Bool :=
  [' ', '\t', '\n', '\r', '#', ',', ']', '\x7d'].contains c

def isAsciiDigit (c : Char) : Bool := '0' ≤ c && c ≤ '9'

def hexDigit? (c : Char) : Option Nat :=
  if isAsciiDigit c then some (c.toNat - 48)
  else if 'a' ≤ c ∧ c ≤ 'f' then some (c.toNat - 87)
  else if 'A' ≤ c ∧ c ≤ 'F' then some (c.toNat - 55)
  else none

def baseDigit? (base : Nat) (c : Char) : Option Nat :=
  (hexDigit? c).bind fun d => if d < base then some d else none

/-- The digits that make up a text with single underscores between them. The flag tells whether
the character before is a digit. -/
def digitsAfter? (base : Nat) : (afterDigit : Bool) → List Char → Option (List Nat)
  | afterDigit, [] => if afterDigit then some [] else none
  | afterDigit, c :: s =>
      if c = '_' then if afterDigit then digitsAfter? base false s else none
      else (baseDigit? base c).bind fun d => (digitsAfter? base true s).map (d :: ·)

def digits? (base : Nat) (s : List Char) : Option (List Nat) :=
  digitsAfter? base false s

def ofDigits (base : Nat) (ds : List Nat) : Nat :=
  ds.foldl (fun n d => base * n + d) 0

/-- The digits of a numeral in base ten: no other digit follows a zero at the front. -/
def wholeDigits? (s : List Char) : Option (List Nat) :=
  match digits? 10 s with
  | some (0 :: _ :: _) => none
  | ds => ds

def isGroupChar (c : Char) : Bool :=
  isAsciiDigit c || c = '_'

def exponent? : List Char → Option Int
  | [] => some 0
  | c :: s =>
      if c = 'e' ∨ c = 'E' then
        let (negative, body) := Number.takeSign s
        (digits? 10 body).map fun ds =>
          if negative then -(ofDigits 10 ds : Int) else ofDigits 10 ds
      else none

def float? (negative : Bool) (s : List Char) : Option Number.Binary64 :=
  if s = ['i', 'n', 'f'] then some (.infinite negative)
  else if s = ['n', 'a', 'n'] then some .nan
  else
    let rest := s.dropWhile isGroupChar
    (wholeDigits? (s.takeWhile isGroupChar)).bind fun whole =>
      match rest with
      | '.' :: t =>
          (digits? 10 (t.takeWhile isGroupChar)).bind fun fraction =>
            (exponent? (t.dropWhile isGroupChar)).map fun e =>
              .ofDecimal negative (ofDigits 10 (whole ++ fraction)) (e - fraction.length)
      | _ => (exponent? rest).map fun e => .ofDecimal negative (ofDigits 10 whole) e

def decimalNumber? (s : List Char) : Option Toml :=
  let (negative, body) := Number.takeSign s
  match wholeDigits? body with
  | some ds =>
      if Number.maxDigits < ds.length then none
      else some (.int (if negative then -(ofDigits 10 ds : Int) else ofDigits 10 ds))
  | none => (float? negative body).map .float

/-- The number of a run of characters. Letters after a zero announce another base than ten; such a
numeral has no sign. -/
def number? : List Char → Option Toml
  | '0' :: 'x' :: s => (digits? 16 s).map fun ds => .int (ofDigits 16 ds)
  | '0' :: 'o' :: s => (digits? 8 s).map fun ds => .int (ofDigits 8 ds)
  | '0' :: 'b' :: s => (digits? 2 s).map fun ds => .int (ofDigits 2 ds)
  | s => decimalNumber? s

def twoDigits? : List Char → Option (Nat × List Char)
  | a :: b :: s =>
      if isAsciiDigit a && isAsciiDigit b then some (10 * (a.toNat - 48) + (b.toNat - 48), s)
      else none
  | _ => none

def isLeapYear (year : Nat) : Bool :=
  year % 4 = 0 && (year % 100 ≠ 0 || year % 400 = 0)

def daysInMonth (year month : Nat) : Nat :=
  if month = 2 then if isLeapYear year then 29 else 28
  else if [4, 6, 9, 11].contains month then 30
  else 31

def readDate (s : List Char) : Option (Date × List Char) :=
  match twoDigits? s with
  | none => none
  | some (century, t) => match twoDigits? t with
    | some (ofCentury, '-' :: t) => match twoDigits? t with
      | some (month, '-' :: t) => match twoDigits? t with
        | some (day, rest) =>
            let year := 100 * century + ofCentury
            if year < 1 ∨ month < 1 ∨ 12 < month ∨ day < 1 ∨ daysInMonth year month < day then none
            else some (⟨year, month, day⟩, rest)
        | none => none
      | _ => none
    | _ => none

def microseconds (ds : List Char) : Nat :=
  Nat.ofDigitChars 10 ((ds ++ List.replicate 6 '0').take 6) 0

def readTime (s : List Char) : Option (ClockTime × List Char) :=
  match twoDigits? s with
  | some (hour, ':' :: t) => match twoDigits? t with
    | some (minute, u) =>
        if 23 < hour ∨ 59 < minute then none
        else match u with
          | ':' :: v => match twoDigits? v with
            | some (second, w) =>
                if 59 < second then none
                else match w with
                  | '.' :: x =>
                      let ds := x.takeWhile isAsciiDigit
                      if ds.isEmpty then none
                      else some (⟨hour, minute, second, microseconds ds⟩, x.drop ds.length)
                  | _ => some (⟨hour, minute, second, 0⟩, w)
            | none => none
          | _ => some (⟨hour, minute, 0, 0⟩, u)
    | none => none
  | _ => none

def readZone : List Char → Option (Option TimeZone)
  | [] => some none
  | ['Z'] | ['z'] => some (some ⟨0, "UTC"⟩)
  | c :: s =>
      if c = '+' ∨ c = '-' then
        match twoDigits? s with
        | some (hour, ':' :: t) => match twoDigits? t with
          | some (minute, []) =>
              if 23 < hour ∨ 59 < minute then none
              else
                let seconds : Int := hour * 3600 + minute * 60
                some (some ⟨if c = '-' then -seconds else seconds, String.ofList (c :: s)⟩)
          | _ => none
        | _ => none
      else none

def readTimeAfterDate : List Char → Option (ClockTime × Option TimeZone)
  | [] => none
  | c :: s =>
      if c = 'T' ∨ c = 't' ∨ c = ' ' then
        (readTime s).bind fun (clock, rest) => (readZone rest).map fun zone => (clock, zone)
      else none

def moment? (s : List Char) : Option Toml :=
  match readDate s with
  | some (d, []) => some (.date d)
  | some (d, rest) => (readTimeAfterDate rest).map fun (clock, zone) => .dateTime d clock zone
  | none => match readTime s with
    | some (clock, []) => some (.time clock)
    | _ => none

example : (number? "0xFF_ff".toList).map shown = some "65535".toList := by decide +kernel

example : (number? "-1_0.5e-1".toList).map shown = some "-1.05".toList := by decide +kernel

example : (["01", "1__0", "+0x1", ".5", "5.", "1e", "-NaN"].filterMap fun s =>
    (number? s.toList).map shown) = [] := by decide +kernel

end Residency.Toml
