import PageBuild.Number.Binary64
import PageBuild.Text.Blank
import PageBuild.Text.Digit

/-! Floating-point numbers written by people: blanks around them, digits of any script, single
underscores between digits, and the words for infinity and for no number. -/
namespace PageBuild.Binary64

/-- Outside ASCII, a digit is read as its ASCII form and a blank as a space; no other character
is part of a number. -/
def toAscii (c : Char) : Char :=
  if c.toNat < 0x80 then c
  else if Text.isBlank c then ' '
  else match Text.digitValue? c with
    | some n => Nat.digitChar n
    | none => '?'

def isAsciiSpace (c : Char) : Bool := (9 ≤ c.toNat && c.toNat ≤ 13) || c = ' '

def isAsciiDigit (c : Char) : Bool := '0' ≤ c && c ≤ '9'

/-- Drops the underscores, each of which must stand between two digits. -/
def dropUnderscores? : (previous : Char) → List Char → Option (List Char)
  | _, [] => some []
  | previous, '_' :: next :: rest =>
    if isAsciiDigit previous && isAsciiDigit next then
      (dropUnderscores? next rest).map (next :: ·)
    else none
  | _, c :: rest =>
    if c = '_' then none
    else (dropUnderscores? c rest).map (c :: ·)

/-- An exponent that ends the number: its value, zero if there is none. -/
def exponentValue? : List Char → Option Int
  | [] => some 0
  | mark :: rest =>
    if mark = 'e' || mark = 'E' then
      let (negative, digits) := match rest with
        | '-' :: more => (true, more)
        | '+' :: more => (false, more)
        | _ => (false, rest)
      if digits.isEmpty || !digits.all isAsciiDigit then none
      else
        let e : Int := Text.natOfDigits digits
        some (if negative then -e else e)
    else none

def decimal? (negative : Bool) (s : List Char) : Option Binary64 := do
  let whole := s.takeWhile isAsciiDigit
  let rest := s.drop whole.length
  let fraction := match rest with
    | '.' :: more => more.takeWhile isAsciiDigit
    | _ => []
  let rest := match rest with
    | '.' :: more => more.drop fraction.length
    | _ => rest
  if whole.isEmpty && fraction.isEmpty then none
  let e ← exponentValue? rest
  return ofDecimal negative (Text.natOfDigits (whole ++ fraction)) (e - fraction.length)

def ofText? (s : String) : Option Binary64 := do
  let plain ← dropUnderscores? ' ' (Text.trim isAsciiSpace (s.toList.map toAscii))
  let (negative, body) := match plain with
    | '-' :: more => (true, more)
    | '+' :: more => (false, more)
    | _ => (false, plain)
  let word := String.ofList (body.map Char.toLower)
  if word = "inf" || word = "infinity" then return .infinite negative
  if word = "nan" then return .nan
  decimal? negative body

end PageBuild.Binary64
