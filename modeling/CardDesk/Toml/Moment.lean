import CardDesk.Moment
import CardDesk.Toml.Text

namespace CardDesk.Toml

open Scan

def fixedNumber (count low high : Nat) : Scan Nat := do
  let n := Literal.digitsValue 10 Literal.decimalDigit (← exactly Char.isDigit count)
  if low ≤ n && n ≤ high then return n else failure

def date : Scan Date := do
  let year ← fixedNumber 4 0 9999
  char '-'
  let month ← fixedNumber 2 1 12
  char '-'
  let day ← fixedNumber 2 1 (daysOf year month)
  return ⟨year, month, day⟩

def nanoseconds : Scan Nat := do
  char '.'
  let cs ← some1 Char.isDigit
  let nine := cs.take 9
  return Literal.digitsValue 10 Literal.decimalDigit nine * Nat.pow 10 (9 - nine.length)

def time : Scan TimeOfDay := do
  let hour ← fixedNumber 2 0 23
  char ':'
  let minute ← fixedNumber 2 0 59
  char ':'
  let second ← fixedNumber 2 0 60
  let nanosecond ← nanoseconds <|> pure 0
  return ⟨hour, minute, second, nanosecond⟩

def offset : Scan UtcOffset :=
  (one (fun c => c = 'Z' || c = 'z') *> pure .universal) <|> do
    let s ← one fun c => c = '+' || c = '-'
    let hour ← fixedNumber 2 0 23
    char ':'
    let minute ← fixedNumber 2 0 59
    let n : Int := hour * 60 + minute
    return .minutes (if s = '-' then -n else n)

def moment : Scan Moment :=
  (do
    let d ← date
    (do
      let _ ← one fun c => c = 'T' || c = 't' || c = ' '
      let t ← time
      let o ← (do return some (← offset)) <|> pure none
      return .dateTime d t o) <|> pure (.date d)) <|>
  (do return .time (← time))

end CardDesk.Toml
