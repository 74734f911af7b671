import ScriptReplay.Text.Blank

namespace ScriptReplay.Instant

def nanosPerSecond : Int := 1000000000

def secondsPerDay : Int := 86400

def dateOfDay (day : Int) : Int × Int × Int :=
  let shifted := day + 719468
  let era := shifted.fdiv 146097
  let dayOfEra := shifted - era * 146097
  let yearOfEra := (dayOfEra - dayOfEra / 1460 + dayOfEra / 36524 - dayOfEra / 146096) / 365
  let dayOfYear := dayOfEra - (365 * yearOfEra + yearOfEra / 4 - yearOfEra / 100)
  let monthFromMarch := (5 * dayOfYear + 2) / 153
  let day := dayOfYear - (153 * monthFromMarch + 2) / 5 + 1
  let month := if monthFromMarch < 10 then monthFromMarch + 3 else monthFromMarch - 9
  let year := yearOfEra + era * 400
  (if month ≤ 2 then year + 1 else year, month, day)

def padded (width n : Nat) : Text :=
  let digits := Nat.toDigits 10 n
  List.replicate (width - digits.length) '0' ++ digits

def fraction (nanos : Nat) : Text :=
  if nanos = 0 then []
  else if nanos % 1000000 = 0 then '.' :: padded 3 (nanos / 1000000)
  else if nanos % 1000 = 0 then '.' :: padded 6 (nanos / 1000)
  else '.' :: padded 9 nanos

def text (nanos : Int) : Text :=
  let seconds := nanos.fdiv nanosPerSecond
  let day := seconds.fdiv secondsPerDay
  let second := (seconds - day * secondsPerDay).toNat
  let (year, month, dayOfMonth) := dateOfDay day
  padded 4 year.toNat ++ '-' :: padded 2 month.toNat ++ '-' :: padded 2 dayOfMonth.toNat ++
    'T' :: padded 2 (second / 3600) ++ ':' :: padded 2 (second / 60 % 60) ++
    ':' :: padded 2 (second % 60) ++ fraction (nanos - seconds * nanosPerSecond).toNat ++ ['Z']

end ScriptReplay.Instant
