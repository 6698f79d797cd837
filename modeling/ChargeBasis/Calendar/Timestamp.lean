import ChargeBasis.Calendar.DateText

/-!
Timestamps: a date, a time of day and an offset from universal time, as in
`2024-03-31T23:30:00-05:00`. Only the date in universal time is kept.
-/

namespace ChargeBasis.Timestamp

open DateText

/-- Reads a number that has to be below a bound. -/
def bounded (bound : Nat) : Reader Nat := fun cs => do
  let (n, cs) ← twoDigits cs
  if n < bound then return (n, cs) else throw .outOfRange

/-- Skips a fraction of a second, which has to have a digit. -/
def skipFraction (cs : List Char) : Except DateTextFault (List Char) :=
  match cs with
  | '.' :: rest =>
    match rest with
    | [] => .error .prematureEnd
    | c :: _ => if c.isDigit then .ok (rest.dropWhile Char.isDigit) else .error .invalidCharacters
  | _ => .ok cs

/-- Reads a time of day in seconds; the sixtieth second of a minute counts as its last. -/
def timeOfDay : Reader Int := fun cs => do
  let (hour, cs) ← bounded 24 cs
  let ((), cs) ← mark ':' cs
  let (minute, cs) ← bounded 60 cs
  let ((), cs) ← mark ':' cs
  let (second, cs) ← bounded 61 cs
  let cs ← skipFraction cs
  return ((hour * 3600 + minute * 60 + min second 59 : Nat), cs)

/-- Reads exactly two digits. -/
def digitPair : Reader Nat
  | c :: d :: rest =>
    match Digits.toNat? [c, d] with
    | some n => .ok (n, rest)
    | none => .error .invalidCharacters
  | _ => .error .prematureEnd

/-- Reads hours and minutes east of universal time, colons and blanks between them, as
seconds. -/
def hoursMinutes : Reader Int := fun cs => do
  let (hours, cs) ← digitPair cs
  let (minutes, cs) ← digitPair (cs.dropWhile fun c => c == ':' || Text.isBlank c)
  if minutes < 60 ∧ hours < 24 then return ((hours * 3600 + minutes * 60 : Nat), cs)
  else throw .outOfRange

/-- Reads an offset: `Z`, `UTC` in any case, or a sign with hours and minutes. -/
def offset : Reader Int := fun cs =>
  let cs := Text.trimStart cs
  if Month.sameLetters (cs.take 3) ['u', 't', 'c'] then .ok (0, cs.drop 3)
  else
    match cs with
    | [] => .error .prematureEnd
    | sign :: rest =>
      if sign = 'Z' ∨ sign = 'z' then .ok (0, rest)
      else if sign = '+' then hoursMinutes rest
      else if sign = '-' ∨ sign = '\u2212' then
        (hoursMinutes rest).map fun (seconds, rest) => (-seconds, rest)
      else .error .invalidCharacters

/-- Reads a timestamp and gives its date in universal time. -/
def readUtcDate (s : String) : Except DateTextFault Date := do
  let (date, cs) ← isoDate s.toList
  let cs ←
    match cs with
    | [] => throw .prematureEnd
    | c :: rest => if c = 'T' ∨ c = 't' ∨ c = ' ' then pure rest else throw .invalidCharacters
  let (seconds, cs) ← timeOfDay cs
  let (east, cs) ← offset cs
  if !(Text.trimStart cs).isEmpty then throw .trailingInput
  let utc := seconds - east
  if utc < 0 then existing date.previous?
  else if 86400 ≤ utc then existing date.next?
  else return date

end ChargeBasis.Timestamp
