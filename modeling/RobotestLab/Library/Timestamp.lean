import Mathlib.Algebra.Group.Nat.Defs
import Mathlib.Data.List.DropRight
import Mathlib.Tactic.Common

/-!
# Timestamps of RFC 3339

A moment of the proleptic Gregorian calendar in UTC, down to the nanosecond (`Utc`), its text with
the trailing zeros of the fraction left out (`Utc.format`), and the reader of such texts
(`isTimestamp`). The reader accepts what is written (`isTimestamp_format`).
-/

/-! ### Digits -/

/-- The last `width` decimal digits of a number. -/
def decimalDigits : Nat → Nat → List Char
  | 0, _ => []
  | width + 1, n => decimalDigits width (n / 10) ++ [Nat.digitChar (n % 10)]

/-- The number that the decimal digits denote. -/
def decimalValue (cs : List Char) : Nat :=
  cs.foldl (fun n c => 10 * n + (c.toNat - 48)) 0

theorem length_decimalDigits (width n : Nat) :
  (decimalDigits width n).length = width
  := by
  induction width generalizing n with
  | zero => rfl
  | succ width ih => simp [decimalDigits, ih]

/-- A decimal digit of a number. -/
theorem digitChar_mod (n : Nat) :
  (Nat.digitChar (n % 10)).isDigit = true ∧ (Nat.digitChar (n % 10)).toNat - 48 = n % 10
  := by
  have hdigit : ∀ d : Fin 10, (Nat.digitChar d).isDigit = true ∧
      (Nat.digitChar d).toNat - 48 = d := by
    decide
  exact hdigit ⟨n % 10, Nat.mod_lt n (by decide)⟩

theorem isDigit_of_mem_decimalDigits {width n : Nat} {c : Char} (hc : c ∈ decimalDigits width n) :
  c.isDigit = true
  := by
  induction width generalizing n with
  | zero => cases hc
  | succ width ih =>
      rcases List.mem_append.mp hc with hc | hc
      · apply ih hc
      · rw [List.mem_singleton.mp hc]
        exact (digitChar_mod n).1

theorem all_isDigit_decimalDigits (width n : Nat) :
  (decimalDigits width n).all Char.isDigit = true
  := List.all_eq_true.mpr fun _ hc => isDigit_of_mem_decimalDigits hc

theorem decimalValue_decimalDigits {width n : Nat} (h : n < 10 ^ width) :
  decimalValue (decimalDigits width n) = n
  := by
  induction width generalizing n with
  | zero =>
      rw [Nat.pow_zero, Nat.lt_one_iff] at h
      rw [h]
      rfl
  | succ width ih =>
      have hquotient : n / 10 < 10 ^ width := by
        rw [Nat.pow_succ] at h
        omega
      have hrest := ih hquotient
      unfold decimalValue at hrest ⊢
      rw [decimalDigits, List.foldl_append, hrest]
      simp only [List.foldl_cons, List.foldl_nil, (digitChar_mod n).2]
      omega

/-! ### Moments -/

def isLeap (year : Nat) : Bool :=
  year % 4 = 0 && (year % 100 ≠ 0 || year % 400 = 0)

/-- The number of days of a month. -/
def daysIn (year month : Nat) : Nat :=
  if month = 2 then (if isLeap year then 29 else 28)
  else if month = 4 ∨ month = 6 ∨ month = 9 ∨ month = 11 then 30
  else 31

/-- A moment in UTC. -/
structure Utc where
  year : Nat
  month : Nat
  day : Nat
  hour : Nat
  minute : Nat
  second : Nat
  nanosecond : Nat
  year_le : year ≤ 9999
  month_mem : 1 ≤ month ∧ month ≤ 12
  day_mem : 1 ≤ day ∧ day ≤ daysIn year month
  hour_lt : hour < 24
  minute_lt : minute < 60
  second_lt : second < 60
  nanosecond_lt : nanosecond < 1000000000
deriving DecidableEq

namespace Utc

/-- The number of days before the first of March of a year, counted from March of the year 0. -/
def daysBefore (year : Int) : Int := 365 * year + year / 4 - year / 100 + year / 400

/-- The nanoseconds since the first of January 1970. -/
def unixNano (t : Utc) : Int :=
  let year : Int := if t.month ≤ 2 then t.year - 1 else t.year
  let month : Int := if t.month ≤ 2 then t.month + 9 else t.month - 3
  let days := daysBefore year + (153 * month + 2) / 5 + t.day - 1 - 719468
  ((days * 86400 + t.hour * 3600 + t.minute * 60 + t.second) * 1000000000) + t.nanosecond

/-- The fraction of a second without its trailing zeros, empty when it is zero. -/
def fraction (nanosecond : Nat) : List Char :=
  match (decimalDigits 9 nanosecond).rdropWhile (· = '0') with
  | [] => []
  | c :: cs => '.' :: c :: cs

/-- The text `YYYY-MM-DDThh:mm:ss.fffffffffZ` of a moment. -/
def format (t : Utc) : List Char :=
  decimalDigits 4 t.year ++ '-' :: (decimalDigits 2 t.month ++ '-' :: (decimalDigits 2 t.day ++
    'T' :: (decimalDigits 2 t.hour ++ ':' :: (decimalDigits 2 t.minute ++ ':' ::
      (decimalDigits 2 t.second ++ (fraction t.nanosecond ++ ['Z']))))))

end Utc

/-! ### Reading -/

/-- The given number of digits at the head of the text, when the number they denote is in the given
range, and the text after them. -/
def readDigits (width least greatest : Nat) (cs : List Char) : Option (Nat × List Char) :=
  let digits := cs.take width
  if digits.length = width ∧ digits.all Char.isDigit = true ∧ least ≤ decimalValue digits ∧
      decimalValue digits ≤ greatest then
    some (decimalValue digits, cs.drop width)
  else none

/-- The text after the given character. -/
def readMark (mark : Char) : List Char → Option (List Char)
  | c :: cs => if c = mark then some cs else none
  | [] => none

/-- The text after the fraction of a second, if there is one. -/
def skipFraction : List Char → List Char
  | '.' :: c :: cs => if c.isDigit then cs.dropWhile Char.isDigit else '.' :: c :: cs
  | cs => cs

/-- The text is an offset from UTC. -/
def isOffset (cs : List Char) : Bool :=
  cs = ['Z'] || (do
    let cs ← match cs with
      | '+' :: cs => some cs
      | '-' :: cs => some cs
      | _ => none
    let (_, cs) ← readDigits 2 0 23 cs
    let cs ← readMark ':' cs
    let (_, cs) ← readDigits 2 0 59 cs
    if cs = [] then some () else none).isSome

/-- The text is a timestamp. -/
def isTimestamp (cs : List Char) : Bool :=
  (do
    let (year, cs) ← readDigits 4 0 9999 cs
    let cs ← readMark '-' cs
    let (month, cs) ← readDigits 2 1 12 cs
    let cs ← readMark '-' cs
    let (_, cs) ← readDigits 2 1 (daysIn year month) cs
    let cs ← readMark 'T' cs
    let (_, cs) ← readDigits 2 0 23 cs
    let cs ← readMark ':' cs
    let (_, cs) ← readDigits 2 0 59 cs
    let cs ← readMark ':' cs
    let (_, cs) ← readDigits 2 0 59 cs
    if isOffset (skipFraction cs) then some () else none).isSome

theorem readDigits_decimalDigits {width least greatest n : Nat} (hn : n < 10 ^ width)
    (hleast : least ≤ n) (hgreatest : n ≤ greatest) (rest : List Char) :
  readDigits width least greatest (decimalDigits width n ++ rest) = some (n, rest)
  := by
  have hlength := length_decimalDigits width n
  have htake : (decimalDigits width n ++ rest).take width = decimalDigits width n := by
    apply List.take_left' hlength
  have hdrop : (decimalDigits width n ++ rest).drop width = rest := by
    apply List.drop_left' hlength
  simp only [readDigits, htake, hdrop, decimalValue_decimalDigits hn]
  apply if_pos
  exact ⟨hlength, all_isDigit_decimalDigits width n, hleast, hgreatest⟩

theorem readMark_self (c : Char) (cs : List Char) :
  readMark c (c :: cs) = some cs
  := if_pos rfl

/-- The fraction that is written is the one that is skipped. -/
theorem skipFraction_fraction (nanosecond : Nat) :
  skipFraction (Utc.fraction nanosecond ++ ['Z']) = ['Z']
  := by
  unfold Utc.fraction
  split
  · rfl
  · rename_i c cs hdigits
    have hall : ∀ d ∈ c :: cs, d.isDigit = true := by
      intro d hd
      rw [← hdigits] at hd
      exact isDigit_of_mem_decimalDigits ((List.rdropWhile_prefix _ _).subset hd)
    have hdrop : (cs ++ ['Z']).dropWhile Char.isDigit = ['Z'] := by
      rw [List.dropWhile_append_of_pos (fun d hd => hall d (List.mem_cons_of_mem c hd))]
      rfl
    simp only [List.cons_append, skipFraction, hall c List.mem_cons_self, if_true, hdrop]

/-- The text of a moment is a timestamp. -/
theorem isTimestamp_format (t : Utc) :
  isTimestamp t.format = true
  := by
  have hyear := t.year_le
  have hmonth := t.month_mem
  have hday := t.day_mem
  have hdays : daysIn t.year t.month ≤ 31 := by
    unfold daysIn
    split
    · split <;> decide
    · split <;> decide
  have hhour := t.hour_lt
  have hminute := t.minute_lt
  have hsecond := t.second_lt
  unfold isTimestamp Utc.format
  simp only [readDigits_decimalDigits (show t.year < 10 ^ 4 by omega) (Nat.zero_le _) hyear,
    readDigits_decimalDigits (show t.month < 10 ^ 2 by omega) hmonth.1 hmonth.2,
    readDigits_decimalDigits (show t.day < 10 ^ 2 by omega) hday.1 hday.2,
    readDigits_decimalDigits (show t.hour < 10 ^ 2 by omega) (Nat.zero_le _)
      (show t.hour ≤ 23 by omega),
    readDigits_decimalDigits (show t.minute < 10 ^ 2 by omega) (Nat.zero_le _)
      (show t.minute ≤ 59 by omega),
    readDigits_decimalDigits (show t.second < 10 ^ 2 by omega) (Nat.zero_le _)
      (show t.second ≤ 59 by omega),
    readMark_self, skipFraction_fraction, Option.bind_eq_bind, Option.bind_some]
  rfl
