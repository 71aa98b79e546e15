import Mathlib.Tactic.Common
import Mathlib.Tactic.IntervalCases

/-!
# JSON texts

Values of RFC 8259, their compact rendering, and a reader of JSON texts. An object is the
list of its members in the order of the text, so repeated keys remain visible. A number
written without fraction and exponent is an integer; any other number is kept as the text
that denotes it. The reader consumes the text from the left with a bound on the number of
calls, which the length of the text always covers. A value whose numbers are integers and
whose strings need no escapes is read back from its rendering (`Json.parse_dumps`).
-/

/-- A JSON value. -/
inductive Json where
  | null
  | bool (b : Bool)
  | int (n : Int)
  | float (token : String)
  | str (s : String)
  | arr (elements : List Json)
  | obj (members : List (String × Json))

namespace Json

/-! ### Rendering -/

/-- The lowercase hexadecimal digit of `n % 16`. -/
def hexDigit (n : Nat) : Char :=
  Nat.digitChar (n % 16)

/-- The escape `\uXXXX` of a UTF-16 code unit. -/
def escapeUnit (n : Nat) : List Char :=
  ['\\', 'u', hexDigit (n / 4096), hexDigit (n / 256), hexDigit (n / 16), hexDigit n]

/-- A character inside a string, with everything outside printable ASCII escaped. -/
def escapeChar (c : Char) : List Char :=
  if c = '"' then ['\\', '"']
  else if c = '\\' then ['\\', '\\']
  else if c = '\n' then ['\\', 'n']
  else if c = '\r' then ['\\', 'r']
  else if c = '\t' then ['\\', 't']
  else if c.toNat = 12 then ['\\', 'f']
  else if c.toNat = 8 then ['\\', 'b']
  else if 32 ≤ c.toNat ∧ c.toNat ≤ 126 then [c]
  else if c.toNat < 65536 then escapeUnit c.toNat
  else
    escapeUnit (55296 + (c.toNat - 65536) / 1024) ++ escapeUnit (56320 + (c.toNat - 65536) % 1024)

/-- A string in quotes. -/
def renderString (s : String) : List Char :=
  '"' :: (s.toList.flatMap escapeChar ++ ['"'])

/-- The decimal digits of an integer, with a sign when it is negative. -/
def renderInt : Int → List Char
  | .ofNat n => Nat.toDigits 10 n
  | .negSucc n => '-' :: Nat.toDigits 10 (n + 1)

theorem toList_toString_int (n : Int) :
  (toString n).toList = renderInt n
  := by
  cases n with
  | ofNat n => exact Nat.toList_repr
  | negSucc n =>
      change ("-" ++ Nat.repr (n + 1)).toList = _
      rw [String.toList_append, Nat.toList_repr]
      rfl

theorem toList_toString_nat (n : Nat) :
  (toString n).toList = renderInt n
  := Nat.toList_repr

mutual

/-- The text of a value, without whitespace. -/
def render : Json → List Char
  | .null => ['n', 'u', 'l', 'l']
  | .bool true => ['t', 'r', 'u', 'e']
  | .bool false => ['f', 'a', 'l', 's', 'e']
  | .int n => renderInt n
  | .float token => token.toList
  | .str s => renderString s
  | .arr [] => ['[', ']']
  | .arr (v :: vs) => '[' :: (render v ++ renderElements vs)
  | .obj [] => ['{', '}']
  | .obj ((k, v) :: ms) => '{' :: (renderString k ++ ':' :: (render v ++ renderMembers ms))

/-- The text of the elements after the first one, with the closing bracket. -/
def renderElements : List Json → List Char
  | [] => [']']
  | v :: vs => ',' :: (render v ++ renderElements vs)

/-- The text of the members after the first one, with the closing brace. -/
def renderMembers : List (String × Json) → List Char
  | [] => ['}']
  | (k, v) :: ms => ',' :: (renderString k ++ ':' :: (render v ++ renderMembers ms))

end

/-- The compact rendering of a value. -/
def dumps (v : Json) : String := String.ofList (render v)

/-! ### Reading -/

/-- The whitespace of RFC 8259. -/
def isSpace (c : Char) : Bool :=
  c = ' ' || c = '\t' || c = '\n' || c = '\r'

/-- The text after its leading whitespace. -/
def skipSpace : List Char → List Char
  | [] => []
  | c :: cs => if isSpace c then skipSpace cs else c :: cs

/-- The value of a hexadecimal digit. -/
def hexValue (c : Char) : Option Nat :=
  if c.isDigit then some (c.toNat - 48)
  else if 97 ≤ c.toNat ∧ c.toNat ≤ 102 then some (c.toNat - 87)
  else if 65 ≤ c.toNat ∧ c.toNat ≤ 70 then some (c.toNat - 55)
  else none

/-- The character a one-letter escape denotes. -/
def simpleEscape (c : Char) : Option Char :=
  if c = '"' ∨ c = '\\' ∨ c = '/' then some c
  else if c = 'n' then some '\n'
  else if c = 'r' then some '\r'
  else if c = 't' then some '\t'
  else if c = 'b' then some (Char.ofNat 8)
  else if c = 'f' then some (Char.ofNat 12)
  else none

/-- Where a reader stands inside a string: at a character, after a backslash, inside the
digits of a code unit, or between the two units of a surrogate pair. -/
inductive StringState where
  | plain
  | escape
  | unit (high : Option Nat) (left : Nat) (value : Nat)
  | lowBackslash (high : Nat)
  | lowLetter (high : Nat)

/-- The characters of a string up to its closing quote, and the text after it. A high
surrogate must be followed by a low one, and a low one must not stand alone. -/
def parseChars : StringState → List Char → Option (List Char × List Char)
  | _, [] => none
  | .plain, c :: cs =>
      if c = '"' then some ([], cs)
      else if c = '\\' then parseChars .escape cs
      else if c.toNat < 32 then none
      else (parseChars .plain cs).map (fun (s, rest) => (c :: s, rest))
  | .escape, c :: cs =>
      if c = 'u' then parseChars (.unit none 3 0) cs
      else match simpleEscape c with
        | none => none
        | some d => (parseChars .plain cs).map (fun (s, rest) => (d :: s, rest))
  | .unit high (left + 1) value, c :: cs =>
      match hexValue c with
      | none => none
      | some d => parseChars (.unit high left (16 * value + d)) cs
  | .unit none 0 value, c :: cs =>
      match hexValue c with
      | none => none
      | some d =>
          let n := 16 * value + d
          if 55296 ≤ n ∧ n < 56320 then parseChars (.lowBackslash n) cs
          else if 56320 ≤ n ∧ n < 57344 then none
          else (parseChars .plain cs).map (fun (s, rest) => (Char.ofNat n :: s, rest))
  | .unit (some high) 0 value, c :: cs =>
      match hexValue c with
      | none => none
      | some d =>
          let low := 16 * value + d
          if 56320 ≤ low ∧ low < 57344 then
            let n := 65536 + 1024 * (high - 55296) + (low - 56320)
            (parseChars .plain cs).map (fun (s, rest) => (Char.ofNat n :: s, rest))
          else none
  | .lowBackslash high, c :: cs =>
      if c = '\\' then parseChars (.lowLetter high) cs else none
  | .lowLetter high, c :: cs =>
      if c = 'u' then parseChars (.unit (some high) 3 0) cs else none

/-- The fraction of a number, empty when there is none. -/
def parseFraction : List Char → Option (List Char × List Char)
  | '.' :: cs =>
      let digits := cs.takeWhile Char.isDigit
      if digits = [] then none else some ('.' :: digits, cs.dropWhile Char.isDigit)
  | cs => some ([], cs)

/-- The exponent of a number, empty when there is none. -/
def parseExponent : List Char → Option (List Char × List Char)
  | c :: cs =>
      if c = 'e' ∨ c = 'E' then
        let sign := cs.takeWhile (fun s => s = '+' || s = '-')
        let rest := cs.dropWhile (fun s => s = '+' || s = '-')
        let digits := rest.takeWhile Char.isDigit
        if 1 < sign.length ∨ digits = [] then none
        else some (c :: (sign ++ digits), rest.dropWhile Char.isDigit)
      else some ([], c :: cs)
  | [] => some ([], [])

/-- The number denoted by digits without sign, fraction and exponent. -/
def magnitude (digits : List Char) : Nat := Nat.ofDigitChars 10 digits 0

/-- A number without its sign. -/
def parseUnsigned (negative : Bool) (cs : List Char) : Option (Json × List Char) := do
  let digits := cs.takeWhile Char.isDigit
  if digits = [] ∨ (digits.head? = some '0' ∧ 1 < digits.length) then none
  else
    let (fraction, cs) ← parseFraction (cs.dropWhile Char.isDigit)
    let (exponent, cs) ← parseExponent cs
    if fraction = [] ∧ exponent = [] then
      pure (.int (if negative then -(magnitude digits : Int) else magnitude digits), cs)
    else
      let sign := if negative then ['-'] else []
      pure (.float (String.ofList (sign ++ digits ++ fraction ++ exponent)), cs)

/-- A number. -/
def parseNumber : List Char → Option (Json × List Char)
  | '-' :: cs => parseUnsigned true cs
  | cs => parseUnsigned false cs

/-- The text after the character `c`, when the text begins with it. -/
def expect (c : Char) : List Char → Option (List Char)
  | [] => none
  | d :: cs => if d = c then some cs else none

/-- The key of a member with the colon after it. -/
def parseKey (cs : List Char) : Option (String × List Char) := do
  let cs ← expect '"' cs
  let (k, cs) ← parseChars .plain cs
  let cs ← expect ':' (skipSpace cs)
  some (String.ofList k, cs)

/-- A literal name, or else a number. -/
def parseScalar (cs : List Char) : Option (Json × List Char) :=
  if cs.take 4 = ['n', 'u', 'l', 'l'] then some (.null, cs.drop 4)
  else if cs.take 4 = ['t', 'r', 'u', 'e'] then some (.bool true, cs.drop 4)
  else if cs.take 5 = ['f', 'a', 'l', 's', 'e'] then some (.bool false, cs.drop 5)
  else parseNumber cs

mutual

/-- A value at the head of the text, and the text after it. -/
def parseValue : Nat → List Char → Option (Json × List Char)
  | 0, _ => none
  | _ + 1, [] => none
  | fuel + 1, c :: cs =>
      if c = '{' then
        match expect '}' (skipSpace cs) with
        | some rest => some (.obj [], rest)
        | none => (parseMembers fuel (skipSpace cs)).map (fun (ms, rest) => (.obj ms, rest))
      else if c = '[' then
        match expect ']' (skipSpace cs) with
        | some rest => some (.arr [], rest)
        | none => (parseElements fuel (skipSpace cs)).map (fun (vs, rest) => (.arr vs, rest))
      else if c = '"' then
        (parseChars .plain cs).map (fun (s, rest) => (.str (String.ofList s), rest))
      else parseScalar (c :: cs)

/-- The elements of an array, at least one, up to its closing bracket. -/
def parseElements : Nat → List Char → Option (List Json × List Char)
  | 0, _ => none
  | fuel + 1, cs => do
      let (v, cs) ← parseValue fuel cs
      match expect ']' (skipSpace cs) with
      | some rest => some ([v], rest)
      | none => do
          let cs ← expect ',' (skipSpace cs)
          let (vs, rest) ← parseElements fuel (skipSpace cs)
          some (v :: vs, rest)

/-- The members of an object, at least one, up to its closing brace. -/
def parseMembers : Nat → List Char → Option (List (String × Json) × List Char)
  | 0, _ => none
  | fuel + 1, cs => do
      let (k, cs) ← parseKey cs
      let (v, cs) ← parseValue fuel (skipSpace cs)
      match expect '}' (skipSpace cs) with
      | some rest => some ([(k, v)], rest)
      | none => do
          let cs ← expect ',' (skipSpace cs)
          let (ms, rest) ← parseMembers fuel (skipSpace cs)
          some ((k, v) :: ms, rest)

end

/-- The text without a leading byte order mark. -/
def skipMark : List Char → List Char
  | c :: cs => if c.toNat = 65279 then cs else c :: cs
  | [] => []

/-- The value a text denotes. -/
def parse (text : String) : Option Json :=
  let cs := skipMark text.toList
  match parseValue (cs.length + 1) (skipSpace cs) with
  | some (v, rest) => if skipSpace rest = [] then some v else none
  | none => none

/-! ### Reading a rendered value back -/

/-- A printable ASCII character that stands for itself inside a string. -/
def PlainChar (c : Char) : Prop :=
  32 ≤ c.toNat ∧ c.toNat ≤ 126 ∧ c ≠ '"' ∧ c ≠ '\\'

/-- A string that is rendered without escapes. -/
def PlainString (s : String) : Prop :=
  ∀ c ∈ s.toList, PlainChar c

mutual

/-- A value whose numbers are integers and whose strings are rendered without escapes. -/
def Plain : Json → Prop
  | .null => True
  | .bool _ => True
  | .int _ => True
  | .float _ => False
  | .str s => PlainString s
  | .arr vs => PlainElements vs
  | .obj ms => PlainMembers ms

/-- Every element is plain. -/
def PlainElements : List Json → Prop
  | [] => True
  | v :: vs => Plain v ∧ PlainElements vs

/-- Every key and every value of the members is plain. -/
def PlainMembers : List (String × Json) → Prop
  | [] => True
  | (k, v) :: ms => PlainString k ∧ Plain v ∧ PlainMembers ms

end

/-- The text `cs` ends a number: it does not begin with a character that could continue
one. -/
def EndsNumber (cs : List Char) : Prop :=
  ∀ c ∈ cs.head?, c.isDigit = false ∧ c ≠ '.' ∧ c ≠ 'e' ∧ c ≠ 'E'

theorem escapeChar_of_plain {c : Char} (h : PlainChar c) :
  escapeChar c = [c]
  := by
  obtain ⟨hlow, hhigh, hquote, hbackslash⟩ := h
  have hne : ∀ d : Char, d.toNat < 32 → c ≠ d := by
    rintro d hd rfl
    omega
  unfold escapeChar
  rw [if_neg hquote, if_neg hbackslash, if_neg (hne '\n' (by decide)),
    if_neg (hne '\r' (by decide)), if_neg (hne '\t' (by decide)), if_neg (by omega),
    if_neg (by omega), if_pos ⟨hlow, hhigh⟩]

/-- The rendering of a plain string is the string in quotes. -/
theorem renderString_of_plain {s : String} (h : PlainString s) :
  renderString s = '"' :: (s.toList ++ ['"'])
  := by
  have hflat : ∀ cs : List Char, (∀ c ∈ cs, PlainChar c) → cs.flatMap escapeChar = cs := by
    intro cs hcs
    induction cs with
    | nil => rfl
    | cons c cs ih =>
        rw [List.flatMap_cons, escapeChar_of_plain (hcs c List.mem_cons_self),
          ih (fun d hd => hcs d (List.mem_cons_of_mem _ hd))]
        rfl
  rw [renderString, hflat s.toList h]

theorem parseChars_plain (s : List Char) (hs : ∀ c ∈ s, PlainChar c) (rest : List Char) :
  parseChars .plain (s ++ '"' :: rest) = some (s, rest)
  := by
  induction s with
  | nil => simp [parseChars]
  | cons c s ih =>
      obtain ⟨hlow, -, hquote, hbackslash⟩ := hs c List.mem_cons_self
      rw [List.cons_append, parseChars, if_neg hquote, if_neg hbackslash, if_neg (by omega),
        ih (fun d hd => hs d (List.mem_cons_of_mem _ hd))]
      rfl

/-- A positive number is written without a leading zero. -/
theorem head?_toDigits_ne_zero {n : Nat} (hn : 0 < n) :
  (Nat.toDigits 10 n).head? ≠ some '0'
  := by
  induction n using Nat.strongRecOn with
  | ind n ih =>
      by_cases hlt : n < 10
      · rw [Nat.toDigits_of_lt_base hlt]
        interval_cases n <;> decide
      · rw [Nat.toDigits_of_base_le (by decide) (by omega), List.head?_append,
          Option.or_of_isSome (List.isSome_head?.mpr Nat.toDigits_ne_nil)]
        apply ih (n / 10) (by omega) (by omega)

theorem leadingZero {n : Nat} (hhead : (Nat.toDigits 10 n).head? = some '0') :
  (Nat.toDigits 10 n).length = 1
  := by
  obtain rfl | hn := Nat.eq_zero_or_pos n
  · rw [Nat.toDigits_zero]
    rfl
  · exact absurd hhead (head?_toDigits_ne_zero hn)

theorem parseUnsigned_digits (negative : Bool) (n : Nat) (rest : List Char)
    (hrest : EndsNumber rest) :
  parseUnsigned negative (Nat.toDigits 10 n ++ rest)
    = some (.int (if negative then -(n : Int) else n), rest)
  := by
  have hdigits : ∀ c ∈ Nat.toDigits 10 n, c.isDigit = true := fun c hc =>
    Nat.isDigit_of_mem_toDigits (by decide) (by decide) hc
  have htake : (Nat.toDigits 10 n ++ rest).takeWhile Char.isDigit = Nat.toDigits 10 n := by
    rw [List.takeWhile_append_of_pos hdigits]
    cases rest with
    | nil => simp
    | cons c cs => simp [(hrest c (by simp)).1]
  have hdrop : (Nat.toDigits 10 n ++ rest).dropWhile Char.isDigit = rest := by
    rw [List.dropWhile_append_of_pos hdigits]
    cases rest with
    | nil => simp
    | cons c cs => simp [(hrest c (by simp)).1]
  have hfraction : parseFraction rest = some ([], rest) := by
    cases rest with
    | nil => rfl
    | cons c cs =>
        have := (hrest c (by simp)).2.1
        unfold parseFraction
        split
        · rename_i heq
          exact absurd (List.cons.inj heq).1 this
        · rfl
  have hexponent : parseExponent rest = some ([], rest) := by
    cases rest with
    | nil => rfl
    | cons c cs =>
        have h := (hrest c (by simp)).2.2
        simp [parseExponent, h.1, h.2]
  have hzero : ¬ (Nat.toDigits 10 n = [] ∨
      ((Nat.toDigits 10 n).head? = some '0' ∧ 1 < (Nat.toDigits 10 n).length)) := by
    rintro (h | ⟨hhead, hlen⟩)
    · exact Nat.toDigits_ne_nil h
    · rw [leadingZero hhead] at hlen
      exact absurd hlen (Nat.lt_irrefl 1)
  rw [parseUnsigned, htake, hdrop, if_neg hzero, hfraction]
  simp [hexponent, magnitude, Nat.ofDigitChars_ten_toDigits]

/-- An integer is read back from its digits. -/
theorem parseNumber_renderInt (n : Int) (rest : List Char) (hrest : EndsNumber rest) :
  parseNumber (renderInt n ++ rest) = some (.int n, rest)
  := by
  cases n with
  | ofNat n =>
      have hne : ∀ cs, renderInt (.ofNat n) ++ rest ≠ '-' :: cs := by
        intro cs h
        have hmem : '-' ∈ Nat.toDigits 10 n := by
          cases hd : Nat.toDigits 10 n with
          | nil => exact absurd hd Nat.toDigits_ne_nil
          | cons c ds =>
              rw [renderInt, hd] at h
              simp [(List.cons.inj h).1]
        exact absurd (Nat.isDigit_of_mem_toDigits (by decide) (by decide) hmem) (by decide)
      rw [parseNumber.eq_2 _ hne, renderInt, parseUnsigned_digits _ _ _ hrest]
      rfl
  | negSucc n =>
      rw [renderInt, List.cons_append, parseNumber, parseUnsigned_digits _ _ _ hrest]
      rfl

/-- The first character of a rendered integer is a sign or a digit. -/
theorem renderInt_cons (n : Int) :
  ∃ c cs, renderInt n = c :: cs ∧ (c = '-' ∨ c.isDigit = true)
  := by
  cases n with
  | ofNat n =>
      cases hd : Nat.toDigits 10 n with
      | nil => exact absurd hd Nat.toDigits_ne_nil
      | cons c cs =>
          use c, cs, hd
          right
          apply Nat.isDigit_of_mem_toDigits (b := 10) (n := n) (by decide) (by decide)
          simp [hd]
  | negSucc n => exact ⟨'-', _, rfl, .inl rfl⟩

theorem parseScalar_renderInt (n : Int) (rest : List Char) (hrest : EndsNumber rest) :
  parseScalar (renderInt n ++ rest) = some (.int n, rest)
  := by
  obtain ⟨c, cs, hcs, hc⟩ := renderInt_cons n
  have hne : ∀ (k : Nat) (d : Char) (ds : List Char), (d = 'n' ∨ d = 't' ∨ d = 'f') →
      (renderInt n ++ rest).take (k + 1) ≠ d :: ds := by
    intro k d ds hd h
    rw [hcs, List.cons_append, List.take_succ_cons] at h
    obtain rfl := (List.cons.inj h).1
    rcases hd with rfl | rfl | rfl <;> revert hc <;> decide
  rw [parseScalar, if_neg (hne 3 _ _ (.inl rfl)), if_neg (hne 3 _ _ (.inr (.inl rfl))),
    if_neg (hne 4 _ _ (.inr (.inr rfl))), parseNumber_renderInt n rest hrest]

variable {v : Json}

/-- A rendered value begins with an ASCII character that neither is whitespace nor closes an
array or an object. -/
theorem render_cons (hv : Plain v) :
  ∃ c cs, render v = c :: cs ∧ isSpace c = false ∧ c ≠ ']' ∧ c ≠ '}' ∧ c.toNat < 128
  := by
  cases v with
  | null => exact ⟨'n', _, rfl, by decide⟩
  | bool b => cases b <;> exact ⟨_, _, rfl, by decide⟩
  | int n =>
      obtain ⟨c, cs, hcs, hc⟩ := renderInt_cons n
      use c, cs, hcs
      rcases hc with rfl | hc
      · decide
      · have hne : ∀ d : Char, d.isDigit = false → c ≠ d := by
          rintro d hd rfl
          rw [hc] at hd
          cases hd
        have hascii : c.toNat < 128 := by
          simp only [Char.isDigit, Bool.and_eq_true, decide_eq_true_eq, ge_iff_le,
            UInt32.le_iff_toNat_le] at hc
          change c.val.toNat < 128
          have : ('9' : Char).val.toNat = 57 := rfl
          omega
        refine ⟨?_, hne _ (by decide), hne _ (by decide), hascii⟩
        simp [isSpace, hne ' ' (by decide), hne '\t' (by decide), hne '\n' (by decide),
          hne '\r' (by decide)]
  | float token => exact absurd hv id
  | str s => exact ⟨'"', _, rfl, by decide⟩
  | arr vs => cases vs <;> rw [render] <;> exact ⟨'[', _, rfl, by decide⟩
  | obj ms => cases ms <;> rw [render] <;> exact ⟨'{', _, rfl, by decide⟩

theorem skipSpace_render (hv : Plain v) (rest : List Char) :
  skipSpace (render v ++ rest) = render v ++ rest
  := by
  obtain ⟨c, cs, hcs, hc, -⟩ := render_cons hv
  rw [hcs, List.cons_append, skipSpace, hc]
  rfl

theorem expect_render (hv : Plain v) {d : Char} (hd : d = ']' ∨ d = '}') (rest : List Char) :
  expect d (render v ++ rest) = none
  := by
  obtain ⟨c, cs, hcs, -, hbracket, hbrace, -⟩ := render_cons hv
  rw [hcs, List.cons_append, expect, if_neg]
  rcases hd with rfl | rfl
  · exact hbracket
  · exact hbrace

/-- The key of a member is read back, up to the value after it. -/
theorem parseKey_render {k : String} (hk : PlainString k) (rest : List Char) :
  parseKey (renderString k ++ ':' :: rest) = some (k, rest)
  := by
  rw [renderString_of_plain hk]
  have hchars := parseChars_plain k.toList hk (':' :: rest)
  simp [parseKey, expect, hchars, skipSpace, isSpace]

theorem skipSpace_renderString (k : String) (rest : List Char) :
  skipSpace (renderString k ++ rest) = renderString k ++ rest
  := by
  simp [renderString, skipSpace, isSpace]

mutual

/-- A plain value is read back from its rendering, whatever ends it. -/
theorem parseValue_render :
  ∀ (v : Json), Plain v → ∀ (fuel : Nat) (rest : List Char), (render v).length < fuel →
    EndsNumber rest → parseValue fuel (render v ++ rest) = some (v, rest)
  | _, _, 0, _, hfuel, _ => by omega
  | .null, _, fuel + 1, rest, _, _ => by simp [render, parseValue, parseScalar]
  | .bool true, _, fuel + 1, rest, _, _ => by simp [render, parseValue, parseScalar]
  | .bool false, _, fuel + 1, rest, _, _ => by simp [render, parseValue, parseScalar]
  | .int n, _, fuel + 1, rest, _, hrest => by
      have hscalar := parseScalar_renderInt n rest hrest
      obtain ⟨c, cs, hcs, hc⟩ := renderInt_cons n
      have hne : ∀ d : Char, d.isDigit = false → d ≠ '-' → c ≠ d := by
        rintro d hd hminus rfl
        rcases hc with rfl | hc
        · exact hminus rfl
        · rw [hc] at hd
          cases hd
      rw [hcs, List.cons_append] at hscalar
      rw [render, hcs, List.cons_append, parseValue, if_neg (hne _ (by decide) (by decide)),
        if_neg (hne _ (by decide) (by decide)), if_neg (hne _ (by decide) (by decide)), hscalar]
  | .float _, hv, _, _, _, _ => absurd hv id
  | .str s, hv, fuel + 1, rest, _, _ => by
      rw [render, renderString_of_plain hv]
      have hchars := parseChars_plain s.toList hv rest
      simp [parseValue, hchars]
  | .arr [], _, fuel + 1, rest, _, _ => by simp [render, parseValue, expect, skipSpace, isSpace]
  | .arr (v :: vs), hv, fuel + 1, rest, hfuel, hrest => by
      obtain ⟨hv, hvs⟩ := hv
      rw [render] at hfuel ⊢
      have helements := parseElements_render v vs hv hvs fuel rest (by simp at hfuel ⊢; omega)
      rw [List.cons_append, List.append_assoc, parseValue, if_neg (by decide), if_pos rfl,
        skipSpace_render hv, expect_render hv (.inl rfl), helements]
      rfl
  | .obj [], _, fuel + 1, rest, _, _ => by simp [render, parseValue, expect, skipSpace, isSpace]
  | .obj ((k, v) :: ms), hv, fuel + 1, rest, hfuel, hrest => by
      obtain ⟨hk, hv, hms⟩ := hv
      rw [render] at hfuel ⊢
      have hmembers := parseMembers_render k v ms hk hv hms fuel rest
        (by simp at hfuel ⊢; omega)
      have hexpect : ∀ cs, expect '}' (renderString k ++ cs) = none := by
        intro cs
        simp [renderString, expect]
      rw [List.cons_append, List.append_assoc, parseValue, if_pos rfl,
        skipSpace_renderString, hexpect,
        List.cons_append, List.append_assoc, hmembers]
      rfl

/-- The elements of a nonempty array are read back. -/
theorem parseElements_render :
  ∀ (v : Json) (vs : List Json), Plain v → PlainElements vs → ∀ (fuel : Nat) (rest : List Char),
    (render v ++ renderElements vs).length < fuel →
      parseElements fuel (render v ++ (renderElements vs ++ rest)) = some (v :: vs, rest)
  | _, _, _, _, 0, _, hfuel => by omega
  | v, [], hv, _, fuel + 1, rest, hfuel => by
      rw [renderElements] at hfuel ⊢
      have hvalue := parseValue_render v hv fuel (']' :: rest) (by simp at hfuel; omega)
        (by simp [EndsNumber])
      simp [parseElements, hvalue, skipSpace, isSpace, expect]
  | v, w :: vs, hv, ⟨hw, hvs⟩, fuel + 1, rest, hfuel => by
      rw [renderElements] at hfuel ⊢
      have hpos : 0 < (render v).length := by
        obtain ⟨c, cs, hcs, -⟩ := render_cons hv
        simp [hcs]
      have hvalue := parseValue_render v hv fuel
        (',' :: (render w ++ (renderElements vs ++ rest))) (by simp at hfuel; omega)
        (by simp [EndsNumber])
      have hrest := parseElements_render w vs hw hvs fuel rest (by simp at hfuel ⊢; omega)
      rw [List.cons_append, List.append_assoc, parseElements]
      simp [hvalue, skipSpace, isSpace, expect, skipSpace_render hw, hrest]

/-- The members of a nonempty object are read back. -/
theorem parseMembers_render :
  ∀ (k : String) (v : Json) (ms : List (String × Json)), PlainString k → Plain v →
    PlainMembers ms → ∀ (fuel : Nat) (rest : List Char),
    (renderString k ++ ':' :: (render v ++ renderMembers ms)).length < fuel →
      parseMembers fuel (renderString k ++ ':' :: (render v ++ (renderMembers ms ++ rest)))
        = some ((k, v) :: ms, rest)
  | _, _, _, _, _, _, 0, _, hfuel => by omega
  | k, v, [], hk, hv, _, fuel + 1, rest, hfuel => by
      rw [renderMembers] at hfuel ⊢
      have hvalue := parseValue_render v hv fuel ('}' :: rest) (by simp at hfuel; omega)
        (by simp [EndsNumber])
      have hkey := parseKey_render hk (render v ++ '}' :: rest)
      rw [List.cons_append, List.nil_append, parseMembers]
      simp [hkey, skipSpace_render hv, hvalue, skipSpace, isSpace, expect]
  | k, v, (k', w) :: ms, hk, hv, ⟨hk', hw, hms⟩, fuel + 1, rest, hfuel => by
      rw [renderMembers] at hfuel ⊢
      have hvalue := parseValue_render v hv fuel
        (',' :: (renderString k' ++ ':' :: (render w ++ (renderMembers ms ++ rest))))
        (by simp at hfuel; omega) (by simp [EndsNumber])
      have hrest := parseMembers_render k' w ms hk' hw hms fuel rest
        (by simp [renderString] at hfuel ⊢; omega)
      have hkey := parseKey_render hk
        (render v ++ ',' :: (renderString k' ++ ':' :: (render w ++ (renderMembers ms ++ rest))))
      rw [List.cons_append, List.append_assoc, List.cons_append, List.append_assoc, parseMembers]
      simp [hkey, skipSpace_render hv, hvalue, skipSpace, isSpace, expect,
        skipSpace_renderString, hrest]

end

/-- A value whose numbers are integers and whose strings need no escapes is the value its
rendering denotes. -/
theorem parse_dumps (hv : Plain v) :
  parse (dumps v) = some v
  := by
  have hmark : skipMark (render v) = render v := by
    obtain ⟨c, cs, hcs, -, -, -, hascii⟩ := render_cons hv
    rw [hcs, skipMark, if_neg (by omega)]
  have hvalue := parseValue_render v hv ((render v).length + 1) [] (Nat.lt_succ_self _)
    (by simp [EndsNumber])
  have hskip := skipSpace_render hv []
  rw [List.append_nil] at hvalue hskip
  simp [parse, dumps, hmark, hskip, hvalue, skipSpace]

end Json
