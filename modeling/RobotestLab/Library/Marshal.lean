import Mathlib.Tactic.Common
import RobotestLab.Library.Json

/-!
# Marshalled JSON

JSON texts as the encoder of Go writes them: without whitespace, with the characters escaped that
JSON, HTML or JavaScript treats specially, encoded in UTF-8. `Denotes text v` states that a reader
of JSON finds the value `v` at the head of every text that begins with `text`. A marshalled string,
integer, truth value and object denotes its value, and contains no newline, so a file can hold one
marshalled object a line.
-/

namespace Json

/-! ### Strings -/

/-- A character inside a marshalled string. -/
def marshalChar (c : Char) : List Char :=
  if c = '"' then ['\\', '"']
  else if c = '\\' then ['\\', '\\']
  else if c = '\n' then ['\\', 'n']
  else if c = '\r' then ['\\', 'r']
  else if c = '\t' then ['\\', 't']
  else if c.toNat = 8 then ['\\', 'b']
  else if c.toNat = 12 then ['\\', 'f']
  else if c.toNat < 32 ∨ c = '<' ∨ c = '>' ∨ c = '&' ∨ c.toNat = 8232 ∨ c.toNat = 8233 then
    escapeUnit c.toNat
  else [c]

/-- A marshalled string. -/
def marshalString (s : String) : List Char :=
  '"' :: (s.toList.flatMap marshalChar ++ ['"'])

/-- A marshalled object, from its keys and its marshalled values. -/
def marshalObject : List (String × List Char) → List Char
  | [] => ['{', '}']
  | (k, text) :: members =>
      '{' :: (marshalString k ++ ':' :: (text ++ members.flatMap
        (fun (k, text) => ',' :: (marshalString k ++ ':' :: text)) ++ ['}']))

def marshalBool (b : Bool) : List Char :=
  if b then ['t', 'r', 'u', 'e'] else ['f', 'a', 'l', 's', 'e']

/-- The value of the whole text, in UTF-8. -/
def unmarshal (bytes : List UInt8) : Option Json := do
  let chars ← bytes.toByteArray.utf8Decode?
  let (v, rest) ← parseValue (chars.toList.length + 1) (skipSpace chars.toList)
  if skipSpace rest = [] then some v else none

/-! ### Reading an escape -/

theorem hexValue_hexDigit (n : Nat) :
  hexValue (hexDigit n) = some (n % 16)
  := by
  have hdigit : ∀ d : Fin 16, hexValue (Nat.digitChar d) = some d.val := by
    decide
  exact hdigit ⟨n % 16, Nat.mod_lt n (by decide)⟩

/-- A code unit outside the surrogates is read back. -/
theorem parseChars_escapeUnit {n : Nat} (hn : n < 55296) (rest : List Char) :
  parseChars .plain (escapeUnit n ++ rest) =
    (parseChars .plain rest).map (fun (s, rest) => (Char.ofNat n :: s, rest))
  := by
  have hvalue : 16 * (16 * (16 * (16 * 0 + n / 4096 % 16) + n / 256 % 16) + n / 16 % 16) + n % 16 =
      n := by
    omega
  simp only [escapeUnit, List.cons_append, List.nil_append, parseChars, hexValue_hexDigit, hvalue]
  rw [if_neg (by decide), if_pos trivial, if_pos trivial, if_neg (by omega), if_neg (by omega)]

/-- A character is read back from what it is marshalled to. -/
theorem parseChars_marshalChar (c : Char) (rest : List Char) :
  parseChars .plain (marshalChar c ++ rest) =
    (parseChars .plain rest).map (fun (s, rest) => (c :: s, rest))
  := by
  have hofNat : Char.ofNat c.toNat = c := Char.ofNat_toNat c
  unfold marshalChar
  split
  · rename_i h
    rw [h]
    rfl
  split
  · rename_i h
    rw [h]
    rfl
  split
  · rename_i h
    rw [h]
    rfl
  split
  · rename_i h
    rw [h]
    rfl
  split
  · rename_i h
    rw [h]
    rfl
  split
  · rename_i h
    rw [← hofNat, h]
    rfl
  split
  · rename_i h
    rw [← hofNat, h]
    rfl
  split
  · rename_i h
    have hn : c.toNat < 55296 := by
      rcases h with h | rfl | rfl | rfl | h | h
      · omega
      · decide
      · decide
      · decide
      · omega
      · omega
    rw [parseChars_escapeUnit hn, hofNat]
  · rename_i hquote hbackslash _ _ _ _ _ h
    rw [List.singleton_append, parseChars, if_neg hquote, if_neg hbackslash,
      if_neg (fun hcontrol => h (.inl hcontrol))]

theorem parseChars_marshalString (s : String) (rest : List Char) :
  parseChars .plain (s.toList.flatMap marshalChar ++ '"' :: rest) = some (s.toList, rest)
  := by
  induction s.toList with
  | nil => rfl
  | cons c cs ih =>
      rw [List.flatMap_cons, List.append_assoc, parseChars_marshalChar, ih]
      rfl

/-! ### Texts that denote a value -/

/-- The text denotes the value, whatever follows it. -/
structure Denotes (text : List Char) (v : Json) : Prop where
  head : ∃ c cs, text = c :: cs ∧ isSpace c = false ∧ c ≠ '}'
  reads : ∀ fuel rest, text.length < fuel → EndsNumber rest →
    parseValue fuel (text ++ rest) = some (v, rest)

variable {text : List Char}

theorem Denotes.skipSpace {v : Json} (h : Denotes text v) (rest : List Char) :
  Json.skipSpace (text ++ rest) = text ++ rest
  := by
  obtain ⟨c, cs, rfl, hspace, -⟩ := h.head
  rw [List.cons_append, Json.skipSpace, hspace]
  rfl

theorem denotes_string (s : String) :
  Denotes (marshalString s) (.str s)
  := by
  constructor
  · exact ⟨'"', _, rfl, by decide, by decide⟩
  · intro fuel rest hfuel _
    cases fuel with
    | zero => exact absurd hfuel (Nat.not_lt_zero _)
    | succ fuel =>
        have hchars := parseChars_marshalString s rest
        simp [marshalString, parseValue, hchars]

theorem denotes_int (n : Int) :
  Denotes (renderInt n) (.int n)
  := by
  constructor
  · obtain ⟨c, cs, hcs, hspace, -, hbrace, -⟩ := render_cons (v := .int n) trivial
    rw [render] at hcs
    exact ⟨c, cs, hcs, hspace, hbrace⟩
  · intro fuel rest hfuel hrest
    have hvalue := parseValue_render (.int n) trivial fuel rest
    rw [render] at hvalue
    exact hvalue hfuel hrest

theorem denotes_bool (b : Bool) :
  Denotes (marshalBool b) (.bool b)
  := by
  have hrender : render (.bool b) = marshalBool b := by
    cases b with
    | false => rw [render]; rfl
    | true => rw [render]; rfl
  constructor
  · obtain ⟨c, cs, hcs, hspace, -, hbrace, -⟩ := render_cons (v := .bool b) trivial
    rw [hrender] at hcs
    exact ⟨c, cs, hcs, hspace, hbrace⟩
  · intro fuel rest hfuel hrest
    have hvalue := parseValue_render (.bool b) trivial fuel rest
    rw [hrender] at hvalue
    exact hvalue hfuel hrest

/-- The key of a member is read back, up to the value after it. -/
theorem parseKey_marshal (k : String) (rest : List Char) :
  parseKey (marshalString k ++ ':' :: rest) = some (k, rest)
  := by
  have hchars := parseChars_marshalString k (':' :: rest)
  simp [marshalString, parseKey, expect, hchars, Json.skipSpace, isSpace]

/-- The members of an object after the first one, with the closing brace. -/
def marshalMembers (members : List (String × List Char)) : List Char :=
  members.flatMap (fun (k, text) => ',' :: (marshalString k ++ ':' :: text)) ++ ['}']

theorem marshalMembers_cons (k : String) (text : List Char) (members : List (String × List Char)) :
  marshalMembers ((k, text) :: members) =
    ',' :: (marshalString k ++ ':' :: (text ++ marshalMembers members))
  := by
  simp [marshalMembers]

/-- The members of an object are read back when their values are. -/
theorem parseMembers_marshal {members : List (String × List Char)} {values : List (String × Json)}
    (h : List.Forall₂ (fun m w => m.1 = w.1 ∧ Denotes m.2 w.2) members values)
    {k : String} {text : List Char} {v : Json} (hv : Denotes text v) {fuel : Nat}
    {rest : List Char}
    (hfuel : (marshalString k ++ ':' :: (text ++ marshalMembers members)).length < fuel) :
  parseMembers fuel (marshalString k ++ ':' :: (text ++ (marshalMembers members ++ rest))) =
    some ((k, v) :: values, rest)
  := by
  induction h generalizing k text v fuel with
  | nil =>
      cases fuel with
      | zero => exact absurd hfuel (Nat.not_lt_zero _)
      | succ fuel =>
          have hkey := parseKey_marshal k (text ++ '}' :: rest)
          have hvalue := hv.reads fuel ('}' :: rest) (by simp at hfuel; omega)
            (by simp [EndsNumber])
          simp only [marshalMembers, List.flatMap_nil, List.nil_append, List.cons_append]
          rw [parseMembers, hkey]
          simp [hv.skipSpace, hvalue, Json.skipSpace, isSpace, expect]
  | @cons m w members values hhead _ ih =>
      obtain ⟨k', text'⟩ := m
      obtain ⟨k'', v'⟩ := w
      obtain ⟨rfl, hv'⟩ := hhead
      cases fuel with
      | zero => exact absurd hfuel (Nat.not_lt_zero _)
      | succ fuel =>
          rw [marshalMembers_cons] at hfuel ⊢
          have hkey := parseKey_marshal k
            (text ++ ',' :: (marshalString k' ++ ':' ::
              (text' ++ (marshalMembers members ++ rest))))
          have hvalue := hv.reads fuel
            (',' :: (marshalString k' ++ ':' :: (text' ++ (marshalMembers members ++ rest))))
            (by simp at hfuel; omega) (by simp [EndsNumber])
          have hrest := @ih k' text' v' hv' fuel (by simp [marshalString] at hfuel ⊢; omega)
          have hquote : ∀ cs, Json.skipSpace (marshalString k' ++ cs) = marshalString k' ++ cs := by
            intro cs
            simp [marshalString, Json.skipSpace, isSpace]
          rw [List.cons_append, List.append_assoc, List.cons_append, List.append_assoc,
            parseMembers, hkey]
          simp [hv.skipSpace, hvalue, Json.skipSpace, isSpace, expect, hquote, hrest]

/-- A marshalled object denotes the object of the values of its members. -/
theorem denotes_object {members : List (String × List Char)} {values : List (String × Json)}
    (h : List.Forall₂ (fun m w => m.1 = w.1 ∧ Denotes m.2 w.2) members values) :
  Denotes (marshalObject members) (.obj values)
  := by
  cases h with
  | nil =>
      refine ⟨⟨'{', _, rfl, by decide, by decide⟩, ?_⟩
      intro fuel rest hfuel _
      cases fuel with
      | zero => exact absurd hfuel (Nat.not_lt_zero _)
      | succ fuel => simp [marshalObject, parseValue, expect, Json.skipSpace, isSpace]
  | @cons m w members values hhead htail =>
      obtain ⟨k, text⟩ := m
      obtain ⟨k', v⟩ := w
      obtain ⟨rfl, hv⟩ := hhead
      refine ⟨⟨'{', _, rfl, by decide, by decide⟩, ?_⟩
      intro fuel rest hfuel _
      have hobject : marshalObject ((k, text) :: members) =
          '{' :: (marshalString k ++ ':' :: (text ++ marshalMembers members)) := by
        simp [marshalObject, marshalMembers]
      rw [hobject] at hfuel ⊢
      cases fuel with
      | zero => exact absurd hfuel (Nat.not_lt_zero _)
      | succ fuel =>
          have hlength : (marshalString k ++ ':' :: (text ++ marshalMembers members)).length <
              fuel := by
            simp at hfuel ⊢
            omega
          have hmembers : parseMembers fuel
              (marshalString k ++ ':' :: (text ++ (marshalMembers members ++ rest))) =
                some ((k, v) :: values, rest) :=
            parseMembers_marshal htail hv hlength
          have hquote : ∀ cs, Json.skipSpace (marshalString k ++ cs) = marshalString k ++ cs := by
            intro cs
            simp [marshalString, Json.skipSpace, isSpace]
          have hexpect : ∀ cs, expect '}' (marshalString k ++ cs) = none := by
            intro cs
            simp [marshalString, expect]
          rw [List.cons_append, List.append_assoc, parseValue, if_pos rfl, hquote, hexpect,
            List.cons_append, List.append_assoc, hmembers]
          rfl

/-- The value that a text denotes is the value of the text, also with whitespace after it. -/
theorem unmarshal_of_denotes {v : Json} (h : Denotes text v)
    {space : List Char} (hspace : Json.skipSpace space = []) (hends : EndsNumber space) :
  unmarshal ((text ++ space).flatMap String.utf8EncodeChar) = some v
  := by
  have hchars : ((text ++ space).flatMap String.utf8EncodeChar).toByteArray.utf8Decode? =
      some (text ++ space).toArray :=
    List.utf8Decode?_utf8Encode
  have hlength : text.length < (text ++ space).length + 1 := by
    rw [List.length_append]
    omega
  have hvalue := h.reads _ space hlength hends
  simp only [unmarshal, hchars, Option.bind_eq_bind, Option.bind_some,
    h.skipSpace, hvalue, hspace, if_true]

/-! ### Lines -/

/-- The character is not written as a newline. -/
theorem newline_notMem_utf8EncodeChar {c : Char} (hc : c ≠ '\n') :
  (10 : UInt8) ∉ String.utf8EncodeChar c
  := by
  have hne : c.val.toNat ≠ 10 := by
    intro h
    apply hc
    apply Char.ext
    apply UInt32.toNat_inj.mp
    exact h
  have hbyte : ∀ n, n < 256 → n ≠ 10 → (10 : UInt8) ≠ UInt8.ofNat n := by
    intro n hn hten h
    have hnat := congrArg UInt8.toNat h
    rw [UInt8.toNat_ofNat', Nat.mod_eq_of_lt hn] at hnat
    exact hten hnat.symm
  unfold String.utf8EncodeChar
  simp only
  split
  · simp only [List.mem_singleton]
    apply hbyte _ (by omega) hne
  split
  · simp only [List.mem_cons, List.not_mem_nil, or_false, not_or]
    exact ⟨hbyte _ (by omega) (by omega), hbyte _ (by omega) (by omega)⟩
  split
  · simp only [List.mem_cons, List.not_mem_nil, or_false, not_or]
    exact ⟨hbyte _ (by omega) (by omega), hbyte _ (by omega) (by omega),
      hbyte _ (by omega) (by omega)⟩
  · simp only [List.mem_cons, List.not_mem_nil, or_false, not_or]
    exact ⟨hbyte _ (by omega) (by omega), hbyte _ (by omega) (by omega),
      hbyte _ (by omega) (by omega), hbyte _ (by omega) (by omega)⟩

/-- A text without newlines is encoded without newlines. -/
theorem newline_notMem_encoding (h : '\n' ∉ text) :
  (10 : UInt8) ∉ text.flatMap String.utf8EncodeChar
  := by
  intro hmem
  obtain ⟨c, hc, hbyte⟩ := List.mem_flatMap.mp hmem
  apply newline_notMem_utf8EncodeChar _ hbyte
  rintro rfl
  exact h hc

theorem newline_notMem_digitChar (n : Nat) :
  '\n' ≠ Nat.digitChar (n % 16)
  := by
  have hdigit : ∀ d : Fin 16, '\n' ≠ Nat.digitChar d := by
    decide
  exact hdigit ⟨n % 16, Nat.mod_lt n (by decide)⟩

theorem newline_notMem_marshalChar (c : Char) :
  '\n' ∉ marshalChar c
  := by
  unfold marshalChar
  split
  · decide
  split
  · decide
  split
  · decide
  split
  · decide
  split
  · decide
  split
  · decide
  split
  · decide
  split
  · simp [escapeUnit, hexDigit, newline_notMem_digitChar]
  · rename_i hnewline _ _ _ _ _
    intro hmem
    exact hnewline (List.mem_singleton.mp hmem).symm

theorem newline_notMem_marshalString (s : String) :
  '\n' ∉ marshalString s
  := by
  simp only [marshalString, List.mem_cons, List.mem_append, List.mem_flatMap, not_or, not_exists,
    not_and]
  refine ⟨by decide, ?_, by decide, List.not_mem_nil⟩
  intro c _
  apply newline_notMem_marshalChar

theorem newline_notMem_renderInt (n : Int) :
  '\n' ∉ renderInt n
  := by
  have hdigits : ∀ m : Nat, '\n' ∉ Nat.toDigits 10 m := by
    intro m hmem
    have := Nat.isDigit_of_mem_toDigits (b := 10) (by decide) (by decide) hmem
    revert this
    decide
  cases n with
  | ofNat m => exact hdigits m
  | negSucc m =>
      simp only [renderInt, List.mem_cons, not_or]
      exact ⟨by decide, hdigits (m + 1)⟩

theorem newline_notMem_marshalBool (b : Bool) :
  '\n' ∉ marshalBool b
  := by
  cases b with
  | false => decide
  | true => decide

/-- An object whose values are marshalled without newlines is marshalled without newlines. -/
theorem newline_notMem_marshalObject {members : List (String × List Char)}
    (h : ∀ m ∈ members, '\n' ∉ m.2) :
  '\n' ∉ marshalObject members
  := by
  cases members with
  | nil => decide
  | cons m members =>
      obtain ⟨k, text⟩ := m
      have htext := h (k, text) List.mem_cons_self
      have hmembers : '\n' ∉ members.flatMap
          (fun (k, text) => ',' :: (marshalString k ++ ':' :: text)) := by
        intro hmem
        obtain ⟨⟨k', text'⟩, hm, hmem⟩ := List.mem_flatMap.mp hmem
        simp only [List.mem_cons, List.mem_append] at hmem
        rcases hmem with hcomma | hkey | hcolon | htext'
        · revert hcomma
          decide
        · exact newline_notMem_marshalString k' hkey
        · revert hcolon
          decide
        · exact h (k', text') (List.mem_cons_of_mem _ hm) htext'
      simp only [marshalObject, List.mem_cons, List.mem_append, not_or]
      exact ⟨by decide, newline_notMem_marshalString k, by decide, ⟨htext, hmembers⟩, by decide,
        List.not_mem_nil⟩

end Json
