import Mathlib.Tactic.Common
import RobotestLab.Library.Json

/-!
# The reader of JSON in Go

The text of a JSON document as Go reads it from bytes: a byte that belongs to no character of UTF-8
and a surrogate that belongs to no pair are both read as the replacement character. `Json.read` is
the value at the head of the bytes and the text after it, and `Json.tokens` the tokens which the
decoder hands out one by one for that value. A document is `Unique` when the members of each of its
objects, at every depth, have different names.
-/

namespace Json

/-! ### Bytes -/

def replacement : Char := Char.ofNat 65533

/-- The characters of the bytes. A byte that begins no character is the replacement character. -/
def decodeBytes : Nat → List UInt8 → List Char
  | 0, _ => []
  | _ + 1, [] => []
  | fuel + 1, b :: bytes =>
      match ((b :: bytes).take 4).toByteArray.utf8DecodeChar? 0 with
      | some c => c :: decodeBytes fuel (bytes.drop (c.utf8Size - 1))
      | none => replacement :: decodeBytes fuel bytes

/-- The code unit of an escape `\uXXXX` at the head of the text. -/
def unitEscape : List Char → Option Nat
  | '\\' :: 'u' :: a :: b :: c :: d :: _ => do
      let a ← hexValue a
      let b ← hexValue b
      let c ← hexValue c
      let d ← hexValue d
      some (16 * (16 * (16 * a + b) + c) + d)
  | _ => none

/-- The text with the escape of the replacement character for every surrogate that has no
partner. -/
def mendUnits : Nat → List Char → List Char
  | 0, _ => []
  | _ + 1, [] => []
  | fuel + 1, c :: cs =>
      if c = '\\' then
        match unitEscape (c :: cs) with
        | none => c :: (cs.take 1 ++ mendUnits fuel (cs.drop 1))
        | some n =>
            if n < 55296 ∨ 57344 ≤ n then c :: (cs.take 5 ++ mendUnits fuel (cs.drop 5))
            else match unitEscape (cs.drop 5) with
              | some low =>
                  if n < 56320 ∧ 56320 ≤ low ∧ low < 57344 then
                    c :: (cs.take 11 ++ mendUnits fuel (cs.drop 11))
                  else escapeUnit 65533 ++ mendUnits fuel (cs.drop 5)
              | none => escapeUnit 65533 ++ mendUnits fuel (cs.drop 5)
      else c :: mendUnits fuel cs

/-- The value at the head of the bytes, and the text after it. -/
def read (bytes : List UInt8) : Option (Json × List Char) :=
  let chars := decodeBytes bytes.length bytes
  let text := mendUnits chars.length chars
  parseValue (text.length + 1) (skipSpace text)

/-! ### Tokens -/

inductive Token where
  | delim (c : Char)
  | str (s : String)
  | scalar

mutual

/-- The tokens of a value. -/
def tokens : Json → List Token
  | .null => [.scalar]
  | .bool _ => [.scalar]
  | .int _ => [.scalar]
  | .float _ => [.scalar]
  | .str s => [.str s]
  | .arr vs => .delim '[' :: (tokensElements vs ++ [.delim ']'])
  | .obj ms => .delim '{' :: (tokensMembers ms ++ [.delim '}'])

def tokensElements : List Json → List Token
  | [] => []
  | v :: vs => tokens v ++ tokensElements vs

def tokensMembers : List (String × Json) → List Token
  | [] => []
  | (k, v) :: ms => .str k :: (tokens v ++ tokensMembers ms)

end

/-- The token begins a value. -/
def Token.opens : Token → Bool
  | .delim c => c ≠ ']' && c ≠ '}'
  | _ => true

theorem tokens_cons (v : Json) :
  ∃ t ts, tokens v = t :: ts ∧ t.opens = true
  := by
  cases v with
  | null => exact ⟨.scalar, [], rfl, rfl⟩
  | bool b => exact ⟨.scalar, [], rfl, rfl⟩
  | int n => exact ⟨.scalar, [], rfl, rfl⟩
  | float token => exact ⟨.scalar, [], rfl, rfl⟩
  | str s => exact ⟨.str s, [], rfl, rfl⟩
  | arr vs => exact ⟨.delim '[', _, tokens.eq_6 vs, rfl⟩
  | obj ms => exact ⟨.delim '{', _, tokens.eq_7 ms, rfl⟩

theorem length_tokens_pos (v : Json) :
  0 < (tokens v).length
  := by
  obtain ⟨t, ts, h, -⟩ := tokens_cons v
  rw [h]
  apply Nat.succ_pos

/-! ### Names -/

mutual

/-- In every object of the value, different members have different names. -/
def Unique : Json → Prop
  | .null => True
  | .bool _ => True
  | .int _ => True
  | .float _ => True
  | .str _ => True
  | .arr vs => UniqueElements vs
  | .obj ms => (ms.map Prod.fst).Nodup ∧ UniqueMembers ms

def UniqueElements : List Json → Prop
  | [] => True
  | v :: vs => Unique v ∧ UniqueElements vs

def UniqueMembers : List (String × Json) → Prop
  | [] => True
  | (_, v) :: ms => Unique v ∧ UniqueMembers ms

end

theorem UniqueElements.of_mem {vs : List Json} (h : UniqueElements vs) {v : Json} (hv : v ∈ vs) :
  Unique v
  := by
  induction vs with
  | nil => cases hv
  | cons v' vs ih =>
      rw [UniqueElements] at h
      rcases List.mem_cons.mp hv with rfl | hv
      · exact h.1
      · exact ih h.2 hv

theorem UniqueMembers.of_mem {ms : List (String × Json)} (h : UniqueMembers ms)
    {m : String × Json} (hm : m ∈ ms) :
  Unique m.2
  := by
  induction ms with
  | nil => cases hm
  | cons m' ms ih =>
      rw [UniqueMembers] at h
      rcases List.mem_cons.mp hm with rfl | hm
      · exact h.1
      · exact ih h.2 hm

/-! ### Rendered values -/

/-- It is checked character by character. -/
def decidablePlainString (s : String) : Decidable (PlainString s) :=
  @List.decidableBAll Char PlainChar
    (fun c => inferInstanceAs (Decidable (32 ≤ c.toNat ∧ c.toNat ≤ 126 ∧ c ≠ '"' ∧ c ≠ '\\')))
      s.toList

mutual

def decidablePlain : ∀ v : Json, Decidable (Plain v)
  | .null => .isTrue trivial
  | .bool _ => .isTrue trivial
  | .int _ => .isTrue trivial
  | .float _ => .isFalse id
  | .str s => decidablePlainString s
  | .arr vs => decidablePlainElements vs
  | .obj ms => decidablePlainMembers ms

def decidablePlainElements : ∀ vs : List Json, Decidable (PlainElements vs)
  | [] => .isTrue trivial
  | v :: vs => @instDecidableAnd _ _ (decidablePlain v) (decidablePlainElements vs)

def decidablePlainMembers : ∀ ms : List (String × Json), Decidable (PlainMembers ms)
  | [] => .isTrue trivial
  | (k, v) :: ms =>
      @instDecidableAnd _ _ (decidablePlainString k)
        (@instDecidableAnd _ _ (decidablePlain v) (decidablePlainMembers ms))

end

instance (v : Json) : Decidable (Plain v) := decidablePlain v

/-- The characters of a text are read back from its encoding in UTF-8. -/
theorem decodeBytes_encode (cs : List Char) (fuel : Nat)
    (hfuel : (cs.flatMap String.utf8EncodeChar).length ≤ fuel) :
  decodeBytes fuel (cs.flatMap String.utf8EncodeChar) = cs
  := by
  induction cs generalizing fuel with
  | nil =>
      cases fuel with
      | zero => rfl
      | succ fuel => rfl
  | cons c cs ih =>
      have hsize := c.utf8Size_pos
      have hfour := c.utf8Size_le_four
      have hlength := String.length_utf8EncodeChar c
      rw [List.flatMap_cons, List.length_append] at hfuel
      obtain ⟨fuel, rfl⟩ := Nat.exists_eq_add_one.mpr (show 0 < fuel by omega)
      obtain ⟨b, bytes, hbytes⟩ := List.exists_cons_of_length_pos (hlength ▸ hsize)
      have hhead : ((String.utf8EncodeChar c ++ cs.flatMap String.utf8EncodeChar).take
          4).toByteArray.utf8DecodeChar? 0 = some c := by
        rw [List.take_append, List.take_of_length_le (by omega), List.toByteArray_append]
        apply ByteArray.utf8DecodeChar?_utf8EncodeChar_append
      have hrest : (bytes ++ cs.flatMap String.utf8EncodeChar).drop (c.utf8Size - 1) =
          cs.flatMap String.utf8EncodeChar := by
        apply List.drop_left'
        rw [hbytes, List.length_cons] at hlength
        omega
      rw [List.flatMap_cons]
      rw [hbytes, List.cons_append] at hhead ⊢
      rw [decodeBytes, hhead]
      simp only
      rw [hrest, ih fuel (by omega)]

/-- A text without escapes has nothing to mend. -/
theorem mendUnits_of_not_mem {cs : List Char} (hcs : '\\' ∉ cs) (fuel : Nat)
    (hfuel : cs.length ≤ fuel) :
  mendUnits fuel cs = cs
  := by
  induction cs generalizing fuel with
  | nil =>
      cases fuel with
      | zero => rfl
      | succ fuel => rfl
  | cons c cs ih =>
      rw [List.length_cons] at hfuel
      obtain ⟨fuel, rfl⟩ := Nat.exists_eq_add_one.mpr (show 0 < fuel by omega)
      rw [List.mem_cons, not_or] at hcs
      rw [mendUnits, if_neg (Ne.symm hcs.1), ih hcs.2 fuel (by omega)]

theorem not_mem_renderInt (n : Int) :
  '\\' ∉ renderInt n
  := by
  have hdigits : ∀ n : Nat, '\\' ∉ Nat.toDigits 10 n := by
    intro n hmem
    have hdigit := Nat.isDigit_of_mem_toDigits (show 0 < 10 by decide) (show 10 ≤ 10 by decide) hmem
    revert hdigit
    decide
  cases n with
  | ofNat n => exact hdigits n
  | negSucc n =>
      intro hmem
      rcases List.mem_cons.mp hmem with h | hmem
      · revert h
        decide
      · exact hdigits _ hmem

theorem not_mem_renderString {s : String} (hs : PlainString s) :
  '\\' ∉ renderString s
  := by
  rw [renderString_of_plain hs]
  intro hmem
  simp only [List.mem_cons, List.mem_append, List.not_mem_nil, or_false] at hmem
  rcases hmem with h | hmem | h
  · revert h
    decide
  · exact (hs _ hmem).2.2.2 rfl
  · revert h
    decide

mutual

/-- The rendering of a plain value has no escapes. -/
theorem not_mem_render (v : Json) (hv : Plain v) :
  '\\' ∉ render v
  := by
  match v, hv with
  | .null, _ => decide
  | .bool true, _ => decide
  | .bool false, _ => decide
  | .int n, _ => exact not_mem_renderInt n
  | .str s, hs => exact not_mem_renderString hs
  | .arr [], _ => decide
  | .arr (v :: vs), hvs =>
      rw [render]
      simp [not_mem_render v hvs.1, not_mem_renderElements vs hvs.2]
  | .obj [], _ => decide
  | .obj ((k, v) :: ms), hms =>
      rw [render]
      simp [not_mem_renderString hms.1, not_mem_render v hms.2.1, not_mem_renderMembers ms hms.2.2]

theorem not_mem_renderElements (vs : List Json) (hvs : PlainElements vs) :
  '\\' ∉ renderElements vs
  := by
  match vs, hvs with
  | [], _ => decide
  | v :: vs, hvs =>
      rw [renderElements]
      simp [not_mem_render v hvs.1, not_mem_renderElements vs hvs.2]

theorem not_mem_renderMembers (ms : List (String × Json)) (hms : PlainMembers ms) :
  '\\' ∉ renderMembers ms
  := by
  match ms, hms with
  | [], _ => decide
  | (k, v) :: ms, hms =>
      rw [renderMembers]
      simp [not_mem_renderString hms.1, not_mem_render v hms.2.1, not_mem_renderMembers ms hms.2.2]

end

/-- The bytes of the rendering of a value. -/
def bytes (v : Json) : List UInt8 := (render v).flatMap String.utf8EncodeChar

/-- A plain value is read back from its bytes. -/
theorem read_bytes {v : Json} (hv : Plain v) :
  read (bytes v) = some (v, [])
  := by
  have hvalue := parseValue_render v hv ((render v).length + 1) [] (Nat.lt_succ_self _)
    (by simp [EndsNumber])
  have hskip := skipSpace_render hv []
  rw [List.append_nil] at hvalue hskip
  simp only [read, bytes, decodeBytes_encode _ _ (Nat.le_refl _),
    mendUnits_of_not_mem (not_mem_render v hv) _ (Nat.le_refl _), hskip, hvalue]

end Json
