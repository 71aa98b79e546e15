import Mathlib.Data.List.Nodup
import Mathlib.Data.List.Pairwise
import RobotestLab.Library.Dict
import RobotestLab.Library.Json

/-!
# Objects decoded into records

How the decoder of JSON in Go stores an object in a structure, when it refuses unknown fields. The
name of a member is looked up among the names of the fields as it is spelled, and else up to the
case of its letters (`Json.select`). The members are stored in the order of the text, so the last
one wins; a null has no effect on a field that cannot be nil. A `Record` is a structure seen through
its fields. No field of an object is assigned by two members if and only if names that differ only
in case do not occur in it (`Json.singlyAssigned_iff`), and then a field holds what its member says
(`Json.Record.reads_of_singlyAssigned`).
-/

namespace Json

/-! ### Names of fields -/

/-- The least character that differs from `c` at most in case. Next to the letters of ASCII there
are two characters with an equivalent in ASCII, the long s and the sign of the kelvin. No other
character has one. -/
def foldRune (c : Char) : Char :=
  if 97 ≤ c.toNat ∧ c.toNat ≤ 122 then Char.ofNat (c.toNat - 32)
  else if c.toNat = 383 then 'S'
  else if c.toNat = 8490 then 'K'
  else c

def foldName (name : String) : List Char := name.toList.map foldRune

/-- The thing with the given name, or else the first one whose name differs only in case. -/
def select {α : Type*} (nameOf : α → String) (xs : List α) (name : String) : Option α :=
  (xs.find? fun x => nameOf x = name).or (xs.find? fun x => foldName (nameOf x) = foldName name)

theorem select_map {α β : Type*} (nameOf : β → String) (g : α → β) (xs : List α) (name : String) :
  select nameOf (xs.map g) name = (select (nameOf ∘ g) xs name).map g
  := by
  simp only [select, List.find?_map, Function.comp_def, Option.map_or]

/-- What is selected is spelled like the name, up to case. -/
theorem mem_of_select {α : Type*} {nameOf : α → String} {xs : List α} {name : String} {x : α}
    (h : select nameOf xs name = some x) :
  x ∈ xs ∧ foldName (nameOf x) = foldName name
  := by
  rcases Option.or_eq_some_iff.mp h with h | ⟨-, h⟩
  · have hname : nameOf x = name := by
      simpa using List.find?_some h
    exact ⟨List.mem_of_find?_eq_some h, congrArg foldName hname⟩
  · exact ⟨List.mem_of_find?_eq_some h, by simpa using List.find?_some h⟩

/-- A name among the names is found as it is spelled. -/
theorem select_self {names : List String} {name : String} (h : name ∈ names) :
  select id names name = some name
  := by
  have hsome : (names.find? fun x => x = name).isSome := by
    rw [List.find?_isSome]
    exact ⟨name, h, by simp⟩
  obtain ⟨x, hx⟩ := Option.isSome_iff_exists.mp hsome
  have hname : x = name := by
    simpa using List.find?_some hx
  rw [hname] at hx
  simp only [select, id]
  rw [hx, Option.some_or]

/-- When the names are different up to case, a name selects at most one thing. -/
theorem select_congr {α : Type*} {nameOf : α → String} {xs : List α}
    (hxs : (xs.map fun x => foldName (nameOf x)).Nodup) {name name' : String} {x x' : α}
    (h : select nameOf xs name = some x) (h' : select nameOf xs name' = some x') :
  x = x' ↔ foldName name = foldName name'
  := by
  obtain ⟨hx, hfold⟩ := mem_of_select h
  obtain ⟨hx', hfold'⟩ := mem_of_select h'
  rw [← hfold, ← hfold']
  constructor
  · rintro rfl
    rfl
  · exact List.inj_on_of_nodup_map hxs hx hx'

/-! ### Assignments -/

/-- The name of a field, and whether a null makes it nil. -/
structure Tag where
  name : String
  nullable : Bool := false
deriving DecidableEq

def isNull : Json → Bool
  | .null => true
  | _ => false

theorem eq_null {v : Json} (h : isNull v = true) :
  v = .null
  := by
  cases v with
  | null => rfl
  | _ => cases h

/-- The field that a member assigns. -/
def assigned (tags : List Tag) (m : String × Json) : Option Tag :=
  match select Tag.name tags m.1 with
  | none => none
  | some tag => if isNull m.2 ∧ tag.nullable = false then none else some tag

/-- No field is assigned by two members. -/
def SinglyAssigned (tags : List Tag) (ms : List (String × Json)) : Prop :=
  ms.Pairwise fun m m' => ∀ tag, ¬ (assigned tags m = some tag ∧ assigned tags m' = some tag)

/-- Among the names of the members that assign a field, no two differ only in case. -/
def UniformlySpelled (tags : List Tag) (ms : List (String × Json)) : Prop :=
  ms.Pairwise fun m m' => (assigned tags m).isSome → (assigned tags m').isSome →
    foldName m.1 = foldName m'.1 → m.1 = m'.1

theorem select_of_assigned {tags : List Tag} {m : String × Json} {tag : Tag}
    (h : assigned tags m = some tag) :
  select Tag.name tags m.1 = some tag
  := by
  unfold assigned at h
  split at h
  · cases h
  · rename_i tag' hselect
    split at h
    · cases h
    · rw [hselect, h]

/-- Where the names are all different, a field is assigned twice just when two names differ only
in case. -/
theorem singlyAssigned_iff {tags : List Tag} (htags : (tags.map fun t => foldName t.name).Nodup)
    {ms : List (String × Json)} (hnames : (ms.map Prod.fst).Nodup) :
  SinglyAssigned tags ms ↔ UniformlySpelled tags ms
  := by
  have hdistinct : ms.Pairwise fun m m' => m.1 ≠ m'.1 := List.pairwise_map.mp hnames
  constructor
  · intro h
    refine List.Pairwise.imp ?_ h
    intro m m' hsingle hm hm' hfold
    obtain ⟨tag, hm⟩ := Option.isSome_iff_exists.mp hm
    obtain ⟨tag', hm'⟩ := Option.isSome_iff_exists.mp hm'
    have htag : tag = tag' :=
      (select_congr htags (select_of_assigned hm) (select_of_assigned hm')).mpr hfold
    rw [← htag] at hm'
    exact absurd ⟨hm, hm'⟩ (hsingle tag)
  · intro h
    refine List.Pairwise.imp ?_ (h.and hdistinct)
    rintro m m' ⟨hspelled, hne⟩ tag ⟨hm, hm'⟩
    apply hne
    apply hspelled (Option.isSome_of_mem hm) (Option.isSome_of_mem hm')
    exact (select_congr htags (select_of_assigned hm) (select_of_assigned hm')).mp rfl

/-! ### Records -/

/-- A field of the structure `σ`, with the decoder of its values. The decoder starts from the
present value. -/
structure Field (σ : Type) extends Tag where
  Value : Type
  read : σ → Value
  write : Value → σ → σ
  decode : Json → Value → Option Value
  read_write : ∀ x s, read (write x s) = x
  decode_null : nullable = false → ∀ x, decode .null x = some x

/-- Writing one of the fields does not change the other. -/
def Field.Apart {σ : Type} (f g : Field σ) : Prop :=
  (∀ x s, f.read (g.write x s) = f.read s) ∧ ∀ x s, g.read (f.write x s) = g.read s

instance {σ : Type} : Std.Symm (@Field.Apart σ) where
  symm _ _ h := ⟨h.2, h.1⟩

/-- A structure with its fields, none of which shares its name or its place with another. -/
structure Record (σ : Type) where
  fields : List (Field σ)
  zero : σ
  folds_nodup : (fields.map fun f => foldName f.name).Nodup
  apart : fields.Pairwise Field.Apart

namespace Record

variable {σ : Type} (r : Record σ)

def tags : List Tag := r.fields.map Field.toTag

def field? (name : String) : Option (Field σ) := select (fun f => f.name) r.fields name

/-- The members stored one after the other. -/
def decodeMembers : List (String × Json) → σ → Option σ
  | [], s => some s
  | (name, v) :: ms, s =>
      match r.field? name with
      | none => none
      | some f =>
          match f.decode v (f.read s) with
          | none => none
          | some x => decodeMembers ms (f.write x s)

def decode : Json → σ → Option σ
  | .null, s => some s
  | .obj ms, s => r.decodeMembers ms s
  | _, _ => none

/-- Every member that assigns a field says what the field holds. -/
def Reads (ms : List (String × Json)) (s : σ) : Prop :=
  ∀ m ∈ ms, ∀ f, r.field? m.1 = some f → (assigned r.tags m).isSome →
    f.decode m.2 (f.read r.zero) = some (f.read s)

theorem tags_folds_nodup :
  (r.tags.map fun t => foldName t.name).Nodup
  := by
  rw [tags, List.map_map]
  apply r.folds_nodup

variable {r} {f : Field σ}

theorem select_tags {name : String} (h : r.field? name = some f) :
  select Tag.name r.tags name = some f.toTag
  := by
  rw [tags, select_map]
  change (r.field? name).map Field.toTag = _
  rw [h]
  rfl

theorem exists_of_select_tags {name : String} {tag : Tag}
    (h : select Tag.name r.tags name = some tag) :
  ∃ f, r.field? name = some f ∧ f.toTag = tag
  := by
  rw [tags, select_map] at h
  exact Option.map_eq_some_iff.mp h

theorem mem_fields {name : String} (h : r.field? name = some f) :
  f ∈ r.fields
  := (mem_of_select h).1

/-- The other fields keep their value. -/
theorem read_write_ne {f g : Field σ} (hf : f ∈ r.fields) (hg : g ∈ r.fields)
    (hne : f.toTag ≠ g.toTag) (x : g.Value) (s : σ) :
  f.read (g.write x s) = f.read s
  := by
  have hfg : f ≠ g := by
    rintro rfl
    exact hne rfl
  exact (r.apart.forall hf hg hfg).1 x s

/-- The fields are told apart by their names. -/
theorem eq_of_name {f g : Field σ} (hf : f ∈ r.fields) (hg : g ∈ r.fields) (h : f.name = g.name) :
  f = g
  := by
  apply List.inj_on_of_nodup_map r.folds_nodup hf hg
  rw [h]

variable {m : String × Json}

/-- A member that is no null assigns the field it is stored in. -/
theorem assigned_of_not_null (h : r.field? m.1 = some f) (hnull : isNull m.2 = false) :
  assigned r.tags m = some f.toTag
  := by
  simp [assigned, select_tags h, hnull]

theorem assigned_eq (h : r.field? m.1 = some f) (hassigned : (assigned r.tags m).isSome) :
  assigned r.tags m = some f.toTag
  := by
  obtain ⟨tag, htag⟩ := Option.isSome_iff_exists.mp hassigned
  rw [htag, ← select_of_assigned htag, select_tags h]

/-- A member that assigns no field is a null without effect. -/
theorem decode_of_not_assigned (h : r.field? m.1 = some f)
    (hassigned : assigned r.tags m = none) (x : f.Value) :
  f.decode m.2 x = some x
  := by
  simp only [assigned, select_tags h] at hassigned
  split at hassigned
  · rename_i hnull
    rw [eq_null hnull.1]
    exact f.decode_null hnull.2 x
  · cases hassigned

variable {ms : List (String × Json)}

theorem decodeMembers_cons {name : String} {v : Json} {s s' : σ}
    (h : r.decodeMembers ((name, v) :: ms) s = some s') :
  ∃ f x, r.field? name = some f ∧ f.decode v (f.read s) = some x ∧
    r.decodeMembers ms (f.write x s) = some s'
  := by
  rw [decodeMembers] at h
  split at h
  · cases h
  · rename_i f hf
    split at h
    · cases h
    · rename_i x hx
      exact ⟨f, x, hf, hx, h⟩

/-- Storing a member in a field changes no field that the member does not assign. -/
theorem read_write_of_not_assigned {name : String} {v : Json} {f g : Field σ} {x : g.Value} {s : σ}
    (hf : f ∈ r.fields) (hg : r.field? name = some g) (hx : g.decode v (g.read s) = some x)
    (hassigned : assigned r.tags (name, v) ≠ some f.toTag) :
  f.read (g.write x s) = f.read s
  := by
  by_cases htag : f.toTag = g.toTag
  · have hfg : f = g := eq_of_name hf (mem_fields hg) (congrArg Tag.name htag)
    subst hfg
    have hnone : assigned r.tags (name, v) = none := by
      cases hsome : assigned r.tags (name, v) with
      | none => rfl
      | some tag => exact absurd (assigned_eq hg (Option.isSome_of_mem hsome)) hassigned
    have hsame : f.decode v (f.read s) = some (f.read s) := decode_of_not_assigned hg hnone _
    rw [hx] at hsame
    rw [f.read_write, Option.some.inj hsame]
  · exact read_write_ne hf (mem_fields hg) htag x s

/-- A field that no member assigns keeps its value. -/
theorem read_of_not_assigned (hf : f ∈ r.fields) {s s' : σ} (h : r.decodeMembers ms s = some s')
    (hassigned : ∀ m ∈ ms, assigned r.tags m ≠ some f.toTag) :
  f.read s' = f.read s
  := by
  induction ms generalizing s with
  | nil =>
      cases h
      rfl
  | cons m ms ih =>
      obtain ⟨name, v⟩ := m
      obtain ⟨g, x, hg, hx, hrest⟩ := decodeMembers_cons h
      have hlater := ih hrest fun m hm => hassigned m (List.mem_cons_of_mem _ hm)
      rw [hlater]
      apply read_write_of_not_assigned hf hg hx
      apply hassigned _ List.mem_cons_self

/-- A field that is assigned once holds what its member says. -/
theorem reads_of_singlyAssigned {s : σ}
    (h : r.decodeMembers ms r.zero = some s) (hsingle : SinglyAssigned r.tags ms) :
  r.Reads ms s
  := by
  have hgeneral : ∀ s₀, r.decodeMembers ms s₀ = some s → ∀ m ∈ ms, ∀ f, r.field? m.1 = some f →
      (assigned r.tags m).isSome → f.decode m.2 (f.read s₀) = some (f.read s) := by
    clear h
    induction ms with
    | nil => nofun
    | cons m ms ih =>
        intro s₀ h m' hm' f hf hassigned
        obtain ⟨name, v⟩ := m
        obtain ⟨hfirst, hothers⟩ := List.pairwise_cons.mp hsingle
        obtain ⟨g, x, hg, hx, hrest⟩ := decodeMembers_cons h
        have htag := assigned_eq hf hassigned
        rcases List.mem_cons.mp hm' with rfl | hm'
        · cases hf.symm.trans hg
          have hkept : f.read s = f.read (f.write x s₀) := by
            apply read_of_not_assigned (mem_fields hf) hrest
            intro m hm hm'
            exact hfirst m hm f.toTag ⟨htag, hm'⟩
          rw [hkept, f.read_write, hx]
        · rw [← ih hothers _ hrest m' hm' f hf hassigned]
          congr 1
          symm
          apply read_write_of_not_assigned (mem_fields hf) hg hx
          intro hv
          exact hfirst m' hm' f.toTag ⟨hv, htag⟩
  exact hgeneral r.zero h

end Record

/-! ### Kinds of fields -/

/-- An integer of 64 bits, written without fraction and exponent. -/
def decodeInt : Json → Int → Option Int
  | .null, x => some x
  | .int n, _ => if -(2 ^ 63) ≤ n ∧ n < 2 ^ 63 then some n else none
  | _, _ => none

def decodeString : Json → String → Option String
  | .null, x => some x
  | .str s, _ => some s
  | _, _ => none

def decodeBool : Json → Bool → Option Bool
  | .null, x => some x
  | .bool b, _ => some b
  | _, _ => none

/-- A slice is emptied, and each element is decoded into a new place. -/
def decodeSlice {α : Type} (decode : Json → α → Option α) (zero : α) :
    Json → List α → Option (List α)
  | .null, _ => some []
  | .arr vs, _ => vs.mapM fun v => decode v zero
  | _, _ => none

/-- The members of an object are added to the map, each value decoded into a new place. -/
def decodeMap {α : Type} (decode : Json → α → Option α) (zero : α) :
    Json → Dict String α → Option (Dict String α)
  | .null, _ => some ⟨[], List.nodup_nil⟩
  | .obj ms, d => ms.foldlM (fun d m => (decode m.2 zero).map (d.set m.1)) d
  | _, _ => none

namespace Field

variable {σ : Type} (name : String)

def int (read : σ → Int) (write : Int → σ → σ) (h : ∀ x s, read (write x s) = x) : Field σ where
  name := name
  Value := Int
  read := read
  write := write
  decode := decodeInt
  read_write := h
  decode_null _ _ := rfl

def string (read : σ → String) (write : String → σ → σ) (h : ∀ x s, read (write x s) = x) :
    Field σ where
  name := name
  Value := String
  read := read
  write := write
  decode := decodeString
  read_write := h
  decode_null _ _ := rfl

def bool (read : σ → Bool) (write : Bool → σ → σ) (h : ∀ x s, read (write x s) = x) : Field σ where
  name := name
  Value := Bool
  read := read
  write := write
  decode := decodeBool
  read_write := h
  decode_null _ _ := rfl

def record {α : Type} (r : Record α) (read : σ → α) (write : α → σ → σ)
    (h : ∀ x s, read (write x s) = x) : Field σ where
  name := name
  Value := α
  read := read
  write := write
  decode := r.decode
  read_write := h
  decode_null _ _ := rfl

def slice {α : Type} (decode : Json → α → Option α) (zero : α) (read : σ → List α)
    (write : List α → σ → σ) (h : ∀ x s, read (write x s) = x) : Field σ where
  name := name
  nullable := true
  Value := List α
  read := read
  write := write
  decode := decodeSlice decode zero
  read_write := h
  decode_null h := nomatch h

def map {α : Type} (decode : Json → α → Option α) (zero : α) (read : σ → Dict String α)
    (write : Dict String α → σ → σ) (h : ∀ x s, read (write x s) = x) : Field σ where
  name := name
  nullable := true
  Value := Dict String α
  read := read
  write := write
  decode := decodeMap decode zero
  read_write := h
  decode_null h := nomatch h

end Field

end Json
