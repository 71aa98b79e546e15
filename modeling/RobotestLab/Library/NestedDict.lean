import Mathlib.Data.List.Infix
import RobotestLab.Library.PyValue

/-!
# Nested dictionaries

Values at paths of keys in dictionaries of dictionaries. A leaf is a value that is not a dictionary.
Setting a value at a path makes the dictionaries on the way, and fails when there is a leaf on the
way (`setAt_isSome_iff`). It makes one new leaf and keeps the others, except those below the path
(`leafAt_setAt_iff`). Values can be set at a list of paths, so that all of them are there in the
end, exactly when no path leads through another one or through a leaf that was there (`setAll_iff`).
-/

namespace PyValue

/-! ### Items -/

/-- The items of a mapping. -/
abbrev Items := List (PyValue × PyValue)

variable {key k : String} {items items' child : Items} {value v w : PyValue}
  {path r q : List String}

/-- The value under a key. -/
def get? (key : String) (items : Items) : Option PyValue :=
  (items.find? fun item => item.1.isKey key).map Prod.snd

/-- The items with a value set under a key. -/
def setItem (key : String) (value : PyValue) : Items → Items
  | [] => [(.str key, value)]
  | item :: items => if item.1.isKey key then (item.1, value) :: items else
      item :: setItem key value items

theorem isKey_iff : value.isKey key = true ↔ value = .str key
  := by
  cases value with
  | _ => simp [isKey]

theorem item_eq_getD : item key items = (get? key items).getD .none
  := by
  unfold item get?
  cases items.find? fun item => item.1.isKey key with
  | _ => rfl

theorem get?_eq_some_of_item_ne_none (h : item key items ≠ .none) :
    get? key items = some (item key items)
  := by
  rw [item_eq_getD] at h ⊢
  cases hget : get? key items with
  | none => exact absurd (by rw [hget]; rfl) h
  | some value => rfl

theorem mem_of_get? (h : get? key items = some value) : (.str key, value) ∈ items
  := by
  obtain ⟨⟨k, v⟩, hfind, rfl⟩ := Option.map_eq_some_iff.mp h
  have hkey : isKey key k = true := by simpa using List.find?_some hfind
  rw [isKey_iff] at hkey
  subst hkey
  apply List.mem_of_find?_eq_some hfind

theorem get?_cons {item : PyValue × PyValue} :
  get? key (item :: items) = if item.1.isKey key then some item.2 else get? key items
  := by
  unfold get?
  rw [List.find?_cons]
  cases item.1.isKey key with
  | _ => rfl

theorem get?_setItem : get? k (setItem key value items) = if k = key then
    some value else get? k items
  := by
  induction items with
  | nil =>
      rw [setItem, get?_cons]
      by_cases hk : k = key
      · simp [isKey, hk]
      · simp [isKey, hk, Ne.symm hk]
  | cons item items ih =>
      rw [setItem]
      split
      case isTrue hkey =>
        rw [get?_cons, get?_cons, isKey_iff.mp hkey]
        by_cases hk : k = key
        · simp [isKey, hk]
        · simp [isKey, hk, Ne.symm hk]
      case isFalse hkey =>
        rw [get?_cons, get?_cons, ih]
        by_cases hk : k = key
        · rw [if_neg (hk ▸ hkey), if_pos hk, if_pos hk]
        · rw [if_neg hk, if_neg hk]

@[simp]
theorem get?_setItem_self : get? key (setItem key value items) = some value
  := by
  rw [get?_setItem, if_pos rfl]

theorem get?_setItem_of_ne (h : k ≠ key) : get? k (setItem key value items) = get? k items
  := by
  rw [get?_setItem, if_neg h]

theorem item_setItem_self : item key (setItem key value items) = value
  := by
  rw [item_eq_getD, get?_setItem_self, Option.getD_some]

theorem item_setItem_of_ne (h : k ≠ key) : item k (setItem key value items) = item k items
  := by
  rw [item_eq_getD, item_eq_getD, get?_setItem_of_ne h]

/-! ### Paths -/

/-- The value at a path, if every key on the way is there. -/
def resolve : PyValue → List String → Option PyValue
  | value, [] => some value
  | value, key :: path => value.asMapping.bind fun items => (get? key items).bind fun v =>
      resolve v path

/-- There is a leaf at the path. -/
def LeafAt (items : Items) (path : List String) (value : PyValue) : Prop :=
  resolve (.dict items) path = some value ∧ value.asMapping = Option.none

theorem not_leafAt_nil : ¬ LeafAt items [] value
  := by
  rintro ⟨⟨⟩, ⟨⟩⟩

theorem not_leafAt_empty : ¬ LeafAt [] path value
  := by
  cases path with
  | nil => apply not_leafAt_nil
  | cons key path => rintro ⟨⟨⟩, -⟩

theorem resolve_cons : resolve (.dict items) (key :: path) = (get? key items).bind fun v =>
    resolve v path
  := rfl

theorem leafAt_congr (h : get? key items = get? key items') :
  LeafAt items (key :: path) value ↔ LeafAt items' (key :: path) value
  := by
  rw [LeafAt, LeafAt, resolve_cons, resolve_cons, h]

theorem leafAt_of_child (h : get? key items = some (.dict child)) :
  LeafAt items (key :: path) value ↔ LeafAt child path value
  := by
  rw [LeafAt, LeafAt, resolve_cons, h, Option.bind_some]

theorem leafAt_of_leaf (h : get? key items = some w) (hw : w.asMapping = Option.none) :
  LeafAt items (key :: path) value ↔ path = [] ∧ value = w
  := by
  rw [LeafAt, resolve_cons, h, Option.bind_some]
  cases path with
  | nil =>
      constructor
      · rintro ⟨⟨⟩, -⟩
        exact ⟨rfl, rfl⟩
      · rintro ⟨-, rfl⟩
        exact ⟨rfl, hw⟩
  | cons k path => simp [resolve, hw]

theorem not_leafAt_of_missing (h : get? key items = Option.none) :
    ¬ LeafAt items (key :: path) value
  := by
  rintro ⟨hresolve, -⟩
  rw [resolve_cons, h] at hresolve
  cases hresolve

theorem asMapping_eq_some (h : value.asMapping = some child) : value = .dict child
  := by
  cases value with
  | dict items =>
      cases h
      rfl
  | _ => cases h

theorem resolve_append : resolve value (path ++ q) = (resolve value path).bind fun v => resolve v q
  := by
  induction path generalizing value with
  | nil => rfl
  | cons key path ih =>
      rw [List.cons_append, resolve, resolve]
      cases value.asMapping with
      | none => rfl
      | some items =>
          cases hget : get? key items with
          | none => simp [hget]
          | some v => simp [hget, ih]

/-- No leaf is below another one. -/
theorem LeafAt.eq_of_isPrefixOf (hp : LeafAt items path value) (hq : LeafAt items q w)
    (h : path <+: q) :
  path = q
  := by
  obtain ⟨rest, rfl⟩ := h
  have hresolve := hq.1
  rw [resolve_append, hp.1, Option.bind_some] at hresolve
  cases rest with
  | nil => rw [List.append_nil]
  | cons key rest =>
      rw [resolve, hp.2] at hresolve
      cases hresolve

/-! ### Setting a value at a path -/

/-- The dictionary under a key, which is empty when the key is missing. -/
def childOf (key : String) (items : Items) : Option Items :=
  match get? key items with
  | Option.none => some []
  | some value => value.asMapping

/-- The items with a value set at a path. -/
def setAt (value : PyValue) : Items → List String → Option Items
  | _, [] => Option.none
  | items, [key] => some (setItem key value items)
  | items, key :: next :: path =>
      (childOf key items).bind fun child =>
        (setAt value child (next :: path)).map fun child => setItem key (.dict child) items

theorem leafAt_childOf (h : childOf key items = some child) :
  LeafAt items (key :: path) v ↔ LeafAt child path v
  := by
  unfold childOf at h
  split at h
  case h_1 hmissing =>
    cases h
    exact iff_of_false (not_leafAt_of_missing hmissing) not_leafAt_empty
  case h_2 hget => exact leafAt_of_child (hget.trans (congrArg some (asMapping_eq_some h)))

/-- Setting a value makes one new leaf and keeps the leaves that are not below it. -/
theorem leafAt_setAt_iff (hv : value.asMapping = Option.none)
    (h : setAt value items path = some items') :
  LeafAt items' r w ↔ (r = path ∧ w = value) ∨ (LeafAt items r w ∧ ¬ path <+: r)
  := by
  induction path generalizing items items' r with
  | nil => cases h
  | cons key path ih =>
      cases r with
      | nil => simp [not_leafAt_nil]
      | cons k r =>
          by_cases hk : k = key
          · subst hk
            simp only [List.cons.injEq, true_and, List.cons_prefix_cons]
            cases path with
            | nil =>
                cases h
                rw [leafAt_of_leaf get?_setItem_self hv]
                simp
            | cons next path =>
                obtain ⟨child, hchild, h⟩ := Option.bind_eq_some_iff.mp h
                obtain ⟨child', hset, rfl⟩ := Option.map_eq_some_iff.mp h
                rw [leafAt_of_child get?_setItem_self, leafAt_childOf hchild, ih hset]
          · have hget : get? k items' = get? k items := by
              cases path with
              | nil =>
                  cases h
                  apply get?_setItem_of_ne hk
              | cons next path =>
                  obtain ⟨child, -, h⟩ := Option.bind_eq_some_iff.mp h
                  obtain ⟨child', -, rfl⟩ := Option.map_eq_some_iff.mp h
                  apply get?_setItem_of_ne hk
            rw [leafAt_congr hget]
            simp [hk, Ne.symm hk]

/-- A value can be set at a path exactly when no leaf is on the way. -/
theorem setAt_isSome_iff (hpath : path ≠ []) :
  (setAt value items path).isSome = true ↔ ∀ r w, LeafAt items r w → r <+: path → r = path
  := by
  induction path generalizing items with
  | nil => exact absurd rfl hpath
  | cons key path ih =>
      cases path with
      | nil =>
          refine iff_of_true rfl ?_
          intro r w hleaf hr
          cases r with
          | nil => exact absurd hleaf not_leafAt_nil
          | cons k r => simpa using hr
      | cons next path =>
          rw [setAt]
          cases hchild : childOf key items with
          | none =>
              refine iff_of_false nofun ?_
              intro hall
              unfold childOf at hchild
              split at hchild
              case h_1 => cases hchild
              case h_2 w hget =>
                have hleaf := (leafAt_of_leaf hget hchild).mpr ⟨rfl, rfl⟩
                cases hall [key] w hleaf ⟨next :: path, rfl⟩
          | some child =>
              rw [Option.bind_some, Option.isSome_map, ih (List.cons_ne_nil next path)]
              constructor
              · intro hall r w hleaf hr
                cases r with
                | nil => exact absurd hleaf not_leafAt_nil
                | cons k r =>
                    rw [List.cons_prefix_cons] at hr
                    obtain ⟨rfl, hr⟩ := hr
                    rw [hall r w ((leafAt_childOf hchild).mp hleaf) hr]
              · intro hall r w hleaf hr
                have hkey := hall (key :: r) w ((leafAt_childOf hchild).mpr hleaf)
                  (List.cons_prefix_cons.mpr ⟨rfl, hr⟩)
                exact (List.cons.inj hkey).2

theorem leafAt_setAt_self (hv : value.asMapping = Option.none)
    (h : setAt value items path = some items') :
  LeafAt items' path value
  := (leafAt_setAt_iff hv h).mpr (.inl ⟨rfl, rfl⟩)

/-- A leaf stays where it is, or one of the keys on the way to it becomes a leaf. -/
theorem exists_leafAt_setAt (hv : value.asMapping = Option.none)
    (h : setAt value items path = some items')
    (hleaf : ∃ r' w, LeafAt items r' w ∧ r' <+: r) :
  ∃ r' w, LeafAt items' r' w ∧ r' <+: r
  := by
  obtain ⟨r', w, hleaf, hr⟩ := hleaf
  by_cases hpath : path <+: r'
  · exact ⟨path, value, leafAt_setAt_self hv h, hpath.trans hr⟩
  · exact ⟨r', w, (leafAt_setAt_iff hv h).mpr (.inr ⟨hleaf, hpath⟩), hr⟩

/-! ### Setting a value at many paths -/

variable {paths : List (List String)}

/-- The items with a value set at paths, one after another. -/
def setAll (value : PyValue) (items : Items) (paths : List (List String)) : Option Items :=
  paths.foldlM (setAt value) items

/-- No path leads through another one or through a leaf. -/
structure Compatible (items : Items) (paths : List (List String)) : Prop where
  pairs : ∀ path ∈ paths, ∀ q ∈ paths, path <+: q → path = q
  leaves : ∀ r w, LeafAt items r w → ∀ q ∈ paths, r <+: q → r = q

theorem Compatible.setAt (hc : Compatible items (path :: paths))
    (hv : value.asMapping = Option.none)
    (h : setAt value items path = some items') :
  Compatible items' paths
  := by
  constructor
  · intro p hp q hq
    apply hc.pairs p (List.mem_cons_of_mem _ hp) q (List.mem_cons_of_mem _ hq)
  · intro r w hleaf q hq hr
    rcases (leafAt_setAt_iff hv h).mp hleaf with ⟨rfl, rfl⟩ | ⟨hleaf, -⟩
    · apply hc.pairs _ List.mem_cons_self q (List.mem_cons_of_mem _ hq) hr
    · apply hc.leaves r w hleaf q (List.mem_cons_of_mem _ hq) hr

/-- A leaf with the value that is on the way to none of the paths, and has none of them on its way,
stays. -/
theorem leafAt_setAll_of_leafAt (hv : value.asMapping = Option.none)
    (h : setAll value items paths = some items')
    (hleaf : LeafAt items r value) (hpaths : ∀ path ∈ paths, path <+: r → path = r) :
  LeafAt items' r value
  := by
  induction paths generalizing items with
  | nil =>
      cases h
      exact hleaf
  | cons path paths ih =>
      obtain ⟨next, hset, h⟩ := Option.bind_eq_some_iff.mp h
      rw [List.forall_mem_cons] at hpaths
      refine ih h ?_ hpaths.2
      by_cases hr : path <+: r
      · rw [← hpaths.1 hr]
        apply leafAt_setAt_self hv hset
      · apply (leafAt_setAt_iff hv hset).mpr (.inr ⟨hleaf, hr⟩)

theorem Compatible.exists_setAll (hc : Compatible items paths) (hne : ∀ path ∈ paths, path ≠ [])
    (hv : value.asMapping = Option.none) :
  ∃ items', setAll value items paths = some items' ∧ ∀ path ∈ paths, LeafAt items' path value
  := by
  induction paths generalizing items with
  | nil => exact ⟨items, rfl, nofun⟩
  | cons path paths ih =>
      rw [List.forall_mem_cons] at hne
      obtain ⟨next, hset⟩ := Option.isSome_iff_exists.mp <| (@setAt_isSome_iff _ value _ hne.1).mpr
        fun r w hleaf => hc.leaves r w hleaf path List.mem_cons_self
      obtain ⟨items', hall, hleaves⟩ := ih (hc.setAt hv hset) hne.2
      refine ⟨items', ?_, List.forall_mem_cons.mpr ⟨?_, hleaves⟩⟩
      · rw [setAll, List.foldlM_cons, hset]
        exact hall
      · refine leafAt_setAll_of_leafAt hv hall (leafAt_setAt_self hv hset) ?_
        intro q hq
        apply hc.pairs q (List.mem_cons_of_mem _ hq) path List.mem_cons_self

/-- A path through a leaf is never set. -/
theorem leaves_of_setAll (hv : value.asMapping = Option.none)
    (h : setAll value items paths = some items')
    (hne : ∀ path ∈ paths, path ≠ []) (hleaf : ∃ r' w, LeafAt items r' w ∧ r' <+: r)
    (hq : q ∈ paths)
    (hr : r <+: q) :
  r = q
  := by
  induction paths generalizing items with
  | nil => cases hq
  | cons path paths ih =>
      obtain ⟨next, hset, h⟩ := Option.bind_eq_some_iff.mp h
      rw [List.forall_mem_cons] at hne
      rcases List.mem_cons.mp hq with rfl | hq
      · obtain ⟨r', w, hleaf, hr'⟩ := hleaf
        have hsome : (PyValue.setAt value items q).isSome = true := by
          rw [hset]
          rfl
        have heq := (setAt_isSome_iff hne.1).mp hsome r' w hleaf (hr'.trans hr)
        exact hr.eq_of_length_le (heq ▸ hr'.length_le)
      · apply ih h hne.2 (exists_leafAt_setAt hv hset hleaf) hq

/-- The value can be set at all the paths exactly when they are compatible. -/
theorem setAll_iff (hne : ∀ path ∈ paths, path ≠ []) (hv : value.asMapping = Option.none) :
  (∃ items', setAll value items paths = some items' ∧ ∀ path ∈ paths, LeafAt items' path value)
    ↔ Compatible items paths
  := by
  constructor
  · rintro ⟨items', hall, hleaves⟩
    constructor
    · intro p hp q hq
      apply (hleaves p hp).eq_of_isPrefixOf (hleaves q hq)
    · intro r w hleaf q hq
      apply leaves_of_setAll hv hall hne ⟨r, w, hleaf, List.prefix_refl r⟩ hq
  · intro hc
    apply hc.exists_setAll hne hv

end PyValue
