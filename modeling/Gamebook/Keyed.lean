/-!
# Values under keys

A `Keyed α` holds at most one value under each text. Its entries are kept in increasing order of
their keys, so two of them that answer every look-up alike are equal, and listing the entries always
gives the same list. Keys are ordered by code point, which is also the order of their UTF-8 bytes.

Key results:

* `get?_insert` - a look-up after an insertion finds the new value under its key, and all else as
  before;
* `get?_insertNew` - the same for an insertion that keeps an older value.
-/

namespace Gamebook

/-- Values under keys, at most one under each. -/
structure Keyed (α : Type) where
  entries : List (String × α)
  /-- The keys strictly increase. -/
  sorted : entries.Pairwise fun a b => a.1 < b.1
  deriving Repr

namespace Keyed

variable {α : Type}

/-- No value under any key. -/
def empty : Keyed α := ⟨[], .nil⟩

instance : Inhabited (Keyed α) := ⟨empty⟩

instance [DecidableEq α] : DecidableEq (Keyed α) := fun a b =>
  if h : a.entries = b.entries then
    isTrue (by cases a; cases b; cases h; rfl)
  else
    isFalse fun he => h (he ▸ rfl)

/-- The value under a key. -/
def get? (m : Keyed α) (key : String) : Option α := m.entries.lookup key

/-- Whether there is a value under a key. -/
def contains (m : Keyed α) (key : String) : Bool := (m.get? key).isSome

/-- The number of keys. -/
def size (m : Keyed α) : Nat := m.entries.length

/-- The keys, in order. -/
def keys (m : Keyed α) : List String := m.entries.map Prod.fst

/-! ## Insertion -/

/-- Puts an entry in its place in a list of entries. An older value under its key gives way to
`merge new old`. -/
def place (merge : α → α → α) (key : String) (a : α) : List (String × α) → List (String × α)
  | [] => [(key, a)]
  | (k, b) :: rest =>
    if key < k then (key, a) :: (k, b) :: rest
    else if key = k then (key, merge a b) :: rest
    else (k, b) :: place merge key a rest

theorem key_of_mem_place {merge : α → α → α} {key : String} {a : α} {e : String × α} :
    ∀ {entries : List (String × α)}, e ∈ place merge key a entries →
      e.1 = key ∨ ∃ e' ∈ entries, e'.1 = e.1
  | [], h => by simp [place] at h; simp [h]
  | (k, b) :: rest, h => by
    unfold place at h
    split at h
    · rcases List.mem_cons.1 h with rfl | h
      · exact .inl rfl
      · exact .inr ⟨e, h, rfl⟩
    · split at h
      · rcases List.mem_cons.1 h with rfl | h
        · exact .inl rfl
        · exact .inr ⟨e, List.mem_cons_of_mem _ h, rfl⟩
      · rcases List.mem_cons.1 h with rfl | h
        · exact .inr ⟨_, List.mem_cons_self, rfl⟩
        · rcases key_of_mem_place h with h | ⟨e', he', h⟩
          · exact .inl h
          · exact .inr ⟨e', List.mem_cons_of_mem _ he', h⟩

theorem place_sorted (merge : α → α → α) (key : String) (a : α) :
    ∀ {entries : List (String × α)}, entries.Pairwise (fun x y => x.1 < y.1) →
      (place merge key a entries).Pairwise fun x y => x.1 < y.1
  | [], _ => by simp [place]
  | (k, b) :: rest, h => by
    have hk := List.pairwise_cons.1 h
    unfold place
    split
    next hlt =>
      refine List.pairwise_cons.2 ⟨fun e he => ?_, h⟩
      rcases List.mem_cons.1 he with rfl | he
      · exact hlt
      · exact String.lt_trans hlt (hk.1 e he)
    next hge =>
      split
      next heq =>
        subst heq
        exact List.pairwise_cons.2 ⟨fun e he => hk.1 e he, hk.2⟩
      next hne =>
        refine List.pairwise_cons.2 ⟨fun e he => ?_, place_sorted merge key a hk.2⟩
        rcases key_of_mem_place he with h | ⟨e', he', h⟩
        · rw [h]
          rcases Std.lt_trichotomy key k with h' | h' | h'
          · exact absurd h' hge
          · exact absurd h' hne
          · exact h'
        · rw [← h]
          exact hk.1 e' he'

/-- Puts a value under a key, in place of an older one. -/
def insert (m : Keyed α) (key : String) (a : α) : Keyed α :=
  ⟨place (fun new _ => new) key a m.entries, place_sorted _ key a m.sorted⟩

/-- Puts a value under a key that has none. -/
def insertNew (m : Keyed α) (key : String) (a : α) : Keyed α :=
  ⟨place (fun _ old => old) key a m.entries, place_sorted _ key a m.sorted⟩

/-- The values of a list of entries. The last of several under one key counts. -/
def ofList (entries : List (String × α)) : Keyed α :=
  entries.foldl (fun m e => m.insert e.1 e.2) empty

/-! ## Look-up after insertion -/

theorem lookup_eq_none_of_lt {key : String} :
    ∀ {entries : List (String × α)}, (∀ e ∈ entries, key < e.1) → entries.lookup key = none
  | [], _ => rfl
  | (k, b) :: rest, h => by
    have hk : key ≠ k := fun heq =>
      String.lt_irrefl k (heq ▸ h (k, b) List.mem_cons_self)
    rw [List.lookup_cons]
    simp only [beq_eq_false_iff_ne.2 hk]
    exact lookup_eq_none_of_lt fun e he => h e (List.mem_cons_of_mem _ he)

theorem lookup_place (merge : α → α → α) (key : String) (a : α) (k' : String) :
    ∀ {entries : List (String × α)}, entries.Pairwise (fun x y => x.1 < y.1) →
      (place merge key a entries).lookup k' =
        if k' = key then some (match entries.lookup key with
          | some b => merge a b
          | none => a) else entries.lookup k'
  | [], _ => by
    by_cases h : k' = key
    · simp [place, h]
    · simp [place, List.lookup_cons, beq_eq_false_iff_ne.2 h, h]
  | (k, b) :: rest, hs => by
    have hk := List.pairwise_cons.1 hs
    unfold place
    split
    next hlt =>
      have hnone : ((k, b) :: rest).lookup key = none := lookup_eq_none_of_lt fun e he => by
        rcases List.mem_cons.1 he with rfl | he
        · exact hlt
        · exact String.lt_trans hlt (hk.1 e he)
      by_cases h : k' = key
      · subst h
        simp [hnone]
      · rw [List.lookup_cons]
        simp [beq_eq_false_iff_ne.2 h, h]
    next hge =>
      split
      next heq =>
        subst heq
        by_cases h : k' = key
        · subst h
          simp
        · simp [List.lookup_cons, beq_eq_false_iff_ne.2 h, h]
      next hne =>
        have ih := lookup_place merge key a k' hk.2
        by_cases hkk : k' = k
        · subst hkk
          have : k' ≠ key := fun h => hne h.symm
          simp [this]
        · rw [List.lookup_cons, beq_eq_false_iff_ne.2 hkk]
          simp only [ih]
          have hb : (key == k) = false := beq_eq_false_iff_ne.2 hne
          have hb' : (k' == k) = false := beq_eq_false_iff_ne.2 hkk
          simp [List.lookup_cons, hb, hb']

@[simp] theorem get?_empty (key : String) : (empty : Keyed α).get? key = none := rfl

@[simp] theorem get?_insert (m : Keyed α) (key : String) (a : α) (k : String) :
    (m.insert key a).get? k = if k = key then some a else m.get? k := by
  simp only [get?, insert, lookup_place _ key a k m.sorted]
  split
  · split <;> rfl
  · rfl

theorem get?_insertNew (m : Keyed α) (key : String) (a : α) (k : String) :
    (m.insertNew key a).get? k =
      if k = key then some ((m.get? key).getD a) else m.get? k := by
  simp only [get?, insertNew, lookup_place _ key a k m.sorted]
  split
  · cases m.entries.lookup key <;> rfl
  · rfl

end Keyed

/-! ## Sets of names -/

/-- A set of texts. -/
abbrev NameSet := Keyed Unit

namespace NameSet

/-- Adds a name. -/
def add (names : NameSet) (name : String) : NameSet := names.insertNew name ()

/-- The set of the names in a list. -/
def ofNames (names : List String) : NameSet := names.foldl add Keyed.empty

theorem contains_add (names : NameSet) (name other : String) :
    (names.add name).contains other = (decide (other = name) || names.contains other) := by
  simp only [Keyed.contains, add, Keyed.get?_insertNew]
  by_cases h : other = name <;> simp [h]

end NameSet

end Gamebook
