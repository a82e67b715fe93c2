import Gamebook.Keyed

/-!
# Rebuilding keyed values from their entries

The entries of a `Keyed` stand in strictly increasing order, so putting them one after the other
into an empty `Keyed` only ever appends, and gives back what they were taken from.

## Key results

- `Keyed.get?_of_mem` / `Keyed.mem_of_get?`: the entries are what is found under the keys
- `Keyed.mem_keys_iff` / `Keyed.keys_nodup`: the keys are what has a value, each listed once
- `Keyed.ofList_entries`: the values of the entries of a `Keyed` are that `Keyed`
- `Keyed.get?_ofList_mapM`: values that are changed under their keys are found changed
- `NameSet.ofNames_keys`: the set of the names in a set is that set
- `NameSet.add_add`: adding a name twice is adding it once
- `NameSet.contains_ofNames`: the set of the names in a list holds the names in the list
-/

namespace Gamebook

namespace Keyed

variable {α : Type}

/-- Two `Keyed`s with the same entries are equal. -/
theorem eq_of_entries {a b : Keyed α} (h : a.entries = b.entries) : a = b := by
  cases a
  cases b
  cases h
  rfl

/-- Every entry is found under its key. -/
theorem get?_of_mem (m : Keyed α) {e : String × α} (he : e ∈ m.entries) :
    m.get? e.1 = some e.2 := by
  obtain ⟨entries, hsorted⟩ := m
  unfold get?
  dsimp only at he ⊢
  induction entries with
  | nil => cases he
  | cons first rest ih =>
    obtain ⟨hfirst, hrest⟩ := List.pairwise_cons.1 hsorted
    rw [List.lookup_cons]
    rcases List.mem_cons.1 he with rfl | he
    · simp
    · -- The keys increase, so the first entry has another one.
      have hne : (e.1 == first.1) = false := beq_eq_false_iff_ne.2 fun heq =>
        String.lt_irrefl first.1 (heq ▸ hfirst e he)
      rw [hne]
      exact ih hrest he

/-- What is found under a key is an entry. -/
theorem mem_of_get? (m : Keyed α) {key : String} {a : α} (h : m.get? key = some a) :
    (key, a) ∈ m.entries := by
  obtain ⟨before, after, hentries, -⟩ := List.lookup_eq_some_iff.1 h
  rw [hentries]
  simp

/-- The keys are those that something is kept under. -/
theorem mem_keys_iff (m : Keyed α) (key : String) : key ∈ m.keys ↔ m.contains key = true := by
  unfold keys contains
  rw [List.mem_map, Option.isSome_iff_exists]
  constructor
  · rintro ⟨e, he, rfl⟩
    exact ⟨e.2, m.get?_of_mem he⟩
  · rintro ⟨a, ha⟩
    exact ⟨(key, a), m.mem_of_get? ha, rfl⟩

/-- The keys increase. -/
theorem keys_sorted (m : Keyed α) : m.keys.Pairwise (· < ·) := List.pairwise_map.2 m.sorted

/-- No key is listed twice. -/
theorem keys_nodup (m : Keyed α) : m.keys.Nodup := by
  refine m.keys_sorted.imp ?_
  rintro key _ hlt rfl
  exact String.lt_irrefl key hlt

/-- There are as many entries as keys. -/
theorem size_eq (m : Keyed α) : m.size = m.keys.length := (List.length_map _).symm

/-- A key above all others goes to the end. -/
private theorem place_eq_append (merge : α → α → α) (key : String) (a : α)
    (entries : List (String × α)) (h : ∀ e ∈ entries, e.1 < key) :
    place merge key a entries = entries ++ [(key, a)] := by
  -- The new key is compared with each entry in turn, and passes them all.
  induction entries with
  | nil => rfl
  | cons e rest ih =>
    obtain ⟨k, b⟩ := e
    have hlt : k < key := h (k, b) List.mem_cons_self
    -- All other keys come before the new one, so it goes to the end.
    have hge : ¬ key < k := fun h' => String.lt_irrefl k (String.lt_trans hlt h')
    have hne : key ≠ k := fun h' => String.lt_irrefl k (h' ▸ hlt)
    unfold place
    rw [if_neg hge, if_neg hne, ih fun e he => h e (List.mem_cons_of_mem _ he)]
    rfl

/-- Entries that go on in increasing order are appended. -/
private theorem foldl_place_eq_append (merge : α → α → α) (more entries : List (String × α))
    (h : (entries ++ more).Pairwise fun x y => x.1 < y.1) :
    more.foldl (fun es e => place merge e.1 e.2 es) entries = entries ++ more := by
  -- What was placed before only grows, so the induction is for any entries.
  induction more generalizing entries with
  | nil => simp
  | cons e more ih =>
    -- All that was placed before lies below the next key.
    have hall : ∀ x ∈ entries, x.1 < e.1 := fun x hx =>
      (List.pairwise_append.1 h).2.2 x hx e List.mem_cons_self
    rw [List.foldl_cons, place_eq_append merge e.1 e.2 entries hall, ih _ (by simpa using h)]
    simp

/-- Entries in increasing order that are put into an empty list stay as they are. -/
theorem foldl_place_entries (merge : α → α → α) (m : Keyed α) :
    m.entries.foldl (fun es e => place merge e.1 e.2 es) [] = m.entries := by
  rw [foldl_place_eq_append merge m.entries [] (by simpa using m.sorted)]
  rfl

/-- The values of the entries of a `Keyed` are that `Keyed`. -/
theorem ofList_entries (m : Keyed α) : ofList m.entries = m := by
  apply eq_of_entries
  have hfold : (ofList m.entries).entries =
      m.entries.foldl (fun es e => place (fun new _ => new) e.1 e.2 es) [] :=
    (List.foldl_hom Keyed.entries fun _ _ => rfl).symm
  rw [hfold, foldl_place_entries]

/-! ## Changing the values -/

variable {β ε : Type} {f : α → Except ε β}

/-- If all values of some entries can be changed, the keys stay, and what is found under them is
what was found, changed. -/
private theorem mapM_entries {entries : List (String × α)} {changed : List (String × β)}
    (h : entries.mapM (fun e => (f e.2).map (e.1, ·)) = .ok changed) :
    changed.map Prod.fst = entries.map Prod.fst ∧
      ∀ key, (entries.lookup key).mapM f = .ok (changed.lookup key) := by
  induction entries generalizing changed with
  | nil =>
    obtain rfl : [] = changed := Except.ok.inj h
    exact ⟨rfl, fun _ => rfl⟩
  | cons e entries ih =>
    obtain ⟨k, a⟩ := e
    -- The change succeeds on the first entry and on the others, or it would fail on all.
    rw [List.mapM_cons] at h
    cases hb : f a with
    | error problem =>
      rw [hb] at h
      cases h
    | ok b =>
      rw [hb] at h
      cases hrest : entries.mapM (fun e => (f e.2).map (e.1, ·)) with
      | error problem =>
        rw [hrest] at h
        cases h
      | ok rest =>
        rw [hrest] at h
        obtain rfl : (k, b) :: rest = changed := Except.ok.inj h
        obtain ⟨hkeys, hlookup⟩ := ih hrest
        refine ⟨congrArg (k :: ·) hkeys, fun key => ?_⟩
        -- The change keeps the keys, so both lists are searched alike.
        rw [List.lookup_cons, List.lookup_cons]
        cases key == k with
        | true =>
          show f a >>= (fun b => pure (some b)) = _
          rw [hb]
          rfl
        | false => exact hlookup key

/-- Values that are changed under their keys are found changed. -/
theorem get?_ofList_mapM (m : Keyed α) {changed : List (String × β)}
    (h : m.entries.mapM (fun e => (f e.2).map (e.1, ·)) = .ok changed) (key : String) :
    (m.get? key).mapM f = .ok ((ofList changed).get? key) := by
  obtain ⟨hkeys, hlookup⟩ := mapM_entries h
  -- The keys are still in order, so that nothing is moved when the entries are put together.
  have hsorted : changed.Pairwise fun a b => a.1 < b.1 := by
    have hbefore := List.pairwise_map.2 m.sorted
    rw [← hkeys] at hbefore
    exact List.pairwise_map.1 hbefore
  have hsame : ofList changed = ⟨changed, hsorted⟩ := ofList_entries ⟨changed, hsorted⟩
  rw [hsame]
  exact hlookup key

end Keyed

namespace NameSet

/-- The set of the names in a set is that set. -/
theorem ofNames_keys (names : NameSet) : ofNames names.keys = names := by
  apply Keyed.eq_of_entries
  -- A name stands for the entry with that key, and adding the name places the entry.
  have hfold : (ofNames names.keys).entries =
      names.entries.foldl (fun es e => Keyed.place (fun _ old => old) e.1 e.2 es) [] := by
    unfold ofNames Keyed.keys
    rw [List.foldl_map]
    exact (List.foldl_hom Keyed.entries fun _ _ => rfl).symm
  rw [hfold, Keyed.foldl_place_entries]

/-- A name that is there already may be added again. -/
@[simp] theorem add_add (names : NameSet) (name : String) :
    (names.add name).add name = names.add name := by
  have hplace : ∀ entries : List (String × Unit),
      Keyed.place (fun _ old => old) name () (Keyed.place (fun _ old => old) name () entries) =
        Keyed.place (fun _ old => old) name () entries := by
    intro entries
    induction entries with
    | nil => simp [Keyed.place]
    | cons e rest ih =>
      obtain ⟨k, ⟨⟩⟩ := e
      -- The name is found where it was placed, before, at or behind the first entry.
      by_cases hlt : name < k
      · simp [Keyed.place, hlt]
      · by_cases heq : name = k
        · simp [Keyed.place, heq]
        · simp [Keyed.place, hlt, heq, ih]
  exact Keyed.eq_of_entries (hplace names.entries)

/-- Names are seen when they are added, or were seen before. -/
private theorem contains_foldl_add (names : List String) (seen : NameSet) (name : String) :
    (names.foldl add seen).contains name = (decide (name ∈ names) || seen.contains name) := by
  induction names generalizing seen with
  | nil => simp
  | cons first names ih =>
    rw [List.foldl_cons, ih, contains_add]
    -- The first name is seen because it is added, any other because it is seen later or was before.
    by_cases h : name = first <;> simp [h]

/-- The set of the names in a list holds the names in the list. -/
@[simp] theorem contains_ofNames (names : List String) (name : String) :
    (ofNames names).contains name = decide (name ∈ names) := by
  unfold ofNames
  rw [contains_foldl_add]
  exact Bool.or_false _

end NameSet

end Gamebook
