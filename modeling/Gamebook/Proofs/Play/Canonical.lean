import Gamebook.Proofs.Play.Resume
import Gamebook.Proofs.Text.Bytes
import Mathlib

/-!
# Snapshots are canonical

A snapshot that was written by hand may list its entries in any order and more than once. The
snapshot of the state that is read from it lists them in increasing order of the bytes of their
keys, each key once and with the value that came last, and taking another snapshot of that one
changes nothing. There is but one such snapshot of a state, in whatever order its entries are found.

## Key results

- `Keyed.ext_get?`: what answers every look-up alike is equal
- `Keyed.get?_ofList`: the last of several values under a key is found
- `inOrderOf_eq`: there is one way to put items with distinct keys in order
- `settles_ofList`: what becomes of a list of entries
- `Snapshot.capture_canonical`: what becomes of a snapshot, and that it depends on the state alone
-/

namespace Gamebook

variable {α β : Type}

/-! ## Lists in the order of their keys -/

/-- Strings compare as their bytes do. -/
theorem le_iff_bytes_le (s t : String) : s ≤ t ↔ bytes s ≤ bytes t := by
  rw [← String.not_lt, ← List.not_lt, lt_iff_bytes_lt]

/-- A list in increasing order of the bytes of its keys. -/
def inOrderOf (key : β → String) (items : List β) : List β :=
  items.mergeSort fun a b => decide (bytes (key a) ≤ bytes (key b))

/-- There is one way to put items with distinct keys in order. -/
theorem inOrderOf_eq (key : β → String) {items settled : List β} (hperm : items.Perm settled)
    (hsettled : settled.Pairwise fun a b => key a < key b) : inOrderOf key items = settled := by
  have hsorted : (inOrderOf key items).Pairwise fun a b =>
      decide (bytes (key a) ≤ bytes (key b)) = true := by
    -- Sorting puts the keys in order, and what is in order is the settled list.
    apply List.pairwise_mergeSort
    · intro a b c hab hbc
      rw [decide_eq_true_iff, ← le_iff_bytes_le] at hab hbc ⊢
      exact String.le_trans hab hbc
    · intro a b
      rw [Bool.or_eq_true, decide_eq_true_iff, decide_eq_true_iff, ← le_iff_bytes_le,
        ← le_iff_bytes_le]
      exact String.le_total _ _
  have hsame : (inOrderOf key items).Perm settled := (List.mergeSort_perm _ _).trans hperm
  -- No key is there twice, so in the list that was put in order keys strictly increase as well.
  have hdistinct : (inOrderOf key items).Pairwise fun a b => key a ≠ key b := by
    refine hsame.symm.pairwise (hsettled.imp ?_) Ne.symm
    rintro a b hlt heq
    exact String.lt_irrefl (key b) (heq ▸ hlt)
  have hstrict : (inOrderOf key items).Pairwise fun a b => key a < key b := by
    refine hsorted.imp₂ ?_ hdistinct
    intro a b hle hne
    rw [decide_eq_true_iff, ← le_iff_bytes_le] at hle
    exact lt_of_le_of_ne hle hne
  exact hsame.eq_of_pairwise (fun a b _ _ hab hba => absurd hba (String.lt_asymm hab)) hstrict
    hsettled

namespace Keyed

/-- The entries are what is found under their keys. -/
theorem mem_entries_iff (m : Keyed α) (e : String × α) :
    e ∈ m.entries ↔ m.get? e.1 = some e.2 :=
  ⟨m.get?_of_mem, m.mem_of_get?⟩

/-- What answers every look-up alike is equal. -/
theorem ext_get? {a b : Keyed α} (h : ∀ key, a.get? key = b.get? key) : a = b := by
  have hmem : ∀ e, e ∈ a.entries ↔ e ∈ b.entries := fun e => by
    rw [mem_entries_iff, mem_entries_iff, h]
  have hperm : a.entries.Perm b.entries :=
    (List.perm_ext_iff_of_nodup a.keys_nodup.of_map b.keys_nodup.of_map).2 hmem
  apply eq_of_entries
  rw [← inOrderOf_eq Prod.fst hperm b.sorted, inOrderOf_eq Prod.fst (.refl _) a.sorted]

/-- The last of several values under a key is found. -/
theorem get?_ofList (entries : List (String × α)) (key : String) :
    (ofList entries).get? key = entries.reverse.lookup key := by
  -- From the end of the list, since later values take the place of earlier ones.
  induction entries using List.reverseRecOn with
  | nil => rfl
  | append_singleton entries e ih =>
    -- The last entry is inserted last, and so is the one that is found.
    have hlast : ofList (entries ++ [e]) = (ofList entries).insert e.1 e.2 := by
      unfold ofList
      rw [List.foldl_append]
      rfl
    rw [hlast, get?_insert, ih, List.reverse_append, List.reverse_singleton,
      List.singleton_append, List.lookup_cons]
    -- The last entry decides about its own key, and the entries before it about all others.
    by_cases h : key = e.1
    · simp [h]
    · simp [h, beq_eq_false_iff_ne.2 h]

end Keyed

/-- Sets that hold the same names are equal. -/
theorem NameSet.ext_contains {names other : NameSet}
    (h : ∀ name, names.contains name = other.contains name) : names = other := by
  refine Keyed.ext_get? fun name => ?_
  have hname := h name
  unfold Keyed.contains at hname
  -- What is found under a name is nothing, or the one value that there is.
  cases hone : names.get? name <;> cases hother : other.get? name <;> simp_all

/-! ## Lists of entries -/

/-- Whether a value is the one that a list of entries has last under a key. -/
def IsLast (entries : List (String × α)) (key : String) (value : α) : Prop :=
  ∃ before after, entries = before ++ (key, value) :: after ∧ ∀ e ∈ after, e.1 ≠ key

/-- Whether a list has the keys of some entries, in increasing order of their bytes, and under each
of them the value that came last. -/
structure Settles (entries settled : List (String × α)) : Prop where
  increasing : settled.Pairwise fun a b => bytes a.1 < bytes b.1
  keys : ∀ key, key ∈ settled.map Prod.fst ↔ key ∈ entries.map Prod.fst
  last : ∀ key value, (key, value) ∈ settled ↔ IsLast entries key value

/-- Whether a list goes through the entries of a `Keyed` in some order. -/
structure Enumerates (listed : List (String × α)) (m : Keyed α) : Prop where
  nodup : (listed.map Prod.fst).Nodup
  mem_iff : ∀ e, e ∈ listed ↔ m.get? e.1 = some e.2

/-- The value that comes last under a key is the one that is kept. -/
theorem isLast_iff (entries : List (String × α)) (key : String) (value : α) :
    IsLast entries key value ↔ (Keyed.ofList entries).get? key = some value := by
  rw [Keyed.get?_ofList, List.lookup_eq_some_iff]
  constructor
  · rintro ⟨before, after, rfl, hafter⟩
    refine ⟨after.reverse, before.reverse, by simp, fun e he => ?_⟩
    simpa using (hafter e (List.mem_reverse.1 he)).symm
  · rintro ⟨after, before, hentries, hafter⟩
    refine ⟨before.reverse, after.reverse, ?_, fun e he => ?_⟩
    · rw [← List.reverse_reverse entries, hentries]
      simp
    · exact fun h => by simpa [h] using hafter e (List.mem_reverse.1 he)

/-- What becomes of a list of entries. -/
theorem settles_ofList (entries : List (String × α)) :
    Settles entries (Keyed.ofList entries).entries := by
  refine ⟨?_, fun key => ?_, fun key value => ?_⟩
  · exact (Keyed.ofList entries).sorted.imp (lt_iff_bytes_lt _ _).1
  · show key ∈ (Keyed.ofList entries).keys ↔ _
    rw [Keyed.mem_keys_iff, Keyed.contains, Keyed.get?_ofList, List.lookup_isSome_iff]
    simp
  · rw [isLast_iff, Keyed.mem_entries_iff]

/-- A list enumerates what is kept when it is the list of entries in some order. -/
theorem enumerates_iff_perm (listed : List (String × α)) (m : Keyed α) :
    Enumerates listed m ↔ listed.Perm m.entries := by
  constructor
  · intro h
    refine (List.perm_ext_iff_of_nodup h.nodup.of_map m.keys_nodup.of_map).2 fun e => ?_
    rw [h.mem_iff, m.mem_entries_iff]
  · intro h
    refine ⟨(h.map Prod.fst).nodup_iff.2 m.keys_nodup, fun e => ?_⟩
    rw [h.mem_iff, m.mem_entries_iff]

/-! ## Snapshots -/

/-- A state without all that has a name of its own in it. -/
def State.bare (s : State) : State :=
  { s with inventory := .empty, flags := .empty, relationships := .empty, visited := .empty }

/-- Whether two states know the same: what is found under each name is the same, down to the bits of
a double, and all else is equal. -/
structure State.Agrees (s t : State) : Prop where
  inventory : ∀ item, s.inventory.get? item = t.inventory.get? item
  flags : ∀ flag, s.flag? flag = t.flag? flag
  relationships : ∀ character, s.relationships.get? character = t.relationships.get? character
  visited : ∀ id, s.hasVisited id = t.hasVisited id
  bare_eq : s.bare = t.bare

/-- States that know the same are equal. -/
theorem State.Agrees.eq {s t : State} (h : s.Agrees t) : s = t := by
  have hinventory : s.inventory = t.inventory := Keyed.ext_get? h.inventory
  have hflags : s.flags = t.flags := Keyed.ext_get? h.flags
  have hrelationships : s.relationships = t.relationships := Keyed.ext_get? h.relationships
  have hvisited : s.visited = t.visited := NameSet.ext_contains h.visited
  calc s = { s.bare with
      inventory := s.inventory, flags := s.flags
      relationships := s.relationships, visited := s.visited } := rfl
    _ = { t.bare with
      inventory := t.inventory, flags := t.flags
      relationships := t.relationships, visited := t.visited } := by
        rw [h.bare_eq, hinventory, hflags, hrelationships, hvisited]
    _ = t := rfl

namespace Snapshot

/-- A snapshot without its lists of names. -/
def bare (snapshot : Snapshot) : Snapshot :=
  { snapshot with inventory := [], flags := [], relationships := [], visited := [] }

/-- Whether the lists of a snapshot go through what a state knows, in some order. -/
structure Lists (listed : Snapshot) (s : State) (log : List Step) : Prop where
  inventory : Enumerates listed.inventory s.inventory
  flags : Enumerates listed.flags s.flags
  relationships : Enumerates listed.relationships s.relationships
  visited_nodup : listed.visited.Nodup
  visited_iff : ∀ id, id ∈ listed.visited ↔ s.hasVisited id = true
  bare_eq : listed.bare = (capture s log).bare

/-- A snapshot whose lists of names are put in order. -/
def inOrder (listed : Snapshot) : Snapshot :=
  { listed with
    inventory := inOrderOf Prod.fst listed.inventory
    flags := inOrderOf Prod.fst listed.flags
    relationships := inOrderOf Prod.fst listed.relationships
    visited := inOrderOf id listed.visited }

/-- Whatever order what a state knows is listed in, putting the lists in order gives the snapshot of
the state. -/
theorem Lists.inOrder_eq {listed : Snapshot} {s : State} {log : List Step}
    (h : listed.Lists s log) : listed.inOrder = capture s log := by
  -- Each of the four collections comes out as the capture has it.
  have hentries : ∀ {γ : Type} {list : List (String × γ)} {m : Keyed γ}, Enumerates list m →
      inOrderOf Prod.fst list = m.entries := fun {_ list m} hlist =>
    inOrderOf_eq Prod.fst ((enumerates_iff_perm list m).1 hlist) m.sorted
  have hvisited : inOrderOf id listed.visited = s.visited.keys :=
    inOrderOf_eq id
      ((List.perm_ext_iff_of_nodup h.visited_nodup s.visited.keys_nodup).2 fun name =>
        (h.visited_iff name).trans (s.visited.mem_keys_iff name).symm)
      s.visited.keys_sorted
  calc listed.inOrder = { listed.bare with
      inventory := inOrderOf Prod.fst listed.inventory
      flags := inOrderOf Prod.fst listed.flags
      relationships := inOrderOf Prod.fst listed.relationships
      visited := inOrderOf id listed.visited } := rfl
    _ = { (capture s log).bare with
      inventory := s.inventory.entries
      flags := s.flags.entries
      relationships := s.relationships.entries
      visited := s.visited.keys } := by
        rw [h.bare_eq, hentries h.inventory, hentries h.flags, hentries h.relationships, hvisited]
    _ = capture s log := rfl

/-- Snapshots are canonical. Whatever the lists of a snapshot are like, in the snapshot of what is
read from it they are in increasing order of the bytes of the keys, have the same keys, and have
under each of them the value that came last; all else is as it was, and nothing changes when this is
done again. Two states that know the same have the same snapshot and the same text, and it does not
matter in which order what they know is listed before it is put in order. -/
theorem capture_canonical :
    (∀ snapshot : Snapshot,
      let settled := capture snapshot.restore.1 snapshot.restore.2
      Settles snapshot.inventory settled.inventory ∧
      Settles snapshot.flags settled.flags ∧
      Settles snapshot.relationships settled.relationships ∧
      settled.visited.Pairwise (fun a b => bytes a < bytes b) ∧
      (∀ id, id ∈ settled.visited ↔ id ∈ snapshot.visited) ∧
      settled.bare = snapshot.bare ∧
      capture settled.restore.1 settled.restore.2 = settled) ∧
    ∀ (s t : State) (log : List Step), s.Agrees t →
      capture s log = capture t log ∧
      form.pretty (capture s log) = form.pretty (capture t log) ∧
      ∀ listed : Snapshot, listed.Lists s log ∨ listed.Lists t log →
        listed.inOrder = capture s log := by
  refine ⟨fun snapshot => ?_, fun s t log hagrees => ?_⟩
  · intro settled
    have hnames : settled.visited = (NameSet.ofNames snapshot.visited).keys := rfl
    refine ⟨settles_ofList _, settles_ofList _, settles_ofList _, ?_, fun id => ?_, rfl, ?_⟩
    · rw [hnames]
      exact (Keyed.keys_sorted _).imp (lt_iff_bytes_lt _ _).1
    · rw [hnames, Keyed.mem_keys_iff, NameSet.contains_ofNames, decide_eq_true_iff]
    · rw [restore_capture]
  -- States that agree are the same state, since collections are told by what is found in them.
  · obtain rfl := hagrees.eq
    exact ⟨rfl, rfl, fun listed h => h.elim Lists.inOrder_eq Lists.inOrder_eq⟩

/-! ### A snapshot from a cave -/

/-- A snapshot that lists some items and scenes, in the order in which they are given. -/
def caveSnapshot (inventory : List (String × Bool)) (visited : List String) : Snapshot where
  currentSceneId := "cave"
  inventory
  flags := [("depth", .float 2.5), ("dark", .bool true)]
  relationships := []
  visited
  totalChoices := 1
  totalPoints := 0
  startTime := .epoch
  lastSaveTime := .epoch
  completedObjectives := []
  log := []

/-- The rope that was dropped last is not carried, a scene that is listed twice is listed once, and
whether the rope or the lamp was packed first cannot be seen. -/
theorem capture_canonical_cave :
    let rough := caveSnapshot [("rope", true), ("lamp", true), ("rope", false)]
      ["mouth", "cave", "mouth"]
    let settled := capture rough.restore.1 rough.restore.2
    let one := (caveSnapshot [("rope", true), ("lamp", true)] ["cave"]).state
    let other := (caveSnapshot [("lamp", true), ("rope", true)] ["cave"]).state
    let listed := { capture one [] with inventory := [("rope", true), ("lamp", true)] }
    ("rope", false) ∈ settled.inventory ∧ ("rope", true) ∉ settled.inventory ∧
    "mouth" ∈ settled.visited ∧ settled.visited.Pairwise (fun a b => bytes a < bytes b) ∧
    capture settled.restore.1 settled.restore.2 = settled ∧
    one.Agrees other ∧ capture one [] = capture other [] ∧
    listed.Lists one [] ∧ listed.inOrder = capture one [] := by
  intro rough settled one other listed
  obtain ⟨hsettles, hcaptures⟩ := capture_canonical
  obtain ⟨hinventory, -, -, hincreasing, hvisited, -, hagain⟩ := hsettles rough
  -- The rope was dropped after it was taken, and the last entry counts.
  have hdropped : ("rope", false) ∈ settled.inventory :=
    (hinventory.last "rope" false).2 ⟨[("rope", true), ("lamp", true)], [], rfl, nofun⟩
  have hnot : ("rope", true) ∉ settled.inventory := by decide
  have hsame : one.inventory = other.inventory := by decide
  have hagrees : one.Agrees other :=
    ⟨fun _ => by rw [hsame], fun _ => rfl, fun _ => rfl, fun _ => rfl, rfl⟩
  have hlists : listed.Lists one [] :=
    ⟨(enumerates_iff_perm _ _).2 (by decide), (enumerates_iff_perm _ _).2 (.refl _),
      (enumerates_iff_perm _ _).2 (.refl _), one.visited.keys_nodup,
      one.visited.mem_keys_iff, rfl⟩
  obtain ⟨hcapture, -, horder⟩ := hcaptures one other [] hagrees
  exact ⟨hdropped, hnot, (hvisited "mouth").2 List.mem_cons_self, hincreasing, hagain, hagrees,
    hcapture, hlists, horder listed (.inl hlists)⟩

end Snapshot

end Gamebook
