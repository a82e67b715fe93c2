import Mathlib.Data.List.Basic

/-!
# Loops that may fail

A list is gone through with a step that may fail, and then the whole fails. Which results there are
depends on the elements one by one; and where any two neighbours may change places, the order of
the list does not matter.

## Key results

- `isSome_mapM`, `isSome_foldlM`: a loop succeeds if all of its steps can
- `exists_of_mapM`: every element has a result
- `mapM_replace`, `foldlM_replace`: an element may be replaced by one with the same result
- `foldlM_related`: related states stay related
- `foldlM_perm`, `foldlM_perm_eq`: the order of the elements does not matter
- `toOption_foldlM`: a loop whose problems are left aside
-/

namespace Gamebook.Partial

variable {α β σ : Type}

/-- A list of results is there if each of them is. -/
theorem isSome_mapM {f : α → Option β} {list : List α} :
    (list.mapM f).isSome ↔ ∀ a ∈ list, (f a).isSome := by
  induction list with
  | nil => simp
  | cons a list ih =>
    rw [List.mapM_cons, List.forall_mem_cons, ← ih]
    -- One element without a result is enough for the list to have none.
    cases f a with
    | none => simp
    | some b => cases list.mapM f <;> simp

/-- Steps that succeed or fail whatever came before all succeed, or the loop fails. -/
theorem isSome_foldlM {f : σ → α → Option σ} {P : α → Prop} (hf : ∀ s a, (f s a).isSome ↔ P a)
    {list : List α} {s : σ} : (list.foldlM f s).isSome ↔ ∀ a ∈ list, P a := by
  induction list generalizing s with
  | nil => simp
  | cons a list ih =>
    -- Whether a step succeeds does not depend on the state, so the state after it may be any.
    rw [List.foldlM_cons, List.forall_mem_cons, ← hf s a]
    cases f s a with
    | none => simp
    | some next => simpa using ih

/-- An element may be replaced by one that has the same result. -/
theorem mapM_replace {f : α → Option β} {a a' : α} (ha : ∀ b, f a = some b → f a' = some b)
    {before after : List α} {results : List β}
    (h : (before ++ a :: after).mapM f = some results) :
    (before ++ a' :: after).mapM f = some results := by
  rw [List.mapM_append, List.mapM_cons] at h ⊢
  cases hresult : f a with
  | none =>
    rw [hresult] at h
    cases hbefore : before.mapM f <;> rw [hbefore] at h <;> cases h
  | some b =>
    rw [ha b hresult]
    rwa [hresult] at h

/-- In a loop an element may be replaced by one that does the same to every state. -/
theorem foldlM_replace {f : σ → α → Option σ} {a a' : α}
    (ha : ∀ s next, f s a = some next → f s a' = some next) {before after : List α} {s last : σ}
    (h : (before ++ a :: after).foldlM f s = some last) :
    (before ++ a' :: after).foldlM f s = some last := by
  rw [List.foldlM_append] at h ⊢
  obtain ⟨first, hfirst, h⟩ := Option.bind_eq_some_iff.1 h
  obtain ⟨next, hnext, h⟩ := Option.bind_eq_some_iff.1 h
  exact Option.bind_eq_some_iff.2
    ⟨first, hfirst, Option.bind_eq_some_iff.2 ⟨next, ha first next hnext, h⟩⟩

/-- Every element has its result among those of the list. -/
theorem exists_of_mapM {f : α → Option β} {list : List α} {results : List β}
    (h : list.mapM f = some results) {a : α} (ha : a ∈ list) : ∃ b ∈ results, f a = some b := by
  induction list generalizing results with
  | nil => cases ha
  | cons first list ih =>
    -- Everything in the list has a result, or the whole list has none.
    rw [List.mapM_cons] at h
    obtain ⟨b, hb, h⟩ := Option.bind_eq_some_iff.1 h
    obtain ⟨others, hothers, hsame⟩ := Option.bind_eq_some_iff.1 h
    obtain rfl := Option.some.inj hsame
    rcases List.mem_cons.1 ha with rfl | ha
    · exact ⟨b, List.mem_cons_self, hb⟩
    · obtain ⟨c, hc, hac⟩ := ih hothers ha
      exact ⟨c, List.mem_cons_of_mem _ hc, hac⟩

/-- Related states stay related, if they do in every step. -/
theorem foldlM_related {f : σ → α → Option σ} {R : σ → σ → Prop}
    (hstep : ∀ {s t a s'}, R s t → f s a = some s' → ∃ t', f t a = some t' ∧ R s' t')
    {list : List α} {s t last : σ} (hst : R s t) (h : list.foldlM f s = some last) :
    ∃ last', list.foldlM f t = some last' ∧ R last last' := by
  induction list generalizing s t with
  | nil =>
    obtain rfl := Option.some.inj h
    exact ⟨t, rfl, hst⟩
  | cons a list ih =>
    rw [List.foldlM_cons] at h
    obtain ⟨next, hnext, h⟩ := Option.bind_eq_some_iff.1 h
    -- The step from the one state has its like from the other.
    obtain ⟨next', hnext', hrelated⟩ := hstep hst hnext
    obtain ⟨last', hlast, hlasts⟩ := ih hrelated h
    exact ⟨last', by rw [List.foldlM_cons, hnext']; exact hlast, hlasts⟩

/-- If two steps can change places and come to related states, the order of the list only matters up
to that relation. -/
theorem foldlM_perm {f : σ → α → Option σ} {R : σ → σ → Prop} (hrefl : ∀ s, R s s)
    (htrans : ∀ {s t u}, R s t → R t u → R s u)
    (hstep : ∀ {s t a s'}, R s t → f s a = some s' → ∃ t', f t a = some t' ∧ R s' t')
    (hswap : ∀ {s a b next last}, f s a = some next → f next b = some last →
      ∃ next' last', f s b = some next' ∧ f next' a = some last' ∧ R last last')
    {list list' : List α} (hperm : list.Perm list') {s last : σ}
    (h : list.foldlM f s = some last) : ∃ last', list'.foldlM f s = some last' ∧ R last last' := by
  -- On the way that one list becomes the other, two neighbours at a time.
  induction hperm generalizing s last with
  | nil => exact ⟨last, h, hrefl last⟩
  | cons a _ ih =>
    rw [List.foldlM_cons] at h
    obtain ⟨next, hnext, h⟩ := Option.bind_eq_some_iff.1 h
    obtain ⟨last', hlast, hrelated⟩ := ih h
    exact ⟨last', by rw [List.foldlM_cons, hnext]; exact hlast, hrelated⟩
  | swap b a list =>
    rw [List.foldlM_cons] at h
    obtain ⟨first, hfirst, h⟩ := Option.bind_eq_some_iff.1 h
    rw [List.foldlM_cons] at h
    obtain ⟨second, hsecond, h⟩ := Option.bind_eq_some_iff.1 h
    obtain ⟨first', second', hfirst', hsecond', hrelated⟩ := hswap hfirst hsecond
    -- The two steps come to a related state, from where the rest is gone through.
    obtain ⟨last', hlast, hlasts⟩ := foldlM_related hstep hrelated h
    refine ⟨last', ?_, hlasts⟩
    rw [List.foldlM_cons, hfirst']
    show List.foldlM f first' (a :: list) = _
    rw [List.foldlM_cons, hsecond']
    exact hlast
  | trans _ _ ih ih' =>
    obtain ⟨between, hbetween, hrelated⟩ := ih h
    obtain ⟨last', hlast, hrelated'⟩ := ih' hbetween
    exact ⟨last', hlast, htrans hrelated hrelated'⟩

/-- If two steps can change places, the order of the list does not matter. -/
theorem foldlM_perm_eq {f : σ → α → Option σ}
    (hswap : ∀ {s a b next last}, f s a = some next → f next b = some last →
      ∃ next', f s b = some next' ∧ f next' a = some last)
    {list list' : List α} (hperm : list.Perm list') {s last : σ}
    (h : list.foldlM f s = some last) : list'.foldlM f s = some last := by
  obtain ⟨last', hlast, rfl⟩ := foldlM_perm (R := Eq) (fun _ => rfl) Eq.trans
    (fun {s t a s'} hst hs => ⟨s', hst ▸ hs, rfl⟩)
    (fun hfirst hsecond => by
      obtain ⟨next', hnext, hlast⟩ := hswap hfirst hsecond
      exact ⟨next', _, hnext, hlast, rfl⟩) hperm h
  exact hlast

/-- A loop succeeds alike if its problems are left aside from the start. -/
theorem toOption_foldlM {ε : Type} (f : σ → α → Except ε σ) (list : List α) (s : σ) :
    (list.foldlM f s).toOption = list.foldlM (fun s a => (f s a).toOption) s := by
  induction list generalizing s with
  | nil => rfl
  | cons a list ih =>
    rw [List.foldlM_cons, List.foldlM_cons]
    cases f s a with
    | error e => rfl
    | ok next => exact ih next

end Gamebook.Partial
