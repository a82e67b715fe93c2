/-!
# Readers in a row

A reader takes what it wants from the front of a text, or fails. What several readers in a row do to
a text is worked out step by step: each one that succeeds hands on its result and the text it
leaves. Where they succeed in a row, each of them did.

## Key results

- `bind_ok`, `bind_answer`: a reader that goes on after another one
- `map_ok`: a reader whose result is changed
- `of_then_ok`, `of_bind_ok`, `of_pure_ok`, `of_map_ok`, `of_lift_ok`: how readers succeed
- `bind_ne_ok`: a reader that cannot succeed in the end
- `toOption_bind_ok`, `bind_toOption`: what comes of two readers in a row, problems left aside
-/

namespace Gamebook.Reading

universe u

variable {ε α β : Type} {text rest : List Char}

/-- A reader that goes on after another one goes on with what that leaves. -/
theorem bind_ok {reader : StateT (List Char) (Except ε) α} {a : α}
    (f : α → StateT (List Char) (Except ε) β) (h : reader text = .ok (a, rest)) :
    (reader >>= f) text = f a rest := by
  show (reader text >>= fun p => f p.1 p.2) = f a rest
  rw [h]
  rfl

/-- What goes on after a success goes on with its result. -/
theorem then_ok (a : α) (f : α → Except ε β) : ((.ok a : Except ε α) >>= f) = f a := rfl

/-- A reader that goes on after another one fails if that does, and goes on otherwise. -/
theorem bind_answer {reader : StateT (List Char) (Except ε) α} {result : Except ε α}
    (f : α → StateT (List Char) (Except ε) β) (h : reader text = result.map (·, rest)) :
    (reader >>= f) text = result >>= fun a => f a rest := by
  show (reader text >>= fun p => f p.1 p.2) = _
  rw [h]
  cases result <;> rfl

/-- A reader whose result is changed. -/
theorem map_ok {reader : StateT (List Char) (Except ε) α} {a : α} (f : α → β)
    (h : reader text = .ok (a, rest)) : (f <$> reader) text = .ok (f a, rest) := by
  show (reader text >>= fun p => pure (f p.1, p.2)) = _
  rw [h]
  rfl

/-- A look at the text takes nothing from it. -/
theorem get_ok (text : List Char) :
    (get : StateT (List Char) (Except ε) (List Char)) text = .ok (text, text) := rfl

/-- What is put in place of the text is what is read from there on. -/
theorem set_ok (text rest : List Char) :
    (set rest : StateT (List Char) (Except ε) PUnit) text = .ok ((), rest) := rfl

/-- Two things in a row that may fail succeed if both do. -/
theorem of_then_ok {first : Except ε α} {f : α → Except ε β} {b : β}
    (h : (first >>= f) = .ok b) : ∃ a, first = .ok a ∧ f a = .ok b := by
  cases first with
  | error e => cases h
  | ok a => exact ⟨a, rfl, h⟩

/-- A reader that goes on after another one succeeds if both do. -/
theorem of_bind_ok {reader : StateT (List Char) (Except ε) α}
    {f : α → StateT (List Char) (Except ε) β} {b : β} (h : (reader >>= f) text = .ok (b, rest)) :
    ∃ a between, reader text = .ok (a, between) ∧ f a between = .ok (b, rest) := by
  have hbind : (reader text >>= fun p => f p.1 p.2) = .ok (b, rest) := h
  obtain ⟨⟨a, between⟩, hread, hrest⟩ := of_then_ok hbind
  exact ⟨a, between, hread, hrest⟩

/-- A reader that goes on with one that never succeeds does not succeed. -/
theorem bind_ne_ok {reader : StateT (List Char) (Except ε) α}
    {f : α → StateT (List Char) (Except ε) β} {b : β}
    (h : ∀ a between, f a between ≠ .ok (b, rest)) : (reader >>= f) text ≠ .ok (b, rest) := by
  intro hread
  obtain ⟨a, between, -, hread⟩ := of_bind_ok hread
  exact h a between hread

/-- A reader that reads nothing gives its result. -/
theorem of_pure_ok {a b : α}
    (h : (pure a : StateT (List Char) (Except ε) α) text = .ok (b, rest)) : a = b :=
  (Prod.mk.inj (Except.ok.inj h)).1

/-- Nor does it take anything from the text. -/
theorem rest_of_pure_ok {a b : α}
    (h : (pure a : StateT (List Char) (Except ε) α) text = .ok (b, rest)) : text = rest :=
  (Prod.mk.inj (Except.ok.inj h)).2

/-- A reader whose result is changed succeeds if it does. -/
theorem of_map_ok {reader : StateT (List Char) (Except ε) α} {f : α → β} {b : β}
    (h : (f <$> reader) text = .ok (b, rest)) : ∃ a, reader text = .ok (a, rest) ∧ f a = b := by
  have hmap : (reader >>= fun a => pure (f a)) text = .ok (b, rest) := h
  obtain ⟨a, between, hread, hpure⟩ := of_bind_ok hmap
  obtain ⟨rfl, rfl⟩ := Prod.mk.inj (Except.ok.inj hpure)
  exact ⟨a, hread, rfl⟩

/-- So does a reader that is followed by a result made of what it reads. -/
theorem of_bind_pure_ok {reader : StateT (List Char) (Except ε) α} {f : α → β} {b : β}
    (h : (reader >>= fun a => pure (f a)) text = .ok (b, rest)) :
    ∃ a, reader text = .ok (a, rest) ∧ f a = b := of_map_ok h

/-- A result that is worked out without reading leaves the text as it is. -/
theorem of_lift_ok {result : Except ε α} {a : α}
    (h : (liftM result : StateT (List Char) (Except ε) α) text = .ok (a, rest)) :
    result = .ok a := by
  cases result with
  | error e => cases h
  | ok b => exact congrArg Except.ok (of_pure_ok h)

/-- Such a result takes nothing from the text, if it is one. -/
theorem rest_of_lift_ok {result : Except ε α} {a : α}
    (h : (liftM result : StateT (List Char) (Except ε) α) text = .ok (a, rest)) : text = rest := by
  cases result with
  | error e => cases h
  | ok b => exact rest_of_pure_ok h

/-! ## Problems left aside -/

/-- What is not a success comes to nothing. -/
theorem toOption_eq_none {result : Except ε α} (h : ∀ a, result ≠ .ok a) :
    result.toOption = none := by
  cases result with
  | error e => rfl
  | ok a => exact absurd rfl (h a)

/-- What comes to something is a success. -/
theorem toOption_eq_some {γ : Type u} {result : Except ε γ} {a : γ} :
    result.toOption = some a ↔ result = .ok a := by
  cases result with
  | error e => exact ⟨nofun, nofun⟩
  | ok b => exact ⟨fun h => congrArg _ (Option.some.inj h), fun h => congrArg _ (Except.ok.inj h)⟩

/-- Two things in a row that may fail. -/
theorem toOption_then (first : Except ε α) (f : α → Except ε β) :
    (first >>= f).toOption = first.toOption.bind fun a => (f a).toOption := by
  cases first <;> rfl

/-- A result that is worked out without reading leaves the text as it is. -/
theorem toOption_lift (result : Except ε α) (text : List Char) :
    ((liftM result : StateT (List Char) (Except ε) α) text).toOption =
      result.toOption.map (·, text) := by
  cases result <;> rfl

/-- A reader goes on with what the one before it reads. -/
theorem toOption_bind_ok {reader : StateT (List Char) (Except ε) α} {a : α}
    (f : α → StateT (List Char) (Except ε) β) (h : reader text = .ok (a, rest)) :
    ((reader >>= f) text).toOption = (f a rest).toOption := congrArg _ (bind_ok f h)

/-- A reader goes on with what comes of the one before it, if anything does. -/
theorem bind_toOption {reader : StateT (List Char) (Except ε) α} {result : Option α}
    (f : α → StateT (List Char) (Except ε) β)
    (h : (reader text).toOption = result.map (·, rest)) :
    ((reader >>= f) text).toOption = result.bind fun a => (f a rest).toOption := by
  have hbind : (reader >>= f) text = (reader text >>= fun p => f p.1 p.2) := rfl
  rw [hbind, toOption_then, h]
  cases result <;> rfl

/-- A reader whose result is changed. -/
theorem map_toOption {reader : StateT (List Char) (Except ε) α} {result : Option α} (f : α → β)
    (h : (reader text).toOption = result.map (·, rest)) :
    ((f <$> reader) text).toOption = (result.map f).map (·, rest) := by
  refine (bind_toOption (fun a => pure (f a)) h).trans ?_
  cases result <;> rfl

end Gamebook.Reading
