import ClusterBatch.Reply.Decode

/-!
# Readers

What holds of readers in general. A reader *extends* another one if it makes the same of octets
whatever octets follow them, unless the other one asked for more; a reader that extends itself does
not change its mind when more octets come in. Both relations and the values that a reader can
return are found by following the reader's own steps.

Main statements: `Reader.Extends.bind` and `Reader.Yields.bind`, a step after another one keeps
what both of them keep.
-/

namespace ClusterBatch

variable {α β : Type}

namespace Reader

theorem bind_of_ok {read : Reader α} {next : α → Reader β} {data middle : Bytes} {a : α}
    (h : read data = .ok (a, middle)) : (read >>= next) data = next a middle := by
  change (read data >>= fun p => next p.1 p.2) = _
  rw [h]
  rfl

theorem bind_of_error {read : Reader α} {next : α → Reader β} {data : Bytes} {e : DecodeError}
    (h : read data = .error e) : (read >>= next) data = .error e := by
  change (read data >>= fun p => next p.1 p.2) = _
  rw [h]
  rfl

theorem bind_eq_ok {read : Reader α} {next : α → Reader β} {data rest : Bytes} {b : β} :
    (read >>= next) data = .ok (b, rest) ↔
      ∃ a middle, read data = .ok (a, middle) ∧ next a middle = .ok (b, rest) := by
  cases h : read data with
  | error e => simp [bind_of_error h]
  | ok p => simp [bind_of_ok h, Prod.ext_iff, and_assoc]

theorem bind_eq_error {read : Reader α} {next : α → Reader β} {data : Bytes} {e : DecodeError} :
    (read >>= next) data = .error e ↔
      read data = .error e ∨
        ∃ a middle, read data = .ok (a, middle) ∧ next a middle = .error e := by
  cases h : read data with
  | error e' => simp [bind_of_error h]
  | ok p => simp [bind_of_ok h, Prod.ext_iff, and_assoc]

theorem map_of_ok {read : Reader α} {f : α → β} {data rest : Bytes} {a : α}
    (h : read data = .ok (a, rest)) : (f <$> read) data = .ok (f a, rest) := by
  rw [map_eq_pure_bind, bind_of_ok h]
  rfl

@[simp] theorem pure_eq_ok {a b : α} {data rest : Bytes} :
    (pure a : Reader α) data = .ok (b, rest) ↔ a = b ∧ data = rest := by
  change Except.ok (a, data) = _ ↔ _
  simp

@[simp] theorem throw_eq_error {e e' : DecodeError} {data : Bytes} :
    (throw e : Reader α) data = .error e' ↔ e = e' := by
  change Except.error e = _ ↔ _
  simp

/-! ## Octets that follow -/

/-- What `read` makes of octets, `wider` makes of them whatever octets follow, unless `read` asks
for more. -/
structure Extends (read wider : Reader α) : Prop where
  suffix : ∀ {data a rest}, read data = .ok (a, rest) → rest <:+ data
  value : ∀ {data a rest}, read data = .ok (a, rest) →
    ∀ more, wider (data ++ more) = .ok (a, rest ++ more)
  fault : ∀ {data e}, read data = .error e → e ≠ .incomplete →
    ∀ more, wider (data ++ more) = .error e

namespace Extends

variable {read wider : Reader α} {next wider' : α → Reader β}

theorem pure (a : α) : Extends (pure a) (pure a) where
  suffix h := by simp_all
  value h more := by simp_all
  fault h := nomatch h

theorem throw (e : DecodeError) : Extends (throw e : Reader α) (throw e) where
  suffix h := nomatch h
  value h := nomatch h
  fault h _ more := by simp_all

/-- A reader that always asks for more is extended by every reader. -/
theorem incomplete : Extends (MonadExcept.throw .incomplete : Reader α) wider where
  suffix h := nomatch h
  value h := nomatch h
  fault h hne := absurd (throw_eq_error.1 h).symm hne

theorem bind (h : Extends read wider) (hnext : ∀ a, Extends (next a) (wider' a)) :
    Extends (read >>= next) (wider >>= wider') where
  suffix hb := by
    obtain ⟨a, middle, ha, hb⟩ := bind_eq_ok.1 hb
    exact ((hnext a).suffix hb).trans (h.suffix ha)
  value hb more := by
    obtain ⟨a, middle, ha, hb⟩ := bind_eq_ok.1 hb
    exact bind_eq_ok.2 ⟨a, middle ++ more, h.value ha more, (hnext a).value hb more⟩
  fault hb hne more := by
    apply bind_eq_error.2
    obtain ha | ⟨a, middle, ha, hb⟩ := bind_eq_error.1 hb
    · exact .inl (h.fault ha hne more)
    · exact .inr ⟨a, middle ++ more, h.value ha more, (hnext a).fault hb hne more⟩

/-- Octets that a reader uses up are too few for it as soon as one of them is missing. -/
theorem incomplete_of_strict_prefix (h : Extends read read) {data rest used part : Bytes} {a : α}
    (hread : read data = .ok (a, rest)) (hdata : data = used ++ rest) (hpart : part <+: used)
    (hne : part ≠ used) : read part = .error .incomplete := by
  obtain ⟨missing, rfl⟩ := hpart
  have hsplit : data = part ++ (missing ++ rest) := by rw [hdata, List.append_assoc]
  cases hp : read part with
  | ok p =>
    have hv := h.value hp (missing ++ rest)
    rw [← hsplit, hread] at hv
    have hrest : rest = p.2 ++ (missing ++ rest) := congrArg Prod.snd (Except.ok.inj hv)
    have hlen := congrArg List.length hrest
    have hmissing : missing = [] := List.eq_nil_of_length_eq_zero (by simp at hlen; omega)
    exact absurd (by simp [hmissing]) hne
  | error e =>
    by_cases he : e = .incomplete
    · rw [he]
    · have hf := h.fault hp he (missing ++ rest)
      rw [← hsplit, hread] at hf
      exact nomatch hf

end Extends

/-! ## Values that can be read -/

/-- Every value that is read has the property `p`. -/
structure Yields (read : Reader α) (p : α → Prop) : Prop where
  holds : ∀ {data a rest}, read data = .ok (a, rest) → p a

namespace Yields

variable {read : Reader α} {next : α → Reader β} {p : α → Prop} {q : β → Prop}

theorem pure {a : α} (h : p a) : Yields (pure a) p := ⟨fun hr => (pure_eq_ok.1 hr).1 ▸ h⟩

theorem throw (e : DecodeError) : Yields (throw e) p := ⟨fun hr => nomatch hr⟩

theorem trivial : Yields read fun _ => True := ⟨fun _ => True.intro⟩

theorem bind (h : Yields read p) (hnext : ∀ a, p a → Yields (next a) q) :
    Yields (read >>= next) q := by
  constructor
  intro data b rest hb
  obtain ⟨a, middle, ha, hb⟩ := bind_eq_ok.1 hb
  exact (hnext a (h.holds ha)).holds hb

theorem map {f : α → β} (h : Yields read p) (hf : ∀ a, p a → q (f a)) : Yields (f <$> read) q := by
  rw [map_eq_pure_bind]
  exact h.bind fun a ha => pure (hf a ha)

/-- Steps that agree on every value which the reader before them can return are the same step. -/
theorem bind_congr {other : α → Reader β} (h : Yields read p)
    (hnext : ∀ a, p a → next a = other a) : (read >>= next) = (read >>= other) := by
  funext data
  cases hread : read data with
  | error e => rw [bind_of_error hread, bind_of_error hread]
  | ok result => rw [bind_of_ok hread, bind_of_ok hread, hnext result.1 (h.holds hread)]

end Yields

end Reader

end ClusterBatch
