import ClusterBatch.Slot.Basic
import Mathlib.Data.List.TakeWhile

/-!
# Hash tags

What decides the slot of a key is described here without a search: a key has a tag if an opening
brace, the first one, is followed by at least one octet that is no closing brace and then by a
closing one. Every other key is its own tag, and a tag by itself is such a key.

Main statement: `Slot.hashTag_colocates`.
-/

namespace ClusterBatch.Slot

/-- Whether a key has a tag: the octets between its first opening brace and the next closing one,
at least one. -/
def Tagged (key tag : Bytes) : Prop :=
  ∃ front back, key = front ++ opening :: (tag ++ closing :: back) ∧
    opening ∉ front ∧ tag ≠ [] ∧ closing ∉ tag

variable {key tag : Bytes}

/-! ## Searches -/

theorem ne_of_notMem {brace : UInt8} {octets : Bytes} (h : brace ∉ octets) :
    ∀ b ∈ octets, decide (b ≠ brace) = true := by
  intro b hb
  simpa using fun heq : b = brace => h (heq ▸ hb)

theorem dropWhile_ne_append {brace : UInt8} {front : Bytes} (h : brace ∉ front) (back : Bytes) :
    (front ++ brace :: back).dropWhile (· ≠ brace) = brace :: back := by
  rw [List.dropWhile_append_of_pos (ne_of_notMem h), List.dropWhile_cons_of_neg (by simp)]

theorem takeWhile_ne_append {brace : UInt8} {front : Bytes} (h : brace ∉ front) (back : Bytes) :
    (front ++ brace :: back).takeWhile (· ≠ brace) = front := by
  rw [List.takeWhile_append_of_pos (ne_of_notMem h), List.takeWhile_cons_of_neg (by simp),
    List.append_nil]

/-! ## Tags -/

theorem hashTag_of_tagged (h : Tagged key tag) : hashTag key = tag := by
  obtain ⟨front, back, rfl, hfront, hne, htag⟩ := h
  have hlength : tag.length ≠ (tag ++ closing :: back).length := by
    rw [List.length_append, List.length_cons]
    omega
  simp only [hashTag, dropWhile_ne_append hfront, takeWhile_ne_append htag]
  exact if_neg fun hor => hor.elim hne hlength

/-- The first opening brace decides, and behind it the first closing one. -/
theorem tagged_or_hashTag_eq (key : Bytes) : Tagged key (hashTag key) ∨ hashTag key = key := by
  by_cases hopening : opening ∈ key
  · obtain ⟨front, inside, rfl, hfront⟩ := List.eq_append_cons_of_mem hopening
    by_cases hclosing : closing ∈ inside
    · obtain ⟨tag, back, rfl, htag⟩ := List.eq_append_cons_of_mem hclosing
      by_cases hne : tag = []
      · refine .inr ?_
        simp only [hashTag, dropWhile_ne_append hfront, takeWhile_ne_append htag]
        exact if_pos (.inl hne)
      · have htagged : Tagged (front ++ opening :: (tag ++ closing :: back)) tag :=
          ⟨front, back, rfl, hfront, hne, htag⟩
        exact .inl ((hashTag_of_tagged htagged).symm ▸ htagged)
    · refine .inr ?_
      have hinside : inside.takeWhile (· ≠ closing) = inside :=
        List.takeWhile_eq_self_iff.2 (ne_of_notMem hclosing)
      simp only [hashTag, dropWhile_ne_append hfront, hinside]
      exact if_pos (.inr trivial)
  · refine .inr ?_
    have hdrop : key.dropWhile (· ≠ opening) = [] :=
      List.dropWhile_eq_nil_iff.2 (ne_of_notMem hopening)
    simp only [hashTag, hdrop]

theorem hashTag_of_not_tagged (h : ∀ tag, ¬Tagged key tag) : hashTag key = key :=
  (tagged_or_hashTag_eq key).resolve_left (h _)

/-- A tag is shorter than its key, so that a key that is its own tag has none. -/
theorem not_tagged_of_hashTag_eq (h : hashTag key = key) : ¬Tagged key tag := by
  intro htagged
  obtain rfl : key = tag := h.symm.trans (hashTag_of_tagged htagged)
  obtain ⟨front, back, hkey, -⟩ := htagged
  have hlength := congrArg List.length hkey
  simp only [List.length_append, List.length_cons] at hlength
  omega

theorem hashTag_of_closing_notMem (h : closing ∉ tag) : hashTag tag = tag := by
  refine hashTag_of_not_tagged ?_
  rintro inner ⟨front, back, rfl, -⟩
  exact h (by simp)

theorem hashTag_hashTag (key : Bytes) : hashTag (hashTag key) = hashTag key := by
  rcases tagged_or_hashTag_eq key with htagged | hsame
  · obtain ⟨-, -, -, -, -, htag⟩ := htagged
    exact hashTag_of_closing_notMem htag
  · rw [hsame, hsame]

theorem ofKey_of_tagged (h : Tagged key tag) : ofKey key = ofKey tag := by
  obtain ⟨-, -, -, -, -, htag⟩ := id h
  rw [ofKey, hashTag_of_tagged h, ofKey, hashTag_of_closing_notMem htag]

/-- The tag of a key that has one is what its slot is made of, and every other key is its own tag.
Hence the tag of a tag is that tag, a key lies on the slot of its tag, which is one of the 16384,
and so do all keys with the same tag, whatever surrounds it. -/
theorem hashTag_colocates :
    (∀ front tag back, opening ∉ front → tag ≠ [] → closing ∉ tag →
        hashTag (front ++ opening :: (tag ++ closing :: back)) = tag) ∧
      (∀ key, (∀ tag, ¬Tagged key tag) → hashTag key = key) ∧
      (∀ key, hashTag (hashTag key) = hashTag key ∧ ofKey key < 16384 ∧
        ofKey key = ofKey (hashTag key)) ∧
      ∀ one other tag, Tagged one tag → Tagged other tag →
        ofKey one = ofKey tag ∧ ofKey other = ofKey tag := by
  refine ⟨?_, fun key => hashTag_of_not_tagged, fun key => ⟨hashTag_hashTag key, ofKey_lt key, ?_⟩,
    ?_⟩
  · intro front tag back hfront hne htag
    exact hashTag_of_tagged ⟨front, back, rfl, hfront, hne, htag⟩
  · rw [ofKey, ofKey, hashTag_hashTag]
  · intro one other tag hone hother
    exact ⟨ofKey_of_tagged hone, ofKey_of_tagged hother⟩

/-- A brace inside a tag, a tag that is empty and one that is not closed. -/
theorem hashTag_colocates_braces :
    let inner : Bytes := [opening, 98]
    hashTag ([102] ++ opening :: (inner ++ closing :: [closing, 122])) = inner ∧
      hashTag [102, opening, closing, opening, 98, closing] =
        [102, opening, closing, opening, 98, closing] ∧
      hashTag [closing, opening, 98] = [closing, opening, 98] ∧
      ofKey ([102] ++ opening :: (inner ++ closing :: [closing, 122])) = ofKey inner ∧
      ofKey ([] ++ opening :: (inner ++ closing :: [])) = ofKey inner := by
  intro inner
  obtain ⟨htag, hwhole, -, hshare⟩ := hashTag_colocates
  have hinner : inner ≠ [] ∧ closing ∉ inner := by decide
  refine ⟨htag _ _ _ (by decide) hinner.1 hinner.2, hwhole _ fun tag => ?_, hwhole _ fun tag => ?_,
    hshare _ _ inner ?_ ?_⟩
  · exact not_tagged_of_hashTag_eq (by decide)
  · exact not_tagged_of_hashTag_eq (by decide)
  · exact ⟨[102], [closing, 122], rfl, by decide, hinner.1, hinner.2⟩
  · exact ⟨[], [], rfl, by decide, hinner.1, hinner.2⟩

end ClusterBatch.Slot
