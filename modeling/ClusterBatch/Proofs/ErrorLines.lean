import ClusterBatch.Assignment
import ClusterBatch.Proofs.LossyText
import ClusterBatch.Transaction
import Mathlib

/-!
# Lines of errors

An error line is read as a code and a message. What is shown of the error is the line itself, or,
for a line that begins with no code, the line behind the code `ERR`. The text that is shown begins
with a code in any case and has no blanks to be trimmed, so reading it again changes nothing.

Main statement: `ServerError.ofLine_shows`.
-/

namespace ClusterBatch

namespace Text

/-- Whether a text neither begins nor ends with a blank character. -/
structure IsTrimmed (text : List Char) : Prop where
  head : ∀ c ∈ text.head?, isBlank c = false
  last : ∀ c ∈ text.getLast?, isBlank c = false

theorem isTrimmed_trim (text : List Char) : IsTrimmed (trim text) where
  head c hc := by
    have hsuffix := List.dropWhile_suffix (p := isBlank) (l := (text.dropWhile isBlank).reverse)
    have hprefix : trim text <+: text.dropWhile isBlank := by
      rwa [trim, ← List.reverse_suffix, List.reverse_reverse]
    obtain ⟨rest, hrest⟩ := hprefix
    have hfirst : (text.dropWhile isBlank).head? = some c := by
      rw [← hrest, List.head?_append, hc, Option.some_or]
    have hstop := List.head?_dropWhile_not isBlank text
    rw [hfirst] at hstop
    simpa using hstop
  last c hc := by
    rw [trim, List.getLast?_reverse] at hc
    have hstop := List.head?_dropWhile_not isBlank (text.dropWhile isBlank).reverse
    rw [Option.mem_def.1 hc] at hstop
    simpa using hstop

theorem dropWhile_isBlank_eq_self {text : List Char} (h : ∀ c ∈ text.head?, isBlank c = false) :
    text.dropWhile isBlank = text := by
  cases text with
  | nil => rfl
  | cons c rest => exact List.dropWhile_cons_of_neg (by simpa using h c rfl)

theorem trim_eq_self {text : List Char} (h : IsTrimmed text) : trim text = text := by
  have hlast : ∀ c ∈ text.reverse.head?, isBlank c = false := by
    rw [List.head?_reverse]
    exact h.last
  rw [trim, dropWhile_isBlank_eq_self h.head, dropWhile_isBlank_eq_self hlast, List.reverse_reverse]

end Text

namespace ServerError

open Text

/-- Whether a text begins with a code that a space or the end of the text follows. -/
def BeginsWithCode (text : List Char) : Prop :=
  ∃ code rest, isCode code ∧ (text = code ∨ text = code ++ ' ' :: rest)

theorem isCode_iff {code : List Char} : isCode code ↔ code ≠ [] ∧ ∀ c ∈ code, c.isUpper := by
  simp [isCode]

theorem space_notMem_of_isCode {code : List Char} (h : isCode code) : ' ' ∉ code :=
  fun hmem => absurd ((isCode_iff.1 h).2 ' ' hmem) (by decide)

theorem takeWhile_of_isCode {code : List Char} (rest : List Char) (h : isCode code) :
    (code ++ ' ' :: rest).takeWhile (· ≠ ' ') = code := by
  have hcode : ∀ c ∈ code, decide (c ≠ ' ') = true := by
    intro c hc
    simpa using fun hspace : c = ' ' => space_notMem_of_isCode h (hspace ▸ hc)
  rw [List.takeWhile_append_of_pos hcode]
  simp

theorem ofTrimmed_code {code : List Char} (h : isCode code) :
    ofTrimmed code = ⟨String.ofList code, String.ofList []⟩ := by
  have htake : code.takeWhile (· ≠ ' ') = code := by
    rw [List.takeWhile_eq_self_iff]
    intro c hc
    simpa using fun hspace : c = ' ' => space_notMem_of_isCode h (hspace ▸ hc)
  simp only [ofTrimmed, htake, if_pos h, List.drop_of_length_le (Nat.le_succ _)]

theorem ofTrimmed_message {code : List Char} (rest : List Char) (h : isCode code) :
    ofTrimmed (code ++ ' ' :: rest) = ⟨String.ofList code, String.ofList rest⟩ := by
  have hdrop : (code ++ ' ' :: rest).drop (code.length + 1) = rest := by simp
  simp only [ofTrimmed, takeWhile_of_isCode rest h, if_pos h, hdrop]

theorem ofTrimmed_of_not_beginsWithCode {text : List Char} (h : ¬BeginsWithCode text) :
    ofTrimmed text = ⟨"ERR", String.ofList text⟩ := by
  refine if_neg fun hcode => h ?_
  have hsplit := List.takeWhile_append_dropWhile (p := (· ≠ ' ')) (l := text)
  have hstop := List.head?_dropWhile_not (· ≠ ' ') text
  rcases hrest : text.dropWhile (· ≠ ' ') with _ | ⟨c, rest⟩ <;> rw [hrest] at hsplit hstop
  · rw [List.append_nil] at hsplit
    exact ⟨_, [], hcode, .inl hsplit.symm⟩
  · obtain rfl : c = ' ' := by simpa using hstop
    exact ⟨_, rest, hcode, .inr hsplit.symm⟩

/-- The code of an error is one, whatever it was read from. -/
theorem isCode_ofTrimmed (text : List Char) : isCode (ofTrimmed text).code.toList := by
  by_cases h : BeginsWithCode text
  · obtain ⟨code, rest, hcode, rfl | rfl⟩ := h
    · rwa [ofTrimmed_code hcode, String.toList_ofList]
    · rwa [ofTrimmed_message rest hcode, String.toList_ofList]
  · rw [ofTrimmed_of_not_beginsWithCode h]
    exact (by decide : isCode "ERR".toList = true)

theorem toList_text (e : ServerError) : e.text.toList =
    e.code.toList ++ if e.message.toList = [] then [] else ' ' :: e.message.toList := by
  by_cases h : e.message = ""
  · simp [text, h]
  · simp [text, h]

/-- A trimmed text is shown as it is, if it begins with a code. If not, it is shown behind the code
`ERR`. -/
theorem toList_text_ofTrimmed {text : List Char} (h : IsTrimmed text) :
    BeginsWithCode text ∧ (ofTrimmed text).text.toList = text ∨
      ¬BeginsWithCode text ∧ (ofTrimmed text).text.toList =
        ['E', 'R', 'R'] ++ if text = [] then [] else ' ' :: text := by
  by_cases hbegins : BeginsWithCode text
  · refine .inl ⟨hbegins, ?_⟩
    obtain ⟨code, rest, hcode, rfl | rfl⟩ := hbegins
    · simp [ofTrimmed_code hcode, toList_text]
    · -- A space at the end would have been trimmed.
      have hrest : rest ≠ [] := by
        rintro rfl
        exact absurd (h.last ' ' (by simp)) (by decide)
      simp [ofTrimmed_message rest hcode, toList_text, hrest]
  · refine .inr ⟨hbegins, ?_⟩
    rw [ofTrimmed_of_not_beginsWithCode hbegins, toList_text]
    simp

theorem isTrimmed_behind_code {text : List Char} (h : IsTrimmed text) (hne : text ≠ []) :
    IsTrimmed (['E', 'R', 'R'] ++ ' ' :: text) where
  head c hc := by
    obtain rfl : 'E' = c := by simpa using hc
    rfl
  last c hc := by
    obtain ⟨d, rest, rfl⟩ := List.exists_cons_of_ne_nil hne
    exact h.last c (by simpa using hc)

/-- What is shown of an error is read as that error again. -/
theorem ofLine_encode_text (line : Bytes) :
    ofLine (Utf8.encode (ofLine line).text) = ofLine line := by
  have htrimmed := isTrimmed_trim (Utf8.lossyChars line)
  rw [ofLine, Utf8.lossyChars_encode, ofLine]
  generalize trim (Utf8.lossyChars line) = text at htrimmed
  rcases toList_text_ofTrimmed htrimmed with ⟨-, hshown⟩ | ⟨hbegins, hshown⟩ <;> rw [hshown]
  · rw [trim_eq_self htrimmed]
  · have herr : isCode ['E', 'R', 'R'] := by decide
    rw [ofTrimmed_of_not_beginsWithCode hbegins]
    by_cases hne : text = []
    · rw [if_pos hne, List.append_nil, (by decide : trim ['E', 'R', 'R'] = ['E', 'R', 'R']),
        ofTrimmed_code herr, hne]
    · have hbehind := isTrimmed_behind_code htrimmed hne
      rw [if_neg hne, trim_eq_self hbehind, ofTrimmed_message text herr]

end ServerError

/-! ## Errors that commands come to -/

/-- Whether the error that a command comes to, if any, is read from what is shown of it. -/
def Outcome.ReadsBack (outcome : Outcome) : Prop :=
  ∀ e, outcome = .failure e → ServerError.ofLine (Utf8.encode e.text) = e

namespace Outcome

theorem readsBack_ofLine (line : Bytes) : ReadsBack (.failure (.ofLine line)) := by
  rintro e ⟨⟩
  exact ServerError.ofLine_encode_text line

theorem readsBack_ofReply (reply : Reply) : (ofReply reply).ReadsBack := by
  unfold ofReply
  split
  · exact readsBack_ofLine _
  · exact nofun

theorem readsBack_gather (replies : List (NodeAddress × Reply)) : (gather replies).ReadsBack := by
  unfold gather
  split
  · exact readsBack_ofLine _
  · exact nofun

/-- The error of a transaction that was given up is not read from a line but made up; it is one of
those that can be read all the same. -/
theorem readsBack_aborted : Transaction.aborted.ReadsBack := by
  rintro e ⟨⟩
  rw [ServerError.ofLine, Utf8.lossyChars_encode]
  decide +kernel

end Outcome

theorem Transaction.readsBack_of_closing {count : Nat} {acknowledgements : List Reply}
    {exec : Reply} {results : List Outcome}
    (h : closing count acknowledgements exec = .ok results) :
    ∀ outcome ∈ results, outcome.ReadsBack := by
  unfold closing at h
  split at h
  · split_ifs at h
    cases h
    simpa using fun reply _ => Outcome.readsBack_ofReply reply
  · cases h
    intro outcome hmem
    exact List.eq_of_mem_replicate hmem ▸ Outcome.readsBack_aborted
  · cases h
    simpa using fun i _ => Outcome.readsBack_ofLine _
  · cases h

theorem Transaction.readsBack_of_outcomes {count : Nat} {replies : List Reply}
    {results : List Outcome} (h : outcomes count replies = .ok results) :
    ∀ outcome ∈ results, outcome.ReadsBack := by
  unfold outcomes at h
  dsimp only at h
  split at h
  · cases h
    intro outcome hmem
    exact List.eq_of_mem_replicate hmem ▸ Outcome.readsBack_ofLine _
  · exact readsBack_of_closing h

namespace ServerError

open Text

/-- Every line is read as a code of one or more ASCII capitals and a message. What is shown of them
is the trimmed line if that begins with a code, and otherwise the code `ERR`, with the trimmed line
behind it if anything is left of that. Reading what is shown gives the same code and message, for
every line and for every error that a command comes to, in a pipeline, by a broadcast or in a
transaction. -/
theorem ofLine_shows :
    (∀ line, (ofLine line).code ≠ "" ∧ (∀ c ∈ (ofLine line).code.toList, c.isUpper) ∧
      (BeginsWithCode (trim (Utf8.lossyChars line)) ∧
          (ofLine line).text = String.ofList (trim (Utf8.lossyChars line)) ∨
        ¬BeginsWithCode (trim (Utf8.lossyChars line)) ∧
          (ofLine line).text = "ERR" ++ if trim (Utf8.lossyChars line) = [] then ""
            else " " ++ String.ofList (trim (Utf8.lossyChars line))) ∧
      ofLine (Utf8.encode (ofLine line).text) = ofLine line) ∧
    (∀ reply, (Outcome.ofReply reply).ReadsBack) ∧
    (∀ replies, (Outcome.gather replies).ReadsBack) ∧
    ∀ count replies results, Transaction.outcomes count replies = .ok results →
      ∀ outcome ∈ results, outcome.ReadsBack := by
  refine ⟨fun line => ?_, Outcome.readsBack_ofReply, Outcome.readsBack_gather,
    fun _ _ _ => Transaction.readsBack_of_outcomes⟩
  obtain ⟨hne, hupper⟩ := isCode_iff.1 (isCode_ofTrimmed (trim (Utf8.lossyChars line)))
  refine ⟨fun hempty => hne (by simpa [ofLine] using congrArg String.toList hempty), hupper, ?_,
    ofLine_encode_text line⟩
  have htrimmed := isTrimmed_trim (Utf8.lossyChars line)
  rw [ofLine]
  generalize trim (Utf8.lossyChars line) = shown at htrimmed
  rcases toList_text_ofTrimmed htrimmed with ⟨hbegins, htext⟩ | ⟨hbegins, htext⟩
  · exact .inl ⟨hbegins, by rw [← String.toList_inj, htext, String.toList_ofList]⟩
  · refine .inr ⟨hbegins, ?_⟩
    rw [← String.toList_inj, htext]
    by_cases hempty : shown = []
    · simp [hempty]
    · simp [hempty]

/-- A tab and a space around a line with two spaces in it; and a transaction that was given up. -/
theorem ofLine_shows_spaces :
    let line : Bytes := [9, 66, 85, 83, 89, 32, 32, 119, 97, 105, 116, 32]
    (ofLine line).text = "BUSY  wait" ∧ ofLine (Utf8.encode (ofLine line).text) = ofLine line ∧
      Transaction.outcomes 1 [.ok, .simple [], .null] = .ok [Transaction.aborted] ∧
      Transaction.aborted.ReadsBack := by
  intro line
  obtain ⟨hlines, -, -, houtcomes⟩ := ofLine_shows
  obtain ⟨-, -, -, hagain⟩ := hlines line
  have houtcome : Transaction.outcomes 1 [.ok, .simple [], .null] = .ok [Transaction.aborted] := rfl
  exact ⟨by decide +kernel, hagain, houtcome, houtcomes _ _ _ houtcome _ List.mem_cons_self⟩

end ServerError

end ClusterBatch
