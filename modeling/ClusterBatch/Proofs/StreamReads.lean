import ClusterBatch.Proofs.CountedKeys

/-!
# Keys of stream reads

A read of streams names them behind the word `STREAMS`, in any case, and as many positions behind
them. The word is looked for from the front. Of what may stand before it, options cannot be mistaken
for it. The names of a group and of a consumer can: they are free text.

Main statement: `Command.keys_streamRead`.
-/

namespace ClusterBatch

/-- A numeral begins with a sign or a digit. -/
theorem Numeral.head_of_integer? {text : List Char} {n : Int} (h : integer? text = some n) :
    ∃ c rest, text = c :: rest ∧ (c = '-' ∨ c = '+' ∨ c.isDigit) := by
  unfold integer? at h
  split at h
  · exact ⟨_, _, rfl, .inl rfl⟩
  · exact ⟨_, _, rfl, .inr (.inl rfl)⟩
  · obtain ⟨k, hdigits, -⟩ := Option.map_eq_some_iff.1 h
    cases text with
    | nil => simp [natural?] at hdigits
    | cons c rest =>
      have hall : (c :: rest).all Char.isDigit := by
        unfold natural? at hdigits
        split at hdigits
        · next hdigit => exact hdigit.2
        · cases hdigits
      exact ⟨c, rest, rfl, .inr (.inr (List.all_eq_true.1 hall c List.mem_cons_self))⟩

namespace Command

open Argument

variable {argument keyword : Argument} {word : String} {n : Int}

/-! ## Words -/

theorem capitals_of_isWord {text : String} (h : isWord word argument)
    (htext : argument.text? = some text) : capitals text = word := by
  obtain ⟨_, hsame, hword⟩ := isWord_iff.1 h
  obtain rfl := Option.some.inj (htext.symm.trans hsame)
  exact hword

/-- An argument is at most one word. -/
theorem not_isWord_of_ne (h : isWord word argument) (hne : word ≠ "STREAMS") :
    isWord "STREAMS" argument = false := by
  obtain ⟨text, htext, rfl⟩ := isWord_iff.1 h
  exact Bool.eq_false_iff.2 fun hstreams => hne (capitals_of_isWord hstreams htext)

theorem toUpper_of_isDigit {c : Char} (h : c.isDigit) : c.toUpper = c := by
  refine dif_neg ?_
  rintro ⟨hlower, -⟩
  have hdigit : c.toNat ≤ 57 := (Char.isDigit_iff_toNat.1 h).2
  have hletter : 97 ≤ c.toNat := UInt32.le_iff_toNat_le.1 hlower
  omega

/-- A number is not the word. -/
theorem not_isWord_of_denotes (h : argument.Denotes n) : isWord "STREAMS" argument = false := by
  obtain ⟨text, htext, hnumber⟩ := h
  obtain ⟨c, rest, hlist, hc⟩ := Numeral.head_of_integer? hnumber
  have hhead : (capitals text).toList = c.toUpper :: rest.map Char.toUpper := by
    simp [capitals, hlist]
  have hne : c.toUpper ≠ 'S' := by
    rcases hc with rfl | rfl | hdigit
    · decide
    · decide
    · rw [toUpper_of_isDigit hdigit]
      rintro rfl
      revert hdigit
      decide
  refine Bool.eq_false_iff.2 fun hstreams => hne ?_
  rw [capitals_of_isWord hstreams htext] at hhead
  exact (List.cons.inj hhead).1.symm

/-! ## Forms of stream reads -/

/-- Nothing, or a word in any case with a number behind it. -/
inductive NumberOption (word : String) : List Argument → Prop
  | absent : NumberOption word []
  | given {keyword number : Argument} {n : Int} (hword : isWord word keyword)
    (hnumber : number.Denotes n) : NumberOption word [keyword, number]

inductive Flag (word : String) : List Argument → Prop
  | absent : Flag word []
  | given {keyword : Argument} (hword : isWord word keyword) : Flag word [keyword]

theorem NumberOption.not_isWord {arguments : List Argument} (h : NumberOption word arguments)
    (hne : word ≠ "STREAMS") : ∀ argument ∈ arguments, isWord "STREAMS" argument = false := by
  cases h with
  | absent => simp
  | given hword hnumber =>
    simpa using ⟨not_isWord_of_ne hword hne, not_isWord_of_denotes hnumber⟩

theorem Flag.not_isWord {arguments : List Argument} (h : Flag word arguments)
    (hne : word ≠ "STREAMS") : ∀ argument ∈ arguments, isWord "STREAMS" argument = false := by
  cases h with
  | absent => simp
  | given hword => simpa using not_isWord_of_ne hword hne

/-! ## Keys -/

/-- The keys are the first half of what is behind the first argument that is the word. -/
theorem select_streams {front behind : List Argument}
    (hfront : ∀ argument ∈ front, isWord "STREAMS" argument = false)
    (hword : isWord "STREAMS" keyword) :
    KeyLayout.select (front ++ keyword :: behind) .streams =
      behind.take (behind.length / 2) := by
  have hskip : (front ++ keyword :: behind).dropWhile (fun argument => !isWord "STREAMS" argument) =
      keyword :: behind := by
    rw [List.dropWhile_append_of_pos fun argument hmem => by simp [hfront argument hmem],
      List.dropWhile_cons_of_neg (by simp [hword])]
  rw [KeyLayout.select, hskip]
  rfl

/-- A list is its own beginning behind an element if it repeats that element. -/
theorem take_cons_eq_iff {α : Type} (a : α) (list : List α) :
    (a :: list).take list.length = list ↔ ∀ b ∈ list, b = a := by
  induction list generalizing a with
  | nil => simp
  | cons b list ih =>
    rw [List.length_cons, List.take_succ_cons, List.cons.injEq, ih, List.forall_mem_cons]
    grind

variable {lead group consumer : Argument} {options keys positions : List Argument}

section

variable {name : String} {front behind : List Argument} (hname : HasLayout name .streams)
  (hfront : ∀ argument ∈ front, isWord "STREAMS" argument = false)
  (hword : isWord "STREAMS" keyword)
include hname hfront hword

theorem keys_of_streams : Command.keys ⟨name, front ++ keyword :: behind⟩ =
    (behind.map content).take (behind.length / 2) := by
  rw [keys_of_hasLayout hname, select_streams hfront hword, List.map_take]

theorem keys_ne_of_lt (h : keys.length < behind.length / 2) :
    Command.keys ⟨name, front ++ keyword :: behind⟩ ≠ keys.map content := by
  rw [keys_of_streams hname hfront hword]
  intro heq
  have hlength := congrArg List.length heq
  simp only [List.length_take, List.length_map] at hlength
  omega

/-- Half of keys and as many positions are the keys. -/
theorem keys_of_positions (hpositions : positions.length = keys.length) :
    Command.keys ⟨name, front ++ keyword :: (keys ++ positions)⟩ = keys.map content := by
  have hhalf : (keys ++ positions).length / 2 = (keys.map content).length := by
    rw [List.length_append, List.length_map]
    omega
  rw [keys_of_streams hname hfront hword, hhalf, List.map_append, List.take_left]

/-- Half of an argument, keys and as many positions are the argument and all keys but the last. -/
theorem keys_of_cons_positions (first : Argument) (hpositions : positions.length = keys.length) :
    Command.keys ⟨name, front ++ keyword :: first :: (keys ++ positions)⟩ = keys.map content ↔
      ∀ key ∈ keys, key.content = first.content := by
  have hhalf : (first :: (keys ++ positions)).length / 2 = (keys.map content).length := by
    rw [List.length_cons, List.length_append, List.length_map]
    omega
  have hbegin : ((first :: (keys ++ positions)).map content).take (keys.map content).length =
      (first.content :: keys.map content).take (keys.map content).length := by
    rw [List.map_cons, List.map_append, ← List.cons_append]
    exact List.take_append_of_le_length (Nat.le_succ _)
  rw [keys_of_streams hname hfront hword, hhalf, hbegin, take_cons_eq_iff, List.forall_mem_map]

end

theorem hasLayout_readGroup : HasLayout "XREADGROUP" .streams := by decide

/-- If the group has the word as its name, too many arguments are taken for keys. -/
theorem keys_ne_of_group (hlead : isWord "STREAMS" lead = false)
    (hgroup : isWord "STREAMS" group) (hpositions : positions.length = keys.length) :
    Command.keys ⟨"XREADGROUP",
      lead :: group :: consumer :: (options ++ keyword :: (keys ++ positions))⟩ ≠
        keys.map content := by
  have hlong : keys.length <
      (consumer :: (options ++ keyword :: (keys ++ positions))).length / 2 := by
    simp only [List.length_cons, List.length_append]
    omega
  exact keys_ne_of_lt hasLayout_readGroup (List.forall_mem_singleton.2 hlead) hgroup hlong

/-- If the consumer has the word as its name, an option is taken for a key, and without options the
word itself is. -/
theorem keys_eq_iff_of_consumer (hlead : isWord "STREAMS" lead = false)
    (hgroup : isWord "STREAMS" group = false) (hconsumer : isWord "STREAMS" consumer)
    (hpositions : positions.length = keys.length) :
    Command.keys ⟨"XREADGROUP",
      lead :: group :: consumer :: (options ++ keyword :: (keys ++ positions))⟩ =
        keys.map content ↔ options = [] ∧ ∀ key ∈ keys, key.content = keyword.content := by
  have hfront : ∀ argument ∈ [lead, group], isWord "STREAMS" argument = false := by
    simp [hlead, hgroup]
  cases options with
  | nil =>
    have hkeys := keys_of_cons_positions hasLayout_readGroup hfront hconsumer keyword hpositions
    simpa using hkeys
  | cons option options =>
    have hlong : keys.length <
        (option :: (options ++ keyword :: (keys ++ positions))).length / 2 := by
      simp only [List.length_cons, List.length_append]
      omega
    have hne := keys_ne_of_lt hasLayout_readGroup hfront hconsumer hlong
    simpa using hne

/-- If no argument before it is the word, the word is found. -/
theorem keys_eq_of_names (hlead : isWord "STREAMS" lead = false)
    (hgroup : isWord "STREAMS" group = false) (hconsumer : isWord "STREAMS" consumer = false)
    (hoptions : ∀ argument ∈ options, isWord "STREAMS" argument = false)
    (hword : isWord "STREAMS" keyword) (hpositions : positions.length = keys.length) :
    Command.keys ⟨"XREADGROUP",
      lead :: group :: consumer :: (options ++ keyword :: (keys ++ positions))⟩ =
        keys.map content := by
  have hfront : ∀ argument ∈ lead :: group :: consumer :: options,
      isWord "STREAMS" argument = false := by
    simpa [hlead, hgroup, hconsumer] using hoptions
  exact keys_of_positions hasLayout_readGroup hfront hword hpositions

/-- A read of streams has the streams that it names as its keys, in order, whatever its options. The
read of a group has them exactly if neither the group nor the consumer has the word `STREAMS` as its
name; a consumer may have it only if there are no options and all streams are named like the word
that stands before them. -/
theorem keys_streamRead {count block : List Argument} (hcount : NumberOption "COUNT" count)
    (hblock : NumberOption "BLOCK" block) (hword : isWord "STREAMS" keyword)
    (hpositions : positions.length = keys.length) :
    Command.keys ⟨"XREAD", count ++ block ++ keyword :: (keys ++ positions)⟩ =
        keys.map content ∧
      ∀ lead group consumer noAck, isWord "GROUP" lead → Flag "NOACK" noAck →
        (Command.keys ⟨"XREADGROUP", lead :: group :: consumer ::
            (count ++ block ++ noAck ++ keyword :: (keys ++ positions))⟩ = keys.map content ↔
          isWord "STREAMS" group = false ∧ (isWord "STREAMS" consumer →
            count ++ block ++ noAck = [] ∧ ∀ key ∈ keys, key.content = keyword.content)) := by
  have hnumbers : ∀ argument ∈ count ++ block, isWord "STREAMS" argument = false :=
    List.forall_mem_append.2 ⟨hcount.not_isWord (by decide), hblock.not_isWord (by decide)⟩
  refine ⟨keys_of_positions (by decide) hnumbers hword hpositions, ?_⟩
  intro lead group consumer noAck hgroupWord hnoAck
  have hlead := not_isWord_of_ne hgroupWord (by decide)
  have hoptions : ∀ argument ∈ count ++ block ++ noAck, isWord "STREAMS" argument = false :=
    List.forall_mem_append.2 ⟨hnumbers, hnoAck.not_isWord (by decide)⟩
  generalize count ++ block ++ noAck = options at hoptions ⊢
  cases hgroup : isWord "STREAMS" group with
  | true => simpa using keys_ne_of_group hlead hgroup hpositions
  | false =>
    cases hconsumer : isWord "STREAMS" consumer with
    | true => simpa using keys_eq_iff_of_consumer hlead hgroup hconsumer hpositions
    | false => simpa using keys_eq_of_names hlead hgroup hconsumer hoptions hword hpositions

/-- All options, in different cases. A stream and a position are named like the word that stands
before the streams, and a group like an option. -/
theorem keys_streamRead_options :
    let count : List Argument := [.text "count", .ofInt 2]
    let block : List Argument := [.text "Block", .octets [48, 48]]
    let keys : List Argument := [.text "STREAMS", .text "k"]
    let positions : List Argument := [.text "streams", .text ">"]
    NumberOption "COUNT" count ∧ NumberOption "BLOCK" block ∧ Flag "NOACK" [.text "noAck"] ∧
      Command.keys ⟨"XREAD", count ++ block ++ .text "Streams" :: (keys ++ positions)⟩ =
        [Bytes.ofAscii "STREAMS", [107]] ∧
      Command.keys ⟨"XREADGROUP", .text "Group" :: .text "NOACK" :: .octets [255] ::
        (count ++ block ++ [.text "noAck"] ++ .text "Streams" :: (keys ++ positions))⟩ =
          [Bytes.ofAscii "STREAMS", [107]] := by
  intro count block keys positions
  have hcount : NumberOption "COUNT" count := .given (by decide) (denotes_ofInt 2)
  have hblock : NumberOption "BLOCK" block :=
    .given (by decide) (⟨"00", by decide, rfl⟩ : Denotes _ 0)
  have hnoAck : Flag "NOACK" [.text "noAck"] := .given (by decide)
  have hword : isWord "STREAMS" (.text "Streams") := by decide
  have hpositions : positions.length = keys.length := rfl
  obtain ⟨hread, hgroup⟩ := keys_streamRead hcount hblock hword hpositions
  have hright := hgroup (.text "Group") (.text "NOACK") (.octets [255]) _ (by decide) hnoAck
  refine ⟨hcount, hblock, hnoAck, hread.trans (by decide), ?_⟩
  exact (hright.2 ⟨by decide, fun hconsumer => absurd hconsumer (by decide)⟩).trans (by decide)

/-- The consumer of a group and the word behind it are taken for keys if the group has the word as
its name. -/
theorem keys_streamRead_group_named :
    let read : Command := ⟨"XREADGROUP", [.text "GROUP", .text "streams", .text "c",
      .text "STREAMS", .text "k", .text "0"]⟩
    read.keys = [[99], Bytes.ofAscii "STREAMS"] ∧ read.keys ≠ [[107]] := by
  decide

end Command

end ClusterBatch
