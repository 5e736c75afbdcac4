import ClusterBatch.Command.Keys
import ClusterBatch.Proofs.AddressText
import ClusterBatch.Proofs.RoundTrip

/-!
# Equality on the wire

Two commands are equal exactly if they have the same wire form. Whether an argument was given as
text or as octets is not part of that, so nothing that is asked of a command may depend on it: a
command is asked the same as the one that has all its arguments as octets.

Main statement: `Command.beq_iff_wire`.
-/

namespace ClusterBatch

/-- Pieces that show where they end can be told apart when they stand one behind the other. -/
theorem flatMap_inj_of_append_inj {α β : Type} {write : α → List β}
    (hwrite : ∀ a b rest rest', write a ++ rest = write b ++ rest' → a = b ∧ rest = rest')
    {list other : List α} (hlength : list.length = other.length)
    (h : list.flatMap write = other.flatMap write) : list = other := by
  induction list generalizing other with
  | nil => exact (List.length_eq_zero_iff.1 hlength.symm).symm
  | cons a list ih =>
    cases other with
    | nil => cases hlength
    | cons b other =>
      rw [List.flatMap_cons, List.flatMap_cons] at h
      obtain ⟨rfl, hrest⟩ := hwrite a b _ _ h
      rw [ih (Nat.succ.inj hlength) hrest]

namespace Request

variable {m n : Nat} {marker : Char} {argument other : Bytes} {rest rest' : Bytes}

/-- A count ends where its line ends. -/
theorem encodeCount_append_inj
    (h : encodeCount marker m ++ rest = encodeCount marker n ++ rest') : m = n ∧ rest = rest' := by
  have hline (k : Nat) (rest : Bytes) :
      Reply.readLine (Bytes.ofChars (Numeral.ofNat k) ++ Bytes.crlf ++ rest) =
        .ok (Bytes.ofChars (Numeral.ofNat k), rest) :=
    Reply.readLine_append _ rest (Bytes.cr_not_mem_ofChars Numeral.isVisible_ofNat)
  have hread : Except.ok (Bytes.ofChars (Numeral.ofNat m), rest) =
      (.ok (Bytes.ofChars (Numeral.ofNat n), rest') : Except DecodeError _) :=
    (hline m rest).symm.trans
      ((congrArg Reply.readLine (List.cons.inj h).2).trans (hline n rest'))
  obtain ⟨hdigits, hrest⟩ := Prod.mk.inj (Except.ok.inj hread)
  have hchars := congrArg Bytes.chars hdigits
  rw [Bytes.chars_ofChars Numeral.isVisible_ofNat, Bytes.chars_ofChars Numeral.isVisible_ofNat]
    at hchars
  exact ⟨Numeral.ofNat_injective hchars, hrest⟩

/-- An argument ends where its length says. -/
theorem encodeArgument_append_inj
    (h : encodeArgument argument ++ rest = encodeArgument other ++ rest') :
    argument = other ∧ rest = rest' := by
  simp only [encodeArgument, List.append_assoc] at h
  obtain ⟨hlength, hdata⟩ := encodeCount_append_inj h
  obtain ⟨rfl, hmark⟩ := List.append_inj hdata hlength
  exact ⟨rfl, List.append_cancel_left hmark⟩

/-- No two requests have the same wire form, whatever is in their arguments. -/
theorem encode_injective : Function.Injective encode := by
  intro request other h
  obtain ⟨hlength, harguments⟩ := encodeCount_append_inj h
  exact flatMap_inj_of_append_inj (fun _ _ _ _ => encodeArgument_append_inj) hlength harguments

end Request

namespace Argument

/-- An argument with the same content, given as octets. -/
def asOctets (argument : Argument) : Argument := .octets argument.content

variable {arguments others : List Argument}

@[simp] theorem content_asOctets (argument : Argument) :
    argument.asOctets.content = argument.content := rfl

@[simp] theorem content_comp_asOctets : content ∘ asOctets = content := rfl

@[simp] theorem display_comp_asOctets : display ∘ asOctets = display := rfl

@[simp] theorem text?_asOctets (argument : Argument) :
    argument.asOctets.text? = argument.text? := by
  cases argument with
  | text content => exact Utf8.decode?_encode content
  | octets content => rfl

theorem map_asOctets_eq_iff : arguments.map asOctets = others.map asOctets ↔
    arguments.map content = others.map content := by
  have hcontent (arguments : List Argument) :
      arguments.map asOctets = (arguments.map content).map Argument.octets := by
    rw [List.map_map]
    rfl
  rw [hcontent, hcontent, List.map_inj_right fun _ _ h => Argument.octets.inj h]

theorem beq_list_iff : (arguments == others) = true ↔
    arguments.map content = others.map content := by
  induction arguments generalizing others with
  | nil => cases others <;> simp
  | cons argument arguments ih =>
    cases others with
    | nil => simp
    | cons other others =>
      have hbeq : (argument == other) = decide (argument.content = other.content) := rfl
      simp [hbeq, ih]

theorem flatMap_fed (arguments : List Argument) : arguments.flatMap fed =
    (arguments.map content).flatMap fun content => [.length content.length, .octets content] := by
  rw [List.flatMap_map]
  rfl

end Argument

namespace Command

open Argument

/-! ## Commands with their arguments as octets -/

def asOctets (command : Command) : Command :=
  { command with arguments := command.arguments.map Argument.asOctets }

variable {a b : Command}

@[simp] theorem isWord_asOctets (word : String) (argument : Argument) :
    isWord word argument.asOctets = isWord word argument := by
  rw [isWord, text?_asOctets, isWord]

theorem alternate_map {α β : Type} (f : α → β) (list : List α) :
    alternate (list.map f) = (alternate list).map f := by
  induction list using alternate.induct with
  | case1 => rfl
  | case2 a => rfl
  | case3 a other rest ih => simp [alternate, ih]

theorem countOf_asOctets (argument : Option Argument) :
    countOf (argument.map Argument.asOctets) = countOf argument := by
  cases argument with
  | none => rfl
  | some argument => simp [countOf]

/-- The places of keys are the same, however the arguments were given. -/
theorem select_asOctets (arguments : List Argument) (layout : KeyLayout) :
    KeyLayout.select (arguments.map Argument.asOctets) layout =
      (KeyLayout.select arguments layout).map Argument.asOctets := by
  cases layout with
  | keyless => rfl
  | leading count => exact List.map_take.symm
  | all => rfl
  | allButFirst => exact List.map_drop.symm
  | allButLast => simp [KeyLayout.select, List.map_take]
  | alternating => exact alternate_map _ _
  | counted index leading =>
    simp [KeyLayout.select, List.map_take, List.map_drop, countOf_asOctets]
  | afterSubcommand => simp [KeyLayout.select, List.map_take]
  | streams =>
    have hwords : (fun argument => !isWord "STREAMS" argument) ∘ Argument.asOctets =
        fun argument => !isWord "STREAMS" argument := by
      funext argument
      simp
    simp [KeyLayout.select, List.dropWhile_map, hwords, List.map_take]

theorem keyLayout_asOctets (command : Command) :
    command.asOctets.keyLayout = command.keyLayout := by
  have husage : (command.arguments.map Argument.asOctets).head?.any (isWord "USAGE") =
      command.arguments.head?.any (isWord "USAGE") := by
    cases command.arguments <;> simp
  unfold keyLayout asOctets
  rw [husage]

@[simp] theorem keys_asOctets (command : Command) : command.asOctets.keys = command.keys := by
  have hselect : KeyLayout.select command.asOctets.arguments command.keyLayout =
      (KeyLayout.select command.arguments command.keyLayout).map Argument.asOctets :=
    select_asOctets command.arguments command.keyLayout
  rw [keys, keyLayout_asOctets, hselect, List.map_map, content_comp_asOctets, keys]

@[simp] theorem display_asOctets (command : Command) :
    command.asOctets.display = command.display := by
  simp [display, asOctets]

/-! ## Equality -/

theorem beq_iff : (a == b) = true ↔
    a.name = b.name ∧ a.arguments.map content = b.arguments.map content := by
  have hbeq : (a == b) = (a.name == b.name && a.arguments == b.arguments) := rfl
  rw [hbeq, Bool.and_eq_true, beq_iff_eq, beq_list_iff]

theorem asOctets_eq_of_beq (h : (a == b) = true) : a.asOctets = b.asOctets := by
  obtain ⟨hname, harguments⟩ := beq_iff.1 h
  simp [asOctets, hname, map_asOctets_eq_iff.2 harguments]

theorem beq_iff_encode_eq : (a == b) = true ↔ a.encode = b.encode := by
  have hrequest : a.encode = b.encode ↔ a.request = b.request := Request.encode_injective.eq_iff
  rw [hrequest, request, request, List.cons.injEq, Utf8.encode_injective.eq_iff, beq_iff]

theorem beq_iff_fed_eq : (a == b) = true ↔ a.fed = b.fed := by
  rw [beq_iff, fed, fed, flatMap_fed, flatMap_fed]
  constructor
  · rintro ⟨hname, harguments⟩
    have hlength := congrArg List.length harguments
    rw [List.length_map, List.length_map] at hlength
    rw [hname, hlength, harguments]
  · intro h
    obtain ⟨hname, hrest⟩ := List.cons.inj h
    obtain ⟨hlength, harguments⟩ := List.cons.inj hrest
    refine ⟨Fed.text.inj hname, flatMap_inj_of_append_inj ?_ ?_ harguments⟩
    · intro content other rest rest' h
      obtain ⟨-, hcontent⟩ := List.cons.inj h
      obtain ⟨hsame, hrest⟩ := List.cons.inj hcontent
      exact ⟨Fed.octets.inj hsame, hrest⟩
    · rw [List.length_map, List.length_map]
      exact Fed.length.inj hlength

/-- Commands are equal exactly if they have the same wire form, and exactly if they feed a hasher
the same data. Equal commands have the same keys, the same first key and the same text, and either
both only read or neither does, however the arguments of each were given. -/
theorem beq_iff_wire (a b : Command) :
    ((a == b) = true ↔ a.encode = b.encode) ∧ ((a == b) = true ↔ a.fed = b.fed) ∧
      ((a == b) = true → a.keys = b.keys ∧ a.firstKey? = b.firstKey? ∧
        a.isReadOnly = b.isReadOnly ∧ hash a = hash b ∧ a.display = b.display) := by
  refine ⟨beq_iff_encode_eq, beq_iff_fed_eq, fun h => ?_⟩
  have hoctets := asOctets_eq_of_beq h
  have hkeys : a.keys = b.keys := by rw [← keys_asOctets a, hoctets, keys_asOctets]
  refine ⟨hkeys, congrArg List.head? hkeys, ?_, ?_, ?_⟩
  · rw [isReadOnly, (beq_iff.1 h).1, isReadOnly]
  · have hhash (command : Command) : hash command = hash command.fed := rfl
    rw [hhash, beq_iff_fed_eq.1 h, hhash]
  · rw [← display_asOctets a, hoctets, display_asOctets]

/-- The same script with its count and its key as text and as octets. -/
theorem beq_iff_wire_script :
    let a : Command := ⟨"EVAL", [.text "return 1", .text "1", .text "k"]⟩
    let b : Command := ⟨"EVAL", [.text "return 1", .octets [49], .octets [107]]⟩
    (a == b) = true ∧ a.encode = b.encode ∧ a.fed = b.fed ∧ a.keys = b.keys ∧
      b.keys = [[107]] := by
  intro a b
  obtain ⟨hwire, hfed, hagree⟩ := beq_iff_wire a b
  have hequal : (a == b) = true := by decide
  exact ⟨hequal, hwire.1 hequal, hfed.1 hequal, (hagree hequal).1, by decide⟩

end Command

end ClusterBatch
