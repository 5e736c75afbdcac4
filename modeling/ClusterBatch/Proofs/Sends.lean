import ClusterBatch.Dispatch

/-!
# What calls send

Whatever happens in a session, nothing that was sent is forgotten. An activity *sends* as specified
if the specification holds of what it adds to the history and of what it returns, unless the
connection failed for something that it added. Such specifications are found step by step, one for
each function.

Main statements: `Sends.bind` and `Sends.bindCall`, what two steps send is sent one after the other;
`Parcel.sends_exchange`, a parcel is sent once.
-/

namespace ClusterBatch

namespace Transmission

def result (transmission : Transmission) : Except ExchangeError (List Reply) :=
  transmission.parcel.unpack transmission.arrival.result

/-- Whether the connection failed. -/
def isLost (transmission : Transmission) : Bool :=
  match transmission.result with
  | .error (.connection _) => true
  | _ => false

theorem length_of_result {transmission : Transmission} {replies : List Reply}
    (h : transmission.result = .ok replies) : replies.length = transmission.parcel.count := by
  unfold result at h
  cases hresult : transmission.arrival.result with
  | ok data => rw [hresult] at h; exact readReplies_length h
  | error cause => rw [hresult] at h; cases h

theorem isLost_of_result {transmission : Transmission} {cause : ConnectionError}
    (h : transmission.result = .error (.connection cause)) : transmission.isLost = true := by
  simp [isLost, h]

/-- What is made of a parcel that has not been lost: what it brought, or what is wrong with that. -/
def Brings (transmission : Transmission) : Except Error (List Reply) → Prop
  | .ok replies => transmission.result = .ok replies
  | .error e => ∃ cause,
      transmission.result = .error (.undecodable cause) ∧ e = .protocol (.undecodable cause)

theorem brings_result {transmission : Transmission} (node : NodeAddress)
    (h : transmission.isLost = false) :
    transmission.Brings (transmission.result.mapError (Error.ofExchange node)) := by
  cases hresult : transmission.result with
  | ok replies => exact hresult
  | error cause =>
    cases cause with
    | connection cause => simp [isLost_of_result hresult] at h
    | undecodable cause => exact ⟨cause, hresult, rfl⟩

end Transmission

variable {σ α β : Type}

namespace Session

/-- What has been sent since an earlier session. -/
def since (earlier later : Session σ) : List Transmission :=
  later.history.drop earlier.history.length

theorem since_eq {earlier later : Session σ} {sent : List Transmission}
    (h : later.history = earlier.history ++ sent) : since earlier later = sent := by
  rw [since, h, List.drop_left]

end Session

/-- What an activity adds to the history and what it returns are as specified, unless the
connection failed for something that it added. -/
def Sends (activity : Activity σ α) (spec : List Transmission → α → Prop) : Prop :=
  ∀ session, ∃ sent, (activity.run session).2.history = session.history ++ sent ∧
    ((∀ t ∈ sent, t.isLost = false) → spec sent (activity.run session).1)

namespace Sends

variable {activity : Activity σ α} {next : α → Activity σ β}
  {spec : List Transmission → α → Prop}

theorem mono {weaker : List Transmission → α → Prop} (h : Sends activity spec)
    (hweaker : ∀ sent a, (∀ t ∈ sent, t.isLost = false) → spec sent a → weaker sent a) :
    Sends activity weaker := by
  intro session
  obtain ⟨sent, hhistory, hspec⟩ := h session
  exact ⟨sent, hhistory, fun hkept => hweaker sent _ hkept (hspec hkept)⟩

/-- What holds of an activity that sends nothing. -/
theorem quiet (h : ∀ session, (activity.run session).2.history = session.history) :
    Sends activity fun sent _ => sent = [] := by
  intro session
  exact ⟨[], by rw [h, List.append_nil], fun _ => rfl⟩

theorem pure (a : α) : Sends (σ := σ) (pure a) fun sent b => sent = [] ∧ b = a := by
  intro session
  exact ⟨[], (List.append_nil _).symm, fun _ => ⟨rfl, rfl⟩⟩

theorem bind (nextSpec : α → List Transmission → β → Prop) (h : Sends activity spec)
    (hnext : ∀ a, Sends (next a) (nextSpec a)) :
    Sends (activity >>= next) fun sent b =>
      ∃ a first second, sent = first ++ second ∧ (∀ t ∈ first, t.isLost = false) ∧
        spec first a ∧ nextSpec a second b := by
  intro session
  obtain ⟨first, hfirst, hspec⟩ := h session
  obtain ⟨second, hsecond, hnextSpec⟩ := hnext (activity.run session).1 (activity.run session).2
  refine ⟨first ++ second, ?_, ?_⟩
  · rw [← List.append_assoc, ← hfirst]
    exact hsecond
  · intro hkept
    obtain ⟨hfirstKept, hsecondKept⟩ := List.forall_mem_append.1 hkept
    exact ⟨_, first, second, rfl, hfirstKept, hspec hfirstKept, hnextSpec hsecondKept⟩

theorem map (f : α → β) (h : Sends activity spec) :
    Sends (f <$> activity) fun sent b => ∃ a, spec sent a ∧ b = f a := by
  intro session
  obtain ⟨sent, hhistory, hspec⟩ := h session
  exact ⟨sent, hhistory, fun hkept => ⟨_, hspec hkept, rfl⟩⟩

theorem bindCall {call : Call σ α} {next : α → Call σ β}
    {spec : List Transmission → Except Error α → Prop}
    (nextSpec : α → List Transmission → Except Error β → Prop) (h : Sends call.run spec)
    (hnext : ∀ a, Sends (next a).run (nextSpec a)) :
    Sends (call >>= next).run fun sent b =>
      (∃ e, spec sent (.error e) ∧ b = .error e) ∨
        ∃ a first second, sent = first ++ second ∧ (∀ t ∈ first, t.isLost = false) ∧
          spec first (.ok a) ∧ nextSpec a second b := by
  let after : Except Error α → List Transmission → Except Error β → Prop
    | .error e, sent, b => sent = [] ∧ b = .error e
    | .ok a, sent, b => nextSpec a sent b
  have hafter (a : Except Error α) : Sends (ExceptT.bindCont next a) (after a) := by
    cases a with
    | error e => exact pure _
    | ok a => exact hnext a
  refine (bind after h hafter).mono ?_
  intro sent b _ h
  obtain ⟨a, first, second, rfl, hkept, hfirst, hsecond⟩ := h
  cases a with
  | error e =>
    obtain ⟨rfl, rfl⟩ := hsecond
    exact .inl ⟨e, by simpa using hfirst, rfl⟩
  | ok a => exact .inr ⟨a, first, second, rfl, hkept, hfirst, hsecond⟩

theorem throwCall (e : Error) :
    Sends (throw e : Call σ α).run fun sent b => sent = [] ∧ b = .error e := pure _

theorem pureCall (a : α) :
    Sends (Pure.pure a : Call σ α).run fun sent b => sent = [] ∧ b = .ok a := pure _

theorem mapCall {call : Call σ α} {spec : List Transmission → Except Error α → Prop} (f : α → β)
    (h : Sends call.run spec) :
    Sends (do Pure.pure (f (← call)) : Call σ β).run fun sent b =>
      (∃ e, spec sent (.error e) ∧ b = .error e) ∨ ∃ a, spec sent (.ok a) ∧ b = .ok (f a) := by
  refine (bindCall _ h fun a => pureCall (f a)).mono ?_
  intro sent b _ hspec
  obtain herror | ⟨a, first, second, rfl, -, hfirst, rfl, rfl⟩ := hspec
  · exact .inl herror
  · exact .inr ⟨a, by simpa using hfirst, rfl⟩

end Sends

/-! ## Parcels -/

namespace Parcel

variable [Network σ]

theorem sends_attempt (limit : Option Nat) (parcel : Parcel) :
    Sends (σ := σ) (parcel.attempt limit) fun sent result =>
      ∃ t, sent = [t] ∧ t.parcel = parcel ∧ result = t.result := by
  intro session
  let sending : Sending := ⟨session.time, parcel.node, parcel.frame⟩
  let arrival := (Network.send sending session.nodes).1.within limit
  refine ⟨[⟨session.time, parcel, arrival⟩], List.reverse_cons, ?_⟩
  intro
  exact ⟨_, rfl, rfl, rfl⟩

theorem sends_exchangeWith (limit : Option Nat) (backoff : Backoff) (parcel : Parcel) (left : Nat) :
    Sends (σ := σ) (parcel.exchangeWith limit backoff left) fun sent result =>
      ∃ t, sent = [t] ∧ t.parcel = parcel ∧ result = t.result := by
  induction left with
  | zero => exact sends_attempt limit parcel
  | succ left ih =>
    -- Only a failed connection is a reason to go on.
    refine (Sends.bind (fun first sent b => (∃ cause, first = .error (.connection cause)) ∨
      (sent = [] ∧ b = first)) (sends_attempt limit parcel) ?_).mono ?_
    · intro result
      match result with
      | .error (.connection cause) =>
        refine (Sends.bind _ (Sends.quiet ?_) fun _ => ih).mono fun _ _ _ _ => .inl ⟨cause, rfl⟩
        intro session
        rfl
      | .error (.undecodable _) => exact (Sends.pure _).mono fun _ _ _ h => .inr h
      | .ok _ => exact (Sends.pure _).mono fun _ _ _ h => .inr h
    · intro sent b _ h
      obtain ⟨_, _, second, rfl, hkept, ⟨t, rfl, hparcel, rfl⟩, ⟨cause, hcause⟩ | ⟨rfl, rfl⟩⟩ := h
      · have hlost : t.isLost = false := hkept t (List.mem_singleton_self t)
        simp [Transmission.isLost_of_result hcause] at hlost
      · exact ⟨t, rfl, hparcel, rfl⟩

/-- A parcel is sent once, and what it brings is returned. -/
theorem sends_exchange (limit : Option Nat) (backoff : Backoff) (parcel : Parcel) :
    Sends (σ := σ) (parcel.exchange limit backoff).run fun sent result =>
      ∃ t, sent = [t] ∧ t.parcel = parcel ∧ t.Brings result := by
  refine (Sends.map _ (sends_exchangeWith limit backoff parcel _)).mono ?_
  intro sent result hkept h
  obtain ⟨_, ⟨t, rfl, hparcel, rfl⟩, rfl⟩ := h
  have hlost : t.isLost = false := hkept t (List.mem_singleton_self t)
  exact ⟨t, rfl, hparcel, Transmission.brings_result _ hlost⟩

end Parcel

end ClusterBatch
